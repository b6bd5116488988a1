import ContentSync.Import.DocView
import ContentSync.Import.Folder
import ContentSync.Progress

/-!
# Import passes

An artifact set is offered to the content handler and then to the folder handler; the
results of the handlers that accept it are merged. A pass imports its entries in order and
saves the session at the end; the first failure is reported, the session's changes are
discarded, and the pass ends.

Main definitions: `Importer`, `Importer.importSet`, `ImportEntry`, `Importer.run`.
-/

namespace ContentSync

/-- The importer of a set of import options. -/
structure Importer where
  options : ImportOptions
deriving Repr, Inhabited

/-- An artifact set addressed to a name below a parent path. -/
structure ImportEntry where
  parent : String
  name : String
  artifacts : ArtifactSet
deriving Repr, Inhabited

namespace Importer

/-- Offers an artifact set to every handler and merges the results. -/
def importSet (imp : Importer) (f : WorkspaceFilter) (parent name : String) (set : ArtifactSet) :
    RepoM ImportInfo := do
  let mut info := ImportInfo.empty
  if let some r ← acceptDocView imp.options.ignoredProperties f parent name set then
    info := info.merge r
  if let some r ← acceptFolder imp.options.folderType imp.options.acHandling f parent set then
    info := info.merge r
  return info

/-- Imports the entries in order, reporting to `p` and merging into `info`; saves at the
end, or discards the changes at the first failure. -/
def runEntries (imp : Importer) (f : WorkspaceFilter) :
    List ImportEntry → Progress → ImportInfo → RepoM (Progress × Except Error ImportInfo)
  | [], p, info => do
    RepoM.save
    return (p, .ok info)
  | e :: es, p, info => do
    match ← RepoM.attempt (imp.importSet f e.parent e.name e.artifacts) with
    | .ok result => runEntries imp f es (p.importInfo result) (info.merge result)
    | .error err =>
      RepoM.discard
      return (p.error (Path.join e.parent e.name) err, .error err)

/-- Runs an import pass over the entries: the report, and the merged result or the failure. -/
def run (imp : Importer) (f : WorkspaceFilter) (entries : List ImportEntry) :
    RepoM (Progress × Except Error ImportInfo) :=
  imp.runEntries f entries Progress.empty ImportInfo.empty

end Importer

end ContentSync
