import ContentSync.Package.Layout
import ContentSync.Snapshot
import ContentSync.Versioning

/-!
# Commands

The work of each command of the command line, apart from reading and writing files: the
command line reads the repository snapshot, the configuration and the package files, calls
these, and writes back what they give.

Main definitions: `checkinCommand`, `labelCommand`, `removeCommand`, `aggregateLines`,
`exportCommand`, `packageListing`, `importCommand`.
-/

namespace ContentSync

/-- The lines a pass reports on the output: one per message. -/
def Progress.outputLines (p : Progress) : List String :=
  p.messages.map fun (action, path) => action ++ " " ++ path

/-- The lines a pass reports on the error output: one per failure. -/
def Progress.errorLines (p : Progress) : List String :=
  p.errors.map fun (path, e) => "E " ++ path ++ ": " ++ e

/-- Makes a node versionable if needed, checks it in and saves; the new version's name. -/
def checkinCommand (path : String) : RepoM String := do
  RepoM.addMixin path Known.mixVersionable
  let version ← RepoM.checkin path
  RepoM.save
  return version

/-- Binds a label to a version of a node and saves. -/
def labelCommand (path version label : String) : RepoM Unit := do
  RepoM.addVersionLabel path version label
  RepoM.save

/-- Removes the aggregate at a path with the aggregator that handles it, and saves. -/
def removeCommand (c : ExportConfig) (path : String) (recursive : Bool) : RepoM ImportInfo := do
  let n ← RepoM.requireNode path
  let a ← RepoM.ofExcept ((AggregatorManager.ofConfig c).find n path)
  removeAggregate a path recursive true

/-- One line per aggregate of the subtree at `root`: its path and its aggregator. -/
def aggregateLines (c : ExportConfig) (tree : Node) (root : String) : Except Error (List String) := do
  let aggregates ← (AggregatorManager.ofConfig c).collect tree root
  return aggregates.map fun a => a.path ++ "\t" ++ a.aggregator.name

/-- Exports the subtree at `root`, without version histories if `noVersions`. -/
def exportCommand (c : ExportConfig) (noVersions : Bool) (tree : Node) (root : String) :
    Progress × Except Error (List ExportedAggregate) :=
  exportTree (if noVersions then { c with includeVersions := false } else c) tree root

/-- The files of the package of exported aggregates of the subtree at `root`, in path order,
and the number of files written. -/
def packageListing (tree : Node) (exported : List ExportedAggregate) (root : String) :
    Except Error (List (String × Option (List UInt8)) × Nat) := do
  let (entries, count) ← writePackage tree [] exported (FilterConfig.forRoot root)
  return (listDirectory entries, count)

/-- The package with the given files; `location` names it in messages. -/
def packageOfListing (files : List (String × Option (List UInt8))) (location : String) :
    Except Error Package := do
  readPackage (← createListing [] files) location

/-- Imports a package with the given options. -/
def importCommand (options : ImportOptions) (pkg : Package) :
    RepoM (Progress × Except Error ImportInfo) := do
  let f ← RepoM.ofExcept (WorkspaceFilter.ofConfig pkg.filter)
  ({ options } : Importer).run f pkg.entries

end ContentSync
