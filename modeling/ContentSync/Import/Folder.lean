import ContentSync.Import.Versions
import ContentSync.Acl
import ContentSync.Filter
import ContentSync.ImportInfo
import ContentSync.Serialize

/-!
# Importing folders

A folder is described by an artifact set made of a directory alone, or of a directory and a
version history (hints do not count). A missing folder is created with the configured folder
type. An existing folder gets its version history imported when the set has one; otherwise
it loses every child in scope under replace mode that the set does not hint at. Access
control children are never removed like that: they are cleared, with every other policy of
the folder, only when the access control handling removes existing policies, or, for hinted
ones, when it is `clear`.

Main definitions: `syncFolderChildren`, `acceptFolder`.
-/

namespace ContentSync

/-- Removes the children of the folder at `path` (addressed below `parent`) that the artifact
set does not hint at, as described above. -/
def syncFolderChildren (ac : AccessControlHandling) (f : WorkspaceFilter) (parent path : String)
    (set : ArtifactSet) : RepoM ImportInfo := do
  let hints := set.hints.map fun a => Path.join parent a.relativePath
  let folder ← RepoM.requireNode path
  let children := folder.children.map fun c => (Path.join path c.name, isAclNode c)
  let mut info := ImportInfo.empty
  for (child, isAcl) in children do
    if !f.contains child || f.importMode child ≠ .replace then continue
    if !hints.contains child then
      if isAcl then
        if ac.removesExisting then
          info := info.onDeleted child
          RepoM.clearAcl path
      else
        info := info.onDeleted child
        RepoM.removeNode child
    else if ac = .clear && isAcl then
      info := info.onDeleted child
      RepoM.clearAcl path
  return info

/-- Imports an artifact set describing a folder below `parent`, creating missing folders with
type `folderType`; `none` when the set does not describe a folder. -/
def acceptFolder (folderType : String) (ac : AccessControlHandling) (f : WorkspaceFilter)
    (parent : String) (set : ArtifactSet) : RepoM (Option ImportInfo) := do
  match set.directory? with
  | none => return none
  | some directory =>
    let versions := set.versions?
    if set.size ≠ 1 && versions.isNone then return none
    let name := directory.relativePath
    if name.isEmpty then return some ImportInfo.empty
    let path := Path.join parent name
    if !(← RepoM.nodeExists path) then
      let created ← RepoM.addNode parent name folderType
      return some (ImportInfo.empty.onCreated created)
    match versions with
    | some v =>
      if v.serialization ≠ .generic then return some ImportInfo.empty
      let data ← RepoM.ofExcept (v.content (← get).root)
      if ← importVersions data then return some (ImportInfo.empty.onModified path)
      return some ImportInfo.empty
    | none => return some (← syncFolderChildren ac f parent path set)

end ContentSync
