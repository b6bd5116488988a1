import ContentSync.Versioning
import ContentSync.Import.Importer

/-!
# Sessions

The operations that change a session: the node operations of a session, saving and
discarding, the version operations of the repository, and import passes. A session runs them
one after another; an operation that fails leaves the state it failed in, and the next one
starts from there.

Main definitions: `SessionOp`, `SessionOp.run`, `SessionOp.runAll`.
-/

namespace ContentSync

/-- An operation that changes a session. -/
inductive SessionOp where
  | addNode (parent name primaryType : String)
  | removeNode (path : String)
  | moveNode (src dest : String)
  | setProperty (path : String) (p : Property)
  | removeProperty (path name : String)
  | setPrimaryType (path primaryType : String)
  | setMixins (path : String) (mixins : List String)
  | save
  | discard
  | addMixin (path mixin : String)
  | checkin (path : String)
  | addVersionLabel (path version label : String)
  | importRun (imp : Importer) (f : WorkspaceFilter) (entries : List ImportEntry)

namespace SessionOp

/-- Runs an operation, forgetting what it answers. -/
def run : SessionOp → RepoM Unit
  | addNode parent name primaryType => do
    let _ ← RepoM.addNode parent name primaryType
  | removeNode path => RepoM.removeNode path
  | moveNode src dest => RepoM.moveNode src dest
  | setProperty path p => RepoM.setProperty path p
  | removeProperty path name => RepoM.removeProperty path name
  | setPrimaryType path primaryType => RepoM.setPrimaryType path primaryType
  | setMixins path mixins => RepoM.setMixins path mixins
  | save => RepoM.save
  | discard => RepoM.discard
  | addMixin path mixin => RepoM.addMixin path mixin
  | checkin path => do
    let _ ← RepoM.checkin path
  | addVersionLabel path version label => RepoM.addVersionLabel path version label
  | importRun imp f entries => do
    let _ ← imp.run f entries

/-- The state after running the operations in order from `r`, each from the state the one
before left, whether it succeeded or failed. -/
def runAll (ops : List SessionOp) (r : Repository) : Repository :=
  ops.foldl (fun r op => match op.run r with
    | .ok _ r => r
    | .error _ r => r) r

end SessionOp

end ContentSync
