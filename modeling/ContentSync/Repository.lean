import ContentSync.Node
import ContentSync.Error
import ContentSync.Time.Timestamp

/-!
# The in-memory repository

A repository holds a transient tree and the tree last saved. Changes go to the transient
tree; `save` makes it the saved one and `discard` goes back to the saved one. Operations run
in `RepoM`, which keeps the changes made before a failure: a failed operation is not rolled
back.

The repository also hands out fresh identifiers and knows the moment new versions are
created at. Identifiers are drawn from a counter in the layout of a version-4 identifier: the
`k`-th is `00000000-0000-4000-8000-` followed by `k` in twelve hex digits.

Main definitions: `Repository`, `RepoM`, and the node operations `addNode`, `removeNode`,
`moveNode`, `setProperty`, `removeProperty`, `setPrimaryType`, `setMixins`.
-/

namespace ContentSync

/-- An in-memory repository: transient and saved trees, the number of identifiers issued,
and the clock that dates new versions. -/
structure Repository where
  root : Node
  saved : Node
  issued : Nat
  clock : Time.Timestamp

/-- Operations on a repository; the state after a failure is kept. -/
abbrev RepoM := EStateM Error Repository

/-- The root of an empty repository: the system node with an empty version storage. -/
def emptyRoot : Node :=
  { Node.empty "" Known.repRoot with
    children := [{ Node.empty Known.system Known.repSystem with
      children := [Node.empty Known.versionStorage Known.repVersionStorage] }] }

/-- Twelve lower-case hex digits of `k`. -/
def hex12 (k : Nat) : String :=
  let ds := Nat.toDigits 16 k
  String.ofList (List.replicate (12 - ds.length) '0' ++ ds)

/-- The `k`-th identifier. -/
def identifierOf (k : Nat) : String :=
  "00000000-0000-4000-8000-" ++ hex12 k

/-- The `k`-th identifier without hyphens. -/
def simpleIdentifierOf (k : Nat) : String :=
  "00000000000040008000" ++ hex12 k

/-- The node at a path of a tree, or `NotFound`. -/
def nodeAt (tree : Node) (path : String) : Except Error Node :=
  match tree.descendant? path with
  | some n => .ok n
  | none => .error (.notFound path)

/-- A node after a property is set on it: `jcr:primaryType` sets the primary type to its first
value (nothing happens without one), `jcr:mixinTypes` sets the mixins to its values, and
any other property is set in place. -/
def Node.applyProperty (n : Node) (p : Property) : Node :=
  if p.name = Known.primaryType then
    match p.first? with
    | some v => { n with primaryType := v.text }
    | none => n
  else if p.name = Known.mixinTypes then { n with mixins := p.valueTexts }
  else n.setProperty p

namespace Repository

/-- A repository over `root`, which counts as saved. -/
def ofRoot (root : Node) (issued : Nat) (clock : Time.Timestamp) : Repository :=
  { root, saved := root, issued, clock }

/-- Whether the transient tree differs from the saved one. -/
def hasPendingChanges (r : Repository) : Bool :=
  !r.root.same r.saved

end Repository

namespace RepoM

/-- The result of a computation that cannot touch the repository. -/
def ofExcept : Except Error α → RepoM α
  | .ok a => pure a
  | .error e => throw e

/-- Runs `x`, turning its failure into a result; the changes made before a failure stay. -/
def attempt (x : RepoM α) : RepoM (Except Error α) := fun r =>
  match x r with
  | .ok a r => .ok (.ok a) r
  | .error e r => .ok (.error e) r

/-- The next fresh identifier, as its number. -/
def freshNumber : RepoM Nat :=
  modifyGet fun r => (r.issued + 1, { r with issued := r.issued + 1 })

/-- The next fresh identifier. -/
def freshIdentifier : RepoM String := do
  return identifierOf (← freshNumber)

/-- The moment new versions are dated: the clock, written with milliseconds and read back. -/
def now : RepoM Value := do
  return .date (← get).clock.throughText

/-- The node at a path, if any. -/
def node? (path : String) : RepoM (Option Node) := do
  return (← get).root.descendant? path

/-- Whether a node exists at a path. -/
def nodeExists (path : String) : RepoM Bool := do
  return (← node? path).isSome

/-- The node at a path, or `NotFound`. -/
def requireNode (path : String) : RepoM Node := do
  match ← node? path with
  | some n => return n
  | none => throw (.notFound path)

/-- Changes the node at a path with `f`, or fails with `NotFound`. -/
def modifyNode (path : String) (f : Node → Node) : RepoM Unit := do
  let r ← get
  match r.root.modifyAt path f with
  | some root => set { r with root }
  | none => throw (.notFound path)

/-- Creates a child node and returns its path. -/
def addNode (parent name primaryType : String) : RepoM String := do
  if name.isEmpty ∨ name.toList.contains '/' then
    throw (.repository s!"invalid node name '{name}'")
  let path := Path.join parent name
  let p ← requireNode parent
  if p.hasChild name then throw (.itemExists path)
  modifyNode parent fun n => { n with children := n.children ++ [Node.empty name primaryType] }
  return path

/-- Removes a node and its subtree. -/
def removeNode (path : String) : RepoM Unit := do
  let name := Path.name path
  if name.isEmpty then throw (.repository "cannot remove the root node")
  let parentPath := Path.parent path
  let p ← requireNode parentPath
  match p.removeChild? name with
  | some p' => modifyNode parentPath fun _ => p'
  | none => throw (.notFound path)

/-- Moves a node to a new absolute path, which must not exist yet. -/
def moveNode (src dest : String) : RepoM Unit := do
  let newName := Path.name dest
  if (Path.name src).isEmpty ∨ newName.isEmpty then
    throw (.repository "cannot move the root node")
  if Path.isDescendantOrSelf src dest then
    throw (.repository s!"cannot move {src} below itself")
  if ← nodeExists dest then throw (.itemExists dest)
  let destParent := Path.parent dest
  unless ← nodeExists destParent do throw (.notFound destParent)
  let moved ← requireNode src
  removeNode src
  modifyNode destParent fun n => { n with children := n.children ++ [{ moved with name := newName }] }

/-- Sets a property; `jcr:primaryType` and `jcr:mixinTypes` set the node's types instead. -/
def setProperty (path : String) (p : Property) : RepoM Unit :=
  modifyNode path (·.applyProperty p)

/-- Removes a property; a missing one is no error. -/
def removeProperty (path name : String) : RepoM Unit :=
  modifyNode path (·.removeProperty name)

/-- Sets the primary type of a node. -/
def setPrimaryType (path primaryType : String) : RepoM Unit :=
  modifyNode path fun n => { n with primaryType }

/-- Sets the mixin types of a node. -/
def setMixins (path : String) (mixins : List String) : RepoM Unit :=
  modifyNode path fun n => { n with mixins }

/-- Makes the transient tree the saved one. -/
def save : RepoM Unit :=
  modify fun r => { r with saved := r.root }

/-- Goes back to the saved tree. -/
def discard : RepoM Unit :=
  modify fun r => { r with root := r.saved }

/-- Whether the transient tree differs from the saved one. -/
def hasPendingChanges : RepoM Bool := do
  return (← get).hasPendingChanges

end RepoM

end ContentSync
