import ContentSync.Repository

/-!
# Version histories

A versionable node (one with the mixin `mix:versionable`) has a version history in the
version storage, below bucket nodes named by the first three pairs of characters of its
identifier. A history starts with the root version and an empty label node; every check-in
adds a version `1.0`, `1.1`, … whose frozen node copies the node's properties and subtree,
linked to the version before by predecessor and successor references.

Changes to the version storage are prepared on a staged copy and committed in one step.

Main definitions: `versionHistory?`, `addMixin`, `checkin`, `addVersionLabel`.
-/

namespace ContentSync

/-- Puts `h` at the end of the path `names` below `s`, creating the nodes that are missing;
an empty path puts nothing. -/
def Staged.putAlong (s : Staged) : List String → Staged → Staged
  | [], _ => s
  | [name], h => (s.withChild name fun _ => (h, ())).1
  | name :: rest, h => (s.withChild name fun c => (c.putAlong rest h, ())).1

/-- The version history of the versionable node at `path` of `tree`, if it has an identifier
and there is one. -/
def versionHistoryIn (tree : Node) (path : String) : Except Error (Option Node) := do
  let n ← nodeAt tree path
  if !n.isNodeType Known.mixVersionable then return none
  match n.identifier? with
  | none => return none
  | some id =>
    return (tree.descendant? Known.versionStoragePath).bind fun s =>
      s.descendant? ("/".intercalate (Path.versionHistoryPath id))

namespace RepoM

/-- The version history of a versionable node with an identifier, if there is one. -/
def versionHistory? (path : String) : RepoM (Option Node) := do
  match versionHistoryIn (← get).root path with
  | .ok h => return h
  | .error e => throw e

/-- A staged copy of the version storage (a fresh one if there is none). -/
def versionStorage : RepoM Staged := do
  match (← get).root.descendant? Known.versionStoragePath with
  | some s => return Staged.ofNode s
  | none => return Staged.typeIfFresh (Staged.blank Known.versionStorage) Known.repVersionStorage

/-- Replaces the version storage by a staged one, creating the system node if needed. -/
def commitVersionStorage (storage : Staged) : RepoM Unit := do
  let built := { storage.build with name := Known.versionStorage }
  let r ← get
  if !r.root.hasChild Known.system then
    set { r with root := { r.root with
      children := r.root.children ++ [Node.empty Known.system Known.repSystem] } }
  modifyNode (Path.join "/" Known.system) (·.putChild built)

/-- Gives a staged version its type, identifier, date and links to `predecessors`. -/
def initVersion (predecessors : List String) (v : Staged) : RepoM Staged := do
  let id ← freshIdentifier
  let now ← now
  let v := { v with primaryType := some Known.ntVersion }
  return (((v.setProperty (Property.ofString Known.uuid id)).setProperty
      (Property.single Known.created now)).setProperty
      (Property.references Known.predecessors predecessors)).setProperty
      (Property.references Known.successors [])

mutual
/-- Fills a staged frozen node from `source`: type, identifier, the source's types and
identifier, and with `withContent` its properties (but `jcr:uuid`) and frozen children. -/
def freeze (withContent : Bool) (target : Staged) : Node → RepoM Staged
  | source@⟨_, primaryType, mixins, properties, children⟩ => do
    let id ← freshIdentifier
    let t := { target with primaryType := some Known.ntFrozenNode }
    let t := t.setProperty (Property.ofString Known.uuid id)
    let t := t.setProperty (Property.single Known.frozenPrimaryType (.name primaryType))
    let t := t.setProperty (Property.names Known.frozenMixinTypes mixins)
    let t := match source.identifier? with
      | some sid => t.setProperty (Property.ofString Known.frozenUuid sid)
      | none => t
    if !withContent then return t
    let t := (properties.filter (·.name ≠ Known.uuid)).foldl Staged.setProperty t
    freezeChildren t children

/-- Freezes each child of the source into the staged child of the same name. -/
def freezeChildren (t : Staged) : List Node → RepoM Staged
  | [] => return t
  | c :: cs => do
    let existing := (t.child? c.name).getD (Staged.blank c.name)
    let frozen ← freeze true existing c
    let (t, _) := t.withChild c.name fun _ => (frozen, ())
    freezeChildren t cs
end

/-- Creates the version history of `node` with identifier `id` in the staged storage if it
is not there yet; returns the storage and whether the history was created. -/
def ensureHistory (storage : Staged) (node : Node) (id : String) : RepoM (Staged × Bool) := do
  let rec descend : List String → Staged → RepoM (Staged × Bool)
    | [], s => do
      let existing := (s.child? id).getD (Staged.blank id)
      if !existing.fresh then
        let (s, _) := s.withChild id fun c => (c, ())
        return (s, false)
      let history := { existing with primaryType := some Known.ntVersionHistory }
      let hid ← freshIdentifier
      let history := history.setProperty (Property.ofString Known.uuid hid)
      let history := history.setProperty (Property.ofString Known.versionableUuid id)
      let (history, _) := history.withChild Known.versionLabels fun l =>
        ({ l with primaryType := some Known.ntVersionLabels }, ())
      let rootVersion ← initVersion [] (Staged.blank Known.rootVersion)
      let frozen ← freeze false (Staged.blank Known.frozenNode) node
      let (rootVersion, _) := rootVersion.withChild Known.frozenNode fun _ => (frozen, ())
      let (history, _) := history.withChild Known.rootVersion fun _ => (rootVersion, ())
      let (s, _) := s.withChild id fun _ => (history, ())
      return (s, true)
    | bucket :: rest, s => do
      let existing := ((s.child? bucket).getD (Staged.blank bucket)).typeIfFresh
        Known.repVersionStorage
      let (inner, created) ← descend rest existing
      let (s, _) := s.withChild bucket fun _ => (inner, ())
      return (s, created)
  descend (Path.versionBuckets id) storage

/-- Adds a mixin. `mix:versionable` and `mix:referenceable` give the node an identifier if
it has none, and `mix:versionable` creates its version history right away. -/
def addMixin (path mixin : String) : RepoM Unit := do
  let n ← requireNode path
  let n := if n.mixins.contains mixin then n else { n with mixins := n.mixins ++ [mixin] }
  let referenceable := mixin = Known.mixVersionable ∨ mixin = Known.mixReferenceable
  let n ← if referenceable ∧ n.identifier?.isNone then do
      let id ← freshIdentifier
      pure (n.setProperty (Property.ofString Known.uuid id))
    else pure n
  modifyNode path fun _ => n
  if mixin ≠ Known.mixVersionable then return
  let id ← match n.identifier? with
    | some id => pure id
    | none => throw (.repository s!"{path} has no identifier")
  let storage ← versionStorage
  let (storage, created) ← ensureHistory storage n id
  if created then commitVersionStorage storage

/-- The identifier of a staged node: the text of its first `jcr:uuid` value. -/
def stagedIdentifier (s : Staged) : RepoM String :=
  match (s.property? Known.uuid).bind Property.first? with
  | some v => return v.text
  | none => throw (.repository s!"{s.name} has no identifier")

/-- Checks in a versionable node and returns the name of the new version. -/
def checkin (path : String) : RepoM String := do
  let n ← requireNode path
  if !n.isNodeType Known.mixVersionable then throw (.repository s!"{path} is not versionable")
  let id ← match n.identifier? with
    | some id => pure id
    | none => throw (.repository s!"{path} has no identifier")
  let storage ← versionStorage
  let (storage, _) ← ensureHistory storage n id
  let names := Path.versionHistoryPath id
  let history := (names.foldl (fun s name => s.bind (·.child? name)) (some storage)).getD
    (Staged.blank id)
  let versions := history.children.filter (·.primaryType = some Known.ntVersion)
  let last ← match versions.getLast? with
    | some v => pure v
    | none => throw (.repository s!"history of {path} has no root version")
  let predecessorId ← stagedIdentifier last
  let name := s!"1.{versions.length - 1}"
  let version := (history.child? name).getD (Staged.blank name)
  let version ← initVersion [predecessorId] version
  let frozen := (version.child? Known.frozenNode).getD (Staged.blank Known.frozenNode)
  let frozen ← freeze true frozen n
  let (version, _) := version.withChild Known.frozenNode fun _ => (frozen, ())
  let versionId ← stagedIdentifier version
  let (history, _) := history.withChild name fun _ => (version, ())
  let history := history.modifyChild last.name fun p =>
    let successors := ((p.property? Known.successors).map Property.valueTexts).getD []
    p.setProperty (Property.references Known.successors (successors ++ [versionId]))
  commitVersionStorage (storage.putAlong names history)
  return name

/-- Binds `label` to version `version` of the node's history, moving it if it is bound. -/
def addVersionLabel (path version label : String) : RepoM Unit := do
  let n ← requireNode path
  let id ← match n.identifier? with
    | some id => pure id
    | none => throw (.repository s!"{path} has no identifier")
  let storage ← versionStorage
  let names := Path.versionHistoryPath id
  let history ← match names.foldl (fun s name => s.bind (·.child? name)) (some storage) with
    | some h => pure h
    | none => throw (.notFound s!"version history of {path}")
  let target ← match (history.child? version).filter (·.primaryType = some Known.ntVersion) with
    | some v => pure v
    | none => throw (.notFound s!"version {version} of {path}")
  let versionId ← stagedIdentifier target
  let (history, _) := history.withChild Known.versionLabels fun l =>
    let l := l.typeIfFresh Known.ntVersionLabels
    (l.setProperty (Property.single label (.reference versionId)), ())
  commitVersionStorage (storage.putAlong names history)

end RepoM

end ContentSync
