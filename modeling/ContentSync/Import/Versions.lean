import ContentSync.Versioning
import ContentSync.DocView.Parse

/-!
# Importing version histories

A version history document is read as a stream of element events and applied to a staged copy
of the version storage, which replaces the storage in one step once the document ends, and
only if it differs. The root element must be `vlt:versions`; below it:

* a `nt:versionHistory` element names a history by its token; the history is placed below its
  bucket nodes, and a history that is new gets a fresh identifier and the identifier of its
  versionable node (the token unless the element says otherwise);
* inside a history, a `nt:versionLabels` element gives the label references, and a
  `nt:version` element a version with its identifier, date and links;
* a version's `nt:frozenNode` element and everything below it are copied as frozen content;
* every other element is skipped with what it holds.

Identifiers found in the document are kept as they are. An element's type is its
`jcr:primaryType` attribute, or its tag when there is none.

Main definitions: `VersionFrame`, `plainValue`, `importVersions`.
-/

namespace ContentSync

/-- The staged node at the end of `names` below `s`, updated by `f`; missing nodes on the
way are created. -/
def Staged.updateAlong (s : Staged) : List String → (Staged → Staged) → Staged
  | [], f => f s
  | name :: rest, f => (s.withChild name fun c => (c.updateAlong rest f, ())).1

/-- The staged node at the end of `names` below `s`, if it is there. -/
def Staged.along? (s : Staged) : List String → Option Staged
  | [] => some s
  | name :: rest => (s.child? name).bind (·.along? rest)

/-- Creates the nodes along `names` below `s`, giving the type `t` to each one that is fresh. -/
def Staged.typeFreshAlong (s : Staged) (t : String) : List String → Staged
  | [] => s
  | name :: rest => (s.withChild name fun c => ((c.typeIfFresh t).typeFreshAlong t rest, ())).1

/-- What an open element of a version document stands for. -/
inductive VersionFrame where
  /-- The `vlt:versions` root. -/
  | root
  /-- A version history at a path of the storage. -/
  | history (path : List String)
  /-- The label node of a history. -/
  | labels
  /-- A version at a path of the storage. -/
  | version (path : List String)
  /-- Frozen content at a path of the storage. -/
  | frozen (path : List String)
  /-- An element that is skipped. -/
  | ignored
deriving DecidableEq, Repr

/-- The first value of a typed text, its type prefix left out. -/
def plainValue (text : String) : Except Error String := do
  match (← decodeTyped text).values with
  | v :: _ => return v
  | [] => throw (.malformed ("empty value: " ++ text))

/-- The values of a typed text, or none for a missing one. -/
def listValue : Option String → Except Error (List String)
  | some text => do return (← decodeTyped text).values
  | none => .ok []

/-- The node type of an element: its `jcr:primaryType`, or else its tag. -/
def elementType (e : Element) : Except Error String :=
  match e.attribute? Known.primaryType with
  | some v => plainValue v
  | none => .ok e.tag

/-- Starts a version history: the staged storage and the path of the history. -/
def startHistory (storage : Staged) (e : Element) : RepoM (Staged × List String) := do
  let token ← RepoM.ofExcept (e.require Known.nodeNameAttribute)
  if token.isEmpty then throw (.malformed "version history without a name")
  let buckets := Path.versionBuckets token
  let storage := storage.typeFreshAlong Known.repVersionStorage buckets
  let path := buckets ++ [token]
  let isNew := match storage.along? path with
    | some h => h.fresh
    | none => true
  if !isNew then return (storage.updateAlong path id, path)
  let versionable ← match e.attribute? Known.versionableUuid with
    | some v => RepoM.ofExcept (plainValue v)
    | none => pure token
  let hid ← RepoM.freshIdentifier
  let storage := storage.updateAlong path fun h =>
    (({ h with primaryType := some Known.ntVersionHistory }.setProperty
      (Property.ofString Known.uuid hid)).setProperty
      (Property.ofString Known.versionableUuid versionable))
  return (storage, path)

/-- Fills the label node of the history at `history` from an element. -/
def startLabels (storage : Staged) (history : List String) (e : Element) :
    Except Error Staged := do
  let name := (e.attribute? Known.nodeNameAttribute).getD Known.versionLabels
  let labels ← (e.attributes.filter fun (k, _) =>
      k ≠ Known.nodeNameAttribute ∧ k ≠ Known.primaryType).mapM fun (k, v) => do
    return Property.single k (.reference (← plainValue v))
  return storage.updateAlong (history ++ [name]) fun l =>
    labels.foldl Staged.setProperty { l with primaryType := some Known.ntVersionLabels }

/-- Fills a version of the history at `history` from an element: the storage and the path of
the version. -/
def startVersion (storage : Staged) (history : List String) (e : Element) :
    Except Error (Staged × List String) := do
  let name ← e.require Known.nodeNameAttribute
  let id ← plainValue (← e.require Known.uuid)
  let created ← plainValue (← e.require Known.created)
  let created ← Value.read .date created
  let predecessors ← listValue (e.attribute? Known.predecessors)
  let successors ← listValue (e.attribute? Known.successors)
  let path := history ++ [name]
  let storage := storage.updateAlong path fun v =>
    ((({ v with primaryType := some Known.ntVersion }.setProperty
      (Property.ofString Known.uuid id)).setProperty
      (Property.single Known.created created)).setProperty
      (Property.references Known.predecessors predecessors)).setProperty
      (Property.references Known.successors successors)
  return (storage, path)

/-- The change one attribute of a frozen element makes to its node. -/
def frozenChange (key value : String) : Except Error (Staged → Staged) :=
  if key = Known.nodeNameAttribute ∨ key = Known.primaryType then .ok id
  else if key = Known.mixinTypes then do
    let mixins ← listValue (some value)
    return fun s => { s with mixins }
  else if key = Known.uuid ∨ key = Known.frozenUuid then do
    let v ← plainValue value
    return (·.setProperty (Property.ofString key v))
  else if key = Known.frozenPrimaryType then do
    let v ← plainValue value
    return (·.setProperty (Property.single key (.name v)))
  else if key = Known.frozenMixinTypes then do
    let vs ← listValue (some value)
    return (·.setProperty (Property.names key vs))
  else do
    let p ← readProperty key value
    return (·.setProperty p)

/-- Fills a frozen node below `parent` from an element of type `nodeType`: the storage and the
path of the node. -/
def startFrozen (storage : Staged) (parent : List String) (e : Element) (nodeType : String) :
    Except Error (Staged × List String) := do
  let name ← e.require Known.nodeNameAttribute
  let changes ← e.attributes.mapM fun (k, v) => frozenChange k v
  let path := parent ++ [name]
  let storage := storage.updateAlong path fun s =>
    changes.foldl (fun s f => f s) { s with primaryType := some nodeType }
  return (storage, path)

/-- The frame of an element opened inside `parent`, and the staged storage after it. -/
def openFrame (storage : Staged) (parent : VersionFrame) (e : Element) :
    RepoM (VersionFrame × Staged) := do
  let nodeType ← RepoM.ofExcept (elementType e)
  match parent with
  | .root =>
    if nodeType = Known.ntVersionHistory then
      let (storage, path) ← startHistory storage e
      return (.history path, storage)
    else return (.ignored, storage)
  | .history h =>
    if nodeType = Known.ntVersionLabels then
      return (.labels, ← RepoM.ofExcept (startLabels storage h e))
    else if nodeType = Known.ntVersion then
      let (storage, path) ← RepoM.ofExcept (startVersion storage h e)
      return (.version path, storage)
    else return (.ignored, storage)
  | .version v =>
    if nodeType = Known.ntFrozenNode then
      let (storage, path) ← RepoM.ofExcept (startFrozen storage v e nodeType)
      return (.frozen path, storage)
    else return (.ignored, storage)
  | .frozen p =>
    let (storage, path) ← RepoM.ofExcept (startFrozen storage p e nodeType)
    return (.frozen path, storage)
  | _ => return (.ignored, storage)

/-- Applies the events of a version document to the staged storage; `stack` holds the frames
of the open elements, innermost first, and `fuel` bounds the events read. -/
def applyVersionEvents : Nat → ElementReader → List VersionFrame → Bool → Staged → RepoM Staged
  | 0, _, _, _, storage => return storage
  | fuel + 1, r, stack, seenRoot, storage => do
    match ← RepoM.ofExcept r.next with
    | (none, _) =>
      if !seenRoot then throw (.malformed "empty version document")
      return storage
    | (some (.start e), r) =>
      match stack with
      | [] =>
        if seenRoot then throw (.malformed "more than one root element in version document")
        if e.tag ≠ Known.versionsElement then
          throw (.malformed s!"expected {Known.versionsElement} root element, found {e.tag}")
        applyVersionEvents fuel r [.root] true storage
      | parent :: _ =>
        let (frame, storage) ← openFrame storage parent e
        applyVersionEvents fuel r (frame :: stack) seenRoot storage
    | (some .finish, r) =>
      match stack with
      | [] => throw (.malformed "unbalanced end element")
      | _ :: rest => applyVersionEvents fuel r rest seenRoot storage

/-- Imports a version history document; whether the version storage changed. -/
def importVersions (data : List UInt8) : RepoM Bool := do
  let storage ← RepoM.versionStorage
  let storage ← applyVersionEvents (2 * data.length + 2) (ElementReader.ofBytes data) [] false
    storage
  let rebuilt := storage.build
  if ((← get).root.descendant? Known.versionStoragePath).any (·.same rebuilt) then return false
  RepoM.commitVersionStorage storage
  return true

end ContentSync
