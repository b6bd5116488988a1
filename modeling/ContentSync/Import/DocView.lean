import ContentSync.Import.Rescue
import ContentSync.Filter
import ContentSync.ImportInfo
import ContentSync.Artifact
import ContentSync.Serialize
import ContentSync.DocView.Parse

/-!
# Importing content documents

The primary document of an aggregate is read into a tree and reconciled with the repository,
node by node, from the target path down. A missing node is created with the part of its
subtree the filter contains. An existing node is reconciled by the import mode the filter
gives its path:

* `replace`: unless the node already carries the new content, its own state is replaced and
  its children rebuilt from the document, keeping the existing children the document does not
  mention (see `RescueTransformer`);
* `merge`: only missing mixins and properties are added, then the children are imported;
* `update`: types and properties are overwritten, then the children are imported.

Paths the filter does not contain are never changed, but the import goes on below them.
Ignored properties are never part of a document, so existing nodes keep them.

Main definitions: `DocViewImport`, `DocViewImport.upToDate`, `DocViewImport.importNode`,
`acceptDocView`.
-/

namespace ContentSync

/-- What a content import needs besides the repository: the filter and the properties that
existing nodes keep. -/
structure DocViewImport where
  filter : WorkspaceFilter
  ignored : List String

namespace DocViewImport

mutual
/-- Creates the node `new` at `path` with the part of its subtree the filter contains. -/
def createSubtree (f : WorkspaceFilter) (path : String) : Node → RepoM Unit
  | ⟨_, primaryType, mixins, properties, children⟩ => do
    let _ ← RepoM.addNode (Path.parent path) (Path.name path) primaryType
    if !mixins.isEmpty then RepoM.setMixins path mixins
    for p in properties do
      RepoM.setProperty path p
    createChildren f path children

/-- Creates the children `cs` of the node at `path` that the filter contains. -/
def createChildren (f : WorkspaceFilter) (path : String) : List Node → RepoM Unit
  | [] => pure ()
  | c :: cs => do
    let childPath := Path.join path c.name
    if f.contains childPath then createSubtree f childPath c
    createChildren f path cs
end

/-- Whether a property of `new` is on the existing node as it is. -/
def carries (existing : Node) (p : Property) : Bool :=
  match existing.property? p.name with
  | some q => q.same p
  | none => false

mutual
/-- Whether the existing node at `path` already carries the content `new`: the same types,
the same properties apart from the ignored ones, and, for every child of `new` the filter
contains, a child that carries it. -/
def upToDate (x : DocViewImport) (existing : Node) (path : String) : Node → Bool
  | ⟨_, primaryType, mixins, properties, children⟩ =>
    let compared := (existing.properties.filter fun p => !x.ignored.contains p.name).length
    existing.primaryType = primaryType && existing.mixins = mixins &&
      compared = properties.length && properties.all (carries existing) &&
      childrenUpToDate x existing path children

/-- Whether the existing node at `path` carries every child among `cs` that the filter
contains. -/
def childrenUpToDate (x : DocViewImport) (existing : Node) (path : String) : List Node → Bool
  | [] => true
  | c :: cs =>
    let childPath := Path.join path c.name
    (!x.filter.contains childPath ||
      match existing.child? c.name with
      | some e => upToDate x e childPath c
      | none => false) &&
    childrenUpToDate x existing path cs
end

mutual
/-- Streams `new` (at `path`) and the part of its subtree the filter contains into a
replacement. -/
def streamNode (f : WorkspaceFilter) (path : String) (t : RescueTransformer) :
    Node → RepoM RescueTransformer
  | new@⟨_, _, _, _, children⟩ => do
    let t ← t.startNode new
    let t ← streamChildren f path t children
    RepoM.ofExcept t.endNode

/-- Streams the children `cs` of the node at `path` that the filter contains. -/
def streamChildren (f : WorkspaceFilter) (path : String) (t : RescueTransformer) :
    List Node → RepoM RescueTransformer
  | [] => return t
  | c :: cs => do
    let childPath := Path.join path c.name
    let t ← if f.contains childPath then streamNode f childPath t c else pure t
    streamChildren f path t cs
end

/-- Replaces the node at `path` by `new` unless it already carries it. -/
def replaceNode (x : DocViewImport) (path : String) (new : Node) (info : ImportInfo) :
    RepoM ImportInfo := do
  if x.upToDate (← RepoM.requireNode path) path new then return info
  let t ← RescueTransformer.begin path x.ignored
  let t ← streamNode x.filter path t new
  let _ ← t.finish
  return info.onReplaced path

/-- Adds the mixins and properties of `new` that the node at `path` lacks; whether anything
was added. -/
def mergeState (path : String) (new : Node) : RepoM Bool := do
  let existing ← RepoM.requireNode path
  let missingMixins := new.mixins.filter fun m => !existing.mixins.contains m
  let missingProperties := new.properties.filter fun p => (existing.property? p.name).isNone
  if !missingMixins.isEmpty then RepoM.setMixins path (existing.mixins ++ missingMixins)
  for p in missingProperties do
    RepoM.setProperty path p
  return !missingMixins.isEmpty || !missingProperties.isEmpty

/-- Overwrites the types and the differing properties of the node at `path` with those of
`new`; whether anything changed. -/
def updateState (path : String) (new : Node) : RepoM Bool := do
  let existing ← RepoM.requireNode path
  let typeChanged := existing.primaryType ≠ new.primaryType
  let mixinsChanged := existing.mixins ≠ new.mixins
  let changedProperties := new.properties.filter fun p => !carries existing p
  if typeChanged then RepoM.setPrimaryType path new.primaryType
  if mixinsChanged then RepoM.setMixins path new.mixins
  for p in changedProperties do
    RepoM.setProperty path p
  return typeChanged || mixinsChanged || !changedProperties.isEmpty

mutual
/-- Imports `new` at `path`, recording what happened in `info`. -/
def importNode (x : DocViewImport) (path : String) (info : ImportInfo) :
    Node → RepoM ImportInfo
  | new@⟨_, _, _, _, children⟩ => do
    if !(← RepoM.nodeExists path) then
      if x.filter.contains path then
        createSubtree x.filter path new
        return info.onCreated path
      return info
    if !x.filter.contains path then return ← importChildren x path info children
    match x.filter.importMode path with
    | .replace => x.replaceNode path new info
    | .merge =>
      let info := if ← mergeState path new then info.onModified path else info
      importChildren x path info children
    | .update =>
      let info := if ← updateState path new then info.onModified path else info
      importChildren x path info children

/-- Imports the children `cs` below the node at `path`. -/
def importChildren (x : DocViewImport) (path : String) (info : ImportInfo) :
    List Node → RepoM ImportInfo
  | [] => return info
  | c :: cs => do
    let info ← importNode x (Path.join path c.name) info c
    importChildren x path info cs
end

end DocViewImport

/-- Imports the primary document of an artifact set addressed to `name` below `parent`;
`none` when the set has no document-view primary artifact. -/
def acceptDocView (ignored : List String) (f : WorkspaceFilter) (parent name : String)
    (set : ArtifactSet) : RepoM (Option ImportInfo) := do
  match set.primary? with
  | none => return none
  | some primary =>
    if primary.serialization ≠ .docView then return none
    let target := Path.join (Path.join parent name) primary.relativePath
    let data ← RepoM.ofExcept (primary.content (← get).root)
    let tree ← RepoM.ofExcept (parseDocView data)
    let x : DocViewImport := { filter := f, ignored }
    return some (← x.importNode target ImportInfo.empty tree)

end ContentSync
