import ContentSync.Serialize
import ContentSync.ImportInfo

/-!
# Aggregators

The aggregators of an export are tried in order. At most one aggregator that is not the
default may match a node, otherwise the coverage is ambiguous; when none does, the first
matching default aggregator takes it.

Collecting the aggregates below a path visits the tree in pre-order: the node at the path
starts an aggregate; every descendant its aggregator does not include, and that is not of an
ignored type, starts a nested one. The aggregates never overlap, and together with the
ignored descendants they cover the whole subtree.

Each aggregate is written as a directory, a primary document unless it is a plain folder, a
hint for every ignored descendant, and a version history document when the export carries
versions and the aggregate node or its content child is versionable.

Main definitions: `AggregatorManager`, `AggregatorManager.find`, `AggregatorManager.collect`,
`Aggregate.includedPathsIn`, `Aggregate.artifacts`, `removeAggregate`.
-/

namespace ContentSync

/-- The aggregators of an export with the ignored node types. -/
structure AggregatorManager where
  aggregators : List AggregatorConfig
  ignoredTypes : List String
  includeVersions : Bool
deriving Repr, Inhabited

namespace AggregatorManager

/-- The aggregators of export settings. -/
def ofConfig (c : ExportConfig) : AggregatorManager :=
  { aggregators := c.aggregators, ignoredTypes := c.ignoredTypes,
    includeVersions := c.includeVersions }

/-- Whether a node is of an ignored type. -/
def isIgnored (m : AggregatorManager) (n : Node) : Bool := m.ignoredTypes.any n.isNodeType

/-- The aggregator for an aggregate starting at `n` (at `path`): the one non-default
aggregator that matches, else the first matching default one. -/
def find (m : AggregatorManager) (n : Node) (path : String) : Except Error AggregatorConfig :=
  match m.aggregators.filter (fun a => !a.isDefault && a.matches n) with
  | first :: second :: _ => .error (.ambiguousAggregate path first.name second.name)
  | [only] => .ok only
  | [] =>
    match m.aggregators.find? (fun a => a.isDefault && a.matches n) with
    | some a => .ok a
    | none => .error (.config ("no aggregator matches " ++ path))

end AggregatorManager

mutual
/-- The nested aggregate roots and the ignored descendants below `n` (at `path`) that an
aggregate meets, in tree order. -/
def claimBelow (a : Aggregate) (path : String) : Node → List String × List String
  | ⟨_, _, _, _, children⟩ => claimAmong a path children

/-- The nested aggregate roots and ignored descendants among the children `cs` of the node at
`path` and below them. -/
def claimAmong (a : Aggregate) (path : String) : List Node → List String × List String
  | [] => ([], [])
  | c :: cs =>
    let p := Path.join path c.name
    let (nested, hints) :=
      if a.isIgnored c then ([], [p])
      else if a.includesChild c then claimBelow a p c
      else ([p], [])
    let (moreNested, moreHints) := claimAmong a path cs
    (nested ++ moreNested, hints ++ moreHints)
end

namespace AggregatorManager

/-- The aggregate starting at `n` (at `path`), with its nested roots and hints. -/
def start (m : AggregatorManager) (path : String) (n : Node) : Except Error Aggregate := do
  let aggregator ← m.find n path
  let a : Aggregate :=
    { path, aggregator, includeVersions := m.includeVersions, ignoredTypes := m.ignoredTypes,
      nested := [], hints := [] }
  let (nested, hints) := claimBelow a path n
  return { a with nested, hints }

mutual
/-- The aggregates met among the children `cs` of the node at `path`, which aggregate `a`
covers, in pre-order. -/
def collectAmong (m : AggregatorManager) (a : Aggregate) (path : String) :
    List Node → Except Error (List Aggregate)
  | [] => .ok []
  | c :: cs => do
    let here ← m.collectChild a path c
    let rest ← m.collectAmong a path cs
    return here ++ rest

/-- The aggregates met at a child of the node at `path`, which aggregate `a` covers: none for
an ignored child, those below an included one, and otherwise the aggregate it starts followed
by those below it. -/
def collectChild (m : AggregatorManager) (a : Aggregate) (path : String) :
    Node → Except Error (List Aggregate)
  | ⟨name, primaryType, mixins, properties, children⟩ => do
    let n : Node := ⟨name, primaryType, mixins, properties, children⟩
    let p := Path.join path name
    if a.isIgnored n then return []
    else if a.includesChild n then m.collectAmong a p children
    else
      let b ← m.start p n
      let rest ← m.collectAmong b p children
      return b :: rest
end

/-- The aggregates of the subtree at `path` of `tree`, in pre-order. -/
def collect (m : AggregatorManager) (tree : Node) (path : String) :
    Except Error (List Aggregate) := do
  let n ← nodeAt tree path
  let a ← m.start path n
  let rest ← m.collectAmong a path n.children
  return a :: rest

end AggregatorManager

/-- Every node path the aggregate serializes, read from `tree`; fails when the aggregate node is
missing. -/
def Aggregate.includedPathsIn (a : Aggregate) (tree : Node) : Except Error (List String) := do
  let n ← nodeAt tree a.path
  return a.includedPaths n

/-- Whether a node is a folder that needs no content document: a folder without mixins whose
properties the aggregator all leaves out, for an aggregator without full coverage. -/
def AggregatorConfig.isPlainFolder (c : AggregatorConfig) (n : Node) : Bool :=
  !c.fullCoverage && n.primaryType = Known.ntFolder && n.mixins.isEmpty &&
    n.properties.all fun p => c.ignoredProperties.contains p.name

/-- Which node of an aggregate node carries its version history: its versionable content
child first, then the node itself when it is versionable. -/
def versionProvenance? (n : Node) : Option Provenance :=
  if (n.child? Known.content).any (·.isNodeType Known.mixVersionable) then some .contentChild
  else if n.isNodeType Known.mixVersionable then some .node
  else none

/-- The artifacts of an aggregate of `tree`. -/
def Aggregate.artifacts (a : Aggregate) (tree : Node) : Except Error ArtifactSet := do
  let n ← nodeAt tree a.path
  let primary : List Artifact :=
    if a.aggregator.isPlainFolder n then []
    else [{ relativePath := "", extension := dotContentXml, type := .primary,
            serialization := .docView, source := .docView a }]
  let set ← ArtifactSet.empty.addAll
    (Artifact.directory a.name :: primary ++ a.hints.map fun h => Artifact.hint (a.relativeToParent h))
  if !a.includeVersions then return set
  match versionProvenance? n with
  | none => return set
  | some v =>
    set.add { relativePath := v.relativePath, extension := dotVersionsXml, type := .versions,
              serialization := .generic, source := .versions a.path v }

/-- Removes the aggregate at `path` handled by aggregator `c`. A recursive removal removes the
node; otherwise the node stays, without the children a full-coverage aggregator covers and
without the properties it serializes (its identifier apart). With `trySave` the session is
saved afterwards. -/
def removeAggregate (c : AggregatorConfig) (path : String) (recursive trySave : Bool) :
    RepoM ImportInfo := do
  let info ← if recursive then do
      RepoM.removeNode path
      pure (ImportInfo.empty.onDeleted path)
    else do
      let n ← RepoM.requireNode path
      let children := if c.fullCoverage then n.children.map (Path.join path ·.name) else []
      let properties := (n.properties.filter fun p =>
        c.includesProperty p && p.name != Known.uuid).map (·.name)
      let mut info := ImportInfo.empty
      for child in children do
        RepoM.removeNode child
        info := info.onDeleted child
      for name in properties do
        RepoM.removeProperty path name
      pure (info.onModified path)
  if trySave then RepoM.save
  return info

end ContentSync
