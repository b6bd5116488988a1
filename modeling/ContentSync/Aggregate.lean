import ContentSync.Config
import ContentSync.Node

/-!
# Aggregates

An export cuts the repository tree into aggregates: a node together with the descendants its
aggregator claims. Each aggregate becomes one set of files. An aggregator with full coverage
claims every descendant that is not of an ignored type; one without claims none, so each child
starts an aggregate of its own. Descendants of ignored types belong to no aggregate and are
only marked by a hint.

Main definitions: `AggregatorConfig.matches`, `Aggregate`, `Aggregate.includesChild`,
`Aggregate.relativeToParent`, `Aggregate.includedPaths`.
-/

namespace ContentSync

/-- Whether an aggregate handled by this aggregator starts at `n`: the node is of none of the
excluded types, and of one of the matched types unless there are none. -/
def AggregatorConfig.matches (c : AggregatorConfig) (n : Node) : Bool :=
  !c.excludeTypes.any n.isNodeType && (c.matchTypes.isEmpty || c.matchTypes.any n.isNodeType)

/-- Whether an aggregator keeps a property in the serialized content. -/
def AggregatorConfig.includesProperty (c : AggregatorConfig) (p : Property) : Bool :=
  !c.ignoredProperties.contains p.name

/-- A node and the aggregator that claims it, with what the collection found below it. -/
structure Aggregate where
  path : String
  aggregator : AggregatorConfig
  /-- Whether the export carries version histories. -/
  includeVersions : Bool
  /-- Node types that are never exported. -/
  ignoredTypes : List String
  /-- Roots of the aggregates directly below this one, in tree order. -/
  nested : List String
  /-- Paths of the ignored descendants, in tree order. -/
  hints : List String
deriving Repr, Inhabited

namespace Aggregate

/-- The name of the aggregate node. -/
def name (a : Aggregate) : String := Path.name a.path

/-- Whether a node is of an ignored type. -/
def isIgnored (a : Aggregate) (n : Node) : Bool := a.ignoredTypes.any n.isNodeType

/-- Whether a descendant belongs to the aggregate's content. -/
def includesChild (a : Aggregate) (n : Node) : Bool :=
  !a.isIgnored n && a.aggregator.fullCoverage

/-- The path of a descendant relative to the parent of the aggregate node, without leading
slashes. -/
def relativeToParent (a : Aggregate) (path : String) : String :=
  let parent := (Path.parent a.path).toList
  let cs := path.toList
  let rest := if parent.isPrefixOf cs then cs.drop parent.length else cs
  String.ofList (rest.dropWhile (· = '/'))

mutual
/-- The paths of the descendants of `n` (at `path`) that the aggregate serializes, in tree
order. -/
def includedBelow (a : Aggregate) (path : String) : Node → List String
  | ⟨_, _, _, _, children⟩ => includedAmong a path children

/-- The included paths among the children `cs` of the node at `path` and below them. -/
def includedAmong (a : Aggregate) (path : String) : List Node → List String
  | [] => []
  | c :: cs =>
    let here := if a.includesChild c then
        let p := Path.join path c.name
        p :: includedBelow a p c
      else []
    here ++ includedAmong a path cs
end

/-- Every node path the aggregate serializes, given the aggregate node. -/
def includedPaths (a : Aggregate) (n : Node) : List String :=
  a.path :: includedBelow a a.path n

end Aggregate

end ContentSync
