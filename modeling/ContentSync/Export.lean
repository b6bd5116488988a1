import ContentSync.Aggregator
import ContentSync.Progress

/-!
# Exporting

An export collects the aggregates below a root and creates the artifacts of each, in
pre-order, reporting `E` for every aggregate whose artifacts were created. The first aggregate
whose artifacts cannot be created is reported as an error and ends the export. The contents
of the artifacts are written from the repository only when they are read.

Main definitions: `ExportedAggregate`, `exportTree`.
-/

namespace ContentSync

/-- An aggregate with the artifacts that represent it. -/
structure ExportedAggregate where
  aggregate : Aggregate
  artifacts : ArtifactSet
deriving Repr, Inhabited

/-- Creates the artifacts of the aggregates `as` of `tree` in order, reporting each. -/
def exportAggregates (tree : Node) :
    List Aggregate → Progress → Progress × Except Error (List ExportedAggregate)
  | [], p => (p, .ok [])
  | a :: as, p =>
    match a.artifacts tree with
    | .error e => (p.error a.path e, .error e)
    | .ok artifacts =>
      let (p, rest) := exportAggregates tree as (p.message "E" a.path)
      (p, rest.map ({ aggregate := a, artifacts } :: ·))

/-- Exports the subtree at `root` of `tree` with the settings `c`: the report, and the
exported aggregates or the error that ended the export. -/
def exportTree (c : ExportConfig) (tree : Node) (root : String) :
    Progress × Except Error (List ExportedAggregate) :=
  match (AggregatorManager.ofConfig c).collect tree root with
  | .error e => (Progress.empty, .error e)
  | .ok aggregates => exportAggregates tree aggregates Progress.empty

end ContentSync
