import ContentSync.Config
import ContentSync.Regex.Matcher

/-!
# Workspace filters

A workspace filter decides which repository paths take part in a synchronization and with
which import mode. It is an ordered list of filter sets, each with a root, a mode, and an
ordered list of include and exclude rules. A rule's pattern must match the whole path.

* The first set whose root covers a path decides for it; a path no root covers is not
  contained, and its mode is `replace`.
* A set without rules contains everything at or below its root.
* Otherwise a path starts out as the opposite of the first rule (a set starting with an
  include excludes by default), and the last rule that matches wins.

Main definitions: `FilterSet`, `WorkspaceFilter`, `WorkspaceFilter.ofConfig`,
`WorkspaceFilter.contains`, `WorkspaceFilter.covers`, `WorkspaceFilter.importMode`.
-/

namespace ContentSync

/-- A compiled rule of a filter set. -/
structure PathRule where
  includes : Bool
  pattern : Regex.Automaton

/-- A filter set: root, mode and compiled rules. -/
structure FilterSet where
  root : String
  mode : ImportMode
  rules : List PathRule

namespace FilterSet

/-- Whether the set's root covers a path. -/
def covers (s : FilterSet) (path : String) : Bool :=
  Path.isDescendantOrSelf s.root path

/-- Whether a path takes part under this set. -/
def contains (s : FilterSet) (path : String) : Bool :=
  if !s.covers path then false
  else
    match s.rules with
    | [] => true
    | first :: _ =>
      match s.rules.reverse.find? (·.pattern.isMatch path) with
      | some rule => rule.includes
      | none => !first.includes

end FilterSet

/-- Compiles a rule pattern so that it must match a whole path. -/
def compileRule (pattern : String) : Except Error Regex.Automaton :=
  match Regex.compileRegex ("^(?:" ++ pattern ++ ")$") with
  | .ok r => .ok r
  | .error m => .error (.config ("invalid filter pattern: " ++ m))

/-- Compiles a filter set definition. -/
def FilterSet.ofConfig (c : FilterSetConfig) : Except Error FilterSet := do
  let rules ← c.rules.mapM fun
    | .include p => do return { includes := true, pattern := ← compileRule p }
    | .exclude p => do return { includes := false, pattern := ← compileRule p }
  return { root := c.root, mode := c.mode, rules }

/-- A workspace filter: ordered filter sets. -/
structure WorkspaceFilter where
  sets : List FilterSet

namespace WorkspaceFilter

/-- Compiles a filter definition. -/
def ofConfig (c : FilterConfig) : Except Error WorkspaceFilter := do
  return { sets := ← c.filters.mapM FilterSet.ofConfig }

/-- The filter containing everything below `root` in replace mode. -/
def forRoot (root : String) : WorkspaceFilter :=
  { sets := [{ root, mode := .replace, rules := [] }] }

/-- The first set whose root covers a path. -/
def coveringSet? (f : WorkspaceFilter) (path : String) : Option FilterSet :=
  f.sets.find? (·.covers path)

/-- Whether a path takes part. -/
def contains (f : WorkspaceFilter) (path : String) : Bool :=
  match f.coveringSet? path with
  | some s => s.contains path
  | none => false

/-- Whether some set's root covers a path. -/
def covers (f : WorkspaceFilter) (path : String) : Bool :=
  (f.coveringSet? path).isSome

/-- The import mode for a path. -/
def importMode (f : WorkspaceFilter) (path : String) : ImportMode :=
  match f.coveringSet? path with
  | some s => s.mode
  | none => .replace

end WorkspaceFilter

end ContentSync
