import ContentSync.Aggregator
import ContentSync.Proofs.ExceptRun
import ContentSync.Proofs.NodeUpdate
import Mathlib.Data.List.Nodup

/-!
# Aggregates partition the exported subtree

Collecting the aggregates of the subtree at a path cuts it into pieces that do not overlap.
The pieces are described here without the aggregators: `exportedPaths` lists the node at the
path and every descendant with no node of an ignored type on the way down to it, and
`hiddenPaths` the nodes of an ignored type met first on a way down; `preorderPaths` lists every
node of the subtree in pre-order.

When the collection succeeds (`collect_partitions`), the aggregates come in pre-order of their
roots, the paths they include are exactly the exported paths, each in one aggregate only, and
every hidden node is the hint of exactly one aggregate and included by none. The collection
fails exactly when an aggregate root it reaches (`ReachesRoot`) is matched by two aggregators
that are not the default, or by no aggregator at all.

The partition needs node names that are valid path names and unique among siblings: a child
with an empty name has the path of its parent (`empty_name_shares_included_path`), so two
aggregates can then include one path.

Main statements: `AggregatorManager.collect_partitions`, assembled from
`AggregatorManager.collect_fails_iff`, `AggregatorManager.collect_error_fault` and
`AggregatorManager.collect_ok_partition`.
-/

namespace ContentSync

open Node
open scoped List

/-! ## Pre-order paths of a subtree -/

namespace Node

mutual
/-- The paths of `n` (at `path`) and of all its descendants, in pre-order. -/
def preorderPaths (path : String) : Node → List String
  | ⟨_, _, _, _, children⟩ => path :: preorderAmong path children

/-- The pre-order paths of the trees `cs`, children of the node at `path`. -/
def preorderAmong (path : String) : List Node → List String
  | [] => []
  | c :: cs => preorderPaths (Path.join path c.name) c ++ preorderAmong path cs
end

theorem preorderPaths_eq (path : String) (n : Node) :
    n.preorderPaths path = path :: preorderAmong path n.children := by
  cases n; rw [preorderPaths]

theorem preorderAmong_cons (path : String) (c : Node) (cs : List Node) :
    preorderAmong path (c :: cs) = c.preorderPaths (Path.join path c.name) ++ preorderAmong path cs := by
  rw [preorderAmong]

end Node

namespace AggregatorManager

/-! ## Exported and hidden paths -/

mutual
/-- The path of `n` (at `path`) and of every descendant with no node of an ignored type on the
way down from `n`, in pre-order. -/
def exportedPaths (m : AggregatorManager) (path : String) : Node → List String
  | ⟨_, _, _, _, children⟩ => path :: exportedAmong m path children

/-- The exported paths of the trees `cs`, children of the node at `path`. -/
def exportedAmong (m : AggregatorManager) (path : String) : List Node → List String
  | [] => []
  | c :: cs =>
    (if m.isIgnored c then [] else exportedPaths m (Path.join path c.name) c) ++
      exportedAmong m path cs
end

mutual
/-- The paths of the descendants of `n` (at `path`) that are of an ignored type while no node
between `n` and them is, in pre-order. -/
def hiddenPaths (m : AggregatorManager) (path : String) : Node → List String
  | ⟨_, _, _, _, children⟩ => hiddenAmong m path children

/-- The hidden paths of the trees `cs`, children of the node at `path`, themselves included. -/
def hiddenAmong (m : AggregatorManager) (path : String) : List Node → List String
  | [] => []
  | c :: cs =>
    (if m.isIgnored c then [Path.join path c.name] else hiddenPaths m (Path.join path c.name) c) ++
      hiddenAmong m path cs
end

variable (m : AggregatorManager)

theorem exportedPaths_eq (path : String) (n : Node) :
    m.exportedPaths path n = path :: m.exportedAmong path n.children := by
  cases n; rw [exportedPaths]

theorem exportedAmong_cons (path : String) (c : Node) (cs : List Node) :
    m.exportedAmong path (c :: cs) =
      (if m.isIgnored c then [] else m.exportedPaths (Path.join path c.name) c) ++
        m.exportedAmong path cs := by
  rw [exportedAmong]

theorem hiddenPaths_eq (path : String) (n : Node) :
    m.hiddenPaths path n = m.hiddenAmong path n.children := by
  cases n; rw [hiddenPaths]

theorem hiddenAmong_cons (path : String) (c : Node) (cs : List Node) :
    m.hiddenAmong path (c :: cs) =
      (if m.isIgnored c then [Path.join path c.name] else m.hiddenPaths (Path.join path c.name) c) ++
        m.hiddenAmong path cs := by
  rw [hiddenAmong]

/-! ## Choosing an aggregator -/

/-- The aggregators `a` and `b`, in this order among the configured ones, are not the default
and both match `n`. -/
def MatchedBy (n : Node) (a b : AggregatorConfig) : Prop :=
  [a, b] <+ m.aggregators ∧ a.isDefault = false ∧ b.isDefault = false ∧
    a.matches n = true ∧ b.matches n = true

/-- Two aggregators that are not the default match `n`. -/
def MatchedTwice (n : Node) : Prop := ∃ a b, m.MatchedBy n a b

/-- No aggregator matches `n`, default or not. -/
def Unmatched (n : Node) : Prop := ∀ a ∈ m.aggregators, a.matches n = false

/-- Why no aggregator is chosen for `n` at `path`: two that are not the default match it and
the error names them, or none matches it and the error says so. -/
def SelectionFault (n : Node) (path : String) (e : Error) : Prop :=
  (∃ a b, m.MatchedBy n a b ∧ e = .ambiguousAggregate path a.name b.name) ∨
    (m.Unmatched n ∧ e = .config ("no aggregator matches " ++ path))

/-- The aggregators that are not the default and match `n`, in order. -/
theorem mem_nonDefault {n : Node} {a : AggregatorConfig} :
    a ∈ m.aggregators.filter (fun a => !a.isDefault && a.matches n) ↔
      a ∈ m.aggregators ∧ a.isDefault = false ∧ a.matches n = true := by
  simp

theorem find_eq_error {n : Node} {path : String} {e : Error} (h : m.find n path = .error e) :
    m.SelectionFault n path e := by
  unfold find at h
  generalize hF : m.aggregators.filter (fun a => !a.isDefault && a.matches n) = F at h
  rcases F with _ | ⟨a, _ | ⟨b, rest⟩⟩
  · -- no aggregator but the default ones matches, and no default one does either
    right
    cases hd : m.aggregators.find? (fun a => a.isDefault && a.matches n) with
    | some d =>
      simp only [hd] at h
      cases h
    | none =>
      simp only [hd] at h
      cases h
      refine ⟨fun a ha => ?_, rfl⟩
      have hnd : a ∉ m.aggregators.filter (fun a => !a.isDefault && a.matches n) := by
        rw [hF]
        exact List.not_mem_nil
      have hdef := List.find?_eq_none.mp hd a ha
      rw [m.mem_nonDefault] at hnd
      cases hm : a.matches n
      · rfl
      · cases hdf : a.isDefault
        · exact absurd ⟨ha, hdf, hm⟩ hnd
        · simp [hdf, hm] at hdef
  · simp only at h
    cases h
  · -- the first two that match are named
    simp only at h
    cases h
    left
    have hsub : [a, b] <+ a :: b :: rest := List.cons_sublist_cons.mpr (List.cons_sublist_cons.mpr (List.nil_sublist _))
    have hfilter : a :: b :: rest <+ m.aggregators := hF ▸ List.filter_sublist
    have ha := (m.mem_nonDefault).mp (hF ▸ List.mem_cons_self)
    have hb := (m.mem_nonDefault).mp (hF ▸ List.mem_cons_of_mem a List.mem_cons_self)
    exact ⟨a, b, ⟨hsub.trans hfilter, ha.2.1, hb.2.1, ha.2.2, hb.2.2⟩, rfl⟩

theorem find_fails_iff {n : Node} {path : String} :
    (∃ e, m.find n path = .error e) ↔ m.MatchedTwice n ∨ m.Unmatched n := by
  constructor
  · rintro ⟨e, h⟩
    rcases m.find_eq_error h with ⟨a, b, hab, _⟩ | ⟨hu, _⟩
    · exact .inl ⟨a, b, hab⟩
    · exact .inr hu
  · rintro (⟨a, b, hsub, ha, hb, hma, hmb⟩ | hu)
    · -- both pass the filter of `find`, which therefore keeps two aggregators at least
      have h2 : [a, b] <+ m.aggregators.filter (fun a => !a.isDefault && a.matches n) := by
        have := hsub.filter (fun a => !a.isDefault && a.matches n)
        simpa [ha, hb, hma, hmb] using this
      unfold find
      generalize m.aggregators.filter (fun a => !a.isDefault && a.matches n) = F at h2
      rcases F with _ | ⟨x, _ | ⟨y, rest⟩⟩
      · simp at h2
      · have := h2.length_le
        simp at this
      · exact ⟨_, rfl⟩
    · have hF : m.aggregators.filter (fun a => !a.isDefault && a.matches n) = [] := by
        rw [List.filter_eq_nil_iff]
        intro a ha
        simp [hu a ha]
      have hd : m.aggregators.find? (fun a => a.isDefault && a.matches n) = none := by
        rw [List.find?_eq_none]
        intro a ha
        simp [hu a ha]
      unfold find
      rw [hF]
      simp only [hd]
      exact ⟨_, rfl⟩

/-! ## What an aggregate claims and includes -/

section Claims

variable {a : Aggregate}

theorem isIgnored_of_types (hT : a.ignoredTypes = m.ignoredTypes) (n : Node) :
    a.isIgnored n = m.isIgnored n := by
  simp only [Aggregate.isIgnored, isIgnored, hT]

theorem includesChild_of_types (hT : a.ignoredTypes = m.ignoredTypes) (n : Node) :
    a.includesChild n = (!m.isIgnored n && a.aggregator.fullCoverage) := by
  rw [Aggregate.includesChild, m.isIgnored_of_types hT]

theorem claimBelow_eq (a : Aggregate) (path : String) (n : Node) :
    claimBelow a path n = claimAmong a path n.children := by
  cases n; rw [claimBelow]

theorem hints_claimAmong_cons (a : Aggregate) (path : String) (c : Node) (cs : List Node) :
    (claimAmong a path (c :: cs)).2 =
      (if a.isIgnored c then [Path.join path c.name]
        else if a.includesChild c then (claimBelow a (Path.join path c.name) c).2 else []) ++
        (claimAmong a path cs).2 := by
  rw [claimAmong]
  by_cases hi : a.isIgnored c <;> by_cases hc : a.includesChild c <;> simp [hi, hc]

mutual
/-- A full-coverage aggregate hints at the hidden nodes below it. -/
theorem hints_claimBelow_of_full (hT : a.ignoredTypes = m.ignoredTypes)
    (hF : a.aggregator.fullCoverage = true) :
    (path : String) → (n : Node) → (claimBelow a path n).2 = m.hiddenPaths path n
  | path, ⟨_, _, _, _, children⟩ => by
    rw [claimBelow, hiddenPaths]
    exact hints_claimAmong_of_full hT hF path children

theorem hints_claimAmong_of_full (hT : a.ignoredTypes = m.ignoredTypes)
    (hF : a.aggregator.fullCoverage = true) :
    (path : String) → (cs : List Node) → (claimAmong a path cs).2 = m.hiddenAmong path cs
  | path, [] => by rw [claimAmong, hiddenAmong]
  | path, c :: cs => by
    rw [hints_claimAmong_cons, hiddenAmong_cons, hints_claimAmong_of_full hT hF path cs,
      m.includesChild_of_types hT, m.isIgnored_of_types hT, hF]
    by_cases hc : m.isIgnored c
    · simp [hc]
    · simp [hc, hints_claimBelow_of_full hT hF (Path.join path c.name) c]
end

/-- An aggregate without full coverage hints at its children of an ignored type only. -/
theorem hints_claimAmong_of_partial (hT : a.ignoredTypes = m.ignoredTypes)
    (hF : a.aggregator.fullCoverage = false) (path : String) (cs : List Node) :
    (claimAmong a path cs).2 = (cs.filter m.isIgnored).map fun c => Path.join path c.name := by
  induction cs with
  | nil => rw [claimAmong]; rfl
  | cons c cs ih =>
    rw [hints_claimAmong_cons, ih, m.includesChild_of_types hT, m.isIgnored_of_types hT, hF]
    by_cases hc : m.isIgnored c <;> simp [hc]

theorem includedBelow_eq (a : Aggregate) (path : String) (n : Node) :
    a.includedBelow path n = a.includedAmong path n.children := by
  cases n; rw [Aggregate.includedBelow]

theorem includedAmong_cons (a : Aggregate) (path : String) (c : Node) (cs : List Node) :
    a.includedAmong path (c :: cs) =
      (if a.includesChild c then
          Path.join path c.name :: a.includedBelow (Path.join path c.name) c
        else []) ++ a.includedAmong path cs := by
  rw [Aggregate.includedAmong]

mutual
/-- A full-coverage aggregate includes the exported descendants of a node. -/
theorem includedBelow_of_full (hT : a.ignoredTypes = m.ignoredTypes)
    (hF : a.aggregator.fullCoverage = true) :
    (path : String) → (n : Node) → a.includedBelow path n = m.exportedAmong path n.children
  | path, ⟨_, _, _, _, children⟩ => by
    rw [Aggregate.includedBelow]
    exact includedAmong_of_full hT hF path children

theorem includedAmong_of_full (hT : a.ignoredTypes = m.ignoredTypes)
    (hF : a.aggregator.fullCoverage = true) :
    (path : String) → (cs : List Node) → a.includedAmong path cs = m.exportedAmong path cs
  | path, [] => by rw [Aggregate.includedAmong, exportedAmong]
  | path, c :: cs => by
    rw [includedAmong_cons, exportedAmong_cons, includedAmong_of_full hT hF path cs,
      m.includesChild_of_types hT, hF]
    by_cases hc : m.isIgnored c
    · simp [hc]
    · simp [hc, includedBelow_of_full hT hF (Path.join path c.name) c, exportedPaths_eq]
end

/-- An aggregate without full coverage includes no descendant. -/
theorem includedAmong_of_partial (hT : a.ignoredTypes = m.ignoredTypes)
    (hF : a.aggregator.fullCoverage = false) (path : String) (cs : List Node) :
    a.includedAmong path cs = [] := by
  induction cs with
  | nil => rw [Aggregate.includedAmong]
  | cons c cs ih => rw [includedAmong_cons, ih, m.includesChild_of_types hT, hF]; simp

theorem includedPaths_of_full (hT : a.ignoredTypes = m.ignoredTypes)
    (hF : a.aggregator.fullCoverage = true) (n : Node) :
    a.includedPaths n = m.exportedPaths a.path n := by
  rw [Aggregate.includedPaths, m.includedBelow_of_full hT hF, exportedPaths_eq]

theorem includedPaths_of_partial (hT : a.ignoredTypes = m.ignoredTypes)
    (hF : a.aggregator.fullCoverage = false) (n : Node) :
    a.includedPaths n = [a.path] := by
  rw [Aggregate.includedPaths, includedBelow_eq, m.includedAmong_of_partial hT hF]

end Claims

/-! ## Starting an aggregate -/

theorem start_of_find_error {n : Node} {path : String} {e : Error}
    (h : m.find n path = .error e) : m.start path n = .error e := by
  unfold start
  rw [h]
  rfl

/-- The hints of an aggregate starting at a node with aggregator `c`. -/
theorem start_of_find {n : Node} {path : String} {c : AggregatorConfig}
    (h : m.find n path = .ok c) :
    ∃ a, m.start path n = .ok a ∧ a.path = path ∧ a.aggregator = c ∧
      a.ignoredTypes = m.ignoredTypes ∧
      a.hints = if c.fullCoverage then m.hiddenPaths path n
        else (n.children.filter m.isIgnored).map fun d => Path.join path d.name := by
  unfold start
  rw [h]
  refine ⟨_, rfl, rfl, rfl, rfl, ?_⟩
  -- the hints are those the aggregate claims before they are stored in it
  show (claimBelow
    { path, aggregator := c, includeVersions := m.includeVersions,
      ignoredTypes := m.ignoredTypes, nested := [], hints := [] } path n).2 = _
  cases hc : c.fullCoverage
  · rw [claimBelow_eq, m.hints_claimAmong_of_partial rfl hc]
    rfl
  · rw [m.hints_claimBelow_of_full rfl hc]
    rfl

/-- The fields of the aggregate that starts at `n` (at `path`): the first of the aggregates
collected there. -/
structure StartsAt (n : Node) (path : String) (b : Aggregate) : Prop where
  selected : m.find n path = .ok b.aggregator
  atPath : b.path = path
  types : b.ignoredTypes = m.ignoredTypes
  hints : b.hints = if b.aggregator.fullCoverage then m.hiddenPaths path n
    else (n.children.filter m.isIgnored).map fun d => Path.join path d.name

theorem startsAt_of_start {n : Node} {path : String} {b : Aggregate}
    (h : m.start path n = .ok b) : m.StartsAt n path b := by
  cases hfind : m.find n path with
  | error e =>
    rw [m.start_of_find_error hfind] at h
    cases h
  | ok c =>
    obtain ⟨b', hb', hpath, hagg, htypes, hhints⟩ := m.start_of_find hfind
    rw [hb'] at h
    cases h
    exact ⟨hagg ▸ hfind, hpath, htypes, hagg ▸ hhints⟩

/-! ## Collecting the aggregates of a subtree -/

/-- The aggregate starting at `n` (at `path`) followed by the aggregates it meets below: what
`collect` returns for the subtree at `path`. -/
def collectFrom (path : String) (n : Node) : Except Error (List Aggregate) := do
  let a ← m.start path n
  let rest ← m.collectAmong a path n.children
  return a :: rest

theorem collect_eq (tree : Node) (path : String) :
    m.collect tree path = nodeAt tree path >>= m.collectFrom path := rfl

theorem collectAmong_cons (a : Aggregate) (path : String) (c : Node) (cs : List Node) :
    m.collectAmong a path (c :: cs) = (do
      let here ← m.collectChild a path c
      let rest ← m.collectAmong a path cs
      return here ++ rest) := by
  rw [collectAmong]

theorem collectChild_eq (a : Aggregate) (path : String) (c : Node) :
    m.collectChild a path c =
      if a.isIgnored c then .ok []
      else if a.includesChild c then m.collectAmong a (Path.join path c.name) c.children
      else m.collectFrom (Path.join path c.name) c := by
  cases c
  rfl

section Collect

variable {a : Aggregate}

mutual
/-- A full-coverage aggregate meets no other aggregate below it. -/
theorem collectAmong_of_full (hT : a.ignoredTypes = m.ignoredTypes)
    (hF : a.aggregator.fullCoverage = true) :
    (path : String) → (cs : List Node) → m.collectAmong a path cs = .ok []
  | path, [] => by rw [collectAmong]
  | path, c :: cs => by
    rw [collectAmong_cons, collectChild_of_full hT hF path c, collectAmong_of_full hT hF path cs]
    rfl

theorem collectChild_of_full (hT : a.ignoredTypes = m.ignoredTypes)
    (hF : a.aggregator.fullCoverage = true) :
    (path : String) → (c : Node) → m.collectChild a path c = .ok []
  | path, ⟨name, t, mx, ps, children⟩ => by
    rw [collectChild_eq, m.includesChild_of_types hT, m.isIgnored_of_types hT, hF]
    cases m.isIgnored ⟨name, t, mx, ps, children⟩
    · simpa using collectAmong_of_full hT hF (Path.join path name) children
    · simp
end

/-- Below an aggregate without full coverage, every child not of an ignored type starts an
aggregate of its own. -/
theorem collectChild_of_partial (hT : a.ignoredTypes = m.ignoredTypes)
    (hF : a.aggregator.fullCoverage = false) (path : String) (c : Node) :
    m.collectChild a path c =
      if m.isIgnored c then .ok [] else m.collectFrom (Path.join path c.name) c := by
  rw [collectChild_eq, m.includesChild_of_types hT, m.isIgnored_of_types hT, hF]
  simp

end Collect

/-- A successful collection from a subtree starts with the aggregate of its root and goes on
below it. -/
theorem collectFrom_eq_ok {path : String} {n : Node} {aggs : List Aggregate}
    (h : m.collectFrom path n = .ok aggs) :
    ∃ b rest, aggs = b :: rest ∧ m.StartsAt n path b ∧
      m.collectAmong b path n.children = .ok rest := by
  rw [collectFrom, Except.bind_eq_ok_iff] at h
  obtain ⟨b, hb, h⟩ := h
  rw [Except.bind_eq_ok_iff] at h
  obtain ⟨rest, hrest, h⟩ := h
  cases h
  exact ⟨b, rest, rfl, m.startsAt_of_start hb, hrest⟩

/-- A successful collection below an aggregate without full coverage collects from each child
not of an ignored type in turn. -/
theorem collectAmong_cons_eq_ok {b : Aggregate} (hT : b.ignoredTypes = m.ignoredTypes)
    (hF : b.aggregator.fullCoverage = false) {path : String} {c : Node} {cs : List Node}
    {aggs : List Aggregate} (h : m.collectAmong b path (c :: cs) = .ok aggs) :
    ∃ here rest, aggs = here ++ rest ∧
      (if m.isIgnored c then here = [] else m.collectFrom (Path.join path c.name) c = .ok here) ∧
      m.collectAmong b path cs = .ok rest := by
  rw [collectAmong_cons, m.collectChild_of_partial hT hF, Except.bind_eq_ok_iff] at h
  obtain ⟨here, hhere, h⟩ := h
  rw [Except.bind_eq_ok_iff] at h
  obtain ⟨rest, hrest, h⟩ := h
  cases h
  refine ⟨here, rest, rfl, ?_, hrest⟩
  by_cases hc : m.isIgnored c
  · rw [if_pos hc] at hhere ⊢
    cases hhere
    rfl
  · rw [if_neg hc] at hhere ⊢
    exact hhere


/-! ## Where a collection fails -/

/-- The aggregate roots that a collection from `n` at `path` reaches: `n` itself, and the roots
reached from each child, not of an ignored type, of a root whose aggregator has no full
coverage. -/
inductive ReachesRoot : Node → String → Node → String → Prop
  | here (n : Node) (path : String) : ReachesRoot n path n path
  | nested {n : Node} {path : String} {c : AggregatorConfig} {d k : Node} {q : String} :
      m.find n path = .ok c → c.fullCoverage = false → d ∈ n.children → m.isIgnored d = false →
      ReachesRoot d (Path.join path d.name) k q → ReachesRoot n path k q

theorem start_eq_error_iff {path : String} {n : Node} {e : Error} :
    m.start path n = .error e ↔ m.find n path = .error e := by
  constructor
  · intro h
    cases hfind : m.find n path with
    | error e' =>
      rw [m.start_of_find_error hfind] at h
      cases h
      rfl
    | ok c =>
      obtain ⟨b, hb, -⟩ := m.start_of_find hfind
      rw [hb] at h
      cases h
  · exact m.start_of_find_error

theorem collectFrom_eq_error {path : String} {n : Node} {e : Error}
    (h : m.collectFrom path n = .error e) :
    m.find n path = .error e ∨
      ∃ b, m.StartsAt n path b ∧ m.collectAmong b path n.children = .error e := by
  rw [collectFrom, Except.bind_eq_error_iff] at h
  rcases h with hs | ⟨b, hs, h⟩
  · exact .inl (m.start_eq_error_iff.mp hs)
  · rw [Except.bind_eq_error_iff] at h
    rcases h with hrest | ⟨rest, _, h⟩
    · exact .inr ⟨b, m.startsAt_of_start hs, hrest⟩
    · cases h

theorem collectAmong_cons_eq_error {b : Aggregate} (hT : b.ignoredTypes = m.ignoredTypes)
    (hF : b.aggregator.fullCoverage = false) {path : String} {c : Node} {cs : List Node}
    {e : Error} (h : m.collectAmong b path (c :: cs) = .error e) :
    (m.isIgnored c = false ∧ m.collectFrom (Path.join path c.name) c = .error e) ∨
      m.collectAmong b path cs = .error e := by
  rw [collectAmong_cons, m.collectChild_of_partial hT hF, Except.bind_eq_error_iff] at h
  rcases h with hhere | ⟨here, _, h⟩
  · by_cases hc : m.isIgnored c
    · rw [if_pos hc] at hhere
      cases hhere
    · rw [if_neg hc] at hhere
      exact .inl ⟨Bool.eq_false_iff.mpr hc, hhere⟩
  · rw [Except.bind_eq_error_iff] at h
    rcases h with hrest | ⟨rest, _, h⟩
    · exact .inr hrest
    · cases h

mutual
/-- A failed collection failed to choose the aggregator of a root it reaches. -/
theorem root_of_collectFrom_error :
    (path : String) → (n : Node) → ∀ e, m.collectFrom path n = .error e →
      ∃ k q, m.ReachesRoot n path k q ∧ m.find k q = .error e
  | path, ⟨name, t, mx, ps, children⟩, e, h => by
    obtain ⟨n, hnode⟩ : ∃ n : Node, n = ⟨name, t, mx, ps, children⟩ := ⟨_, rfl⟩
    have hkids : n.children = children := by rw [hnode]
    rw [← hnode] at h ⊢
    rcases m.collectFrom_eq_error h with hfind | ⟨b, hb, hrest⟩
    · exact ⟨n, path, .here n path, hfind⟩
    · cases hF : b.aggregator.fullCoverage
      · obtain ⟨d, hd, hdi, k, q, hreach, hk⟩ :=
          root_of_collectAmong_error hb.types hF path children e (hkids ▸ hrest)
        exact ⟨k, q, .nested hb.selected hF (hkids ▸ hd) hdi hreach, hk⟩
      · rw [m.collectAmong_of_full hb.types hF] at hrest
        cases hrest

theorem root_of_collectAmong_error {b : Aggregate} (hT : b.ignoredTypes = m.ignoredTypes)
    (hF : b.aggregator.fullCoverage = false) :
    (path : String) → (cs : List Node) → ∀ e, m.collectAmong b path cs = .error e →
      ∃ d ∈ cs, m.isIgnored d = false ∧
        ∃ k q, m.ReachesRoot d (Path.join path d.name) k q ∧ m.find k q = .error e
  | path, [], e, h => by
    rw [collectAmong] at h
    cases h
  | path, c :: cs, e, h => by
    rcases m.collectAmong_cons_eq_error hT hF h with ⟨hc, hcf⟩ | hrest
    · obtain ⟨k, q, hr, hk⟩ := root_of_collectFrom_error (Path.join path c.name) c e hcf
      exact ⟨c, List.mem_cons_self, hc, k, q, hr, hk⟩
    · obtain ⟨d, hd, hdi, k, q, hr, hk⟩ := root_of_collectAmong_error hT hF path cs e hrest
      exact ⟨d, List.mem_cons_of_mem c hd, hdi, k, q, hr, hk⟩
end

/-- A collection below an aggregate without full coverage fails when the one from a child not of
an ignored type does. -/
theorem collectAmong_fails {b : Aggregate} (hT : b.ignoredTypes = m.ignoredTypes)
    (hF : b.aggregator.fullCoverage = false) {path : String} {d : Node} {e : Error}
    (hdi : m.isIgnored d = false) (he : m.collectFrom (Path.join path d.name) d = .error e) :
    ∀ {cs : List Node}, d ∈ cs → ∃ e', m.collectAmong b path cs = .error e'
  | c :: cs, hd => by
    rw [collectAmong_cons, m.collectChild_of_partial hT hF]
    rcases List.mem_cons.mp hd with rfl | hd
    · rw [hdi, if_neg Bool.false_ne_true, Except.bind_of_error he]
      exact ⟨e, rfl⟩
    · -- the child before `d` either fails itself or lets the collection reach `d`
      cases hhere : (if m.isIgnored c then Except.ok [] else m.collectFrom (Path.join path c.name) c) with
      | error e' => exact ⟨e', rfl⟩
      | ok here =>
        obtain ⟨e', hrest⟩ := collectAmong_fails hT hF hdi he hd
        exact ⟨e', by rw [Except.ok_bind, Except.bind_of_error hrest]⟩

/-- A collection fails when it reaches a root whose aggregator cannot be chosen. -/
theorem collectFrom_fails_of_reaches {n k : Node} {path q : String} (hr : m.ReachesRoot n path k q)
    {e : Error} (hk : m.find k q = .error e) : ∃ e', m.collectFrom path n = .error e' := by
  induction hr with
  | here n path =>
    refine ⟨e, ?_⟩
    rw [collectFrom, m.start_of_find_error hk]
    rfl
  | @nested n path c d k q hfind hF hd hdi _ ih =>
    obtain ⟨e', he⟩ := ih hk
    obtain ⟨b, hb, -, hagg, hT, -⟩ := m.start_of_find hfind
    obtain ⟨e'', hrest⟩ := m.collectAmong_fails hT (hagg ▸ hF) hdi he hd
    refine ⟨e'', ?_⟩
    rw [collectFrom, Except.bind_of_ok hb, Except.bind_of_error hrest]


/-! ## Exported and hidden paths are distinct -/

/-- Exchanging the middle two of four lists permutes their concatenation. -/
theorem perm_append_append_swap {α : Type} (a b c d : List α) :
    (a ++ b) ++ (c ++ d) ~ (a ++ c) ++ (b ++ d) := by
  have h := ((@List.perm_append_comm _ b c).append_left a).append_right d
  simpa only [List.append_assoc] using h

/-- Children with distinct valid names, each well named everywhere below. -/
def WellNamedAmong (cs : List Node) : Prop :=
  (cs.map (·.name)).Nodup ∧ ∀ c ∈ cs, Path.ValidName c.name ∧ Everywhere SiblingsWellNamed c

theorem wellNamedAmong_children {n : Node} (h : Everywhere SiblingsWellNamed n) :
    WellNamedAmong n.children :=
  ⟨h.self.1, fun c hc => ⟨h.self.2 c hc, h.child hc⟩⟩

theorem WellNamedAmong.tail {c : Node} {cs : List Node} (h : WellNamedAmong (c :: cs)) :
    WellNamedAmong cs :=
  ⟨(List.nodup_cons.mp h.1).2, fun d hd => h.2 d (List.mem_cons_of_mem c hd)⟩

mutual
/-- The exported and hidden paths below `n` extend the names of `path`. -/
theorem prefix_of_mem_pieces :
    (path : String) → (n : Node) → Everywhere SiblingsWellNamed n →
      ∀ x ∈ m.exportedPaths path n ++ m.hiddenPaths path n,
        Path.segments path <+: Path.segments x
  | path, ⟨_, _, _, _, children⟩, hW, x, hx => by
    rw [exportedPaths, hiddenPaths, List.cons_append] at hx
    rcases List.mem_cons.mp hx with rfl | hx
    · exact List.prefix_refl _
    · obtain ⟨c, _, hc⟩ :=
        prefix_of_mem_piecesAmong path children (wellNamedAmong_children hW) x hx
      exact (List.prefix_append _ _).trans hc

/-- The exported and hidden paths of the trees `cs` extend the names of `path` by the name of
the tree they are in. -/
theorem prefix_of_mem_piecesAmong :
    (path : String) → (cs : List Node) → WellNamedAmong cs →
      ∀ x ∈ m.exportedAmong path cs ++ m.hiddenAmong path cs,
        ∃ c ∈ cs, Path.segments path ++ [c.name] <+: Path.segments x
  | path, [], _, x, hx => by
    rw [exportedAmong, hiddenAmong] at hx
    cases hx
  | path, c :: cs, hcs, x, hx => by
    have hjoin := Path.segments_join_validName path (hcs.2 c List.mem_cons_self).1
    rw [exportedAmong_cons, hiddenAmong_cons, (perm_append_append_swap _ _ _ _).mem_iff,
      List.mem_append] at hx
    rcases hx with hx | hx
    · refine ⟨c, List.mem_cons_self, ?_⟩
      rw [← hjoin]
      by_cases hc : m.isIgnored c
      · rw [if_pos hc, if_pos hc, List.nil_append, List.mem_singleton] at hx
        exact hx ▸ List.prefix_refl _
      · rw [if_neg hc, if_neg hc] at hx
        exact prefix_of_mem_pieces (Path.join path c.name) c (hcs.2 c List.mem_cons_self).2 x hx
    · obtain ⟨d, hd, hpre⟩ := prefix_of_mem_piecesAmong path cs hcs.tail x hx
      exact ⟨d, List.mem_cons_of_mem c hd, hpre⟩
end

/-- Two paths below `path` that extend it by the names of two children are the same only if the
names are. -/
theorem name_eq_of_prefixes {path x : String} {a b : String}
    (ha : Path.segments path ++ [a] <+: Path.segments x)
    (hb : Path.segments path ++ [b] <+: Path.segments x) : a = b := by
  have hlen : (Path.segments path ++ [a]).length ≤ (Path.segments path ++ [b]).length := by simp
  have heq := (List.prefix_of_prefix_length_le ha hb hlen).eq_of_length (by simp)
  simpa using heq

mutual
/-- No path is exported or hidden twice below a well-named node, and none is both. -/
theorem nodup_pieces :
    (path : String) → (n : Node) → Everywhere SiblingsWellNamed n →
      (m.exportedPaths path n ++ m.hiddenPaths path n).Nodup
  | path, ⟨_, _, _, _, children⟩, hW => by
    rw [exportedPaths, hiddenPaths, List.cons_append, List.nodup_cons]
    refine ⟨fun hx => ?_, nodup_piecesAmong path children (wellNamedAmong_children hW)⟩
    -- every path below is longer than `path`
    obtain ⟨c, _, hc⟩ :=
      m.prefix_of_mem_piecesAmong path children (wellNamedAmong_children hW) path hx
    have := hc.length_le
    rw [List.length_append, List.length_singleton] at this
    omega

theorem nodup_piecesAmong :
    (path : String) → (cs : List Node) → WellNamedAmong cs →
      (m.exportedAmong path cs ++ m.hiddenAmong path cs).Nodup
  | path, [], _ => by
    rw [exportedAmong, hiddenAmong]
    exact List.nodup_nil
  | path, c :: cs, hcs => by
    have hjoin := Path.segments_join_validName path (hcs.2 c List.mem_cons_self).1
    rw [exportedAmong_cons, hiddenAmong_cons, (perm_append_append_swap _ _ _ _).nodup_iff,
      List.nodup_append]
    refine ⟨?_, nodup_piecesAmong path cs hcs.tail, fun x hx y hy hxy => ?_⟩
    · by_cases hc : m.isIgnored c
      · rw [if_pos hc, if_pos hc]
        simp
      · rw [if_neg hc, if_neg hc]
        exact nodup_pieces (Path.join path c.name) c (hcs.2 c List.mem_cons_self).2
    · -- the pieces of `c` and of the later trees lie below different children
      subst hxy
      have hx' : Path.segments path ++ [c.name] <+: Path.segments x := by
        rw [← hjoin]
        by_cases hc : m.isIgnored c
        · rw [if_pos hc, if_pos hc, List.nil_append, List.mem_singleton] at hx
          exact hx ▸ List.prefix_refl _
        · rw [if_neg hc, if_neg hc] at hx
          exact m.prefix_of_mem_pieces (Path.join path c.name) c (hcs.2 c List.mem_cons_self).2 x hx
      obtain ⟨d, hd, hy'⟩ := m.prefix_of_mem_piecesAmong path cs hcs.tail x hy
      have hname := name_eq_of_prefixes hx' hy'
      exact (List.nodup_cons.mp hcs.1).1 (List.mem_map.mpr ⟨d, hd, hname.symm⟩)
end

/-! ## Paths and lookups below a well-named node -/

/-- Below a node found at `path` whose children have distinct valid names, the path of a child
finds that child. -/
theorem descendant?_join {tree n c : Node} {path : String} (h : tree.descendant? path = some n)
    (hn : SiblingsWellNamed n) (hc : c ∈ n.children) :
    tree.descendant? (Path.join path c.name) = some c := by
  unfold Node.descendant? at h ⊢
  rw [Path.segments_join_validName path (hn.2 c hc), descendAlong_append, h]
  simp [child?_of_mem hn.1 hc]

theorem includedPathsIn_of_descendant? {a : Aggregate} {tree k : Node}
    (h : tree.descendant? a.path = some k) : a.includedPathsIn tree = .ok (a.includedPaths k) := by
  unfold Aggregate.includedPathsIn nodeAt
  rw [h]
  rfl

/-! ## A successful collection partitions the subtree -/

/-- What a successful collection returns for the subtree `n` at `path` of `tree`: aggregate
roots in pre-order, included paths, read from `tree` aggregate after aggregate, that make up
the exported paths in order, and hints that make up the hidden paths. -/
structure Partition (tree : Node) (path : String) (n : Node) (aggs : List Aggregate) : Prop where
  preorder : aggs.map (·.path) <+ n.preorderPaths path
  included : ∃ L, aggs.mapM (·.includedPathsIn tree) = .ok L ∧ L.flatten = m.exportedPaths path n
  hints : aggs.flatMap (·.hints) ~ m.hiddenPaths path n

/-- The same for the aggregates met below the children `cs` of a node at `path` whose aggregate
has no full coverage; that aggregate hints at the children of an ignored type. -/
structure PartitionAmong (tree : Node) (path : String) (cs : List Node) (aggs : List Aggregate) :
    Prop where
  preorder : aggs.map (·.path) <+ preorderAmong path cs
  included : ∃ L, aggs.mapM (·.includedPathsIn tree) = .ok L ∧ L.flatten = m.exportedAmong path cs
  hints : (cs.filter m.isIgnored).map (fun c => Path.join path c.name) ++ aggs.flatMap (·.hints) ~
    m.hiddenAmong path cs

mutual
theorem partition_of_collectFrom (tree : Node) :
    (path : String) → (n : Node) → Everywhere SiblingsWellNamed n →
      tree.descendant? path = some n → ∀ aggs, m.collectFrom path n = .ok aggs →
      m.Partition tree path n aggs
  | path, ⟨name, t, mx, ps, children⟩, hW, hn, aggs, h => by
    -- the node as a whole, whose children the recursion goes through
    obtain ⟨n, hnode⟩ : ∃ n : Node, n = ⟨name, t, mx, ps, children⟩ := ⟨_, rfl⟩
    have hkids : n.children = children := by rw [hnode]
    rw [← hnode] at hW hn h ⊢
    obtain ⟨b, rest, rfl, hb, hrest⟩ := m.collectFrom_eq_ok h
    have hbn : tree.descendant? b.path = some n := by rw [hb.atPath]; exact hn
    cases hF : b.aggregator.fullCoverage
    · -- every child not of an ignored type starts an aggregate of its own
      have hwell : ∀ c ∈ children, Everywhere SiblingsWellNamed c ∧
          tree.descendant? (Path.join path c.name) = some c :=
        fun c hc => ⟨hW.child (hkids ▸ hc), descendant?_join hn hW.self (hkids ▸ hc)⟩
      have hbelow := partition_of_collectAmong tree hb.types hF path children hwell rest
        (hkids ▸ hrest)
      obtain ⟨L, hL, hflat⟩ := hbelow.included
      refine ⟨?_, ⟨[b.path] :: L, ?_, ?_⟩, ?_⟩
      · rw [List.map_cons, hb.atPath, preorderPaths_eq, hkids]
        exact hbelow.preorder.cons_cons path
      · rw [List.mapM_cons, includedPathsIn_of_descendant? hbn,
          m.includedPaths_of_partial hb.types hF, hL]
        rfl
      · rw [List.flatten_cons, hflat, exportedPaths_eq, hb.atPath, hkids]
        rfl
      · rw [List.flatMap_cons, hb.hints, hF, if_neg Bool.false_ne_true, hiddenPaths_eq, hkids]
        exact hbelow.hints
    · -- the aggregate covers the whole exported subtree and meets no other one
      rw [m.collectAmong_of_full hb.types hF] at hrest
      cases hrest
      refine ⟨?_, ⟨[m.exportedPaths path n], ?_, ?_⟩, ?_⟩
      · rw [List.map_singleton, hb.atPath, preorderPaths_eq]
        exact (List.nil_sublist _).cons_cons path
      · rw [List.mapM_cons, includedPathsIn_of_descendant? hbn,
          m.includedPaths_of_full hb.types hF, hb.atPath]
        rfl
      · exact List.flatten_singleton
      · rw [List.flatMap_singleton, hb.hints, hF, if_pos rfl]

theorem partition_of_collectAmong (tree : Node) {b : Aggregate}
    (hT : b.ignoredTypes = m.ignoredTypes) (hF : b.aggregator.fullCoverage = false) :
    (path : String) → (cs : List Node) →
      (∀ c ∈ cs, Everywhere SiblingsWellNamed c ∧ tree.descendant? (Path.join path c.name) = some c) →
      ∀ aggs, m.collectAmong b path cs = .ok aggs → m.PartitionAmong tree path cs aggs
  | path, [], _, aggs, h => by
    rw [collectAmong] at h
    cases h
    exact ⟨List.nil_sublist _, ⟨[], rfl, rfl⟩, by rw [hiddenAmong]; rfl⟩
  | path, c :: cs, hcs, aggs, h => by
    obtain ⟨here, rest, rfl, hhere, hrest⟩ := m.collectAmong_cons_eq_ok hT hF h
    have hrest' := partition_of_collectAmong tree hT hF path cs
      (fun d hd => hcs d (List.mem_cons_of_mem c hd)) rest hrest
    obtain ⟨Lr, hLr, hflatr⟩ := hrest'.included
    by_cases hc : m.isIgnored c
    · -- an ignored child is a hint of the enclosing aggregate and starts nothing
      rw [if_pos hc] at hhere
      subst hhere
      refine ⟨?_, ⟨Lr, hLr, ?_⟩, ?_⟩
      · rw [List.nil_append, preorderAmong_cons]
        exact hrest'.preorder.trans (List.sublist_append_right _ _)
      · rw [hflatr, exportedAmong_cons, if_pos hc, List.nil_append]
      · rw [List.filter_cons_of_pos hc, List.map_cons, hiddenAmong_cons, if_pos hc,
          List.nil_append, List.cons_append, List.singleton_append]
        exact hrest'.hints.cons _
    · rw [if_neg hc] at hhere
      have hhere' := partition_of_collectFrom tree (Path.join path c.name) c
        (hcs c List.mem_cons_self).1 (hcs c List.mem_cons_self).2 here hhere
      obtain ⟨Lh, hLh, hflath⟩ := hhere'.included
      refine ⟨?_, ⟨Lh ++ Lr, ?_, ?_⟩, ?_⟩
      · rw [List.map_append, preorderAmong_cons]
        exact hhere'.preorder.append hrest'.preorder
      · rw [List.mapM_append, hLh, hLr]
        rfl
      · rw [List.flatten_append, hflath, hflatr, exportedAmong_cons, if_neg hc]
      · rw [List.filter_cons_of_neg hc, hiddenAmong_cons, if_neg hc, List.flatMap_append]
        -- the child's own hints come first among the hidden paths
        calc (cs.filter m.isIgnored).map (fun c => Path.join path c.name) ++
              (here.flatMap (·.hints) ++ rest.flatMap (·.hints))
            = ((cs.filter m.isIgnored).map (fun c => Path.join path c.name) ++
                here.flatMap (·.hints)) ++ rest.flatMap (·.hints) := (List.append_assoc _ _ _).symm
          _ ~ (here.flatMap (·.hints) ++ (cs.filter m.isIgnored).map
                (fun c => Path.join path c.name)) ++ rest.flatMap (·.hints) :=
            List.perm_append_comm.append_right _
          _ = here.flatMap (·.hints) ++ ((cs.filter m.isIgnored).map
                (fun c => Path.join path c.name) ++ rest.flatMap (·.hints)) := List.append_assoc _ _ _
          _ ~ m.hiddenPaths (Path.join path c.name) c ++ m.hiddenAmong path cs :=
            hhere'.hints.append hrest'.hints
end

/-! ## The partition -/

/-- When a value occurs once in the concatenated lists of some items, exactly one item's list
holds it. -/
theorem countP_contains_eq_one {α : Type} {f : α → List String} {q : String} :
    ∀ {xs : List α}, (xs.flatMap f).count q = 1 → xs.countP (fun x => (f x).contains q) = 1
  | [], h => by simp at h
  | x :: xs, h => by
    rw [List.flatMap_cons, List.count_append] at h
    rw [List.countP_cons]
    by_cases hx : q ∈ f x
    · -- `x` holds it, so no later item does
      have hfx : 0 < (f x).count q := List.count_pos_iff.mpr hx
      have hrest : (xs.flatMap f).count q = 0 := by omega
      have hnone : xs.countP (fun x => (f x).contains q) = 0 := by
        rw [List.countP_eq_zero]
        intro y hy hq
        have hq' : q ∈ xs.flatMap f := List.mem_flatMap.mpr ⟨y, hy, by simpa using hq⟩
        exact (List.count_eq_zero.mp hrest) hq'
      rw [hnone]
      simp [hx]
    · have hfx : (f x).count q = 0 := List.count_eq_zero.mpr hx
      rw [countP_contains_eq_one (by omega)]
      simp [hx]

/-- A collection from the subtree at `r` fails exactly when it reaches a root for which no
aggregator can be chosen. -/
theorem collect_fails_iff {tree n : Node} {r : String} (hr : tree.descendant? r = some n) :
    (∃ e, m.collect tree r = .error e) ↔
      ∃ k q, m.ReachesRoot n r k q ∧ (m.MatchedTwice k ∨ m.Unmatched k) := by
  have hn : nodeAt tree r = .ok n := by
    unfold nodeAt
    rw [hr]
  rw [collect_eq, Except.bind_of_ok hn]
  constructor
  · rintro ⟨e, h⟩
    obtain ⟨k, q, hreach, hk⟩ := m.root_of_collectFrom_error r n e h
    exact ⟨k, q, hreach, m.find_fails_iff.mp ⟨e, hk⟩⟩
  · rintro ⟨k, q, hreach, hsel⟩
    obtain ⟨e, hk⟩ := m.find_fails_iff.mpr hsel
    exact m.collectFrom_fails_of_reaches hreach hk

/-- The error of a failed collection is that of a root it reaches. -/
theorem collect_error_fault {tree n : Node} {r : String} (hr : tree.descendant? r = some n)
    {e : Error} (h : m.collect tree r = .error e) :
    ∃ k q, m.ReachesRoot n r k q ∧ m.SelectionFault k q e := by
  have hn : nodeAt tree r = .ok n := by
    unfold nodeAt
    rw [hr]
  rw [collect_eq, Except.bind_of_ok hn] at h
  obtain ⟨k, q, hreach, hk⟩ := m.root_of_collectFrom_error r n e h
  exact ⟨k, q, hreach, m.find_eq_error hk⟩

/-- A successful collection from the subtree at `r` of a well-named tree partitions it: the
aggregates come in pre-order of their roots, their included paths are pairwise disjoint and
make up the exported paths, and every hidden node is the hint of exactly one aggregate and is
included by none. -/
theorem collect_ok_partition {tree n : Node} {r : String}
    (hnames : Everywhere SiblingsWellNamed tree) (hr : tree.descendant? r = some n)
    {aggs : List Aggregate} (h : m.collect tree r = .ok aggs) :
    aggs.map (·.path) <+ n.preorderPaths r ∧
      ∃ L, aggs.mapM (·.includedPathsIn tree) = .ok L ∧ L.Pairwise List.Disjoint ∧
        (∀ p, (∃ ps ∈ L, p ∈ ps) ↔ p ∈ m.exportedPaths r n) ∧
        ∀ q ∈ m.hiddenPaths r n, aggs.countP (·.hints.contains q) = 1 ∧ ∀ ps ∈ L, q ∉ ps := by
  have hn : nodeAt tree r = .ok n := by
    unfold nodeAt
    rw [hr]
  rw [collect_eq, Except.bind_of_ok hn] at h
  have hW : Everywhere SiblingsWellNamed n := hnames.descendAlong hr
  have hpart := m.partition_of_collectFrom tree r n hW hr aggs h
  obtain ⟨L, hL, hflat⟩ := hpart.included
  have hnodup := m.nodup_pieces r n hW
  rw [List.nodup_append] at hnodup
  obtain ⟨hexp, hhid, hapart⟩ := hnodup
  refine ⟨hpart.preorder, L, hL, (List.nodup_flatten.mp (hflat ▸ hexp)).2, ?_, ?_⟩
  · intro p
    rw [← hflat, List.mem_flatten]
  · intro q hq
    refine ⟨?_, fun ps hps hqps => ?_⟩
    · -- the hints make up the hidden paths, where `q` occurs once
      apply countP_contains_eq_one
      rw [hpart.hints.count_eq]
      exact List.count_eq_one_of_mem hhid hq
    · have hexported : q ∈ m.exportedPaths r n := hflat ▸ List.mem_flatten.mpr ⟨ps, hps, hqps⟩
      exact hapart q hexported q hq rfl

/-- Collecting the aggregates of the subtree at `r` of a tree whose sibling names are distinct
valid names, under any export settings: the collection fails exactly when a root it reaches is
matched by two aggregators that are not the default or by none, and its error says which; when
it succeeds, the aggregates come in pre-order of their roots, their included paths are pairwise
disjoint and make up the exported paths, and every hidden node is the hint of exactly one
aggregate and included by none. -/
theorem collect_partitions (c : ExportConfig) {tree n : Node} {r : String}
    (hnames : Everywhere SiblingsWellNamed tree) (hr : tree.descendant? r = some n) :
    ((∃ e, (ofConfig c).collect tree r = .error e) ↔
      ∃ k q, (ofConfig c).ReachesRoot n r k q ∧
        ((ofConfig c).MatchedTwice k ∨ (ofConfig c).Unmatched k)) ∧
    (∀ e, (ofConfig c).collect tree r = .error e →
      ∃ k q, (ofConfig c).ReachesRoot n r k q ∧ (ofConfig c).SelectionFault k q e) ∧
    ∀ aggs, (ofConfig c).collect tree r = .ok aggs →
      aggs.map (·.path) <+ n.preorderPaths r ∧
      ∃ L, aggs.mapM (·.includedPathsIn tree) = .ok L ∧ L.Pairwise List.Disjoint ∧
        (∀ p, (∃ ps ∈ L, p ∈ ps) ↔ p ∈ (ofConfig c).exportedPaths r n) ∧
        ∀ q ∈ (ofConfig c).hiddenPaths r n,
          aggs.countP (·.hints.contains q) = 1 ∧ ∀ ps ∈ L, q ∉ ps :=
  ⟨(ofConfig c).collect_fails_iff hr, fun _ h => (ofConfig c).collect_error_fault hr h,
    fun _ h => (ofConfig c).collect_ok_partition hnames hr h⟩

/-- The content folder of the repository's aggregator tests: a site with a page holding a
paragraph and an access control policy, and a folder holding a file with its content. -/
def siteContent : Node :=
  ⟨"content", Known.ntFolder, [], [], [
    ⟨"site", Known.ntFolder, [], [], [
      ⟨"page", Known.ntUnstructured, [], [], [
        ⟨"par", Known.ntUnstructured, [], [], [Node.empty "text" Known.ntUnstructured]⟩,
        Node.empty "rep:policy" Known.repAcl]⟩,
      ⟨"docs", Known.ntFolder, [], [], [
        ⟨"a.txt", "nt:file", [], [], [Node.empty "jcr:content" "nt:resource"]⟩]⟩]⟩]⟩

/-- A root holding `siteContent`. -/
def siteTree : Node := ⟨"", "rep:root", [], [], [siteContent]⟩

theorem site_content_partitions :
    Everywhere SiblingsWellNamed siteTree ∧ siteTree.descendant? "/content" = some siteContent ∧
    ((∃ e, (ofConfig ExportConfig.default).collect siteTree "/content" = .error e) ↔
      ∃ k q, (ofConfig ExportConfig.default).ReachesRoot siteContent "/content" k q ∧
        ((ofConfig ExportConfig.default).MatchedTwice k ∨
          (ofConfig ExportConfig.default).Unmatched k)) ∧
    (∀ e, (ofConfig ExportConfig.default).collect siteTree "/content" = .error e →
      ∃ k q, (ofConfig ExportConfig.default).ReachesRoot siteContent "/content" k q ∧
        (ofConfig ExportConfig.default).SelectionFault k q e) ∧
    ∀ aggs, (ofConfig ExportConfig.default).collect siteTree "/content" = .ok aggs →
      aggs.map (·.path) <+ siteContent.preorderPaths "/content" ∧
      ∃ L, aggs.mapM (·.includedPathsIn siteTree) = .ok L ∧ L.Pairwise List.Disjoint ∧
        (∀ p, (∃ ps ∈ L, p ∈ ps) ↔
          p ∈ (ofConfig ExportConfig.default).exportedPaths "/content" siteContent) ∧
        ∀ q ∈ (ofConfig ExportConfig.default).hiddenPaths "/content" siteContent,
          aggs.countP (·.hints.contains q) = 1 ∧ ∀ ps ∈ L, q ∉ ps :=
  ⟨by decide, rfl, collect_partitions ExportConfig.default (by decide) rfl⟩

/-- A folder `a` whose one child has an empty name. -/
def emptyNameTree : Node :=
  ⟨"", "rep:root", [], [], [⟨"a", Known.ntFolder, [], [], [Node.empty "" Known.ntFolder]⟩]⟩

/-- Distinct sibling names do not suffice: a child with an empty name has the path of its
parent, so under the default settings the folder and its child are aggregates that both
include `/a`. -/
theorem empty_name_shares_included_path :
    Everywhere (fun n => (n.children.map (·.name)).Nodup) emptyNameTree ∧
      ∃ aggs L, (ofConfig ExportConfig.default).collect emptyNameTree "/a" = .ok aggs ∧
        aggs.mapM (·.includedPathsIn emptyNameTree) = .ok L ∧ L = [["/a"], ["/a"]] ∧
        ¬ L.Pairwise List.Disjoint := by
  refine ⟨by decide, _, _, rfl, rfl, rfl, fun h => ?_⟩
  have hd : List.Disjoint ["/a"] ["/a"] := (List.pairwise_cons.mp h).1 _ List.mem_cons_self
  exact hd List.mem_cons_self List.mem_cons_self

end AggregatorManager

end ContentSync
