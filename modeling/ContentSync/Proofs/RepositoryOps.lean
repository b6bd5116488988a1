import ContentSync.Proofs.NodeUpdate

/-!
# What each repository operation does

Every operation of `RepoM` reads or changes the transient tree at the segments of a path.
This module states, once per operation, when it succeeds and what it leaves behind, as an
update of the tree (`Node.updateAlong`); later proofs cite these lemmas and never unfold an
operation. A run of `x >>= f` is split into a run of `x` and a run of `f` by `bind_eq_ok`,
and continued by `bind_of_ok` once the run of `x` is known.

The lemmas take the segments of a path as a hypothesis (`Path.segments path = s`), since
that is all an operation reads of it; a move also compares the two path texts
(`Path.isDescendantOrSelf`). A move is a removal at the source's parent followed by an append
at the destination's parent (`moveNode_run`).
-/

namespace ContentSync

open Node

namespace RepoM

variable {α β : Type} {r r' : Repository}

/-! ## Running binds -/

theorem bind_eq_ok {x : RepoM α} {f : α → RepoM β} {b : β} :
    (x >>= f) r = .ok b r' ↔ ∃ a r₁, x r = .ok a r₁ ∧ f a r₁ = .ok b r' := by
  simp only [bind, EStateM.bind]
  cases x r with
  | ok a s =>
    constructor
    · intro h
      exact ⟨a, s, rfl, h⟩
    · rintro ⟨a', r₁, h, hf⟩
      cases h
      exact hf
  | error e s => simp

theorem bind_of_ok {x : RepoM α} {f : α → RepoM β} {a : α} {r₁ : Repository}
    (h : x r = .ok a r₁) : (x >>= f) r = f a r₁ := by
  simp only [bind, EStateM.bind, h]

theorem bind_of_error {x : RepoM α} {f : α → RepoM β} {e : Error} {r₁ : Repository}
    (h : x r = .error e r₁) : (x >>= f) r = .error e r₁ := by
  simp only [bind, EStateM.bind, h]

@[simp] theorem pure_run (a : α) : (pure a : RepoM α) r = .ok a r := rfl

@[simp] theorem throw_run (e : Error) : (throw e : RepoM α) r = .error e r := rfl

@[simp] theorem get_run : (get : RepoM Repository) r = .ok r r := rfl

@[simp] theorem set_run (s : Repository) : (set s : RepoM PUnit) r = .ok () s := rfl

theorem attempt_of_ok {x : RepoM α} {a : α} (h : x r = .ok a r') :
    attempt x r = .ok (.ok a) r' := by
  rw [attempt, h]

theorem attempt_of_error {x : RepoM α} {e : Error} (h : x r = .error e r') :
    attempt x r = .ok (.error e) r' := by
  rw [attempt, h]

theorem freshNumber_run :
    freshNumber r = .ok (r.issued + 1) { r with issued := r.issued + 1 } := rfl

/-! ## Reading the tree -/

section Paths

variable {path : String} {s : List String}

theorem node?_run (hs : Path.segments path = s) :
    node? path r = .ok (r.root.descendAlong s) r := by
  rw [← hs]
  rfl

theorem nodeExists_run (hs : Path.segments path = s) :
    nodeExists path r = .ok (r.root.descendAlong s).isSome r := by
  rw [← hs]
  rfl

theorem requireNode_run {m : Node} (hs : Path.segments path = s)
    (hm : r.root.descendAlong s = some m) : requireNode path r = .ok m r := by
  rw [requireNode, bind_of_ok (node?_run hs), hm]
  rfl

theorem requireNode_of_none (hs : Path.segments path = s) (hm : r.root.descendAlong s = none) :
    requireNode path r = .error (.notFound path) r := by
  rw [requireNode, bind_of_ok (node?_run hs), hm]
  rfl

theorem requireNode_eq_ok {m : Node} (hs : Path.segments path = s) :
    requireNode path r = .ok m r' ↔ r.root.descendAlong s = some m ∧ r' = r := by
  cases hn : r.root.descendAlong s with
  | none =>
    rw [requireNode_of_none hs hn]
    simp
  | some n =>
    rw [requireNode_run hs hn]
    constructor
    · intro h
      cases h
      exact ⟨rfl, rfl⟩
    · rintro ⟨h, rfl⟩
      cases h
      rfl

/-! ## Changing a node in place -/

theorem modifyNode_run {m : Node} {f : Node → Node} (hs : Path.segments path = s)
    (hm : r.root.descendAlong s = some m) :
    modifyNode path f r = .ok () { r with root := r.root.updateAlong f s } := by
  rw [modifyNode, bind_of_ok get_run, modifyAt, hs, modifyAlong_eq_some hm]
  rfl

theorem modifyNode_of_none {f : Node → Node} (hs : Path.segments path = s)
    (hm : r.root.descendAlong s = none) : modifyNode path f r = .error (.notFound path) r := by
  rw [modifyNode, bind_of_ok get_run, modifyAt, hs, modifyAlong_eq_none hm]
  rfl

theorem modifyNode_eq_ok {f : Node → Node} (hs : Path.segments path = s) :
    modifyNode path f r = .ok () r' ↔
      (r.root.descendAlong s).isSome ∧ r' = { r with root := r.root.updateAlong f s } := by
  cases hn : r.root.descendAlong s with
  | none =>
    rw [modifyNode_of_none hs hn]
    simp
  | some n =>
    rw [modifyNode_run hs hn]
    constructor
    · intro h
      cases h
      exact ⟨rfl, rfl⟩
    · rintro ⟨-, rfl⟩
      rfl

theorem setProperty_run {m : Node} (p : Property) (hs : Path.segments path = s)
    (hm : r.root.descendAlong s = some m) :
    setProperty path p r = .ok () { r with root := r.root.updateAlong (·.applyProperty p) s } :=
  modifyNode_run hs hm

theorem setPrimaryType_run {m : Node} (t : String) (hs : Path.segments path = s)
    (hm : r.root.descendAlong s = some m) :
    setPrimaryType path t r = .ok () { r with root := r.root.updateAlong (withPrimaryType t) s } :=
  modifyNode_run hs hm

theorem setMixins_run {m : Node} (mixins : List String) (hs : Path.segments path = s)
    (hm : r.root.descendAlong s = some m) :
    setMixins path mixins r = .ok () { r with root := r.root.updateAlong (withMixins mixins) s } :=
  modifyNode_run hs hm

theorem setProperty_eq_ok {p : Property} (hs : Path.segments path = s) :
    setProperty path p r = .ok () r' ↔ (r.root.descendAlong s).isSome ∧
      r' = { r with root := r.root.updateAlong (·.applyProperty p) s } :=
  modifyNode_eq_ok hs

theorem removeProperty_eq_ok {name : String} (hs : Path.segments path = s) :
    removeProperty path name r = .ok () r' ↔ (r.root.descendAlong s).isSome ∧
      r' = { r with root := r.root.updateAlong (·.removeProperty name) s } :=
  modifyNode_eq_ok hs

theorem setPrimaryType_eq_ok {t : String} (hs : Path.segments path = s) :
    setPrimaryType path t r = .ok () r' ↔ (r.root.descendAlong s).isSome ∧
      r' = { r with root := r.root.updateAlong (withPrimaryType t) s } :=
  modifyNode_eq_ok hs

theorem setMixins_eq_ok {mixins : List String} (hs : Path.segments path = s) :
    setMixins path mixins r = .ok () r' ↔ (r.root.descendAlong s).isSome ∧
      r' = { r with root := r.root.updateAlong (withMixins mixins) s } :=
  modifyNode_eq_ok hs

end Paths

/-! ## Adding a node -/

section Add

variable {parent name ty : String} {s : List String}

/-- The check `addNode` makes on a name fails exactly on names that are not valid. -/
theorem invalidName_iff (name : String) :
    (name.isEmpty = true ∨ name.toList.contains '/' = true) ↔ ¬ Path.ValidName name := by
  simp [Path.ValidName, String.isEmpty_iff, Classical.or_iff_not_imp_left]

theorem addNode_run {m : Node} (hs : Path.segments parent = s) (hv : Path.ValidName name)
    (hm : r.root.descendAlong s = some m) (hc : m.hasChild name = false) :
    addNode parent name ty r = .ok (Path.join parent name)
      { r with root := r.root.updateAlong (appendChild (empty name ty)) s } := by
  unfold addNode
  rw [if_neg (fun h => (invalidName_iff name).mp h hv)]
  simp only [bind_of_ok (requireNode_run hs hm), hc, Bool.false_eq_true, if_false,
    bind_of_ok (modifyNode_run hs hm)]
  rfl

theorem addNode_of_invalid (hv : ¬ Path.ValidName name) :
    ∃ e, addNode parent name ty r = .error e r := by
  unfold addNode
  rw [if_pos ((invalidName_iff name).mpr hv)]
  exact ⟨_, rfl⟩

theorem addNode_of_none (hs : Path.segments parent = s) (hv : Path.ValidName name)
    (hm : r.root.descendAlong s = none) : ∃ e, addNode parent name ty r = .error e r := by
  unfold addNode
  rw [if_neg (fun h => (invalidName_iff name).mp h hv)]
  simp only [bind_of_error (requireNode_of_none hs hm)]
  exact ⟨_, rfl⟩

theorem addNode_of_hasChild {m : Node} (hs : Path.segments parent = s) (hv : Path.ValidName name)
    (hm : r.root.descendAlong s = some m) (hc : m.hasChild name = true) :
    ∃ e, addNode parent name ty r = .error e r := by
  unfold addNode
  rw [if_neg (fun h => (invalidName_iff name).mp h hv)]
  simp only [bind_of_ok (requireNode_run hs hm), hc, if_true]
  exact ⟨_, rfl⟩

/-- `addNode` succeeds exactly when the name is valid and the parent exists without a child
of that name; it appends an empty child. -/
theorem addNode_eq_ok {path : String} (hs : Path.segments parent = s) :
    addNode parent name ty r = .ok path r' ↔
      Path.ValidName name ∧ ∃ m, r.root.descendAlong s = some m ∧ m.hasChild name = false ∧
        path = Path.join parent name ∧
        r' = { r with root := r.root.updateAlong (appendChild (empty name ty)) s } := by
  constructor
  · intro h
    by_cases hv : Path.ValidName name
    · cases hm : r.root.descendAlong s with
      | none =>
        obtain ⟨e, he⟩ : ∃ e, addNode parent name ty r = .error e r := addNode_of_none hs hv hm
        rw [he] at h
        cases h
      | some m =>
        cases hc : m.hasChild name with
        | true =>
          obtain ⟨e, he⟩ : ∃ e, addNode parent name ty r = .error e r :=
            addNode_of_hasChild hs hv hm hc
          rw [he] at h
          cases h
        | false =>
          rw [addNode_run hs hv hm hc] at h
          cases h
          exact ⟨hv, m, rfl, hc, rfl, rfl⟩
    · obtain ⟨e, he⟩ : ∃ e, addNode parent name ty r = .error e r := addNode_of_invalid hv
      rw [he] at h
      cases h
  · rintro ⟨hv, m, hm, hc, rfl, rfl⟩
    exact addNode_run hs hv hm hc

end Add

/-! ## Removing and moving a node -/

section Remove

variable {path : String} {s : List String} {a : String}

theorem name_of_segments (hs : Path.segments path = s ++ [a]) : Path.name path = a := by
  rw [Path.name_eq_getLastD, hs, List.getLastD_concat]

theorem segments_parent_of_segments (hs : Path.segments path = s ++ [a]) :
    Path.segments (Path.parent path) = s := by
  rw [Path.segments_parent, hs, List.dropLast_concat]

theorem last_ne_empty_of_segments (hs : Path.segments path = s ++ [a]) : a ≠ "" :=
  Path.ne_empty_of_mem_segments (by rw [hs]; exact List.mem_append_right s (List.mem_singleton_self a))

/-- Removing a node erases it from its parent. -/
theorem removeNode_run {m : Node} (hs : Path.segments path = s ++ [a])
    (hm : r.root.descendAlong s = some m) (hc : m.hasChild a = true) :
    removeNode path r = .ok () { r with root := r.root.updateAlong (eraseChild a) s } := by
  have hpar := segments_parent_of_segments hs
  have hne : a.isEmpty = false := by
    cases h : a.isEmpty with
    | false => rfl
    | true => exact absurd (String.isEmpty_iff.mp h) (last_ne_empty_of_segments hs)
  unfold removeNode
  simp only [name_of_segments hs, hne, Bool.false_eq_true, if_false,
    bind_of_ok (requireNode_run hpar hm), removeChild?_of_hasChild hc]
  have hconst : r.root.updateAlong (fun _ => eraseChild a m) s =
      r.root.updateAlong (eraseChild a) s :=
    updateAlong_congr fun m' hm' => by rw [hm] at hm'; cases hm'; rfl
  rw [modifyNode_run hpar hm, hconst]

/-- A move succeeds when both names are proper, the destination is not the source or below
it, the source exists, and the destination does not but its parent does; the source is
erased from its parent and appended, renamed, to the destination's parent. -/
theorem moveNode_run {src dest : String} {t : List String} {b : String} {m c d : Node}
    (hsrc : Path.segments src = s ++ [a]) (hdest : Path.segments dest = t ++ [b])
    (hdesc : Path.isDescendantOrSelf src dest = false) (hin : ¬ (s ++ [a]) <+: t)
    (hm : r.root.descendAlong s = some m) (hc : m.child? a = some c)
    (hd : r.root.descendAlong t = some d) (hfree : d.hasChild b = false) :
    moveNode src dest r = .ok () { r with root :=
      (r.root.updateAlong (eraseChild a) s).updateAlong (appendChild { c with name := b }) t } := by
  have hna : a.isEmpty = false := by
    cases h : a.isEmpty with
    | false => rfl
    | true => exact absurd (String.isEmpty_iff.mp h) (last_ne_empty_of_segments hsrc)
  have hnb : b.isEmpty = false := by
    cases h : b.isEmpty with
    | false => rfl
    | true => exact absurd (String.isEmpty_iff.mp h) (last_ne_empty_of_segments hdest)
  have hgone : r.root.descendAlong (t ++ [b]) = none := by
    rw [descendAlong_append, hd]
    show ((d.child? b).bind (·.descendAlong [])) = none
    rw [(child?_eq_none_iff d b).mpr hfree]
    rfl
  have hsrcnode : r.root.descendAlong (s ++ [a]) = some c := by
    rw [descendAlong_append, hm]
    show ((m.child? a).bind (·.descendAlong [])) = none.or (some c)
    rw [hc]
    rfl
  -- the destination's parent survives the removal, which is not above it
  obtain ⟨d', hd'⟩ : ∃ d', (r.root.updateAlong (eraseChild a) s).descendAlong t = some d' := by
    have hsome := isSome_descendAlong_eraseChild hin r.root
    rw [hd] at hsome
    exact Option.isSome_iff_exists.mp hsome
  have hpar := segments_parent_of_segments hdest
  unfold moveNode
  simp only [name_of_segments hsrc, name_of_segments hdest, hna, hnb, Bool.false_eq_true,
    or_self, if_false, hdesc, bind_of_ok (nodeExists_run hdest), hgone, Option.isSome_none,
    bind_of_ok (nodeExists_run hpar), hd, Option.isSome_some, if_true,
    bind_of_ok (requireNode_run hsrc hsrcnode),
    bind_of_ok (removeNode_run hsrc hm (hasChild_of_child? hc))]
  exact modifyNode_run (r := { r with root := r.root.updateAlong (eraseChild a) s }) hpar hd'

end Remove

/-! ## Loops of changes at one node -/

section Loops

variable {path : String} {s : List String}

/-- Setting properties one after another at an existing node applies them in order. -/
theorem forIn_setProperty_run {m : Node} (hs : Path.segments path = s)
    (hm : r.root.descendAlong s = some m) (ps : List Property) :
    (forIn ps PUnit.unit fun p _ => do
        setProperty path p
        pure (ForInStep.yield PUnit.unit)) r =
      .ok PUnit.unit { r with root := r.root.updateAlong (fun n => ps.foldl applyProperty n) s } := by
  induction ps generalizing r m with
  | nil =>
    rw [List.forIn_nil, pure_run, updateAlong_eq_self hm rfl]
  | cons p ps ih =>
    have hrun : setProperty path p r = .ok () { r with root := r.root.updateAlong (·.applyProperty p) s } :=
      modifyNode_run hs hm
    have hm' : (r.root.updateAlong (·.applyProperty p) s).descendAlong s = some (m.applyProperty p) := by
      rw [descendAlong_updateAlong_self (keepsName_applyProperty p), hm]
      rfl
    rw [List.forIn_cons, bind_assoc, bind_of_ok hrun, pure_bind]
    show (forIn ps PUnit.unit fun p _ => do
        setProperty path p
        pure (ForInStep.yield PUnit.unit)) { r with root := r.root.updateAlong (·.applyProperty p) s } = _
    rw [ih (r := { r with root := r.root.updateAlong (·.applyProperty p) s }) hm']
    congr 2
    exact updateAlong_updateAlong (keepsName_applyProperty p) r.root s

/-- Removing properties one after another at an existing node removes them in order. -/
theorem forIn_removeProperty_run {m : Node} (hs : Path.segments path = s)
    (hm : r.root.descendAlong s = some m) (names : List String) :
    (forIn names PUnit.unit fun a _ => do
        removeProperty path a
        pure (ForInStep.yield PUnit.unit)) r =
      .ok PUnit.unit
        { r with root := r.root.updateAlong (fun n => names.foldl Node.removeProperty n) s } := by
  induction names generalizing r m with
  | nil =>
    rw [List.forIn_nil, pure_run, updateAlong_eq_self hm rfl]
  | cons a names ih =>
    have hrun : removeProperty path a r =
        .ok () { r with root := r.root.updateAlong (·.removeProperty a) s } :=
      modifyNode_run hs hm
    have hm' : (r.root.updateAlong (·.removeProperty a) s).descendAlong s =
        some (m.removeProperty a) := by
      rw [descendAlong_updateAlong_self (keepsName_removeProperty a), hm]
      rfl
    rw [List.forIn_cons, bind_assoc, bind_of_ok hrun, pure_bind]
    show (forIn names PUnit.unit fun a _ => do
        removeProperty path a
        pure (ForInStep.yield PUnit.unit)) { r with root := r.root.updateAlong (·.removeProperty a) s } = _
    rw [ih (r := { r with root := r.root.updateAlong (·.removeProperty a) s }) hm']
    congr 2
    exact updateAlong_updateAlong (keepsName_removeProperty a) r.root s

end Loops

end RepoM

end ContentSync
