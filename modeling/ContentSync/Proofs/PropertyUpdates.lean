import ContentSync.Proofs.RescueStream

/-!
# Setting and removing properties one after another

`setPropertyIn` replaces a property of the same name in place and appends a new one;
`removePropertyIn` drops the first property of a name. On a list whose names are distinct,
setting properties with distinct names one after another is therefore a union up to order
(`setAll_perm`), an append when the names are new (`setAll_of_fresh`), and removing names is a
filter (`removeAll_eq_filter`). `Node.applyProperty` sets every property but the two that name
a node's types, so on plain properties it changes a node's properties only
(`foldl_applyProperty_of_plain`).

These facts describe what a replacement does to the target's properties (`properties_replaced`)
and what streaming creates (`created_of_plainProperties`).
-/

namespace ContentSync

/-- A property that does not name a node's types, so that setting it sets it. -/
def Property.Plain (p : Property) : Prop :=
  p.name ≠ Known.primaryType ∧ p.name ≠ Known.mixinTypes

instance (p : Property) : Decidable p.Plain :=
  inferInstanceAs (Decidable (_ ∧ _))

namespace Node

/-! ## Lists of properties -/

/-- The properties `qs` set one after another on the list `ps`. -/
def setAll (qs ps : List Property) : List Property :=
  qs.foldl (fun ps q => setPropertyIn q ps) ps

/-- The names `names` removed one after another from the list `ps`. -/
def removeAll (names : List String) (ps : List Property) : List Property :=
  names.foldl (fun ps a => removePropertyIn a ps) ps

theorem findProperty?_eq_none_iff (a : String) (ps : List Property) :
    findProperty? a ps = none ↔ a ∉ ps.map (·.name) := by
  unfold findProperty?
  rw [List.find?_eq_none]
  simp

theorem setPropertyIn_of_fresh {p : Property} {ps : List Property}
    (h : p.name ∉ ps.map (·.name)) : setPropertyIn p ps = ps ++ [p] := by
  induction ps with
  | nil => rfl
  | cons q ps ih =>
    rw [List.map_cons, List.mem_cons, not_or] at h
    rw [setPropertyIn, if_neg fun e => h.1 e.symm, ih h.2]
    rfl

/-- Setting a property on a list with distinct names: the property, and the others. -/
theorem setPropertyIn_perm (p : Property) {ps : List Property} (h : (ps.map (·.name)).Nodup) :
    (setPropertyIn p ps).Perm (p :: ps.filter (·.name ≠ p.name)) := by
  induction ps with
  | nil => exact List.Perm.refl _
  | cons q ps ih =>
    rw [List.map_cons, List.nodup_cons] at h
    rw [setPropertyIn]
    by_cases hq : q.name = p.name
    · -- `q` is replaced, and no other property has its name
      have hrest : ps.filter (·.name ≠ p.name) = ps := List.filter_eq_self.mpr fun d hd => by
        have : d.name ≠ q.name := fun e => h.1 (List.mem_map.mpr ⟨d, hd, e⟩)
        simpa [← hq] using this
      rw [if_pos hq, List.filter_cons_of_neg (by simpa using hq), hrest]
    · rw [if_neg hq, List.filter_cons_of_pos (by simpa using hq)]
      exact ((ih h.2).cons q).trans (List.Perm.swap p q _)

theorem nodup_setPropertyIn (p : Property) {ps : List Property} (h : (ps.map (·.name)).Nodup) :
    ((setPropertyIn p ps).map (·.name)).Nodup := by
  rw [((setPropertyIn_perm p h).map (·.name)).nodup_iff, List.map_cons, List.nodup_cons]
  refine ⟨fun hp => ?_, (List.filter_sublist.map fun d : Property => d.name).nodup h⟩
  obtain ⟨d, hd, hdp⟩ := List.mem_map.mp hp
  exact (by simpa using (List.mem_filter.mp hd).2 : d.name ≠ p.name) hdp

/-- Setting properties with distinct names on a list with distinct names: the new properties,
and the old ones they do not name. -/
theorem setAll_perm (qs : List Property) (hqs : (qs.map (·.name)).Nodup) {ps : List Property}
    (hps : (ps.map (·.name)).Nodup) :
    (setAll qs ps).Perm (qs ++ ps.filter fun p => p.name ∉ qs.map (·.name)) := by
  induction qs generalizing ps with
  | nil =>
    rw [List.nil_append, List.filter_eq_self.mpr fun _ _ => by simp]
    exact List.Perm.refl _
  | cons q qs ih =>
    rw [List.map_cons, List.nodup_cons] at hqs
    show (setAll qs (setPropertyIn q ps)).Perm _
    refine (ih hqs.2 (nodup_setPropertyIn q hps)).trans ?_
    -- `q` itself is not among the names set after it
    have hq : ∀ p ∈ [q], p.name ∉ qs.map (·.name) := fun p hp => by
      rw [List.mem_singleton.mp hp]
      exact hqs.1
    refine ((((setPropertyIn_perm q hps).filter _).trans ?_).append_left qs).trans
      List.perm_middle
    rw [List.filter_cons_of_pos (by simpa using hq q List.mem_cons_self), List.filter_filter]
    apply List.Perm.cons
    apply List.Perm.of_eq
    apply List.filter_congr
    intro p _
    by_cases h₁ : p.name = q.name <;> by_cases h₂ : p.name ∈ qs.map (·.name) <;> simp [h₁, h₂]

/-- Setting properties with distinct names that a list lacks appends them. -/
theorem setAll_of_fresh (qs : List Property) (hqs : (qs.map (·.name)).Nodup) (ps : List Property)
    (hfresh : ∀ q ∈ qs, q.name ∉ ps.map (·.name)) : setAll qs ps = ps ++ qs := by
  induction qs generalizing ps with
  | nil => exact (List.append_nil ps).symm
  | cons q qs ih =>
    rw [List.map_cons, List.nodup_cons] at hqs
    show setAll qs (setPropertyIn q ps) = _
    rw [setPropertyIn_of_fresh (hfresh q List.mem_cons_self), ih hqs.2]
    · rw [List.append_assoc, List.singleton_append]
    · intro p hp hpin
      rw [List.map_append, List.mem_append] at hpin
      rcases hpin with hpin | hpin
      · exact hfresh p (List.mem_cons_of_mem q hp) hpin
      · rw [List.map_singleton, List.mem_singleton] at hpin
        exact hqs.1 (hpin ▸ List.mem_map.mpr ⟨p, hp, rfl⟩)

theorem removePropertyIn_eq_filter {ps : List Property} (h : (ps.map (·.name)).Nodup) (a : String) :
    removePropertyIn a ps = ps.filter (·.name ≠ a) := by
  induction ps with
  | nil => rfl
  | cons q ps ih =>
    rw [List.map_cons, List.nodup_cons] at h
    rw [removePropertyIn]
    by_cases hq : q.name = a
    · have hnone : ∀ d ∈ ps, d.name ≠ a := fun d hd hda =>
        h.1 (List.mem_map.mpr ⟨d, hd, hda.trans hq.symm⟩)
      rw [if_pos hq, List.filter_cons_of_neg (by simpa using hq),
        List.filter_eq_self.mpr fun d hd => by simpa using hnone d hd]
    · rw [if_neg hq, List.filter_cons_of_pos (by simpa using hq), ih h.2]

/-- Removing names from a list with distinct names drops the properties they name. -/
theorem removeAll_eq_filter (names : List String) {ps : List Property}
    (h : (ps.map (·.name)).Nodup) : removeAll names ps = ps.filter fun p => p.name ∉ names := by
  induction names generalizing ps with
  | nil => exact (List.filter_eq_self.mpr fun _ _ => by simp).symm
  | cons a names ih =>
    show removeAll names (removePropertyIn a ps) = _
    rw [removePropertyIn_eq_filter h, ih ((List.filter_sublist.map fun d : Property => d.name).nodup h),
      List.filter_filter]
    apply List.filter_congr
    intro p _
    by_cases h₁ : p.name = a <;> by_cases h₂ : p.name ∈ names <;> simp [h₁, h₂]

/-! ## Nodes with plain properties -/

/-- The properties of a node have distinct names, none naming the node's types. -/
def PlainProperties (n : Node) : Prop :=
  (n.properties.map (·.name)).Nodup ∧ ∀ p ∈ n.properties, p.Plain

instance (n : Node) : Decidable n.PlainProperties :=
  inferInstanceAs (Decidable (_ ∧ _))

theorem applyProperty_of_plain {p : Property} (hp : p.Plain) (n : Node) :
    n.applyProperty p = n.setProperty p := by
  unfold applyProperty
  rw [if_neg hp.1, if_neg hp.2]

/-- Plain properties set one after another change a node's properties only. -/
theorem foldl_applyProperty_of_plain (qs : List Property) (hqs : ∀ q ∈ qs, q.Plain) (n : Node) :
    qs.foldl applyProperty n = { n with properties := setAll qs n.properties } := by
  induction qs generalizing n with
  | nil => cases n; rfl
  | cons q qs ih =>
    rw [List.foldl_cons, applyProperty_of_plain (hqs q List.mem_cons_self),
      ih fun p hp => hqs p (List.mem_cons_of_mem q hp)]
    rfl

theorem foldl_removeProperty (names : List String) (n : Node) :
    names.foldl Node.removeProperty n = { n with properties := removeAll names n.properties } := by
  induction names generalizing n with
  | nil => cases n; rfl
  | cons a names ih => rw [List.foldl_cons, ih]; rfl

theorem isNone_property? (n : Node) (a : String) :
    (n.property? a).isNone = !decide (a ∈ n.properties.map (·.name)) := by
  by_cases h : a ∈ n.properties.map (·.name)
  · have hne : n.property? a ≠ none := fun hn => (findProperty?_eq_none_iff a _).mp hn h
    cases hp : n.property? a with
    | none => exact absurd hp hne
    | some _ => simp [h]
  · rw [show n.property? a = none from (findProperty?_eq_none_iff a _).mpr h]
    simp [h]

/-- Streaming creates a node with plain, distinctly named properties as it is, without its
children. -/
theorem created_of_plainProperties {n : Node} (h : n.PlainProperties) :
    n.created = withChildren [] n := by
  have hset : setAll n.properties [] = n.properties := setAll_of_fresh _ h.1 [] fun _ _ hq => by
    simp at hq
  rw [created, foldl_applyProperty_of_plain _ h.2]
  obtain ⟨name, primaryType, mixins, properties, children⟩ := n
  show (⟨name, primaryType, mixins, setAll properties [], []⟩ : Node) = ⟨name, primaryType, mixins,
    properties, []⟩
  rw [hset]

/-- Replacing a target by content with plain properties gives it the content's types. -/
theorem types_replaced {new : Node} (hnew : ∀ q ∈ new.properties, q.Plain) (preserved : List String)
    (y : Node) : (replaced new preserved y).primaryType = new.primaryType ∧
      (replaced new preserved y).mixins = new.mixins := by
  unfold replaced
  rw [foldl_applyProperty_of_plain _ hnew, foldl_removeProperty]
  exact ⟨rfl, rfl⟩

/-- Replacing a target by content with plain, distinctly named properties gives it, up to order,
the content's properties and the preserved ones of its own that the content lacks. -/
theorem properties_replaced {new : Node} (hnew : new.PlainProperties) (preserved : List String)
    {y : Node} (hy : (y.properties.map (·.name)).Nodup) :
    (replaced new preserved y).properties.Perm (new.properties ++ y.properties.filter fun q =>
      preserved.contains q.name && (new.property? q.name).isNone) := by
  unfold replaced
  rw [foldl_applyProperty_of_plain _ hnew.2, foldl_removeProperty]
  dsimp only
  rw [removeAll_eq_filter _ hy]
  refine (setAll_perm _ hnew.1 ((List.filter_sublist.map fun d : Property => d.name).nodup hy)).trans ?_
  apply List.Perm.append_left
  apply List.Perm.of_eq
  rw [List.filter_filter]
  apply List.filter_congr
  intro q hq
  -- a property of `y` stays if the content has it or it is preserved, then goes unless the
  -- content lacks it
  have hqy : q.name ∈ y.properties.map (·.name) := List.mem_map.mpr ⟨q, hq, rfl⟩
  by_cases hx : q.name ∈ new.properties.map (·.name)
  · -- the content has it: the old one goes, preserved or not
    have h₁ : decide (q.name ∉ new.properties.map (·.name)) = false := by simp [hx]
    have h₂ : (new.property? q.name).isNone = false := by rw [isNone_property?]; simp [hx]
    rw [h₁, h₂, Bool.false_and, Bool.and_false]
  · -- the content lacks it: it was stale unless preserved
    have h₁ : decide (q.name ∉ new.properties.map (·.name)) = true := by simp [hx]
    have h₂ : (new.property? q.name).isNone = true := by rw [isNone_property?]; simp [hx]
    rw [h₁, h₂, Bool.true_and, Bool.and_true]
    by_cases hm : q.name ∈ preserved <;> simp [List.mem_filter, hqy, h₂, hm]

end Node

end ContentSync
