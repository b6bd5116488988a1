import ContentSync.Proofs.RescueStream

/-!
# Moving rescued nodes back

`RescueTransformer.restore` puts a rescued node back at its destination. If nothing is there
it is moved; otherwise it is merged into the node found there, the supplied one: that node
gains the preserved properties it lacks, then every rescued child is put back the same way,
one level down, and the emptied rescued node is removed. `Node.absorb` is that merge, and
`restore_run` says a restore does exactly this, given enough fuel, names that are valid and
distinct among siblings, and a destination that is neither the source nor below or above it.

The children are put back by a loop; `restoreChildren_run` carries it, with the invariant
that the supplied node has absorbed the children done so far and the rescued node holds the
rest.
-/

namespace ContentSync

open Node

namespace Node

/-- The preserved properties of `rescued` that `supplied` lacks. -/
def keptProperties (preserved : List String) (rescued supplied : Node) : List Property :=
  rescued.properties.filter fun p => preserved.contains p.name && (supplied.property? p.name).isNone

mutual
/-- The node `supplied` once `rescued` is merged into it: it gains the preserved properties of
`rescued` it lacks, then the children of `rescued` one after another. -/
def absorb (preserved : List String) : Node → Node → Node
  | rescued@⟨_, _, _, _, cs⟩, supplied =>
    absorbChildren preserved cs
      ((keptProperties preserved rescued supplied).foldl applyProperty supplied)

/-- The node `n` once the rescued children `cs` are put back in order: each is merged into the
child of its name, or appended if there is none. -/
def absorbChildren (preserved : List String) : List Node → Node → Node
  | [], n => n
  | c :: cs, n =>
    absorbChildren preserved cs
      (if n.hasChild c.name then n.updateAlong (absorb preserved c) [c.name] else appendChild c n)
end

/-- Putting back one rescued child. -/
def putBack (preserved : List String) (c n : Node) : Node :=
  if n.hasChild c.name then n.updateAlong (absorb preserved c) [c.name] else appendChild c n

theorem absorb_eq (preserved : List String) (rescued supplied : Node) :
    absorb preserved rescued supplied = absorbChildren preserved rescued.children
      ((keptProperties preserved rescued supplied).foldl applyProperty supplied) := by
  cases rescued
  rw [absorb]

@[simp] theorem absorbChildren_nil (preserved : List String) (n : Node) :
    absorbChildren preserved [] n = n := by
  rw [absorbChildren]

theorem absorbChildren_cons (preserved : List String) (c : Node) (cs : List Node) (n : Node) :
    absorbChildren preserved (c :: cs) n = absorbChildren preserved cs (putBack preserved c n) := by
  rw [absorbChildren, putBack]

theorem keepsName_putBack (preserved : List String) (c : Node) : KeepsName (putBack preserved c) := by
  intro n
  rw [putBack]
  split
  · rw [updateAlong_cons]
  · rfl

theorem keepsName_absorbChildren (preserved : List String) (cs : List Node) :
    KeepsName (absorbChildren preserved cs) := by
  intro n
  induction cs generalizing n with
  | nil => rw [absorbChildren_nil]
  | cons c cs ih => rw [absorbChildren_cons, ih, keepsName_putBack]

theorem keepsName_absorb (preserved : List String) (rescued : Node) :
    KeepsName (absorb preserved rescued) := by
  intro n
  rw [absorb_eq, keepsName_absorbChildren, keepsName_foldl_applyProperty]

/-- The tree once the rescued node `rescued`, the child `a` of the node at `sp`, is put back as
the child `a` of the node at `dp`. -/
def restoredRoot (preserved : List String) (rescued : Node) (sp dp : List String) (a : String)
    (u : Node) : Node :=
  match u.descendAlong (dp ++ [a]) with
  | some _ => (u.updateAlong (absorb preserved rescued) (dp ++ [a])).updateAlong (eraseChild a) sp
  | none => (u.updateAlong (eraseChild a) sp).updateAlong (appendChild rescued) dp

/-! ## Sizes -/

theorem subtreeSize_eq (n : Node) : n.subtreeSize = 1 + forestSize n.children := by
  cases n
  rw [subtreeSize]

theorem subtreeSize_le_forestSize {c : Node} {cs : List Node} (hc : c ∈ cs) :
    c.subtreeSize ≤ forestSize cs := by
  induction cs with
  | nil => cases hc
  | cons d ds ih =>
    rw [forestSize]
    rcases List.mem_cons.mp hc with rfl | hc
    · omega
    · have := ih hc
      omega

/-- A child is smaller than its parent. -/
theorem subtreeSize_lt_of_mem {n c : Node} (hc : c ∈ n.children) :
    c.subtreeSize < n.subtreeSize := by
  rw [subtreeSize_eq n]
  have := subtreeSize_le_forestSize hc
  omega

theorem subtreeSize_le_of_descendAlong {n m : Node} {s : List String}
    (h : n.descendAlong s = some m) : m.subtreeSize ≤ n.subtreeSize := by
  induction s generalizing n with
  | nil => cases h; exact Nat.le_refl _
  | cons a s ih =>
    rw [descendAlong_cons] at h
    cases hc : n.child? a with
    | none => rw [hc] at h; cases h
    | some c =>
      rw [hc] at h
      exact Nat.le_trans (ih h) (Nat.le_of_lt (subtreeSize_lt_of_mem (mem_of_child? hc)))

theorem withChildren_children (n : Node) : withChildren n.children n = n := by
  cases n
  rfl

theorem rename_self {n : Node} {a : String} (h : n.name = a) : { n with name := a } = n := by
  subst h
  cases n
  rfl

/-- The node at `s ++ [a]` is the child `a` of the node at `s`. -/
theorem descendAlong_snoc_eq_some {n c : Node} {s : List String} {a : String} :
    n.descendAlong (s ++ [a]) = some c ↔ ∃ m, n.descendAlong s = some m ∧ m.child? a = some c := by
  rw [descendAlong_append]
  cases n.descendAlong s with
  | none => simp
  | some m =>
    simp only [Option.bind_some, descendAlong_cons, descendAlong_nil, Option.some.injEq,
      exists_eq_left']
    cases m.child? a <;> simp

end Node

/-! ## Paths neither above nor below each other -/

/-- Extending two paths, neither of which is a prefix of the other, keeps them so. -/
theorem not_prefix_append_of_apart {s t : List String} (hst : ¬ s <+: t) (hts : ¬ t <+: s)
    (u v : List String) : ¬ (s ++ u) <+: (t ++ v) := by
  intro h
  rcases List.prefix_or_prefix_of_prefix ((List.prefix_append s u).trans h) (List.prefix_append t v)
    with h | h
  · exact hst h
  · exact hts h

namespace RescueTransformer

/-! ## Putting the children back -/

/-- What `restore` does with `fuel`, for every rescued node small enough and every destination
apart from its source. -/
def RestoresWith (t : RescueTransformer) (fuel : Nat) : Prop :=
  ∀ (R : Node) (sp dp : List String) (a : String) (acc : List String) (U : Repository),
    R.subtreeSize ≤ fuel → Everywhere SiblingsWellNamed R → Path.ValidName a →
    (∀ x ∈ sp, Path.ValidName x) → (∀ x ∈ dp, Path.ValidName x) →
    ¬ (sp ++ [a]) <+: (dp ++ [a]) → ¬ (dp ++ [a]) <+: (sp ++ [a]) →
    U.root.descendAlong (sp ++ [a]) = some R → (U.root.descendAlong dp).isSome →
    ∃ out, t.restore fuel (Path.render (sp ++ [a])) (Path.render (dp ++ [a])) acc U =
      .ok out { U with root := restoredRoot t.preserved R sp dp a U.root }

theorem eraseChild_withChildren_cons (c : Node) (rest : List Node) (m : Node) :
    eraseChild c.name (withChildren (c :: rest) m) = withChildren rest m := by
  show { m with children := (c :: rest).eraseP (·.name = c.name) } = { m with children := rest }
  rw [List.eraseP_cons_of_pos (by simp)]

/-- The loop that puts back the children of a rescued node: when the supplied node at `dests`
has become `F D` and the rescued node at `srcs` holds the children `rest`, the loop leaves the
supplied node with `rest` absorbed and the rescued node empty. -/
theorem restoreChildren_run {t : RescueTransformer} {fuel : Nat} (hrec : t.RestoresWith fuel)
    {srcs dests : List String} (hvs : ∀ x ∈ srcs, Path.ValidName x)
    (hvd : ∀ x ∈ dests, Path.ValidName x) (hsd : ¬ srcs <+: dests) (hds : ¬ dests <+: srcs)
    {base R₀ D : Node} (hR₀ : base.descendAlong srcs = some R₀)
    (hD : base.descendAlong dests = some D) :
    ∀ (rest : List Node) (F : Node → Node) (acc : List String) (U : Repository),
      KeepsName F → (rest.map (·.name)).Nodup →
      (∀ c ∈ rest, c.subtreeSize ≤ fuel ∧ Everywhere SiblingsWellNamed c ∧ Path.ValidName c.name) →
      U.root = (base.updateAlong F dests).updateAlong (withChildren rest) srcs →
      ∃ out, (forIn rest acc fun (c : Node) (restored : List String) => do
          let restored ← t.restore fuel (Path.join (Path.render srcs) c.name)
            (Path.join (Path.render dests) c.name) restored
          pure (ForInStep.yield restored)) U =
        .ok out { U with root :=
          ((base.updateAlong (absorbChildren t.preserved rest ∘ F) dests).updateAlong
            (withChildren []) srcs) } := by
  intro rest
  induction rest with
  | nil =>
    intro F acc U _ _ _ hU
    refine ⟨acc, ?_⟩
    have hF : absorbChildren t.preserved [] ∘ F = F := by
      funext n
      exact absorbChildren_nil t.preserved (F n)
    rw [List.forIn_nil, RepoM.pure_run, hF, ← hU]
  | cons c rest ih =>
    intro F acc U hF hnd hcs hU
    obtain ⟨hsize, hev, hvc⟩ := hcs c List.mem_cons_self
    have hkeep := keepsName_withChildren (c :: rest)
    -- where the supplied and the rescued node stand now
    have hX : (base.updateAlong F dests).descendAlong srcs = some R₀ := by
      rw [descendAlong_updateAlong_away hF hds hsd, hR₀]
    have hdst : U.root.descendAlong dests = some (F D) := by
      rw [hU, descendAlong_updateAlong_away hkeep hsd hds, descendAlong_updateAlong_self hF, hD]
      rfl
    have hsrc : U.root.descendAlong (srcs ++ [c.name]) = some c := by
      rw [hU, descendAlong_updateAlong_append hkeep, hX]
      show ((withChildren (c :: rest) R₀).child? c.name).bind (·.descendAlong []) = some c
      rw [child?_of_mem (by exact hnd) List.mem_cons_self]
      rfl
    have hsd' : ¬ (srcs ++ [c.name]) <+: (dests ++ [c.name]) :=
      not_prefix_append_of_apart hsd hds _ _
    have hds' : ¬ (dests ++ [c.name]) <+: (srcs ++ [c.name]) :=
      not_prefix_append_of_apart hds hsd _ _
    obtain ⟨out, hout⟩ := hrec c srcs dests c.name acc U hsize hev hvc hvs hvd hsd' hds' hsrc
      (by rw [hdst]; rfl)
    rw [List.forIn_cons]
    rw [Path.join_render hvs hvc, Path.join_render hvd hvc, bind_assoc, RepoM.bind_of_ok hout,
      pure_bind]
    dsimp only
    -- after this child, the supplied node has put it back and the rescued node holds the rest
    have hstep : restoredRoot t.preserved c srcs dests c.name U.root =
        (base.updateAlong (putBack t.preserved c ∘ F) dests).updateAlong (withChildren rest) srcs := by
      have hchild : U.root.descendAlong (dests ++ [c.name]) = (F D).child? c.name := by
        rw [descendAlong_append, hdst]
        show ((F D).child? c.name).bind (·.descendAlong []) = _
        cases (F D).child? c.name <;> rfl
      have hapart : ¬ srcs <+: (dests ++ [c.name]) := fun h => by
        rcases List.prefix_concat_iff.mp h with h | h
        · exact hds (h ▸ List.prefix_append dests [c.name])
        · exact hsd h
      have hapart' : ¬ (dests ++ [c.name]) <+: srcs := fun h =>
        hds ((List.prefix_append dests [c.name]).trans h)
      rw [restoredRoot, hchild]
      cases hc : (F D).child? c.name with
      | some d =>
        have hhas : (F D).hasChild c.name = true := hasChild_of_child? hc
        dsimp only
        rw [hU, updateAlong_comm hkeep (keepsName_absorb _ _) hapart hapart',
          updateAlong_updateAlong hkeep, updateAlong_append,
          updateAlong_updateAlong hF]
        congr 1
        · funext m
          exact eraseChild_withChildren_cons c rest m
        · apply updateAlong_congr
          intro m hm
          rw [hD] at hm
          cases hm
          show (F D).updateAlong (absorb t.preserved c) [c.name] = putBack t.preserved c (F D)
          rw [putBack, if_pos hhas]
      | none =>
        have hnot : (F D).hasChild c.name = false := (child?_eq_none_iff _ _).mp hc
        dsimp only
        rw [hU, updateAlong_updateAlong hkeep, updateAlong_comm ((keepsName_eraseChild c.name).comp hkeep)
          (keepsName_appendChild c) hsd hds, updateAlong_updateAlong hF]
        congr 1
        · funext m
          exact eraseChild_withChildren_cons c rest m
        · apply updateAlong_congr
          intro m hm
          rw [hD] at hm
          cases hm
          show appendChild c (F D) = putBack t.preserved c (F D)
          rw [putBack, if_neg (by rw [hnot]; exact Bool.false_ne_true)]
    have hnd' : (rest.map (·.name)).Nodup := (List.nodup_cons.mp (List.map_cons ▸ hnd)).2
    obtain ⟨out', hout'⟩ := ih (putBack t.preserved c ∘ F) out
      { U with root := restoredRoot t.preserved c srcs dests c.name U.root }
      ((keepsName_putBack _ c).comp hF) hnd' (fun d hd => hcs d (List.mem_cons_of_mem c hd)) hstep
    refine ⟨out', ?_⟩
    rw [hout']
    have hF' : absorbChildren t.preserved rest ∘ (putBack t.preserved c ∘ F) =
        absorbChildren t.preserved (c :: rest) ∘ F := by
      funext n
      exact (absorbChildren_cons t.preserved c rest (F n)).symm
    rw [hF']

/-! ## Restoring one rescued node -/

/-- A restore with enough fuel puts the rescued node back: it is moved where nothing is, and
merged into the node that is there otherwise. -/
theorem restore_run (t : RescueTransformer) (fuel : Nat) : t.RestoresWith fuel := by
  induction fuel with
  | zero =>
    intro R _ _ _ _ _ hsize
    have := subtreeSize_eq R
    omega
  | succ fuel ih =>
    intro R sp dp a acc U hsize hR ha hsp hdp hsd hds hsrc hdst
    have hvs : ∀ x ∈ sp ++ [a], Path.ValidName x := by
      intro x hx
      rcases List.mem_append.mp hx with h | h
      · exact hsp x h
      · rw [List.mem_singleton.mp h]
        exact ha
    have hvd : ∀ x ∈ dp ++ [a], Path.ValidName x := by
      intro x hx
      rcases List.mem_append.mp hx with h | h
      · exact hdp x h
      · rw [List.mem_singleton.mp h]
        exact ha
    have hsegs := Path.segments_render hvs
    have hsegd := Path.segments_render hvd
    -- the rescued node is the child `a` of the node at `sp`
    obtain ⟨m, hm, hc⟩ := descendAlong_snoc_eq_some.mp hsrc
    rw [RescueTransformer.restore, RepoM.bind_of_ok (RepoM.nodeExists_run hsegd)]
    cases hD : U.root.descendAlong (dp ++ [a]) with
    | none =>
      -- nothing at the destination: the rescued node is moved there
      obtain ⟨d, hd⟩ := Option.isSome_iff_exists.mp hdst
      have hfree : d.hasChild a = false := by
        cases hda : d.child? a with
        | none => exact (child?_eq_none_iff d a).mp hda
        | some x =>
          have := descendAlong_snoc_eq_some.mpr ⟨d, hd, hda⟩
          rw [hD] at this
          cases this
      have hin : ¬ (sp ++ [a]) <+: dp := fun h => hsd (h.trans (List.prefix_append dp [a]))
      have hdesc : Path.isDescendantOrSelf (Path.render (sp ++ [a])) (Path.render (dp ++ [a])) =
          false := by
        cases h : Path.isDescendantOrSelf (Path.render (sp ++ [a])) (Path.render (dp ++ [a])) with
        | false => rfl
        | true => exact absurd ((Path.isDescendantOrSelf_render hvs hvd).mp h) hsd
      have hmove := RepoM.moveNode_run hsegs hsegd hdesc hin hm hc hd hfree
      simp only [Option.isSome_none, Bool.not_false, if_true]
      rw [RepoM.bind_of_ok (RepoM.attempt_of_ok hmove)]
      refine ⟨acc ++ [Path.render (dp ++ [a])], ?_⟩
      dsimp only
      rw [RepoM.pure_run, restoredRoot, hD, rename_self (name_of_child? hc)]
    | some D =>
      -- a supplied node is there: the rescued node is merged into it
      simp only [Option.isSome_some, Bool.not_true, Bool.false_eq_true, if_false]
      rw [RepoM.bind_of_ok (RepoM.requireNode_run hsegs hsrc),
        RepoM.bind_of_ok (RepoM.requireNode_run hsegd hD),
        show (R.properties.filter fun p => t.preserved.contains p.name &&
          (D.property? p.name).isNone) = keptProperties t.preserved R D from rfl]
      generalize hk : keptProperties t.preserved R D = kept
      have hkept : KeepsName fun n => kept.foldl applyProperty n :=
        keepsName_foldl_applyProperty kept
      rw [RepoM.bind_of_ok (RepoM.forIn_setProperty_run hsegd hD kept)]
      -- the children are put back one by one, the rescued node staying where it is
      let U₁ := U.root.updateAlong (fun n => kept.foldl applyProperty n) (dp ++ [a])
      have hsrc₁ : U₁.descendAlong (sp ++ [a]) = some R := by
        rw [descendAlong_updateAlong_away hkept hds hsd, hsrc]
      have hU₁ : U₁ = U₁.updateAlong (withChildren R.children) (sp ++ [a]) :=
        (updateAlong_eq_self hsrc₁ (withChildren_children R)).symm
      have hcs : ∀ c ∈ R.children,
          c.subtreeSize ≤ fuel ∧ Everywhere SiblingsWellNamed c ∧ Path.ValidName c.name := by
        intro c hc'
        have := subtreeSize_lt_of_mem hc'
        exact ⟨by omega, hR.child hc', hR.self.2 c hc'⟩
      obtain ⟨out, hout⟩ := restoreChildren_run ih hvs hvd hsd hds hsrc hD R.children
        (fun n => kept.foldl applyProperty n) acc { U with root := U₁ } hkept hR.self.1 hcs hU₁
      rw [RepoM.bind_of_ok hout]
      -- the rescued node is now empty and is removed
      let U₂ := (U.root.updateAlong (absorbChildren t.preserved R.children ∘
        fun n => kept.foldl applyProperty n) (dp ++ [a])).updateAlong (withChildren []) (sp ++ [a])
      have hsrc₂ : U₂.descendAlong (sp ++ [a]) = some (withChildren [] R) := by
        rw [descendAlong_updateAlong_self (keepsName_withChildren []),
          descendAlong_updateAlong_away ((keepsName_absorbChildren _ _).comp hkept) hds hsd, hsrc]
        rfl
      obtain ⟨m₂, hm₂, hc₂⟩ := descendAlong_snoc_eq_some.mp hsrc₂
      rw [RepoM.bind_of_ok (RepoM.requireNode_run (r := { U with root := U₂ }) hsegs hsrc₂)]
      simp only [withChildren, List.isEmpty_nil, ↓reduceIte]
      rw [RepoM.bind_of_ok (RepoM.removeNode_run (r := { U with root := U₂ }) hsegs hm₂
        (hasChild_of_child? hc₂)), RepoM.pure_run]
      refine ⟨out, ?_⟩
      rw [restoredRoot, hD]
      dsimp only
      rw [updateAlong_eraseChild_inside (keepsName_withChildren []) _ sp a []]
      congr 3
      apply updateAlong_congr
      intro m' hm'
      rw [hD] at hm'
      cases hm'
      rw [absorb_eq, hk]
      rfl

end RescueTransformer

end ContentSync
