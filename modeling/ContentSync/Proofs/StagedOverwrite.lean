import ContentSync.Proofs.StagedWrites
import Mathlib.Logic.Function.Basic

/-!
# Writes made at the paths of a staged tree

A version document changes the staged version storage one path at a time: it creates the nodes
along a path (`Staged.typeFreshAlong`, `Staged.updateAlong`) and makes a list of writes at the
node at its end. This module follows those changes path by path.

* `Staged.WrittenBelow W path s`: every node below `s` holds, over some state of its own, the
  writes `W q` listed for its path `q`. Updating along a path keeps this once the writes made
  there are added to `W` (`WrittenBelow.updateAlong`), and typing fresh nodes keeps it where
  no writes are listed (`WrittenBelow.typeFreshAlong`).
* `Staged.overwriteAt W path s`: the tree `s` with the writes `W q` made at the node of each
  path `q`. Making the writes `ws` at a path that leads somewhere is adding them to `W`
  (`updateAlong_overwriteAt`), and a tree whose nodes already hold their writes is left as it is
  (`overwriteAt_of_fixed`).

A child that an earlier child of its name shadows is reached by no path: `withChild` and
`child?` only see the first child of a name, and so `overwriteAt` leaves the others alone.

Main statements: `Staged.WrittenBelow.updateAlong`, `Staged.updateAlong_overwriteAt`,
`Staged.overwriteAt_of_fixed`.
-/

namespace ContentSync

namespace Staged

variable {α : Type}

/-! ## The child of a name after an update -/

theorem children_typeIfFresh (s : Staged) (ty : String) : (s.typeIfFresh ty).children = s.children := by
  unfold typeIfFresh
  split <;> rfl

/-- Updating the child of a name, with a change that keeps its name, changes that child, or
adds it, and no other. -/
theorem child?_withChild {f : Staged → Staged × α} {s : Staged} {a b : String}
    (hname : ∀ c, c.name = a → (f c).1.name = a) :
    (s.withChild a f).1.child? b =
      if b = a then some (f ((s.child? a).getD (blank a))).1 else s.child? b := by
  by_cases hb : b = a
  · subst hb
    rw [if_pos rfl]
    cases hc : s.child? b with
    | none => exact child?_withChild_of_none hc (hname _ rfl)
    | some c => exact child?_withChild_of_first hc (hname c (name_of_child? hc))
  · rw [if_neg hb]
    cases hd : s.child? b with
    | some d => exact child?_withChild_of_ne hb (fun c hc => hname c (name_of_child? hc)) hd
    | none =>
      -- the child called `a`, changed or added, is not called `b`
      have hne : ∀ d ∈ s.children, ¬ d.name = b := fun d hmem hdn => by
        simpa [hdn] using List.find?_eq_none.mp (show s.children.find? (·.name = b) = none from hd) d hmem
      rw [withChild_fst, child?]
      dsimp only
      rw [List.find?_eq_none]
      rcases exists_first_or_forall_ne Staged.name a s.children with
        ⟨l₁, c, l₂, hsplit, hfirst, hc⟩ | hall
      · rw [hsplit] at hne
        rw [hsplit, withChild_go_of_first f hfirst hc]
        intro d hd
        simp only [List.mem_append, List.mem_cons] at hd
        rcases hd with hd | rfl | hd
        · simpa using hne d (List.mem_append_left _ hd)
        · simpa [hname c hc] using Ne.symm hb
        · simpa using hne d (List.mem_append_right _ (List.mem_cons_of_mem c hd))
      · rw [withChild_go_of_forall_ne f hall]
        intro d hd
        rcases List.mem_append.mp hd with hd | hd
        · simpa using hne d hd
        · rw [List.mem_singleton] at hd
          subst hd
          simpa [hname (blank a) rfl] using Ne.symm hb

theorem along?_cons_of_children_eq {s t : Staged} (h : t.children = s.children) (b : String)
    (q : List String) : t.along? (b :: q) = s.along? (b :: q) := by
  simp only [along?_cons, child?, h]

theorem along?_blank (a : String) {q : List String} {t : Staged}
    (h : (blank a).along? q = some t) : q = [] ∧ t = blank a := by
  cases q with
  | nil => exact ⟨rfl, (Option.some.inj h).symm⟩
  | cons b q => cases (along?_of_children_nil rfl b q).symm.trans h

theorem isSome_along?_of_append {s : Staged} :
    ∀ (q r : List String), (s.along? (q ++ r)).isSome → (s.along? q).isSome := by
  intro q
  induction q generalizing s with
  | nil => intro _ _; rfl
  | cons a q ih =>
    intro r h
    rw [List.cons_append, along?_cons] at h
    rw [along?_cons]
    cases hc : s.child? a with
    | none => rw [hc] at h; cases h
    | some c =>
      rw [hc, Option.bind_some] at h
      exact ih r h

/-! ## Paths that lead somewhere -/

section Updates

variable {g : Staged → Staged}

/-- A path that leads somewhere still does after an update along any path. -/
theorem isSome_along?_updateAlong (hg : KeepsShape g) :
    ∀ (p q : List String) {s : Staged}, (s.along? q).isSome →
      ((s.updateAlong p g).along? q).isSome := by
  intro p
  induction p with
  | nil =>
    intro q s h
    cases q with
    | nil => rfl
    | cons b q => rwa [updateAlong, along?_cons_of_children_eq (hg s).2]
  | cons a p ih =>
    intro q s h
    cases q with
    | nil => rfl
    | cons b q =>
      rw [updateAlong, along?_cons,
        child?_withChild fun c hc => (name_updateAlong hg c p).trans hc]
      rw [along?_cons] at h
      split
      · rename_i hb
        subst hb
        obtain ⟨t, ht⟩ := Option.isSome_iff_exists.mp h
        obtain ⟨c, hc, hq⟩ := Option.bind_eq_some_iff.mp ht
        rw [hc, Option.getD_some, Option.bind_some]
        exact ih q (Option.isSome_iff_exists.mpr ⟨t, hq⟩)
      · exact h

/-- The path of an update leads somewhere after it. -/
theorem isSome_along?_updateAlong_self (hg : KeepsShape g) :
    ∀ (p : List String) (s : Staged), ((s.updateAlong p g).along? p).isSome := by
  intro p
  induction p with
  | nil => intro _; rfl
  | cons a p ih =>
    intro s
    rw [updateAlong, along?_cons, child?_withChild fun c hc => (name_updateAlong hg c p).trans hc,
      if_pos rfl, Option.bind_some]
    exact ih _

end Updates

theorem isSome_along?_typeFreshAlong (ty : String) :
    ∀ (names q : List String) {s : Staged}, (s.along? q).isSome →
      ((s.typeFreshAlong ty names).along? q).isSome := by
  intro names
  induction names with
  | nil => intro _ _ h; exact h
  | cons a names ih =>
    intro q s h
    cases q with
    | nil => rfl
    | cons b q =>
      have hname : ∀ c : Staged, c.name = a →
          ((c.typeIfFresh ty).typeFreshAlong ty names, ()).1.name = a := fun c hc =>
        (name_typeFreshAlong _ ty names).trans ((name_typeIfFresh c ty).trans hc)
      rw [typeFreshAlong, along?_cons, child?_withChild hname]
      rw [along?_cons] at h
      split
      · rename_i hb
        subst hb
        obtain ⟨t, ht⟩ := Option.isSome_iff_exists.mp h
        obtain ⟨c, hc, hq⟩ := Option.bind_eq_some_iff.mp ht
        rw [hc, Option.getD_some, Option.bind_some]
        refine ih q ?_
        cases q with
        | nil => rfl
        | cons d q =>
          rw [along?_cons_of_children_eq (children_typeIfFresh c ty)]
          exact Option.isSome_iff_exists.mpr ⟨t, hq⟩
      · exact h

/-- The path along which fresh nodes are typed leads somewhere after it. -/
theorem isSome_along?_typeFreshAlong_self (ty : String) :
    ∀ (names : List String) (s : Staged), ((s.typeFreshAlong ty names).along? names).isSome := by
  intro names
  induction names with
  | nil => intro _; rfl
  | cons a names ih =>
    intro s
    have hname : ∀ c : Staged, c.name = a →
        ((c.typeIfFresh ty).typeFreshAlong ty names, ()).1.name = a := fun c hc =>
      (name_typeFreshAlong _ ty names).trans ((name_typeIfFresh c ty).trans hc)
    rw [typeFreshAlong, along?_cons, child?_withChild hname, if_pos rfl, Option.bind_some]
    exact ih _

/-! ## Changes that change nothing -/

/-- Updating along a path that leads somewhere, by a change that keeps the node found there,
changes nothing. -/
theorem updateAlong_of_fixes {g : Staged → Staged} :
    ∀ (p : List String) {s t : Staged}, s.along? p = some t → g t = t → s.updateAlong p g = s := by
  intro p
  induction p with
  | nil =>
    intro s t hs hg
    cases hs
    exact hg
  | cons a p ih =>
    intro s t hs hg
    obtain ⟨c, hc, hp⟩ := Option.bind_eq_some_iff.mp hs
    exact withChild_of_fixes hc (ih hp hg)

/-- Along a path whose nodes are all there and copied from the repository, typing the fresh
nodes changes nothing. -/
theorem typeFreshAlong_of_settled (ty : String) :
    ∀ (names : List String) {s : Staged},
      (∀ q, q <+: names → q ≠ [] → ∃ t, s.along? q = some t ∧ t.fresh = false) →
        s.typeFreshAlong ty names = s := by
  intro names
  induction names with
  | nil => intro _ _; rfl
  | cons a names ih =>
    intro s h
    obtain ⟨c, hc, hfresh⟩ := h [a] ((List.prefix_cons_inj a).mpr List.nil_prefix) (List.cons_ne_nil _ _)
    have hc' : s.child? a = some c := by simpa using hc
    have htype : c.typeIfFresh ty = c := by
      unfold typeIfFresh
      rw [if_neg (by simp [hfresh])]
    refine withChild_of_fixes hc' ?_
    dsimp only
    rw [htype]
    refine ih fun q hq hne => ?_
    obtain ⟨t, ht, htf⟩ := h (a :: q) ((List.prefix_cons_inj a).mpr hq) (List.cons_ne_nil _ _)
    exact ⟨t, by simpa [hc'] using ht, htf⟩

/-! ## Nodes holding the writes listed for their paths -/

/-- Every node below `s`, which stands at `path`, holds over some state of its own the writes
that `W` lists for its path. -/
def WrittenBelow (W : List String → List StagedWrite) (path : List String) (s : Staged) : Prop :=
  ∀ q t, s.along? q = some t → Written (W (path ++ q)) t

section WrittenBelow

variable {W : List String → List StagedWrite} {path : List String} {s : Staged}

theorem WrittenBelow.of_children_eq (hs : WrittenBelow W path s) {t : Staged}
    (hc : t.children = s.children) (hroot : Written (W path) t) : WrittenBelow W path t := by
  intro q u hu
  cases q with
  | nil =>
    cases hu
    simpa using hroot
  | cons b q =>
    rw [along?_cons_of_children_eq hc] at hu
    exact hs _ u hu

/-- The child of a name, or the blank node put there when there is none, holds its writes. -/
theorem WrittenBelow.child?_getD (hs : WrittenBelow W path s) (a : String)
    (hnone : s.child? a = none → W (path ++ [a]) = []) :
    WrittenBelow W (path ++ [a]) ((s.child? a).getD (blank a)) := by
  intro q t ht
  cases hc : s.child? a with
  | none =>
    rw [hc, Option.getD_none] at ht
    obtain ⟨rfl, rfl⟩ := along?_blank a ht
    rw [List.append_nil, hnone hc]
    exact written_nil _
  | some c =>
    rw [hc, Option.getD_some] at ht
    have := hs (a :: q) t (by rw [along?_cons, hc, Option.bind_some]; exact ht)
    simpa using this

/-- Updating along `p` by `g` keeps every node holding its writes, once `W'` adds to the
writes at `p` what `g` makes there. Nodes created on the way are blank, and no writes are
listed for a path that led nowhere. -/
theorem WrittenBelow.updateAlong {g : Staged → Staged} (hg : KeepsShape g)
    {W' : List String → List StagedWrite} :
    ∀ (p : List String) {path : List String} {s : Staged},
      (∀ q, q ≠ path ++ p → W' q = W q) →
      (∀ t, Written (W (path ++ p)) t → Written (W' (path ++ p)) (g t)) →
      (∀ q, W (path ++ q) ≠ [] → (s.along? q).isSome) →
      WrittenBelow W path s → WrittenBelow W' path (s.updateAlong p g) := by
  intro p
  induction p with
  | nil =>
    intro path s hW hgW _ hs
    rw [List.append_nil] at hW hgW
    refine fun q t ht => ?_
    cases q with
    | nil =>
      cases ht
      simpa [Staged.updateAlong] using hgW s (by simpa using hs [] s rfl)
    | cons b q =>
      rw [Staged.updateAlong, along?_cons_of_children_eq (hg s).2] at ht
      rw [hW _ (by simp)]
      exact hs _ t ht
  | cons a p ih =>
    intro path s hW hgW hex hs
    have hname : ∀ c : Staged, c.name = a → (c.updateAlong p g, ()).1.name = a :=
      fun c hc => (name_updateAlong hg c p).trans hc
    have hpath : path ++ a :: p = path ++ [a] ++ p := by simp
    refine fun q t ht => ?_
    cases q with
    | nil =>
      cases ht
      rw [List.append_nil, hW path (by simp)]
      rw [Staged.updateAlong, withChild_fst]
      simpa using (hs [] s rfl).withChildren _
    | cons b q =>
      rw [Staged.updateAlong, along?_cons, child?_withChild hname] at ht
      split at ht
      · -- the child on the path: updated below, by induction
        rename_i hb
        subst hb
        rw [Option.bind_some] at ht
        have hnone : s.child? b = none → W (path ++ [b]) = [] := fun hc => by
          by_contra hne
          have := hex [b] (by simpa using hne)
          rw [along?_cons, hc] at this
          cases this
        have hex' : ∀ q, W (path ++ [b] ++ q) ≠ [] →
            (((s.child? b).getD (blank b)).along? q).isSome := by
          intro q hq
          have := hex (b :: q) (by simpa using hq)
          rw [along?_cons] at this
          cases hc : s.child? b with
          | none => rw [hc] at this; cases this
          | some c => rw [hc] at this; simpa using this
        have := @ih (path ++ [b]) _ (fun q hq => hW q (hpath ▸ hq)) (hpath ▸ hgW) hex'
          (hs.child?_getD b hnone) q t ht
        simpa using this
      · rename_i hb
        rw [hW _ (by simp [hb])]
        exact hs (b :: q) t (by rw [along?_cons]; exact ht)

/-- Typing the fresh nodes along `names` keeps every node holding its writes when no writes are
listed as deep as `names` reaches. -/
theorem WrittenBelow.typeFreshAlong (ty : String) :
    ∀ (names : List String) {path : List String} {s : Staged},
      (∀ q, W (path ++ q) ≠ [] → names.length < q.length) →
      WrittenBelow W path s → WrittenBelow W path (s.typeFreshAlong ty names) := by
  intro names
  induction names with
  | nil => intro _ _ _ hs; exact hs
  | cons a names ih =>
    intro path s hshallow hs
    have hname : ∀ c : Staged, c.name = a →
        ((c.typeIfFresh ty).typeFreshAlong ty names, ()).1.name = a := fun c hc =>
      (name_typeFreshAlong _ ty names).trans ((name_typeIfFresh c ty).trans hc)
    have hempty : W (path ++ [a]) = [] := by
      by_contra hne
      have := hshallow [a] hne
      simp at this
    refine fun q t ht => ?_
    cases q with
    | nil =>
      cases ht
      rw [Staged.typeFreshAlong, withChild_fst]
      simpa using (hs [] s rfl).withChildren _
    | cons b q =>
      rw [Staged.typeFreshAlong, along?_cons, child?_withChild hname] at ht
      split at ht
      · -- the child on the path is typed if fresh, and the rest of the path below it
        rename_i hb
        subst hb
        rw [Option.bind_some] at ht
        set c := (s.child? b).getD (blank b)
        have hc : WrittenBelow W (path ++ [b]) c := hs.child?_getD b fun _ => hempty
        have hc' : WrittenBelow W (path ++ [b]) (c.typeIfFresh ty) :=
          hc.of_children_eq (children_typeIfFresh c ty) (by rw [hempty]; exact written_nil _)
        have := @ih (path ++ [b]) _ (fun q hq => by
            have := hshallow (b :: q) (by simpa using hq)
            simp only [List.length_cons] at this
            omega) hc' q t ht
        simpa using this
      · exact hs (b :: q) t (by rw [along?_cons]; exact ht)

end WrittenBelow

/-! ## Making the listed writes at every path -/

mutual
/-- The tree `s`, standing at `path`, with the writes `W q` made at the node of each path `q`
below it. -/
def overwriteAt (W : List String → List StagedWrite) (path : List String) : Staged → Staged
  | ⟨name, primaryType, mixins, properties, children, fresh⟩ =>
    writeAll ⟨name, primaryType, mixins, properties, overwriteAmong W path [] children, fresh⟩
      (W path)

/-- The children of the node at `path`: each first child of a name not in `seen` overwritten,
the children shadowed by an earlier one of their name left alone. -/
def overwriteAmong (W : List String → List StagedWrite) (path seen : List String) :
    List Staged → List Staged
  | [] => []
  | c :: cs =>
    (if c.name ∈ seen then c else overwriteAt W (path ++ [c.name]) c) ::
      overwriteAmong W path (c.name :: seen) cs
end

section Overwrite

variable {W W' : List String → List StagedWrite}

theorem overwriteAt_eq (W : List String → List StagedWrite) (path : List String) (s : Staged) :
    overwriteAt W path s =
      ({ s with children := overwriteAmong W path [] s.children } : Staged).writeAll (W path) := by
  cases s
  rw [overwriteAt]

theorem overwriteAmong_cons (W : List String → List StagedWrite) (path seen : List String)
    (c : Staged) (cs : List Staged) :
    overwriteAmong W path seen (c :: cs) =
      (if c.name ∈ seen then c else overwriteAt W (path ++ [c.name]) c) ::
        overwriteAmong W path (c.name :: seen) cs := by
  rw [overwriteAmong]

@[simp] theorem name_overwriteAt (W : List String → List StagedWrite) (path : List String)
    (s : Staged) : (overwriteAt W path s).name = s.name := by
  rw [overwriteAt_eq, name_writeAll]

@[simp] theorem fresh_overwriteAt (W : List String → List StagedWrite) (path : List String)
    (s : Staged) : (overwriteAt W path s).fresh = s.fresh := by
  rw [overwriteAt_eq, fresh_writeAll]

theorem children_overwriteAt (W : List String → List StagedWrite) (path : List String)
    (s : Staged) : (overwriteAt W path s).children = overwriteAmong W path [] s.children := by
  rw [overwriteAt_eq, children_writeAll]

/-- Among the overwritten children, the first of a name not yet seen is the overwritten first
child of that name. -/
theorem find?_overwriteAmong (W : List String → List StagedWrite) (path : List String)
    (a : String) : ∀ (seen : List String) (cs : List Staged), a ∉ seen →
      (overwriteAmong W path seen cs).find? (·.name = a) =
        (cs.find? (·.name = a)).map (overwriteAt W (path ++ [a])) := by
  intro seen cs
  induction cs generalizing seen with
  | nil => intro _; rfl
  | cons c cs ih =>
    intro ha
    rw [overwriteAmong_cons]
    by_cases hc : c.name = a
    · subst hc
      simp [ha]
    · have hhead : (if c.name ∈ seen then c else overwriteAt W (path ++ [c.name]) c).name = c.name := by
        split <;> simp
      rw [List.find?_cons, List.find?_cons, hhead]
      simp only [hc, decide_false]
      exact ih (c.name :: seen) (by simp [Ne.symm hc, ha])

theorem child?_overwriteAt (W : List String → List StagedWrite) (path : List String)
    (s : Staged) (a : String) :
    (overwriteAt W path s).child? a = (s.child? a).map (overwriteAt W (path ++ [a])) := by
  rw [child?, children_overwriteAt, find?_overwriteAmong W path a [] _ List.not_mem_nil, child?]

/-- The node found along `q` in the overwritten tree is the overwritten node found along `q`. -/
theorem along?_overwriteAt (W : List String → List StagedWrite) :
    ∀ (q path : List String) (s : Staged),
      (overwriteAt W path s).along? q = (s.along? q).map (overwriteAt W (path ++ q)) := by
  intro q
  induction q with
  | nil => intro path s; simp
  | cons a q ih =>
    intro path s
    rw [along?_cons, along?_cons, child?_overwriteAt]
    cases s.child? a with
    | none => rfl
    | some c => simpa using ih (path ++ [a]) c

/-- Overwriting children depends only on the writes listed at and below the children it
reaches. -/
theorem overwriteAmong_congr {path : List String} :
    ∀ (seen : List String) (cs : List Staged),
      (∀ d ∈ cs, d.name ∉ seen → overwriteAt W (path ++ [d.name]) d =
        overwriteAt W' (path ++ [d.name]) d) →
      overwriteAmong W path seen cs = overwriteAmong W' path seen cs := by
  intro seen cs
  induction cs generalizing seen with
  | nil => intro _; rfl
  | cons c cs ih =>
    intro h
    rw [overwriteAmong_cons, overwriteAmong_cons,
      ih (c.name :: seen) fun d hd hds => h d (List.mem_cons_of_mem c hd) fun e => hds (.tail _ e)]
    split
    · rfl
    · rename_i hc
      rw [h c List.mem_cons_self hc]

/-- Overwriting a tree depends only on the writes listed at and below its path. -/
theorem overwriteAt_congr {path : List String} {s : Staged}
    (h : ∀ q, W (path ++ q) = W' (path ++ q)) : overwriteAt W path s = overwriteAt W' path s := by
  have hroot : W path = W' path := by simpa using h []
  rw [overwriteAt_eq, overwriteAt_eq, overwriteAmong_congr [] s.children fun d hd _ =>
    overwriteAt_congr fun q => by simpa using h (d.name :: q), hroot]
termination_by sizeOf s
decreasing_by
  -- a child is smaller than its parent
  cases s
  have := List.sizeOf_lt_of_mem hd
  simp only [Staged.mk.sizeOf_spec] at this ⊢
  omega

/-- Overwritten children are as they were when each one reached is left as it is. -/
theorem overwriteAmong_of_fixed {path : List String} :
    ∀ (seen : List String) (cs : List Staged),
      (∀ d ∈ cs, d.name ∉ seen → cs.find? (·.name = d.name) = some d →
        overwriteAt W (path ++ [d.name]) d = d) →
      overwriteAmong W path seen cs = cs := by
  intro seen cs
  induction cs generalizing seen with
  | nil => intro _; rfl
  | cons c cs ih =>
    intro h
    rw [overwriteAmong_cons]
    congr 1
    · split
      · rfl
      · rename_i hc
        exact h c List.mem_cons_self hc (by simp)
    · refine ih (c.name :: seen) fun d hd hds hfind => h d (List.mem_cons_of_mem c hd)
        (fun e => hds (.tail _ e)) ?_
      have hdc : ¬ c.name = d.name := fun e => hds (e ▸ List.mem_cons_self)
      rw [List.find?_cons, decide_eq_false hdc]
      exact hfind

/-- A tree whose nodes all hold the writes listed for their paths is left as it is. -/
theorem overwriteAt_of_fixed {path : List String} {s : Staged}
    (h : ∀ q t, s.along? q = some t → t.writeAll (W (path ++ q)) = t) :
    overwriteAt W path s = s := by
  have hchildren : overwriteAmong W path [] s.children = s.children :=
    overwriteAmong_of_fixed [] s.children fun d hd _ hfind => overwriteAt_of_fixed fun q t ht => by
      have := h (d.name :: q) t (by rw [along?_cons, child?, hfind, Option.bind_some]; exact ht)
      simpa using this
  have hroot := h [] s rfl
  rw [List.append_nil] at hroot
  rw [overwriteAt_eq, hchildren]
  cases s
  exact hroot
termination_by sizeOf s
decreasing_by
  -- a child is smaller than its parent
  cases s
  have := List.sizeOf_lt_of_mem hd
  simp only [Staged.mk.sizeOf_spec] at this ⊢
  omega

/-- Updating the first child of a name of overwritten children, by a change that turns the
overwritten child into the child overwritten with `W'`, gives the children overwritten with
`W'`, when `W'` changes no other child. -/
theorem withChild_go_overwriteAmong {F : Staged → Staged × Unit} {path : List String}
    {a : String} {c : Staged} (hF : (F (overwriteAt W (path ++ [a]) c)).1 = overwriteAt W' (path ++ [a]) c)
    (hW : ∀ b, b ≠ a → ∀ d : Staged, overwriteAt W (path ++ [b]) d = overwriteAt W' (path ++ [b]) d) :
    ∀ (seen : List String) (cs : List Staged), a ∉ seen → cs.find? (·.name = a) = some c →
      (withChild.go a F (overwriteAmong W path seen cs)).1 = overwriteAmong W' path seen cs := by
  intro seen cs
  induction cs generalizing seen with
  | nil => intro _ h; cases h
  | cons d cs ih =>
    intro ha hfind
    rw [overwriteAmong_cons, overwriteAmong_cons, withChild_go_cons]
    by_cases hd : d.name = a
    · -- the first child of the name: changed by `F`; the later ones are shadowed
      subst hd
      have hdc : d = c := by simpa using hfind
      subst hdc
      rw [if_neg ha, if_neg ha, name_overwriteAt, if_pos rfl, hF,
        overwriteAmong_congr (d.name :: seen) cs fun e _ he => hW e.name (fun h => he (h ▸ List.mem_cons_self)) e]
    · have hhead : (if d.name ∈ seen then d else overwriteAt W (path ++ [d.name]) d).name = d.name := by
        split <;> simp
      rw [hhead, if_neg hd, ih (d.name :: seen) (by simp [Ne.symm hd, ha])
        (by rw [List.find?_cons, decide_eq_false hd] at hfind; exact hfind)]
      congr 1
      split
      · rfl
      · exact hW d.name hd d

/-- Making the writes `ws` at a path that leads somewhere in an overwritten tree is adding them
to the writes listed for that path. -/
theorem updateAlong_overwriteAt (ws : List StagedWrite) :
    ∀ (p path : List String) (s : Staged) (W : List String → List StagedWrite), (s.along? p).isSome →
      (overwriteAt W path s).updateAlong p (·.writeAll ws) =
        overwriteAt (Function.update W (path ++ p) (W (path ++ p) ++ ws)) path s := by
  intro p
  induction p with
  | nil =>
    intro path s W _
    -- the children stand below the path, where no writes are added
    have hchildren : overwriteAmong (Function.update W path (W path ++ ws)) path [] s.children =
        overwriteAmong W path [] s.children :=
      overwriteAmong_congr [] s.children fun d _ _ => overwriteAt_congr fun q => by
        rw [Function.update_of_ne (by simp)]
    rw [List.append_nil, updateAlong, overwriteAt_eq, overwriteAt_eq, ← writeAll_append,
      Function.update_self, hchildren]
  | cons a p ih =>
    intro path s W hp
    obtain ⟨t, ht⟩ := Option.isSome_iff_exists.mp hp
    obtain ⟨c, hc, hcp⟩ := Option.bind_eq_some_iff.mp ht
    have hpath : path ++ a :: p = path ++ [a] ++ p := by simp
    -- the first child called `a` is changed below, by induction; no other child is
    have hF := ih (path ++ [a]) c W (Option.isSome_iff_exists.mpr ⟨_, hcp⟩)
    rw [← hpath] at hF
    have hW : ∀ b, b ≠ a → ∀ d : Staged, overwriteAt W (path ++ [b]) d =
        overwriteAt (Function.update W (path ++ a :: p) (W (path ++ a :: p) ++ ws))
          (path ++ [b]) d :=
      fun b hb d => overwriteAt_congr fun q => by rw [Function.update_of_ne (by simp [hb])]
    rw [updateAlong, withChild_fst, children_overwriteAt,
      withChild_go_overwriteAmong hF hW [] s.children List.not_mem_nil hc, overwriteAt_eq,
      overwriteAt_eq, Function.update_of_ne (by simp), ← writeAll_withChildren]

end Overwrite

end Staged

end ContentSync
