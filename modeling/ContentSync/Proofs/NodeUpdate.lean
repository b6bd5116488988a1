import ContentSync.Repository
import ContentSync.Proofs.PathSegments

/-!
# Updating a tree along a path

`Node.modifyAlong` applies a function at the descendant reached along a list of names and
fails when there is none. Its total companion `Node.updateAlong` leaves the tree as it is
then, which makes updates compose: an update along `s ++ u` is an update along `s` of an
update along `u` (`updateAlong_append`), two updates along one path are one update
(`updateAlong_updateAlong`), and updates along paths neither of which extends the other
commute (`updateAlong_comm`). After an update along `s` the descendant along `t` is the old
one when neither path extends the other (`descendAlong_updateAlong_away`), the
updated one below `s` (`descendAlong_updateAlong_append`), and one with the update inside
above `s` (`descendAlong_updateAlong_above`). `modifyAlong_eq_some` turns every change
the repository makes at an existing path into an update.

Lookups take the first child of a name, so the lemmas ask that the function keep the name
of the node it changes (`KeepsName`): every change the repository makes in place does.
-/

namespace ContentSync.Node

/-! ## Descending -/

@[simp] theorem descendAlong_nil (n : Node) : n.descendAlong [] = some n := rfl

@[simp] theorem descendAlong_cons (n : Node) (a : String) (r : List String) :
    n.descendAlong (a :: r) = (n.child? a).bind (·.descendAlong r) := rfl

/-- Descending along `s ++ u` is descending along `s`, then along `u` from there. -/
theorem descendAlong_append (n : Node) (s u : List String) :
    n.descendAlong (s ++ u) = (n.descendAlong s).bind (·.descendAlong u) := by
  induction s generalizing n with
  | nil => rfl
  | cons a s ih =>
    rw [List.cons_append, descendAlong_cons, descendAlong_cons, Option.bind_assoc]
    cases n.child? a with
    | none => rfl
    | some c => exact ih c

/-! ## Functions that keep names -/

/-- `f` keeps the name of every node it changes. -/
def KeepsName (f : Node → Node) : Prop :=
  ∀ m, (f m).name = m.name

/-- Replacing a node by `y` under its own name. -/
def renamedTo (y : Node) (m : Node) : Node :=
  { y with name := m.name }

/-- The node with `c` appended to its children. -/
def appendChild (c : Node) (n : Node) : Node :=
  { n with children := n.children ++ [c] }

/-- The node without its first child called `a`. -/
def eraseChild (a : String) (n : Node) : Node :=
  { n with children := n.children.eraseP (·.name = a) }

/-- The node with `cs` as children. -/
def withChildren (cs : List Node) (n : Node) : Node :=
  { n with children := cs }

/-- The node with `cs` appended to its children. -/
def appendChildren (cs : List Node) (n : Node) : Node :=
  { n with children := n.children ++ cs }

/-- The node with primary type `t`. -/
def withPrimaryType (t : String) (n : Node) : Node :=
  { n with primaryType := t }

/-- The node with mixins `ms`. -/
def withMixins (ms : List String) (n : Node) : Node :=
  { n with mixins := ms }

theorem keepsName_renamedTo (y : Node) : KeepsName (renamedTo y) := fun _ => rfl

theorem keepsName_appendChild (c : Node) : KeepsName (appendChild c) := fun _ => rfl

theorem keepsName_eraseChild (a : String) : KeepsName (eraseChild a) := fun _ => rfl

theorem keepsName_withChildren (cs : List Node) : KeepsName (withChildren cs) := fun _ => rfl

theorem keepsName_appendChildren (cs : List Node) : KeepsName (appendChildren cs) := fun _ => rfl

theorem keepsName_applyProperty (p : Property) : KeepsName (·.applyProperty p) := by
  intro m
  show (m.applyProperty p).name = m.name
  unfold applyProperty
  split
  · split <;> rfl
  · split <;> rfl

theorem keepsName_removeProperty (a : String) : KeepsName (·.removeProperty a) := fun _ => rfl

/-- Setting a property, or a node's types through one, leaves its children alone. -/
theorem children_applyProperty (p : Property) (n : Node) : (n.applyProperty p).children = n.children := by
  unfold applyProperty
  split
  · split <;> rfl
  · split <;> rfl

theorem keepsName_withPrimaryType (t : String) : KeepsName (withPrimaryType t) := fun _ => rfl

theorem keepsName_withMixins (ms : List String) : KeepsName (withMixins ms) := fun _ => rfl

theorem keepsName_foldl_applyProperty (ps : List Property) :
    KeepsName fun n => ps.foldl applyProperty n := by
  intro n
  induction ps generalizing n with
  | nil => rfl
  | cons p ps ih => exact (ih (n.applyProperty p)).trans (keepsName_applyProperty p n)

theorem keepsName_foldl_removeProperty (names : List String) :
    KeepsName fun n => names.foldl Node.removeProperty n := by
  intro n
  induction names generalizing n with
  | nil => rfl
  | cons a names ih => exact (ih (n.removeProperty a)).trans (keepsName_removeProperty a n)

theorem KeepsName.comp {f g : Node → Node} (hf : KeepsName f) (hg : KeepsName g) :
    KeepsName (f ∘ g) := fun m => (hf (g m)).trans (hg m)

/-! ## Children by name -/

theorem child?_eq_none_iff (n : Node) (a : String) : n.child? a = none ↔ n.hasChild a = false := by
  rw [child?, hasChild, List.find?_eq_none, List.any_eq_false]

theorem hasChild_of_child? {n c : Node} {a : String} (h : n.child? a = some c) :
    n.hasChild a = true := by
  cases hh : n.hasChild a with
  | true => rfl
  | false => rw [← child?_eq_none_iff] at hh; rw [hh] at h; cases h

theorem exists_child?_of_hasChild {n : Node} {a : String} (h : n.hasChild a = true) :
    ∃ c, n.child? a = some c := by
  cases hc : n.child? a with
  | some c => exact ⟨c, rfl⟩
  | none => rw [child?_eq_none_iff] at hc; rw [hc] at h; cases h

theorem name_of_child? {n c : Node} {a : String} (h : n.child? a = some c) : c.name = a := by
  have := List.find?_some h
  simpa using this

theorem mem_of_child? {n c : Node} {a : String} (h : n.child? a = some c) : c ∈ n.children :=
  List.mem_of_find?_eq_some h

/-- Removing the first child called `a` by index is erasing it. -/
theorem removeChild?_of_hasChild {n : Node} {a : String} (h : n.hasChild a = true) :
    n.removeChild? a = some (eraseChild a n) := by
  have key : ∀ cs : List Node, cs.any (·.name = a) = true →
      ∃ i, cs.findIdx? (·.name = a) = some i ∧ cs.eraseIdx i = cs.eraseP (·.name = a) := by
    intro cs
    induction cs with
    | nil => intro h; cases h
    | cons c cs ih =>
      intro hany
      by_cases hc : c.name = a
      · refine ⟨0, ?_, ?_⟩
        · rw [List.findIdx?_cons]
          simp [hc]
        · rw [List.eraseP_cons_of_pos (by simpa using hc)]
          rfl
      · have hany' : cs.any (·.name = a) = true := by simpa [hc] using hany
        obtain ⟨i, hi, he⟩ := ih hany'
        refine ⟨i + 1, ?_, ?_⟩
        · rw [List.findIdx?_cons]
          simp [hc, hi]
        · rw [List.eraseP_cons_of_neg (by simpa using hc), List.eraseIdx_cons_succ, he]
  obtain ⟨i, hi, he⟩ := key n.children h
  rw [removeChild?, hi]
  dsimp only
  rw [he]
  rfl

theorem removeChild?_of_not_hasChild {n : Node} {a : String} (h : n.hasChild a = false) :
    n.removeChild? a = none := by
  have hnone : n.children.findIdx? (·.name = a) = none := by
    rw [List.findIdx?_eq_none_iff]
    intro c hc
    have := List.any_eq_false.mp h c hc
    simpa using this
  rw [removeChild?, hnone]

theorem child?_eraseChild_of_ne {a b : String} (hab : a ≠ b) (n : Node) :
    (eraseChild a n).child? b = n.child? b := by
  show (n.children.eraseP (·.name = a)).find? (·.name = b) = n.children.find? (·.name = b)
  induction n.children with
  | nil => rfl
  | cons c cs ih =>
    by_cases hc : c.name = a
    · have hcb : ¬ c.name = b := fun h => hab (hc.symm.trans h)
      rw [List.eraseP_cons_of_pos (by simpa using hc), List.find?_cons_of_neg (by simpa using hcb)]
    · rw [List.eraseP_cons_of_neg (by simpa using hc)]
      by_cases hcb : c.name = b
      · rw [List.find?_cons_of_pos (by simpa using hcb), List.find?_cons_of_pos (by simpa using hcb)]
      · rw [List.find?_cons_of_neg (by simpa using hcb), List.find?_cons_of_neg (by simpa using hcb),
          ih]

theorem child?_appendChild_of_hasChild {n : Node} {b : String} (h : n.hasChild b = true)
    (c : Node) : (appendChild c n).child? b = n.child? b := by
  show (n.children ++ [c]).find? (·.name = b) = n.children.find? (·.name = b)
  obtain ⟨d, hd⟩ := exists_child?_of_hasChild h
  rw [List.find?_append]
  change (n.child? b).or _ = n.child? b
  rw [hd]
  rfl

theorem child?_appendChild_fresh {n c : Node} {a : String} (hc : c.name = a)
    (h : n.hasChild a = false) : (appendChild c n).child? a = some c := by
  show (n.children ++ [c]).find? (·.name = a) = some c
  rw [List.find?_append]
  change (n.child? a).or _ = some c
  rw [(child?_eq_none_iff n a).mpr h]
  simp [hc]

/-! ## Trees whose every node has a property -/

/-- `P` holds at every node of the tree. -/
inductive Everywhere (P : Node → Prop) : Node → Prop
  | intro (n : Node) : P n → (∀ c ∈ n.children, Everywhere P c) → Everywhere P n

/-- The children of a node have valid names. -/
def ValidChildNames (n : Node) : Prop := ∀ c ∈ n.children, Path.ValidName c.name

instance (n : Node) : Decidable n.ValidChildNames :=
  inferInstanceAs (Decidable (∀ c ∈ n.children, Path.ValidName c.name))

/-- The children of a node have valid names, pairwise distinct. -/
def SiblingsWellNamed (n : Node) : Prop :=
  (n.children.map (·.name)).Nodup ∧ ∀ c ∈ n.children, Path.ValidName c.name

theorem Everywhere.self {P : Node → Prop} {n : Node} (h : Everywhere P n) : P n := by
  cases h with
  | intro _ hn _ => exact hn

theorem Everywhere.child {P : Node → Prop} {n c : Node} (h : Everywhere P n)
    (hc : c ∈ n.children) : Everywhere P c := by
  cases h with
  | intro _ _ hcs => exact hcs c hc

/-- Every node reached from one where `P` holds everywhere has it everywhere too. -/
theorem Everywhere.descendAlong {P : Node → Prop} {n m : Node} {s : List String}
    (h : Everywhere P n) (hm : n.descendAlong s = some m) : Everywhere P m := by
  induction s generalizing n with
  | nil => cases hm; exact h
  | cons a s ih =>
    rw [descendAlong_cons] at hm
    cases hc : n.child? a with
    | none => rw [hc] at hm; cases hm
    | some c =>
      rw [hc] at hm
      exact ih (h.child (mem_of_child? hc)) hm

mutual
/-- Whether `p` holds at every node of the tree. -/
def allNodes (p : Node → Bool) : Node → Bool
  | n@⟨_, _, _, _, cs⟩ => p n && allChildren p cs

/-- Whether `p` holds at every node of the trees `cs`. -/
def allChildren (p : Node → Bool) : List Node → Bool
  | [] => true
  | c :: cs => allNodes p c && allChildren p cs
end

mutual
theorem everywhere_iff_allNodes (P : Node → Prop) [DecidablePred P] :
    (n : Node) → (Everywhere P n ↔ allNodes (fun m => decide (P m)) n = true)
  | ⟨a, t, m, ps, cs⟩ => by
    rw [allNodes, Bool.and_eq_true, decide_eq_true_iff, ← everywhere_iff_allChildren P cs]
    constructor
    · intro h
      exact ⟨h.self, fun c hc => h.child hc⟩
    · rintro ⟨hp, hcs⟩
      exact Everywhere.intro _ hp hcs

theorem everywhere_iff_allChildren (P : Node → Prop) [DecidablePred P] :
    (cs : List Node) → ((∀ c ∈ cs, Everywhere P c) ↔ allChildren (fun m => decide (P m)) cs = true)
  | [] => by simp [allChildren]
  | c :: cs => by
    rw [allChildren, Bool.and_eq_true, ← everywhere_iff_allNodes P c,
      ← everywhere_iff_allChildren P cs, List.forall_mem_cons]
end

instance (P : Node → Prop) [DecidablePred P] (n : Node) : Decidable (Everywhere P n) :=
  decidable_of_iff _ (everywhere_iff_allNodes P n).symm

instance (n : Node) : Decidable (SiblingsWellNamed n) :=
  inferInstanceAs (Decidable (_ ∧ _))

/-- Among children with distinct names, a child is the first of its name. -/
theorem child?_of_mem {n c : Node} (hn : (n.children.map (·.name)).Nodup) (hc : c ∈ n.children) :
    n.child? c.name = some c := by
  have key : ∀ cs : List Node, (cs.map (·.name)).Nodup → c ∈ cs →
      cs.find? (·.name = c.name) = some c := by
    intro cs
    induction cs with
    | nil => intro _ hc; cases hc
    | cons d ds ih =>
      intro hn hc
      rw [List.map_cons, List.nodup_cons] at hn
      rcases List.mem_cons.mp hc with rfl | hc
      · exact List.find?_cons_of_pos (by simp)
      · have hdc : d.name ≠ c.name := fun h => hn.1 (h ▸ List.mem_map_of_mem hc)
        rw [List.find?_cons_of_neg (by simpa using hdc)]
        exact ih hn.2 hc
  exact key n.children hn hc

/-! ## Updating along a path -/

mutual
/-- Applies `f` to the descendant reached along `names`, taking the first child of each name;
the tree is unchanged if there is none. -/
def updateAlong (f : Node → Node) : Node → List String → Node
  | n, [] => f n
  | ⟨n, t, m, ps, children⟩, name :: rest => ⟨n, t, m, ps, updateChild f name rest children⟩

/-- Applies `updateAlong` to the first child called `name` in `cs`. -/
def updateChild (f : Node → Node) (name : String) (rest : List String) :
    List Node → List Node
  | [] => []
  | c :: cs =>
    if c.name = name then updateAlong f c rest :: cs else c :: updateChild f name rest cs
end

section Update

variable {f g : Node → Node}

@[simp] theorem updateAlong_nil (n : Node) : n.updateAlong f [] = f n := by
  rw [updateAlong]

@[simp] theorem updateAlong_cons (n : Node) (a : String) (r : List String) :
    n.updateAlong f (a :: r) = { n with children := updateChild f a r n.children } := by
  cases n
  rw [updateAlong]

@[simp] theorem updateChild_nil (a : String) (r : List String) : updateChild f a r [] = [] := by
  rw [updateChild]

theorem updateChild_cons (a : String) (r : List String) (c : Node) (cs : List Node) :
    updateChild f a r (c :: cs) =
      if c.name = a then c.updateAlong f r :: cs else c :: updateChild f a r cs := by
  rw [updateChild]

theorem updateChild_cons_of_eq {a : String} {c : Node} (h : c.name = a) (r : List String)
    (cs : List Node) : updateChild f a r (c :: cs) = c.updateAlong f r :: cs := by
  rw [updateChild_cons, if_pos h]

theorem updateChild_cons_of_ne {a : String} {c : Node} (h : c.name ≠ a) (r : List String)
    (cs : List Node) : updateChild f a r (c :: cs) = c :: updateChild f a r cs := by
  rw [updateChild_cons, if_neg h]

theorem name_updateAlong (hf : KeepsName f) (n : Node) (s : List String) :
    (n.updateAlong f s).name = n.name := by
  cases s with
  | nil => rw [updateAlong_nil]; exact hf n
  | cons a r => rw [updateAlong_cons]

theorem KeepsName.updateAlong (hf : KeepsName f) (s : List String) :
    KeepsName (·.updateAlong f s) :=
  fun m => name_updateAlong hf m s

/-- Updating a child keeps the names of all children. -/
theorem map_name_updateChild (hf : KeepsName f) (a : String) (r : List String)
    (cs : List Node) : (updateChild f a r cs).map (·.name) = cs.map (·.name) := by
  induction cs with
  | nil => rw [updateChild_nil]
  | cons c cs ih =>
    by_cases hc : c.name = a
    · rw [updateChild_cons_of_eq hc, List.map_cons, List.map_cons, name_updateAlong hf]
    · rw [updateChild_cons_of_ne hc, List.map_cons, List.map_cons, ih]

/-- After updating the first child called `a`, the first child called `b` is the updated one
if `b = a` and the old one otherwise. -/
theorem find?_updateChild (hf : KeepsName f) (a b : String) (r : List String)
    (cs : List Node) :
    (updateChild f a r cs).find? (·.name = b) =
      if a = b then (cs.find? (·.name = a)).map (·.updateAlong f r)
      else cs.find? (·.name = b) := by
  induction cs with
  | nil => rw [updateChild_nil]; split <;> rfl
  | cons c cs ih =>
    by_cases hca : c.name = a
    · have hname : (c.updateAlong f r).name = a := (name_updateAlong hf c r).trans hca
      rw [updateChild_cons_of_eq hca]
      by_cases hab : a = b
      · subst hab
        rw [if_pos rfl, List.find?_cons_of_pos (by simpa using hname),
          List.find?_cons_of_pos (by simpa using hca)]
        rfl
      · rw [if_neg hab, List.find?_cons_of_neg (by simpa [hname] using hab),
          List.find?_cons_of_neg (by simpa [hca] using hab)]
    · rw [updateChild_cons_of_ne hca]
      by_cases hcb : c.name = b
      · have hab : a ≠ b := fun h => hca (hcb.trans h.symm)
        rw [if_neg hab, List.find?_cons_of_pos (by simpa using hcb),
          List.find?_cons_of_pos (by simpa using hcb)]
      · rw [List.find?_cons_of_neg (by simpa using hcb), ih]
        by_cases hab : a = b
        · subst hab
          rw [if_pos rfl, if_pos rfl, List.find?_cons_of_neg (by simpa using hca)]
        · rw [if_neg hab, if_neg hab, List.find?_cons_of_neg (by simpa using hcb)]

theorem child?_updateAlong_cons (hf : KeepsName f) (n : Node) (a b : String)
    (r : List String) :
    (n.updateAlong f (a :: r)).child? b =
      if a = b then (n.child? a).map (·.updateAlong f r) else n.child? b := by
  rw [updateAlong_cons]
  exact find?_updateChild hf a b r n.children

/-- Below the updated node the tree is the updated node's. -/
theorem descendAlong_updateAlong_append (hf : KeepsName f) (n : Node) (s u : List String) :
    (n.updateAlong f s).descendAlong (s ++ u) =
      (n.descendAlong s).bind fun m => (f m).descendAlong u := by
  induction s generalizing n with
  | nil => rw [List.nil_append, updateAlong_nil]; rfl
  | cons a s ih =>
    rw [List.cons_append, descendAlong_cons, child?_updateAlong_cons hf, if_pos rfl,
      descendAlong_cons]
    cases n.child? a with
    | none => rfl
    | some c => exact ih c

theorem descendAlong_updateAlong_self (hf : KeepsName f) (n : Node) (s : List String) :
    (n.updateAlong f s).descendAlong s = (n.descendAlong s).map f := by
  have h := descendAlong_updateAlong_append hf n s []
  rw [List.append_nil] at h
  rw [h]
  cases n.descendAlong s <;> rfl

/-- Above the updated node the tree holds the update. -/
theorem descendAlong_updateAlong_above (hf : KeepsName f) (n : Node) (t v : List String) :
    (n.updateAlong f (t ++ v)).descendAlong t = (n.descendAlong t).map (·.updateAlong f v) := by
  induction t generalizing n with
  | nil => rfl
  | cons a t ih =>
    rw [List.cons_append, descendAlong_cons, child?_updateAlong_cons hf, if_pos rfl,
      descendAlong_cons]
    cases n.child? a with
    | none => rfl
    | some c => exact ih c

/-- Away from the updated node, neither above nor below it, the tree is unchanged. -/
theorem descendAlong_updateAlong_away (hf : KeepsName f) {s t : List String}
    (hst : ¬ s <+: t) (hts : ¬ t <+: s) (n : Node) :
    (n.updateAlong f s).descendAlong t = n.descendAlong t := by
  induction s generalizing n t with
  | nil => exact absurd (List.nil_prefix) hst
  | cons a s ih =>
    cases t with
    | nil => exact absurd (List.nil_prefix) hts
    | cons b t =>
      rw [descendAlong_cons, child?_updateAlong_cons hf, descendAlong_cons]
      by_cases hab : a = b
      · subst hab
        have h (c : Node) : (c.updateAlong f s).descendAlong t = c.descendAlong t :=
          ih (fun h => hst (List.cons_prefix_cons.mpr ⟨rfl, h⟩))
            (fun h => hts (List.cons_prefix_cons.mpr ⟨rfl, h⟩)) c
        rw [if_pos rfl]
        cases n.child? a with
        | none => rfl
        | some c => exact h c
      · rw [if_neg hab]

/-- An update along `s ++ u` is an update along `s` that updates along `u` from there. -/
theorem updateAlong_append (n : Node) (s u : List String) :
    n.updateAlong f (s ++ u) = n.updateAlong (·.updateAlong f u) s := by
  induction s generalizing n with
  | nil => rw [List.nil_append, updateAlong_nil]
  | cons a s ih =>
    rw [List.cons_append, updateAlong_cons, updateAlong_cons]
    congr 1
    induction n.children with
    | nil => rw [updateChild_nil, updateChild_nil]
    | cons c cs ihc =>
      by_cases hc : c.name = a
      · rw [updateChild_cons_of_eq hc, updateChild_cons_of_eq hc, ih]
      · rw [updateChild_cons_of_ne hc, updateChild_cons_of_ne hc, ihc]

/-- Updates that agree on the node reached are the same update. -/
theorem updateAlong_congr {n : Node} {s : List String}
    (h : ∀ m, n.descendAlong s = some m → f m = g m) : n.updateAlong f s = n.updateAlong g s := by
  induction s generalizing n with
  | nil => rw [updateAlong_nil, updateAlong_nil]; exact h n rfl
  | cons a r ih =>
    rw [updateAlong_cons, updateAlong_cons]
    congr 1
    -- the hypothesis only speaks of the first child called `a`, found along the list
    have key : ∀ cs : List Node,
        (∀ m, (cs.find? (·.name = a)).bind (·.descendAlong r) = some m → f m = g m) →
          updateChild f a r cs = updateChild g a r cs := by
      intro cs
      induction cs with
      | nil => intro _; rw [updateChild_nil, updateChild_nil]
      | cons c cs ihc =>
        intro hcs
        by_cases hc : c.name = a
        · have hfind : (c :: cs).find? (·.name = a) = some c :=
            List.find?_cons_of_pos (by simpa using hc)
          rw [updateChild_cons_of_eq hc, updateChild_cons_of_eq hc,
            ih fun m hm => hcs m (by rw [hfind]; exact hm)]
        · have hfind : (c :: cs).find? (·.name = a) = cs.find? (·.name = a) :=
            List.find?_cons_of_neg (by simpa using hc)
          rw [updateChild_cons_of_ne hc, updateChild_cons_of_ne hc,
            ihc fun m hm => hcs m (by rw [hfind]; exact hm)]
    exact key n.children h

@[simp] theorem updateAlong_id (n : Node) (s : List String) : n.updateAlong id s = n := by
  induction s generalizing n with
  | nil => rw [updateAlong_nil]; rfl
  | cons a r ih =>
    rw [updateAlong_cons]
    have key : ∀ cs : List Node, updateChild id a r cs = cs := by
      intro cs
      induction cs with
      | nil => rw [updateChild_nil]
      | cons c cs ihc =>
        by_cases hc : c.name = a
        · rw [updateChild_cons_of_eq hc, ih]
        · rw [updateChild_cons_of_ne hc, ihc]
    rw [key]
    cases n
    rfl

/-- An update along a path that leads nowhere changes nothing. -/
theorem updateAlong_of_descendAlong_eq_none {n : Node} {s : List String}
    (h : n.descendAlong s = none) : n.updateAlong f s = n := by
  rw [updateAlong_congr (g := id) (fun m hm => by rw [h] at hm; cases hm), updateAlong_id]

/-- An update that keeps the node it reaches keeps the tree. -/
theorem updateAlong_eq_self {n m : Node} {s : List String} (h : n.descendAlong s = some m)
    (hm : f m = m) : n.updateAlong f s = n := by
  rw [updateAlong_congr (g := id) (fun m' hm' => by rw [h] at hm'; cases hm'; exact hm),
    updateAlong_id]

/-- Two updates along one path are one update, when the first keeps names. -/
theorem updateAlong_updateAlong (hg : KeepsName g) (n : Node) (s : List String) :
    (n.updateAlong g s).updateAlong f s = n.updateAlong (f ∘ g) s := by
  induction s generalizing n with
  | nil => rw [updateAlong_nil, updateAlong_nil, updateAlong_nil]; rfl
  | cons a r ih =>
    rw [updateAlong_cons, updateAlong_cons, updateAlong_cons]
    congr 1
    induction n.children with
    | nil => rw [updateChild_nil, updateChild_nil, updateChild_nil]
    | cons c cs ihc =>
      by_cases hc : c.name = a
      · have hname : (c.updateAlong g r).name = a := (name_updateAlong hg c r).trans hc
        rw [updateChild_cons_of_eq hc, updateChild_cons_of_eq hname,
          updateChild_cons_of_eq hc, ih]
      · rw [updateChild_cons_of_ne hc, updateChild_cons_of_ne hc, updateChild_cons_of_ne hc,
          ihc]

/-- Updates of two different children commute. -/
theorem updateChild_comm (hf : KeepsName f) (hg : KeepsName g) {a b : String} (hab : a ≠ b)
    (r t : List String) (cs : List Node) :
    updateChild g b t (updateChild f a r cs) = updateChild f a r (updateChild g b t cs) := by
  induction cs with
  | nil => rw [updateChild_nil, updateChild_nil, updateChild_nil]
  | cons c cs ih =>
    by_cases hca : c.name = a
    · have hcb : c.name ≠ b := fun h => hab (hca.symm.trans h)
      have hca' : (c.updateAlong f r).name ≠ b := by rw [name_updateAlong hf]; exact hcb
      rw [updateChild_cons_of_eq hca, updateChild_cons_of_ne hca', updateChild_cons_of_ne hcb,
        updateChild_cons_of_eq hca]
    · by_cases hcb : c.name = b
      · have hcb' : (c.updateAlong g t).name ≠ a := by rw [name_updateAlong hg]; exact hca
        rw [updateChild_cons_of_ne hca, updateChild_cons_of_eq hcb, updateChild_cons_of_eq hcb,
          updateChild_cons_of_ne hcb']
      · rw [updateChild_cons_of_ne hca, updateChild_cons_of_ne hcb, updateChild_cons_of_ne hcb,
          updateChild_cons_of_ne hca, ih]

/-- Updates along paths neither of which extends the other commute. -/
theorem updateAlong_comm (hf : KeepsName f) (hg : KeepsName g) {s t : List String}
    (hst : ¬ s <+: t) (hts : ¬ t <+: s) (n : Node) :
    (n.updateAlong f s).updateAlong g t = (n.updateAlong g t).updateAlong f s := by
  induction s generalizing n t with
  | nil => exact absurd (List.nil_prefix) hst
  | cons a s ih =>
    cases t with
    | nil => exact absurd (List.nil_prefix) hts
    | cons b t =>
      rw [updateAlong_cons, updateAlong_cons, updateAlong_cons, updateAlong_cons]
      congr 1
      by_cases hab : a = b
      · subst hab
        have hst' : ¬ s <+: t := fun h => hst (List.cons_prefix_cons.mpr ⟨rfl, h⟩)
        have hts' : ¬ t <+: s := fun h => hts (List.cons_prefix_cons.mpr ⟨rfl, h⟩)
        induction n.children with
        | nil => rw [updateChild_nil, updateChild_nil, updateChild_nil]
        | cons c cs ihc =>
          by_cases hc : c.name = a
          · rw [updateChild_cons_of_eq hc, updateChild_cons_of_eq hc,
              updateChild_cons_of_eq ((name_updateAlong hf c s).trans hc),
              updateChild_cons_of_eq ((name_updateAlong hg c t).trans hc), ih hst' hts']
          · rw [updateChild_cons_of_ne hc, updateChild_cons_of_ne hc, updateChild_cons_of_ne hc,
              updateChild_cons_of_ne hc, ihc]
      · exact updateChild_comm hf hg hab s t n.children

/-- Erasing the child `a` of the node at `s` keeps every path that does not pass through it. -/
theorem isSome_descendAlong_eraseChild {s t : List String} {a : String}
    (h : ¬ (s ++ [a]) <+: t) (n : Node) :
    ((n.updateAlong (eraseChild a) s).descendAlong t).isSome = (n.descendAlong t).isSome := by
  have hf : KeepsName (eraseChild a) := keepsName_eraseChild a
  by_cases hts : t <+: s
  · -- above the erasure the nodes are there, with the erasure inside
    obtain ⟨v, rfl⟩ := hts
    rw [descendAlong_updateAlong_above hf]
    cases n.descendAlong t <;> rfl
  · by_cases hst : s <+: t
    · obtain ⟨u, rfl⟩ := hst
      cases u with
      | nil => exact absurd ⟨[], by rw [List.append_nil, List.append_nil]⟩ hts
      | cons x u =>
        -- below it the path leaves through a child other than `a`
        have hxa : a ≠ x := by
          intro hax
          subst hax
          exact h ⟨u, by rw [List.append_assoc, List.singleton_append]⟩
        rw [descendAlong_updateAlong_append hf, descendAlong_append]
        cases n.descendAlong s with
        | none => rfl
        | some m =>
          show (((eraseChild a m).child? x).bind (·.descendAlong u)).isSome =
            ((m.child? x).bind (·.descendAlong u)).isSome
          rw [child?_eraseChild_of_ne hxa]
    · rw [descendAlong_updateAlong_away hf hst hts]

/-! ## Appending, then updating the new child -/

theorem updateChild_append_fresh {e : Node} {cs : List Node} (h : ∀ c ∈ cs, c.name ≠ e.name)
    (u : List String) : updateChild f e.name u (cs ++ [e]) = cs ++ [e.updateAlong f u] := by
  induction cs with
  | nil => rw [List.nil_append, updateChild_cons_of_eq rfl]; rfl
  | cons c cs ih =>
    rw [List.cons_append, updateChild_cons_of_ne (h c List.mem_cons_self),
      ih fun d hd => h d (List.mem_cons_of_mem c hd)]
    rfl

/-- An update along the name of a child just appended, which no other child has, reaches it. -/
theorem appendChild_updateAlong_fresh {z e : Node} (hz : z.hasChild e.name = false)
    (u : List String) :
    (appendChild e z).updateAlong f (e.name :: u) = appendChild (e.updateAlong f u) z := by
  rw [updateAlong_cons]
  have hfresh : ∀ c ∈ z.children, c.name ≠ e.name := by
    intro c hc hce
    have := List.any_eq_false.mp hz c hc
    simp [hce] at this
  show { z with children := updateChild f e.name u (z.children ++ [e]) } =
    { z with children := z.children ++ [e.updateAlong f u] }
  rw [updateChild_append_fresh hfresh]

/-- Appending a fresh child and then updating inside it is appending the updated child. -/
theorem updateAlong_appendChild_fresh {n z e : Node} {s : List String} {a : String}
    (h : n.descendAlong s = some z) (he : e.name = a) (hz : z.hasChild a = false)
    (u : List String) :
    (n.updateAlong (appendChild e) s).updateAlong f (s ++ a :: u) =
      n.updateAlong (appendChild (e.updateAlong f u)) s := by
  subst he
  rw [updateAlong_append, updateAlong_updateAlong (keepsName_appendChild e)]
  apply updateAlong_congr
  intro m hm
  rw [h] at hm
  cases hm
  exact appendChild_updateAlong_fresh hz u

/-- Erasing a child undoes any update inside it. -/
theorem eraseChild_updateAlong_cons (hf : KeepsName f) (a : String) (u : List String)
    (n : Node) : eraseChild a (n.updateAlong f (a :: u)) = eraseChild a n := by
  rw [updateAlong_cons]
  show { n with children := (updateChild f a u n.children).eraseP (·.name = a) } =
    { n with children := n.children.eraseP (·.name = a) }
  congr 1
  induction n.children with
  | nil => rw [updateChild_nil]
  | cons c cs ih =>
    by_cases hc : c.name = a
    · rw [updateChild_cons_of_eq hc,
        List.eraseP_cons_of_pos (by simpa using (name_updateAlong hf c u).trans hc),
        List.eraseP_cons_of_pos (by simpa using hc)]
    · rw [updateChild_cons_of_ne hc, List.eraseP_cons_of_neg (by simpa using hc),
        List.eraseP_cons_of_neg (by simpa using hc), ih]

/-- Erasing a child undoes any update inside it, seen from the whole tree. -/
theorem updateAlong_eraseChild_inside (hf : KeepsName f) (n : Node) (s : List String)
    (a : String) (u : List String) :
    (n.updateAlong f (s ++ a :: u)).updateAlong (eraseChild a) s = n.updateAlong (eraseChild a) s := by
  rw [updateAlong_append, updateAlong_updateAlong (hf.updateAlong (a :: u))]
  apply updateAlong_congr
  intro m _
  exact eraseChild_updateAlong_cons hf a u m

/-! ## The repository's changes are updates -/

theorem modifyAlong_cons (n : Node) (a : String) (r : List String) :
    modifyAlong f n (a :: r) =
      (modifyChild f a r n.children).map fun cs => { n with children := cs } := by
  cases n
  rw [modifyAlong]

/-- Along a path that exists, `modifyAlong` succeeds with the update. -/
theorem modifyAlong_eq_some {n m : Node} {s : List String} (h : n.descendAlong s = some m) :
    modifyAlong f n s = some (n.updateAlong f s) := by
  induction s generalizing n with
  | nil => rw [modifyAlong, updateAlong_nil]
  | cons a r ih =>
    rw [modifyAlong_cons, updateAlong_cons]
    -- the first child called `a` leads on to the node
    have key : ∀ cs : List Node, (cs.find? (·.name = a)).bind (·.descendAlong r) = some m →
        modifyChild f a r cs = some (updateChild f a r cs) := by
      intro cs
      induction cs with
      | nil => intro hcs; cases hcs
      | cons c cs ihc =>
        intro hcs
        by_cases hc : c.name = a
        · have hfind : (c :: cs).find? (·.name = a) = some c :=
            List.find?_cons_of_pos (by simpa using hc)
          rw [hfind, Option.bind_some] at hcs
          rw [modifyChild, if_pos hc, updateChild_cons_of_eq hc, ih hcs]
          rfl
        · have hfind : (c :: cs).find? (·.name = a) = cs.find? (·.name = a) :=
            List.find?_cons_of_neg (by simpa using hc)
          rw [hfind] at hcs
          rw [modifyChild, if_neg hc, updateChild_cons_of_ne hc, ihc hcs]
          rfl
    rw [key n.children h]
    rfl

/-- Along a path that leads nowhere, `modifyAlong` fails. -/
theorem modifyAlong_eq_none {n : Node} {s : List String} (h : n.descendAlong s = none) :
    modifyAlong f n s = none := by
  induction s generalizing n with
  | nil => cases h
  | cons a r ih =>
    rw [modifyAlong_cons]
    have key : ∀ cs : List Node, (cs.find? (·.name = a)).bind (·.descendAlong r) = none →
        modifyChild f a r cs = none := by
      intro cs
      induction cs with
      | nil => intro _; rw [modifyChild]
      | cons c cs ihc =>
        intro hcs
        by_cases hc : c.name = a
        · have hfind : (c :: cs).find? (·.name = a) = some c :=
            List.find?_cons_of_pos (by simpa using hc)
          rw [hfind, Option.bind_some] at hcs
          rw [modifyChild, if_pos hc, ih hcs]
          rfl
        · have hfind : (c :: cs).find? (·.name = a) = cs.find? (·.name = a) :=
            List.find?_cons_of_neg (by simpa using hc)
          rw [hfind] at hcs
          rw [modifyChild, if_neg hc, ihc hcs]
          rfl
    rw [key n.children h]
    rfl

end Update

end ContentSync.Node
