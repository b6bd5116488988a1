import ContentSync.Proofs.VersionCheckin

/-!
# Writes to a staged node, and writing them again

Every change a version document makes to a staged node of the version storage, other than
creating it, is one of three writes: it gives the node a primary type, replaces its mixins, or
sets a property (`StagedWrite`). A node changed by a list of writes is `Staged.writeAll`.

Each write overwrites one slot of the node: the type, the mixins, or the property of one name
(`StagedWrite.slot`). Two writes to one slot leave the second (`apply_apply_of_slot_eq`); two
writes to different slots commute, as long as a property the first one sets is there already,
so that setting it appends nothing (`apply_comm`). From these two facts alone, writing a list
of writes a second time changes nothing (`writeAll_writeAll_self`): the first write of the list
is either overwritten by a later one to its slot, or it can be moved past all of them.

Main statements: `Staged.writeAll_writeAll_self`, `Staged.Written.writeAll_self`.
-/

namespace ContentSync

open Node

/-! ## Setting properties -/

theorem mem_names_setPropertyIn {p : Property} {a : String} {ps : List Property} :
    a ∈ (setPropertyIn p ps).map (·.name) ↔ a = p.name ∨ a ∈ ps.map (·.name) := by
  induction ps with
  | nil => simp [setPropertyIn]
  | cons d ps ih =>
    rw [setPropertyIn]
    split
    · rename_i hd
      simp [hd]
    · simp only [List.map_cons, List.mem_cons, ih]
      tauto

/-- Setting two properties of one name keeps the second. -/
theorem setPropertyIn_setPropertyIn_of_name_eq {p q : Property} (h : p.name = q.name)
    (ps : List Property) : setPropertyIn q (setPropertyIn p ps) = setPropertyIn q ps := by
  induction ps with
  | nil => simp [setPropertyIn, h]
  | cons d ps ih =>
    by_cases hd : d.name = p.name
    · rw [setPropertyIn, if_pos hd, setPropertyIn, if_pos h, setPropertyIn, if_pos (hd.trans h)]
    · have hdq : d.name ≠ q.name := h ▸ hd
      rw [setPropertyIn, if_neg hd, setPropertyIn, if_neg hdq, setPropertyIn, if_neg hdq, ih]

/-- Setting two properties of different names commutes once the first one is there: then
neither is appended, and each replaces its own. -/
theorem setPropertyIn_comm {p q : Property} (hne : p.name ≠ q.name) {ps : List Property}
    (hp : p.name ∈ ps.map (·.name)) :
    setPropertyIn q (setPropertyIn p ps) = setPropertyIn p (setPropertyIn q ps) := by
  induction ps with
  | nil => cases hp
  | cons d ps ih =>
    by_cases hdp : d.name = p.name
    · simp only [setPropertyIn, hdp, hne, if_true, if_false]
    · have hp' : p.name ∈ ps.map (·.name) := by
        simp only [List.map_cons, List.mem_cons] at hp
        exact hp.resolve_left fun e => hdp e.symm
      by_cases hdq : d.name = q.name
      · have hqp : q.name ≠ p.name := fun e => hdp (hdq.trans e)
        simp only [setPropertyIn, hdq, hqp, if_true, if_false]
      · simp only [setPropertyIn, hdp, hdq, if_false, ih hp']

/-! ## Writes -/

/-- One change of a staged node's own state. -/
inductive StagedWrite where
  /-- Gives the node a primary type. -/
  | type (t : String)
  /-- Replaces the mixins of the node. -/
  | mixins (ms : List String)
  /-- Sets a property, replacing one of the same name in place. -/
  | property (p : Property)

/-- What a write overwrites: the type, the mixins, or the property of a name. -/
inductive WriteSlot where
  | type
  | mixins
  | property (name : String)
deriving DecidableEq

namespace StagedWrite

/-- The slot a write overwrites. -/
def slot : StagedWrite → WriteSlot
  | .type _ => .type
  | .mixins _ => .mixins
  | .property p => .property p.name

/-- The node after the write. -/
def apply : StagedWrite → Staged → Staged
  | .type t, s => { s with primaryType := some t }
  | .mixins ms, s => { s with mixins := ms }
  | .property p, s => s.setProperty p

/-- The write finds its slot in `s`: a property it sets is there already, so the write
replaces it in place. -/
def Placed (w : StagedWrite) (s : Staged) : Prop :=
  ∀ p, w = .property p → p.name ∈ s.properties.map (·.name)

/-- Of two writes to one slot, the second is what stays. -/
theorem apply_apply_of_slot_eq {v w : StagedWrite} (h : v.slot = w.slot) (s : Staged) :
    w.apply (v.apply s) = w.apply s := by
  cases v <;> cases w <;> simp only [slot, reduceCtorEq, WriteSlot.property.injEq] at h
  · rfl
  · rfl
  · simp only [apply, Staged.setProperty, setPropertyIn_setPropertyIn_of_name_eq h]

/-- Writes to different slots commute when the first finds its slot. -/
theorem apply_comm {v w : StagedWrite} {s : Staged} (h : v.slot ≠ w.slot) (hv : v.Placed s) :
    w.apply (v.apply s) = v.apply (w.apply s) := by
  cases v <;> cases w <;> simp only [slot, ne_eq, not_true_eq_false, WriteSlot.property.injEq] at h
  all_goals try rfl
  rename_i p q
  simp only [apply, Staged.setProperty, setPropertyIn_comm h (hv p rfl)]

theorem placed_apply_self (w : StagedWrite) (s : Staged) : w.Placed (w.apply s) := by
  intro p hp
  subst hp
  exact mem_names_setPropertyIn.mpr (.inl rfl)

theorem Placed.apply {w : StagedWrite} {s : Staged} (h : w.Placed s) (v : StagedWrite) :
    w.Placed (v.apply s) := by
  intro p hp
  have hmem := h p hp
  cases v with
  | property q => exact mem_names_setPropertyIn.mpr (.inr hmem)
  | _ => exact hmem

theorem apply_withChildren (w : StagedWrite) (s : Staged) (cs : List Staged) :
    w.apply { s with children := cs } = { w.apply s with children := cs } := by
  cases w <;> rfl

theorem shape_apply (w : StagedWrite) (s : Staged) :
    (w.apply s).name = s.name ∧ (w.apply s).children = s.children ∧ (w.apply s).fresh = s.fresh := by
  cases w <;> exact ⟨rfl, rfl, rfl⟩

theorem ofNode_build_apply (w : StagedWrite) (s : Staged) :
    Staged.ofNode (w.apply s).build = w.apply (Staged.ofNode s.build) := by
  cases s
  cases w <;> rfl

end StagedWrite

namespace Staged

/-- The node after a list of writes, made in order. -/
def writeAll (s : Staged) (ws : List StagedWrite) : Staged :=
  ws.foldl (fun s w => w.apply s) s

@[simp] theorem writeAll_nil (s : Staged) : s.writeAll [] = s := rfl

@[simp] theorem writeAll_cons (s : Staged) (w : StagedWrite) (ws : List StagedWrite) :
    s.writeAll (w :: ws) = (w.apply s).writeAll ws := rfl

theorem writeAll_append (s : Staged) (ws ws' : List StagedWrite) :
    s.writeAll (ws ++ ws') = (s.writeAll ws).writeAll ws' :=
  List.foldl_append

end Staged

namespace StagedWrite

theorem Placed.writeAll {w : StagedWrite} {s : Staged} (h : w.Placed s)
    (ws : List StagedWrite) : w.Placed (s.writeAll ws) := by
  induction ws generalizing s with
  | nil => exact h
  | cons v ws ih => exact ih (h.apply v)

end StagedWrite

namespace Staged

/-- A write whose slot a later write overwrites leaves no trace. -/
theorem writeAll_apply_of_overwritten {w : StagedWrite} {s : Staged} (hw : w.Placed s)
    {ws : List StagedWrite} (hover : ∃ v ∈ ws, v.slot = w.slot) :
    (w.apply s).writeAll ws = s.writeAll ws := by
  induction ws generalizing s with
  | nil =>
    obtain ⟨v, hv, -⟩ := hover
    cases hv
  | cons v ws ih =>
    rw [writeAll_cons, writeAll_cons]
    by_cases hslot : w.slot = v.slot
    · rw [StagedWrite.apply_apply_of_slot_eq hslot]
    · -- the write moves past `v`, and some later write still overwrites it
      obtain ⟨v', hv', hv'slot⟩ := hover
      have hlater : ∃ v ∈ ws, v.slot = w.slot := by
        rcases List.mem_cons.mp hv' with rfl | hv'
        · exact absurd hv'slot.symm hslot
        · exact ⟨v', hv', hv'slot⟩
      rw [StagedWrite.apply_comm hslot hw]
      exact ih (hw.apply v) hlater

/-- A write whose slot no later write touches can be made last. -/
theorem writeAll_apply_of_untouched {w : StagedWrite} {s : Staged} (hw : w.Placed s)
    {ws : List StagedWrite} (huntouched : ∀ v ∈ ws, v.slot ≠ w.slot) :
    (w.apply s).writeAll ws = w.apply (s.writeAll ws) := by
  induction ws generalizing s with
  | nil => rfl
  | cons v ws ih =>
    rw [writeAll_cons, writeAll_cons,
      StagedWrite.apply_comm (fun h => huntouched v List.mem_cons_self h.symm) hw]
    exact ih (hw.apply v) fun v' hv' => huntouched v' (List.mem_cons_of_mem v hv')

/-- Writing a list of writes a second time changes nothing. -/
theorem writeAll_writeAll_self (s : Staged) (ws : List StagedWrite) :
    (s.writeAll ws).writeAll ws = s.writeAll ws := by
  induction ws generalizing s with
  | nil => rfl
  | cons w ws ih =>
    -- after the first pass the slot of `w` is there, so its second write can be moved
    set Y := (w.apply s).writeAll ws with hY
    have hplaced : w.Placed Y := (StagedWrite.placed_apply_self w s).writeAll ws
    rw [writeAll_cons, writeAll_cons, ← hY]
    by_cases hover : ∃ v ∈ ws, v.slot = w.slot
    · rw [writeAll_apply_of_overwritten hplaced hover, hY, ih]
    · have huntouched : ∀ v ∈ ws, v.slot ≠ w.slot := fun v hv h => hover ⟨v, hv, h⟩
      rw [writeAll_apply_of_untouched hplaced huntouched, hY, ih,
        ← writeAll_apply_of_untouched (StagedWrite.placed_apply_self w s) huntouched,
        StagedWrite.apply_apply_of_slot_eq rfl]

theorem shape_writeAll (s : Staged) (ws : List StagedWrite) :
    (s.writeAll ws).name = s.name ∧ (s.writeAll ws).children = s.children ∧
      (s.writeAll ws).fresh = s.fresh := by
  induction ws generalizing s with
  | nil => exact ⟨rfl, rfl, rfl⟩
  | cons w ws ih =>
    obtain ⟨h₁, h₂, h₃⟩ := ih (w.apply s)
    obtain ⟨h₄, h₅, h₆⟩ := StagedWrite.shape_apply w s
    exact ⟨h₁.trans h₄, h₂.trans h₅, h₃.trans h₆⟩

@[simp] theorem name_writeAll (s : Staged) (ws : List StagedWrite) :
    (s.writeAll ws).name = s.name :=
  (shape_writeAll s ws).1

@[simp] theorem children_writeAll (s : Staged) (ws : List StagedWrite) :
    (s.writeAll ws).children = s.children :=
  (shape_writeAll s ws).2.1

@[simp] theorem fresh_writeAll (s : Staged) (ws : List StagedWrite) :
    (s.writeAll ws).fresh = s.fresh :=
  (shape_writeAll s ws).2.2

theorem keepsShape_writeAll (ws : List StagedWrite) : KeepsShape (·.writeAll ws) :=
  fun s => ⟨name_writeAll s ws, children_writeAll s ws⟩

/-- Writes touch a node's own state only: they commute with replacing its children. -/
theorem writeAll_withChildren (s : Staged) (cs : List Staged) (ws : List StagedWrite) :
    ({ s with children := cs } : Staged).writeAll ws = { s.writeAll ws with children := cs } := by
  induction ws generalizing s with
  | nil => rfl
  | cons w ws ih => rw [writeAll_cons, StagedWrite.apply_withChildren, ih, writeAll_cons]

/-- Writing before building and copying back is writing after. -/
theorem ofNode_build_writeAll (s : Staged) (ws : List StagedWrite) :
    ofNode (s.writeAll ws).build = (ofNode s.build).writeAll ws := by
  induction ws generalizing s with
  | nil => rfl
  | cons w ws ih => rw [writeAll_cons, ih, StagedWrite.ofNode_build_apply, writeAll_cons]

theorem foldl_setProperty_eq_writeAll (s : Staged) (ps : List Property) :
    ps.foldl Staged.setProperty s = s.writeAll (ps.map .property) := by
  induction ps generalizing s with
  | nil => rfl
  | cons p ps ih => exact ih (s.setProperty p)

/-! ## Nodes that hold a list of writes -/

/-- The node holds the writes `ws`, made over some state of its own. -/
def Written (ws : List StagedWrite) (t : Staged) : Prop :=
  ∃ y : Staged, t = y.writeAll ws

theorem written_nil (t : Staged) : Written [] t := ⟨t, rfl⟩

theorem Written.writeAll {ws : List StagedWrite} {t : Staged} (h : Written ws t)
    (ws' : List StagedWrite) : Written (ws ++ ws') (t.writeAll ws') := by
  obtain ⟨y, rfl⟩ := h
  exact ⟨y, (writeAll_append y ws ws').symm⟩

theorem Written.withChildren {ws : List StagedWrite} {t : Staged} (h : Written ws t)
    (cs : List Staged) : Written ws { t with children := cs } := by
  obtain ⟨y, rfl⟩ := h
  exact ⟨{ y with children := cs }, (writeAll_withChildren y cs ws).symm⟩

theorem Written.ofNode_build {ws : List StagedWrite} {t : Staged} (h : Written ws t) :
    Written ws (ofNode t.build) := by
  obtain ⟨y, rfl⟩ := h
  exact ⟨ofNode y.build, ofNode_build_writeAll y ws⟩

/-- A node that holds a list of writes is left as it is by writing them again. -/
theorem Written.writeAll_self {ws : List StagedWrite} {t : Staged} (h : Written ws t) :
    t.writeAll ws = t := by
  obtain ⟨y, rfl⟩ := h
  exact writeAll_writeAll_self y ws

end Staged

end ContentSync
