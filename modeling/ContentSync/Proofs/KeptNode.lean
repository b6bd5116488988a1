import ContentSync.Proofs.NodeUpdate

/-!
# A node kept along a path

A frame statement about the tree watches one path `q`: the node there keeps its own state (its
primary type, mixins and properties), and every node on the way to it keeps children with valid
names, which is what makes the texts of paths below them mean what their segments say.
`Node.KeptAt q m0 root` says both, against the state of a node `m0`.

Every change of the tree in this library is an update of one node (`Node.updateAlong`). The
main statement, `KeptAt.updateAlong`, says when such an update keeps the watched node: the
update must keep the node's state if it is the watched one, keep the lookups that lead to it,
and give valid names to the children on its way. The lemmas after it apply this to the updates
the repository makes: changing a node's own state, appending a child, erasing one.
-/

namespace ContentSync

namespace Node

variable {f g : Node → Node}

/-! ## A node's own state -/

/-- The primary type, mixins and properties of `m` are those of `n`. -/
def SameState (m n : Node) : Prop :=
  m.primaryType = n.primaryType ∧ m.mixins = n.mixins ∧ m.properties = n.properties

theorem SameState.refl (n : Node) : SameState n n := ⟨rfl, rfl, rfl⟩

theorem SameState.trans {m n k : Node} (h₁ : SameState m n) (h₂ : SameState n k) :
    SameState m k :=
  ⟨h₁.1.trans h₂.1, h₁.2.1.trans h₂.2.1, h₁.2.2.trans h₂.2.2⟩

/-- An update below a node leaves the node's own state alone. -/
theorem sameState_updateAlong_cons (n : Node) (b : String) (v : List String) :
    SameState (n.updateAlong f (b :: v)) n := by
  rw [updateAlong_cons]
  exact SameState.refl n

/-- An update below a node keeps the names of its children. -/
theorem childNames_updateAlong_cons (hf : KeepsName f) (n : Node) (b : String) (v : List String) :
    (n.updateAlong f (b :: v)).children.map (·.name) = n.children.map (·.name) := by
  rw [updateAlong_cons]
  exact map_name_updateChild hf b v n.children

/-- A node whose children are those of `n` has the children lookups of `n`. -/
theorem descendAlong_cons_of_children {m n : Node} (h : m.children = n.children) (b : String)
    (v : List String) : m.descendAlong (b :: v) = n.descendAlong (b :: v) := by
  rw [descendAlong_cons, descendAlong_cons]
  unfold child?
  rw [h]

/-! ## Where an update meets a path -/

/-- How the node at `a` looks after an update at `t` that keeps the lookups along `a` below `t`:
it is the node that was there, or the updated node, or a node above the update, changed below. -/
theorem descendAlong_updateAlong_cases (hg : KeepsName g) (root : Node) (t a : List String)
    (hchild : ∀ m b, root.descendAlong t = some m → t ++ [b] <+: a → (g m).child? b = m.child? b) :
    (root.updateAlong g t).descendAlong a = root.descendAlong a ∨
      (a = t ∧ (root.updateAlong g t).descendAlong a = (root.descendAlong a).map g) ∨
      (∃ b v, t = a ++ b :: v ∧
        (root.updateAlong g t).descendAlong a = (root.descendAlong a).map (·.updateAlong g (b :: v))) := by
  by_cases hat : a <+: t
  · obtain ⟨v, rfl⟩ := hat
    cases v with
    | nil =>
      rw [List.append_nil]
      exact Or.inr (Or.inl ⟨rfl, descendAlong_updateAlong_self hg root a⟩)
    | cons b v => exact Or.inr (Or.inr ⟨b, v, rfl, descendAlong_updateAlong_above hg root a (b :: v)⟩)
  · by_cases hta : t <+: a
    · obtain ⟨u, rfl⟩ := hta
      cases u with
      | nil => exact absurd ⟨[], by rw [List.append_nil, List.append_nil]⟩ hat
      | cons b v =>
        -- below the update, the lookup of `b` is the one it was
        left
        rw [descendAlong_updateAlong_append hg, descendAlong_append]
        cases hm : root.descendAlong t with
        | none => rfl
        | some m =>
          have hb : (g m).child? b = m.child? b :=
            hchild m b hm ⟨v, by rw [List.append_assoc, List.singleton_append]⟩
          rw [Option.bind_some, Option.bind_some, descendAlong_cons, descendAlong_cons, hb]
    · exact Or.inl (descendAlong_updateAlong_away hg hta hat root)

/-! ## The watched node -/

/-- The tree `root` has, at `q`, a node in the state of `m0`, and every node on the way to it,
itself included, has children with valid names. -/
structure KeptAt (q : List String) (m0 root : Node) : Prop where
  state : ∃ m, root.descendAlong q = some m ∧ SameState m m0
  named : ∀ a, a <+: q → ∀ n, root.descendAlong a = some n → ∀ c ∈ n.children, Path.ValidName c.name

/-- In a tree whose names are valid everywhere, every node is kept in its own state. -/
theorem keptAt_of_everywhere {q : List String} {root m : Node}
    (hw : Everywhere ValidChildNames root) (hm : root.descendAlong q = some m) :
    KeptAt q m root :=
  ⟨⟨m, hm, SameState.refl m⟩, fun _ _ _ hn c hc => (hw.descendAlong hn).self c hc⟩

/-- The watched node exists. -/
theorem KeptAt.isSome {q : List String} {m0 root : Node} (h : KeptAt q m0 root) :
    (root.descendAlong q).isSome := by
  obtain ⟨m, hm, _⟩ := h.state
  rw [hm]
  rfl

/-- Every node on the way to the watched node exists. -/
theorem KeptAt.isSome_of_prefix {q a : List String} {m0 root : Node} (h : KeptAt q m0 root)
    (ha : a <+: q) : (root.descendAlong a).isSome := by
  obtain ⟨v, rfl⟩ := ha
  obtain ⟨m, hm, _⟩ := h.state
  rw [descendAlong_append] at hm
  cases hn : root.descendAlong a with
  | none => rw [hn] at hm; cases hm
  | some n => rfl

/-- An update at `t` keeps the watched node when it keeps the node's state if `t` is the watched
path, keeps the lookups that lead there, and leaves valid names to children on the way. -/
theorem KeptAt.updateAlong {q t : List String} {m0 root : Node} (hg : KeepsName g)
    (h : KeptAt q m0 root)
    (hstate : ∀ m, root.descendAlong t = some m → t = q → SameState (g m) m)
    (hchild : ∀ m b, root.descendAlong t = some m → t ++ [b] <+: q → (g m).child? b = m.child? b)
    (hnames : ∀ m, root.descendAlong t = some m → t <+: q →
      (∀ c ∈ m.children, Path.ValidName c.name) → ∀ c ∈ (g m).children, Path.ValidName c.name) :
    KeptAt q m0 (root.updateAlong g t) := by
  have hcases : ∀ a, a <+: q → _ := fun a ha =>
    descendAlong_updateAlong_cases hg root t a fun m b hm hb => hchild m b hm (hb.trans ha)
  constructor
  · -- the watched node: unchanged, updated in place, or changed below
    obtain ⟨m, hm, hsame⟩ := h.state
    rcases hcases q List.prefix_rfl with heq | ⟨rfl, heq⟩ | ⟨b, v, rfl, heq⟩
    · exact ⟨m, by rw [heq, hm], hsame⟩
    · exact ⟨g m, by rw [heq, hm]; rfl, (hstate m hm rfl).trans hsame⟩
    · exact ⟨m.updateAlong g (b :: v), by rw [heq, hm]; rfl,
        (sameState_updateAlong_cons m b v).trans hsame⟩
  · -- the nodes on the way keep valid names for their children
    intro a ha n hn c hc
    rcases hcases a ha with heq | ⟨rfl, heq⟩ | ⟨b, v, rfl, heq⟩
    · rw [heq] at hn
      exact h.named a ha n hn c hc
    · rw [heq] at hn
      obtain ⟨m, hm, rfl⟩ := Option.map_eq_some_iff.mp hn
      exact hnames m hm ha (h.named a ha m hm) c hc
    · rw [heq] at hn
      obtain ⟨m, hm, rfl⟩ := Option.map_eq_some_iff.mp hn
      have hname : c.name ∈ m.children.map (·.name) := by
        rw [← childNames_updateAlong_cons hg m b v]
        exact List.mem_map_of_mem hc
      obtain ⟨d, hd, hdc⟩ := List.mem_map.mp hname
      rw [← hdc]
      exact h.named a ha m hm d hd

/-! ## The updates the repository makes -/

section Updates

variable {q t : List String} {m0 root : Node}

/-- Changing the own state of a node other than the watched one keeps the watched node. -/
theorem KeptAt.updateAlong_state (hg : KeepsName g) (hkids : ∀ m, (g m).children = m.children)
    (h : KeptAt q m0 root) (ht : t ≠ q) : KeptAt q m0 (root.updateAlong g t) := by
  refine h.updateAlong hg (fun _ _ htq => absurd htq ht) (fun m b _ _ => ?_) fun m _ _ hnames => ?_
  · unfold child?
    rw [hkids]
  · rw [hkids]
    exact hnames

/-- Appending a child with a valid name keeps the watched node: the lookups on its way are of
children that were there. -/
theorem KeptAt.updateAlong_appendChild {c : Node} (h : KeptAt q m0 root) (hc : Path.ValidName c.name) :
    KeptAt q m0 (root.updateAlong (appendChild c) t) := by
  refine h.updateAlong (keepsName_appendChild c) (fun m _ _ => SameState.refl m)
    (fun m b hm hb => ?_) fun m _ _ hnames d hd => ?_
  · -- the child `b` on the way to the watched node is there already
    have hsome := h.isSome_of_prefix hb
    rw [descendAlong_append, hm, Option.bind_some, descendAlong_cons] at hsome
    cases hcb : m.child? b with
    | none => rw [hcb] at hsome; cases hsome
    | some d => exact (child?_appendChild_of_hasChild (hasChild_of_child? hcb) c).trans hcb
  · rcases List.mem_append.mp hd with hd | hd
    · exact hnames d hd
    · rw [List.mem_singleton.mp hd]
      exact hc

/-- Erasing a child that is not on the way to the watched node keeps it. -/
theorem KeptAt.updateAlong_eraseChild {a : String} (h : KeptAt q m0 root) (ha : ¬ t ++ [a] <+: q) :
    KeptAt q m0 (root.updateAlong (eraseChild a) t) := by
  refine h.updateAlong (keepsName_eraseChild a) (fun m _ _ => SameState.refl m)
    (fun m b _ hb => ?_) fun m _ _ hnames d hd => hnames d (List.mem_of_mem_eraseP hd)
  have hab : a ≠ b := by
    rintro rfl
    exact ha hb
  exact child?_eraseChild_of_ne hab m

end Updates

end Node

end ContentSync
