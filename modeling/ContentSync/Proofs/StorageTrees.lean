import ContentSync.Proofs.HistoryShape
import ContentSync.Proofs.StagedNames

/-!
# The version storage, node by node

`Node.Shaped N p n` says that every node of the tree `n`, which sits at the path `p` below the
version storage, has the shape the storage asks for (`StorageShape`), and `Staged.Shaped` says
the same of a staged tree. A staged copy of a stored tree keeps the shape and building it back
keeps it; so do the changes the repository stages: updating the child of a name, putting a
history back along its path, and frozen copies of nodes, which hold neither histories nor
versions.

Main statements: `Staged.Shaped.withChild`, `Staged.Shaped.putAlong`, `Staged.Shaped.lookup`,
`Node.Shaped.updateAlong` and `Node.Shaped.identifier_of_version`.
-/

namespace ContentSync

/-! ## Children of a name -/

/-- A list of children has a first child of a name, or none of that name. -/
theorem exists_first_or_forall_ne {β : Type} (key : β → String) (name : String) (cs : List β) :
    (∃ l₁ c l₂, cs = l₁ ++ c :: l₂ ∧ (∀ d ∈ l₁, key d ≠ name) ∧ key c = name) ∨
      ∀ d ∈ cs, key d ≠ name := by
  cases hf : cs.find? (key · = name) with
  | none =>
    right
    intro d hd hdn
    exact absurd hdn (by simpa using List.find?_eq_none.mp hf d hd)
  | some c =>
    left
    obtain ⟨hc, l₁, l₂, hsplit, hfirst⟩ := List.find?_eq_some_iff_append.mp hf
    exact ⟨l₁, c, l₂, hsplit, fun d hd hdn => by simpa [hdn] using hfirst d hd, by simpa using hc⟩

theorem find?_eq_some_of_first {β : Type} {key : β → String} {name : String} {l₁ l₂ : List β}
    {c : β} (hfirst : ∀ d ∈ l₁, key d ≠ name) (hc : key c = name) :
    (l₁ ++ c :: l₂).find? (key · = name) = some c := by
  rw [List.find?_append, List.find?_eq_none.mpr (by simpa using hfirst), Option.none_or,
    List.find?_cons_of_pos (by simpa using hc)]

namespace Staged

variable {α : Type} {N : Nat} {p : List String} {s : Staged} {name : String}

theorem withChild_go_of_first (f : Staged → Staged × α) {l₁ l₂ : List Staged} {c : Staged}
    (hfirst : ∀ d ∈ l₁, d.name ≠ name) (hc : c.name = name) :
    (withChild.go name f (l₁ ++ c :: l₂)).1 = l₁ ++ (f c).1 :: l₂ := by
  induction l₁ with
  | nil => rw [List.nil_append, withChild_go_cons, if_pos hc, List.nil_append]
  | cons d ds ih =>
    rw [List.cons_append, withChild_go_cons, if_neg (hfirst d List.mem_cons_self),
      ih fun e he => hfirst e (List.mem_cons_of_mem d he), List.cons_append]

theorem withChild_go_of_forall_ne (f : Staged → Staged × α) :
    ∀ {cs : List Staged}, (∀ d ∈ cs, d.name ≠ name) →
      (withChild.go name f cs).1 = cs ++ [(f (blank name)).1]
  | [], _ => withChild_go_nil name f
  | d :: ds, hne => by
    rw [withChild_go_cons, if_neg (hne d List.mem_cons_self),
      withChild_go_of_forall_ne f fun e he => hne e (List.mem_cons_of_mem d he), List.cons_append]

theorem modifyChild_go_of_first (f : Staged → Staged) {l₁ l₂ : List Staged} {c : Staged}
    (hfirst : ∀ d ∈ l₁, d.name ≠ name) (hc : c.name = name) :
    modifyChild.go name f (l₁ ++ c :: l₂) = l₁ ++ f c :: l₂ := by
  induction l₁ with
  | nil => rw [List.nil_append, modifyChild.go, if_pos hc, List.nil_append]
  | cons d ds ih =>
    rw [List.cons_append, modifyChild.go, if_neg (hfirst d List.mem_cons_self),
      ih fun e he => hfirst e (List.mem_cons_of_mem d he), List.cons_append]

theorem modifyChild_go_of_forall_ne (f : Staged → Staged) :
    ∀ {cs : List Staged}, (∀ d ∈ cs, d.name ≠ name) → modifyChild.go name f cs = cs
  | [], _ => by rw [modifyChild.go]
  | d :: ds, hne => by
    rw [modifyChild.go, if_neg (hne d List.mem_cons_self),
      modifyChild_go_of_forall_ne f fun e he => hne e (List.mem_cons_of_mem d he)]

@[simp] theorem info_withChild (s : Staged) (name : String) (f : Staged → Staged × α) :
    (s.withChild name f).1.info = s.info :=
  rfl

@[simp] theorem info_modifyChild (s : Staged) (name : String) (f : Staged → Staged) :
    (s.modifyChild name f).info = s.info :=
  rfl

theorem info_putAlong (s : Staged) : ∀ (names : List String) (h : Staged),
    (s.putAlong names h).info = s.info
  | [], _ => rfl
  | [_], _ => rfl
  | _ :: _ :: _, _ => rfl

theorem info_typeIfFresh_of_settled {s : Staged} (hs : s.fresh = false) (ty : String) :
    s.typeIfFresh ty = s := by
  rw [typeIfFresh, hs]
  rfl

/-! ## Staged trees -/

/-- Every node of the staged tree, at its path below `p`, has the shape the version storage
asks for. -/
inductive Shaped (N : Nat) : List String → Staged → Prop
  | intro {p : List String} {s : Staged} : StorageShape N p s.info (s.children.map Staged.info) →
      (∀ c ∈ s.children, Shaped N (p ++ [c.name]) c) → Shaped N p s

theorem Shaped.self (h : s.Shaped N p) : StorageShape N p s.info (s.children.map Staged.info) := by
  cases h with
  | intro hs _ => exact hs

theorem Shaped.child (h : s.Shaped N p) {c : Staged} (hc : c ∈ s.children) :
    c.Shaped N (p ++ [c.name]) := by
  cases h with
  | intro _ hcs => exact hcs c hc

theorem Shaped.child? (h : s.Shaped N p) {c : Staged} (hc : s.child? name = some c) :
    c.Shaped N (p ++ [name]) :=
  name_of_child? hc ▸ h.child (List.mem_of_find?_eq_some hc)

theorem Shaped.mono (h : s.Shaped N p) {N' : Nat} (hN : N ≤ N') : s.Shaped N' p := by
  induction h with
  | intro hs _ ih => exact .intro (hs.mono hN) ih

/-- A node found along a path has the shape at the end of that path. -/
theorem Shaped.lookup : ∀ (names : List String) {p : List String} {s h : Staged}, s.Shaped N p →
    names.foldl (fun o name => o.bind (·.child? name)) (some s) = some h →
      h.Shaped N (p ++ names)
  | [], p, s, h, hs, hh => by
    cases hh
    rw [List.append_nil]
    exact hs
  | n :: ns, p, s, h, hs, hh => by
    rw [List.foldl_cons, Option.bind_some] at hh
    cases hc : s.child? n with
    | none => rw [hc, lookup_none] at hh; cases hh
    | some c =>
      rw [hc] at hh
      have := Shaped.lookup ns (hs.child? hc) hh
      rwa [List.append_assoc, List.singleton_append] at this

/-- Updating the child of a name: a child that is there changes only as `ChildInfo.Step`
allows, and a child that is added is no version and, in a history, neither named like a
version nor like the label node. -/
theorem Shaped.withChild (hs : s.Shaped N p) {f : Staged → Staged × α}
    (hold : ∀ c, s.child? name = some c → c.info.Step (f c).1.info ∧ (f c).1.Shaped N (p ++ [name]))
    (hnew : s.child? name = none → (f (blank name)).1.name = name ∧
      (f (blank name)).1.info.type ≠ Known.ntVersion ∧
      (s.info.type = Known.ntVersionHistory → ¬ VersionLike name ∧ name ≠ Known.versionLabels) ∧
      (f (blank name)).1.Shaped N (p ++ [name])) :
    (s.withChild name f).1.Shaped N p := by
  rw [withChild_fst]
  rcases exists_first_or_forall_ne (·.name) name s.children with
    ⟨l₁, c, l₂, hsplit, hfirst, hc⟩ | hnone
  · -- the first child of the name changes in place
    have hfind : s.child? name = some c := by
      unfold Staged.child?
      rw [hsplit]
      exact find?_eq_some_of_first hfirst hc
    obtain ⟨hstep, hshaped⟩ := hold c hfind
    rw [hsplit, withChild_go_of_first f hfirst hc]
    refine .intro ?_ fun d hd => ?_
    · have := hs.self
      rw [hsplit, List.map_append, List.map_cons] at this
      rw [List.map_append, List.map_cons]
      exact this.replace hstep
    · rcases List.mem_append.mp hd with hd | hd
      · exact hs.child (by rw [hsplit]; exact List.mem_append_left _ hd)
      · rcases List.mem_cons.mp hd with rfl | hd
        · have hname : (f c).1.name = name := hstep.name.trans hc
          rw [hname]
          exact hshaped
        · exact hs.child (by rw [hsplit]; simp [hd])
  · -- a blank child of the name is added at the end
    have hfind : s.child? name = none := by
      unfold Staged.child?
      exact List.find?_eq_none.mpr (by simpa using hnone)
    obtain ⟨hname, htype, hhist, hshaped⟩ := hnew hfind
    rw [withChild_go_of_forall_ne f hnone]
    refine .intro ?_ fun d hd => ?_
    · rw [List.map_append, List.map_singleton]
      have hn : (f (blank name)).1.info.name = name := hname
      exact hs.self.append htype fun ht => by rw [hn]; exact hhist ht
    · rcases List.mem_append.mp hd with hd | hd
      · exact hs.child hd
      · rw [List.mem_singleton.mp hd, hname]
        exact hshaped

/-- Changing the child of a name in place, as `ChildInfo.Step` allows. -/
theorem Shaped.modifyChild (hs : s.Shaped N p) {f : Staged → Staged}
    (hold : ∀ c, s.child? name = some c → c.info.Step (f c).info ∧ (f c).Shaped N (p ++ [name])) :
    (s.modifyChild name f).Shaped N p := by
  show Shaped N p { s with children := modifyChild.go name f s.children }
  rcases exists_first_or_forall_ne (·.name) name s.children with
    ⟨l₁, c, l₂, hsplit, hfirst, hc⟩ | hnone
  · have hfind : s.child? name = some c := by
      unfold Staged.child?
      rw [hsplit]
      exact find?_eq_some_of_first hfirst hc
    obtain ⟨hstep, hshaped⟩ := hold c hfind
    rw [hsplit, modifyChild_go_of_first f hfirst hc]
    refine .intro ?_ fun d hd => ?_
    · have := hs.self
      rw [hsplit, List.map_append, List.map_cons] at this
      show StorageShape N p s.info _
      rw [List.map_append, List.map_cons]
      exact this.replace hstep
    · rcases List.mem_append.mp hd with hd | hd
      · exact hs.child (by rw [hsplit]; exact List.mem_append_left _ hd)
      · rcases List.mem_cons.mp hd with rfl | hd
        · rw [show (f c).name = name from hstep.name.trans hc]
          exact hshaped
        · exact hs.child (by rw [hsplit]; simp [hd])
  · rw [modifyChild_go_of_forall_ne f hnone]
    cases s
    exact hs

/-- Putting back, at the end of a path, a node in place of the one found there, with the same
name, type and properties. -/
theorem Shaped.putAlong : ∀ (names : List String) {p : List String} {s h₀ h : Staged},
    s.Shaped N p → names.foldl (fun o name => o.bind (·.child? name)) (some s) = some h₀ →
      h.info = h₀.info → h.Shaped N (p ++ names) → (s.putAlong names h).Shaped N p
  | [], _, _, _, _, hs, _, _, _ => hs
  | [a], p, s, h₀, h, hs, hh₀, hinfo, hh => by
    have hc : s.child? a = some h₀ := by simpa using hh₀
    refine hs.withChild (fun c hc' => ?_) fun hnone => by rw [hc] at hnone; cases hnone
    rw [hc] at hc'
    cases hc'
    exact ⟨hinfo ▸ ChildInfo.Step.refl _, hh⟩
  | a :: b :: rest, p, s, h₀, h, hs, hh₀, hinfo, hh => by
    rw [List.foldl_cons, Option.bind_some] at hh₀
    cases hc : s.child? a with
    | none => rw [hc, lookup_none] at hh₀; cases hh₀
    | some c =>
      rw [hc] at hh₀
      refine hs.withChild (fun c' hc' => ?_) fun hnone => by rw [hc] at hnone; cases hnone
      rw [hc] at hc'
      cases hc'
      refine ⟨(info_putAlong c _ h).symm ▸ ChildInfo.Step.refl _, ?_⟩
      exact Shaped.putAlong (b :: rest) (hs.child? hc) hh₀ hinfo
        (by rwa [List.append_assoc, List.singleton_append])

/-- The top of the storage may be renamed. -/
theorem Shaped.rename (h : s.Shaped N []) (a : String) : Shaped N [] { s with name := a } :=
  .intro (h.self.rename a) fun _ hc => h.child hc

/-! ## Frozen copies -/

/-- A frozen copy: all its nodes are frozen nodes. -/
inductive Frozen : Staged → Prop
  | intro {s : Staged} : s.primaryType = some Known.ntFrozenNode → (∀ c ∈ s.children, Frozen c) →
      Frozen s

theorem Frozen.type_ne_version {s : Staged} (h : s.Frozen) : s.info.type ≠ Known.ntVersion := by
  cases h with
  | intro ht _ =>
    show s.primaryType.getD Known.ntUnstructured ≠ Known.ntVersion
    rw [ht]
    decide

/-- A frozen copy holds no history and no version. -/
theorem Frozen.shaped {s : Staged} (h : s.Frozen) : s.Shaped N p := by
  induction h generalizing p with
  | @intro s ht hcs ih =>
    refine .intro ⟨fun hh => ?_, fun _ c hc => ?_⟩ fun c hc => ih c hc
    · have : s.primaryType.getD Known.ntUnstructured = Known.ntVersionHistory := hh
      rw [ht] at this
      exact absurd this (by decide)
    · obtain ⟨d, hd, rfl⟩ := List.mem_map.mp hc
      exact (hcs d hd).type_ne_version

theorem Frozen.foldl_setProperty :
    ∀ (ps : List Property) {t : Staged}, t.Frozen → (ps.foldl setProperty t).Frozen
  | [], _, ht => ht
  | q :: ps, t, ht => by
    rw [List.foldl_cons]
    cases ht with
    | intro htype hcs => exact Frozen.foldl_setProperty ps (.intro htype hcs)

theorem Frozen.withChild {α : Type} {t : Staged} {name : String} {f : Staged → Staged × α}
    (ht : t.Frozen) (hf : ∀ d, (f d).1.Frozen) : (t.withChild name f).1.Frozen := by
  cases ht with
  | intro htype hcs =>
    rw [withChild_fst]
    refine .intro htype fun c hc => ?_
    rcases mem_withChild_go hc with hc | ⟨d, -, -, rfl⟩
    · exact hcs c hc
    · exact hf d

/-- The child of a name in a frozen copy, or a blank one, holds frozen children. -/
theorem Frozen.child?_getD {t : Staged} (ht : t.Frozen) (name : String) :
    ∀ c ∈ ((t.child? name).getD (blank name)).children, c.Frozen := by
  cases hc : t.child? name with
  | none => exact fun _ h => by cases h
  | some d =>
    cases ht with
    | intro _ hcs =>
      cases hcs d (List.mem_of_find?_eq_some hc) with
      | intro _ hds => exact hds

/-! ## Trees copied from the repository -/

/-- A staged tree whose nodes below the top were all copied from the repository. -/
inductive Settled : Staged → Prop
  | intro {s : Staged} : (∀ c ∈ s.children, c.fresh = false) → (∀ c ∈ s.children, Settled c) →
      Settled s

theorem Settled.child? {s c : Staged} (h : s.Settled) (hc : s.child? name = some c) :
    c.fresh = false ∧ c.Settled := by
  cases h with
  | intro hf hcs =>
    have hmem := List.mem_of_find?_eq_some hc
    exact ⟨hf c hmem, hcs c hmem⟩

theorem settled_of_children_nil {s : Staged} (h : s.children = []) : s.Settled :=
  .intro (fun c hc => by rw [h] at hc; cases hc) fun c hc => by rw [h] at hc; cases hc

theorem settled_ofNode (n : Node) : (ofNode n).Settled := by
  refine .intro (fun c hc => ?_) fun c hc => ?_
  · rw [children_ofNode] at hc
    obtain ⟨d, -, rfl⟩ := List.mem_map.mp hc
    cases d
    rfl
  · rw [children_ofNode] at hc
    obtain ⟨d, hd, rfl⟩ := List.mem_map.mp hc
    exact settled_ofNode d
termination_by sizeOf n
decreasing_by
  -- a child is smaller than its parent
  cases n
  have := List.sizeOf_lt_of_mem hd
  simp only [Node.mk.sizeOf_spec] at this ⊢
  omega

@[simp] theorem info_ofNode (n : Node) : (ofNode n).info = n.info := by
  cases n
  rw [ofNode]
  rfl

@[simp] theorem info_build (s : Staged) : s.build.info = s.info := by
  cases s
  rw [build]
  rfl

end Staged

/-! ## Stored trees -/

namespace Node

variable {N : Nat} {p : List String} {n : Node}

/-- Every node of the tree, at its path below `p`, has the shape the version storage asks
for. -/
inductive Shaped (N : Nat) : List String → Node → Prop
  | intro {p : List String} {n : Node} : StorageShape N p n.info (n.children.map Node.info) →
      (∀ c ∈ n.children, Shaped N (p ++ [c.name]) c) → Shaped N p n

theorem Shaped.self (h : n.Shaped N p) : StorageShape N p n.info (n.children.map Node.info) := by
  cases h with
  | intro hs _ => exact hs

theorem Shaped.child (h : n.Shaped N p) {c : Node} (hc : c ∈ n.children) :
    c.Shaped N (p ++ [c.name]) := by
  cases h with
  | intro _ hcs => exact hcs c hc

theorem Shaped.mono (h : n.Shaped N p) {N' : Nat} (hN : N ≤ N') : n.Shaped N' p := by
  induction h with
  | intro hs _ ih => exact .intro (hs.mono hN) ih

theorem Shaped.descendAlong : ∀ (s : List String) {p : List String} {n m : Node},
    n.Shaped N p → n.descendAlong s = some m → m.Shaped N (p ++ s)
  | [], p, n, m, hn, hm => by
    cases hm
    rw [List.append_nil]
    exact hn
  | a :: s, p, n, m, hn, hm => by
    rw [descendAlong_cons] at hm
    cases hc : n.child? a with
    | none => rw [hc] at hm; cases hm
    | some c =>
      rw [hc] at hm
      have hcs : c.Shaped N (p ++ [a]) := name_of_child? hc ▸ hn.child (mem_of_child? hc)
      have := Shaped.descendAlong s hcs hm
      rwa [List.append_assoc, List.singleton_append] at this

/-- The top of the storage may be renamed. -/
theorem Shaped.rename (h : n.Shaped N []) (a : String) : Shaped N [] { n with name := a } :=
  .intro (h.self.rename a) fun _ hc => h.child hc

/-- Only the name, the type and the children of a node matter to the shape. -/
theorem Shaped.of_state {m : Node} (h : n.Shaped N p) (hname : m.name = n.name)
    (htype : m.primaryType = n.primaryType) (hkids : m.children = n.children) : m.Shaped N p :=
  .intro (hkids ▸ h.self.of_self hname htype) fun _ hc => h.child (hkids ▸ hc)

/-- A version below the top of the storage has an identifier: it is a version of a history. -/
theorem Shaped.identifier_of_version : ∀ (s : List String) {p : List String} {n m : Node} {a : String},
    n.Shaped N p → n.descendAlong (a :: s) = some m → m.primaryType = Known.ntVersion →
      ∃ u, m.property? Known.uuid = some (Property.ofString Known.uuid u)
  | [], p, n, m, a, hn, hm, ht => by
    have hc : n.child? a = some m := by simpa using hm
    have hmem : m.info ∈ n.children.map Node.info := List.mem_map_of_mem (mem_of_child? hc)
    by_cases hh : n.info.type = Known.ntVersionHistory
    · exact (hn.self.history hh).2.identifier_of_version (mem_versionsOf.mpr ⟨hmem, ht⟩)
    · exact absurd ht (hn.self.plain hh _ hmem)
  | b :: s, p, n, m, a, hn, hm, ht => by
    rw [descendAlong_cons] at hm
    cases hc : n.child? a with
    | none => rw [hc] at hm; cases hm
    | some c =>
      rw [hc] at hm
      exact Shaped.identifier_of_version s (hn.child (mem_of_child? hc)) hm ht

/-- A child list in which the first child of a name was updated along a path. -/
theorem updateChild_of_first {f : Node → Node} {a : String} {r : List String} {l₁ l₂ : List Node}
    {c : Node} (hfirst : ∀ d ∈ l₁, d.name ≠ a) (hc : c.name = a) :
    updateChild f a r (l₁ ++ c :: l₂) = l₁ ++ c.updateAlong f r :: l₂ := by
  induction l₁ with
  | nil => rw [List.nil_append, updateChild_cons_of_eq hc, List.nil_append]
  | cons d ds ih =>
    rw [List.cons_append, updateChild_cons_of_ne (hfirst d List.mem_cons_self),
      ih fun e he => hfirst e (List.mem_cons_of_mem d he), List.cons_append]

theorem updateChild_of_forall_ne {f : Node → Node} {a : String} {r : List String} :
    ∀ {cs : List Node}, (∀ d ∈ cs, d.name ≠ a) → updateChild f a r cs = cs
  | [], _ => updateChild_nil a r
  | d :: ds, hne => by
    rw [updateChild_cons_of_ne (hne d List.mem_cons_self),
      updateChild_of_forall_ne fun e he => hne e (List.mem_cons_of_mem d he)]

@[simp] theorem info_updateAlong_cons (f : Node → Node) (n : Node) (a : String) (r : List String) :
    (n.updateAlong f (a :: r)).info = n.info := by
  rw [updateAlong_cons]
  rfl

/-- Updating along a path through the first child of a name keeps the shape when the updated
child changes as `ChildInfo.Step` allows and keeps the shape itself. -/
theorem Shaped.updateAlong_cons_of {f : Node → Node} {s : List String} {a : String}
    (hn : n.Shaped N p) (hchild : ∀ c, n.child? a = some c →
      c.info.Step (c.updateAlong f s).info ∧ (c.updateAlong f s).Shaped N (p ++ [a])) :
    (n.updateAlong f (a :: s)).Shaped N p := by
  rw [updateAlong_cons]
  rcases exists_first_or_forall_ne (·.name) a n.children with
    ⟨l₁, c, l₂, hsplit, hfirst, hc⟩ | hnone
  · have hfind : n.child? a = some c := by
      unfold Node.child?
      rw [hsplit]
      exact find?_eq_some_of_first hfirst hc
    obtain ⟨hstep, hshaped⟩ := hchild c hfind
    rw [hsplit, updateChild_of_first hfirst hc]
    refine .intro ?_ fun d hd => ?_
    · have := hn.self
      rw [hsplit, List.map_append, List.map_cons] at this
      show StorageShape N p n.info _
      rw [List.map_append, List.map_cons]
      exact this.replace hstep
    · rcases List.mem_append.mp hd with hd | hd
      · exact hn.child (by rw [hsplit]; exact List.mem_append_left _ hd)
      · rcases List.mem_cons.mp hd with rfl | hd
        · rw [show (c.updateAlong f s).name = a from hstep.name.trans hc]
          exact hshaped
        · exact hn.child (by rw [hsplit]; simp [hd])
  · rw [updateChild_of_forall_ne hnone]
    cases n
    exact hn

/-- Changing a node below the top of the storage other than by a check-in: it keeps its
children and changes as `ChildInfo.Step` allows. -/
theorem Shaped.updateAlong {f : Node → Node} : ∀ (s : List String) {p : List String} {n : Node}
    {a : String}, n.Shaped N p →
    (∀ m, n.descendAlong (a :: s) = some m →
      (f m).children = m.children ∧ m.info.Step (f m).info) →
    (n.updateAlong f (a :: s)).Shaped N p
  | [], p, n, a, hn, hf => by
    refine hn.updateAlong_cons_of fun c hc => ?_
    -- the changed node itself: same children, same name and type
    obtain ⟨hkids, hstep⟩ := hf c (by simp [hc])
    have hcs : c.Shaped N (p ++ [a]) := name_of_child? hc ▸ hn.child (mem_of_child? hc)
    rw [updateAlong_nil]
    refine ⟨hstep, .intro ?_ fun d hd => ?_⟩
    · rw [hkids]
      exact hcs.self.of_self hstep.name hstep.type
    · rw [hkids] at hd
      exact hcs.child hd
  | b :: s, p, n, a, hn, hf => by
    refine hn.updateAlong_cons_of fun c hc => ?_
    have hcs : c.Shaped N (p ++ [a]) := name_of_child? hc ▸ hn.child (mem_of_child? hc)
    rw [info_updateAlong_cons]
    exact ⟨.refl _, Shaped.updateAlong s hcs fun m hm => hf m (by rw [descendAlong_cons, hc]; exact hm)⟩

end Node

/-! ## Copying trees in and building them back -/

theorem Staged.shaped_ofNode {N : Nat} {p : List String} {n : Node} (h : n.Shaped N p) :
    (Staged.ofNode n).Shaped N p := by
  induction h with
  | @intro p n hn _ ih =>
    refine .intro ?_ fun c hc => ?_
    · have hinfo : Staged.info ∘ Staged.ofNode = Node.info := funext Staged.info_ofNode
      rw [Staged.info_ofNode, Staged.children_ofNode, List.map_map, hinfo]
      exact hn
    · rw [Staged.children_ofNode] at hc
      obtain ⟨d, hd, rfl⟩ := List.mem_map.mp hc
      rw [Staged.name_ofNode]
      exact ih d hd

theorem Staged.Shaped.build {N : Nat} {p : List String} {s : Staged} (h : s.Shaped N p) :
    s.build.Shaped N p := by
  induction h with
  | @intro p s hs _ ih =>
    refine .intro ?_ fun c hc => ?_
    · have hinfo : Node.info ∘ Staged.build = Staged.info := funext Staged.info_build
      rw [Staged.info_build, Staged.children_build, List.map_map, hinfo]
      exact hs
    · rw [Staged.children_build] at hc
      obtain ⟨d, hd, rfl⟩ := List.mem_map.mp hc
      rw [Staged.name_build]
      exact ih d hd

end ContentSync
