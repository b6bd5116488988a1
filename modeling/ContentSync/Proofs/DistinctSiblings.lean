import ContentSync.Proofs.StagedNames
import ContentSync.Session

/-!
# Sibling names stay distinct

A path addresses the first child of each name, so a tree in which two siblings share a name
hides the second one. This module shows that a session never builds such a tree: starting from
trees in which no node has two children of one name, every operation keeps both the transient
and the saved tree so (`DistinctSiblings`), whether it succeeds or fails. Adding a node checks
that the name is free, a move checks that the destination is, removing and changing nodes only
drop or keep names, and every change of the version storage goes through staged trees that keep
names distinct (`Staged.Distinct`) and is put in place of the old storage.

Main statements: `SessionOp.keeps_distinct_run` (one operation) and
`SessionOp.sibling_names_stay_distinct` (a whole session).
-/

namespace ContentSync

open Node RepoM

namespace Node

variable {f : Node → Node} {n : Node}

/-! ## Trees whose siblings have distinct names -/

theorem mem_updateChild {a : String} {r : List String} {d : Node} :
    ∀ {cs : List Node}, d ∈ updateChild f a r cs →
      d ∈ cs ∨ ∃ c, cs.find? (·.name = a) = some c ∧ d = c.updateAlong f r
  | [], hd => by
    rw [updateChild_nil] at hd
    cases hd
  | c :: cs, hd => by
    by_cases hc : c.name = a
    · rw [updateChild_cons_of_eq hc] at hd
      rcases List.mem_cons.mp hd with rfl | hd
      · exact .inr ⟨c, List.find?_cons_of_pos (by simpa using hc), rfl⟩
      · exact .inl (List.mem_cons_of_mem c hd)
    · rw [updateChild_cons_of_ne hc] at hd
      rcases List.mem_cons.mp hd with rfl | hd
      · exact .inl List.mem_cons_self
      · rcases mem_updateChild hd with hd | ⟨e, he, rfl⟩
        · exact .inl (List.mem_cons_of_mem c hd)
        · exact .inr ⟨e, by rw [List.find?_cons_of_neg (by simpa using hc)]; exact he, rfl⟩

/-- Only the children matter. -/
theorem everywhere_of_children_eq {m : Node} (h : Everywhere DistinctChildren n)
    (hc : m.children = n.children) : Everywhere DistinctChildren m :=
  .intro m (show (m.children.map (·.name)).Nodup from hc ▸ h.self) fun _ hcm => h.child (hc ▸ hcm)

/-- Changing the node along a path keeps sibling names distinct when the change keeps the
node's name and keeps names distinct below it. -/
theorem Everywhere.updateAlong_distinct (hf : KeepsName f) :
    ∀ (s : List String) {n : Node}, Everywhere DistinctChildren n →
      (∀ m, n.descendAlong s = some m → Everywhere DistinctChildren (f m)) →
      Everywhere DistinctChildren (n.updateAlong f s)
  | [], n, _, hm => by
    rw [updateAlong_nil]
    exact hm n rfl
  | a :: r, n, hn, hm => by
    rw [updateAlong_cons]
    refine .intro _ ?_ fun d hd => ?_
    · show ((updateChild f a r n.children).map (·.name)).Nodup
      rw [map_name_updateChild hf]
      exact hn.self
    · rcases mem_updateChild hd with hd | ⟨c, hc, rfl⟩
      · exact hn.child hd
      · refine Everywhere.updateAlong_distinct hf r (hn.child (mem_of_child? hc)) fun m hm' => hm m ?_
        rw [descendAlong_cons]
        show (n.child? a).bind (·.descendAlong r) = some m
        rw [show n.child? a = some c from hc]
        exact hm'

theorem everywhere_empty (name ty : String) : Everywhere DistinctChildren (Node.empty name ty) :=
  .intro _ List.nodup_nil fun _ hc => nomatch hc

theorem everywhere_eraseChild (h : Everywhere DistinctChildren n) (a : String) :
    Everywhere DistinctChildren (eraseChild a n) := by
  have hsub : List.Sublist (eraseChild a n).children n.children := List.eraseP_sublist
  exact .intro _ ((hsub.map _).nodup h.self) fun c hc => h.child (hsub.subset hc)

theorem everywhere_appendChild {c : Node} (h : Everywhere DistinctChildren n)
    (hc : Everywhere DistinctChildren c) (hfresh : n.hasChild c.name = false) :
    Everywhere DistinctChildren (appendChild c n) := by
  refine .intro _ ?_ fun d hd => ?_
  · show ((n.children ++ [c]).map (·.name)).Nodup
    rw [List.map_append, List.nodup_append]
    refine ⟨h.self, by simp, ?_⟩
    rintro a ha b hb rfl
    rw [List.map_singleton, List.mem_singleton] at hb
    subst hb
    obtain ⟨e, he, hen⟩ := List.mem_map.mp ha
    rw [hasChild, List.any_eq_false] at hfresh
    exact hfresh e he (by simpa using hen)
  · rcases List.mem_append.mp hd with hd | hd
    · exact h.child hd
    · rw [List.mem_singleton.mp hd]
      exact hc

theorem name_mem_putChild_go {c : Node} {x : String} :
    ∀ {cs : List Node}, x ∈ (putChild.go c cs).map (·.name) → x ∈ cs.map (·.name) ∨ x = c.name
  | [], hx => by
    rw [putChild.go, List.map_singleton, List.mem_singleton] at hx
    exact .inr hx
  | e :: es, hx => by
    rw [putChild.go] at hx
    split at hx
    · rename_i he
      rw [List.map_cons, List.mem_cons] at hx
      rcases hx with rfl | hx
      · exact .inl (by rw [List.map_cons, ← he]; exact List.mem_cons_self)
      · exact .inl (List.mem_cons_of_mem _ hx)
    · rw [List.map_cons, List.mem_cons] at hx
      rcases hx with rfl | hx
      · exact .inl List.mem_cons_self
      · rcases name_mem_putChild_go hx with hx | hx
        · exact .inl (List.mem_cons_of_mem _ hx)
        · exact .inr hx

theorem everywhere_putChild {c : Node} (h : Everywhere DistinctChildren n)
    (hc : Everywhere DistinctChildren c) : Everywhere DistinctChildren (n.putChild c) := by
  -- `c` takes the place of the first child of its name, or comes last when there is none
  have key : ∀ cs : List Node, (cs.map (·.name)).Nodup → (∀ d ∈ cs, Everywhere DistinctChildren d) →
      ((putChild.go c cs).map (·.name)).Nodup ∧ ∀ d ∈ putChild.go c cs, Everywhere DistinctChildren d := by
    intro cs
    induction cs with
    | nil =>
      intro _ _
      rw [putChild.go]
      exact ⟨by simp, fun d hd => by rw [List.mem_singleton.mp hd]; exact hc⟩
    | cons e es ih =>
      intro hn hall
      rw [List.map_cons, List.nodup_cons] at hn
      rw [putChild.go]
      split
      · rename_i he
        refine ⟨?_, fun d hd => ?_⟩
        · rw [List.map_cons, List.nodup_cons, ← he]
          exact hn
        · rcases List.mem_cons.mp hd with rfl | hd
          · exact hc
          · exact hall d (List.mem_cons_of_mem e hd)
      · rename_i he
        obtain ⟨ihn, ihd⟩ := ih hn.2 fun d hd => hall d (List.mem_cons_of_mem e hd)
        refine ⟨?_, fun d hd => ?_⟩
        · rw [List.map_cons, List.nodup_cons]
          refine ⟨fun hmem => ?_, ihn⟩
          rcases name_mem_putChild_go hmem with hmem | hmem
          · exact hn.1 hmem
          · exact he hmem
        · rcases List.mem_cons.mp hd with rfl | hd
          · exact hall d List.mem_cons_self
          · exact ihd d hd
  obtain ⟨hn, hd⟩ := key n.children h.self fun d hd => h.child hd
  exact .intro _ hn hd

/-- Among distinct names, erasing a child erases the only one of its name. -/
theorem child?_eraseChild_self (h : DistinctChildren n) (a : String) : (eraseChild a n).child? a = none := by
  rw [child?_eq_none_iff, hasChild, List.any_eq_false]
  intro c hc hca
  show False
  have hc' : c ∈ n.children.filter (·.name ≠ a) := by
    rw [← eraseP_name_eq_filter h a]
    exact hc
  exact (of_decide_eq_true (List.mem_filter.mp hc').2) (by simpa using hca)

/-- Among distinct names, erasing a node creates no path. -/
theorem descendAlong_eraseChild_eq_none {a : String} :
    ∀ (s : List String) {n : Node} {u : List String}, Everywhere DistinctChildren n →
      n.descendAlong u = none → (n.updateAlong (eraseChild a) s).descendAlong u = none
  | _, _, [], _, hu => by cases hu
  | [], n, b :: u, hn, hu => by
    rw [updateAlong_nil, descendAlong_cons]
    by_cases hab : a = b
    · subst hab
      rw [child?_eraseChild_self hn.self]
      rfl
    · rw [child?_eraseChild_of_ne hab]
      exact hu
  | c :: s, n, b :: u, hn, hu => by
    rw [descendAlong_cons, child?_updateAlong_cons (keepsName_eraseChild a)]
    rw [descendAlong_cons] at hu
    split
    · rename_i hcb
      subst hcb
      cases hch : n.child? c with
      | none => rfl
      | some ch =>
        rw [hch] at hu
        exact descendAlong_eraseChild_eq_none s (hn.child (mem_of_child? hch)) hu
    · exact hu

end Node

/-! ## Repositories whose siblings have distinct names -/

/-- No node of the transient or of the saved tree has two children of one name. -/
structure DistinctSiblings (r : Repository) : Prop where
  root : Everywhere DistinctChildren r.root
  saved : Everywhere DistinctChildren r.saved

theorem DistinctSiblings.withRoot {r : Repository} {root : Node} (h : DistinctSiblings r)
    (hroot : Everywhere DistinctChildren root) : DistinctSiblings { r with root } :=
  ⟨hroot, h.saved⟩

namespace Staged

/-- A history found in a storage with distinct names has distinct names, and its identifier as
its name. -/
theorem Distinct.lookupHistory {s h : Staged} {id : String} (hs : s.Distinct)
    (hh : (Path.versionHistoryPath id).foldl (fun o name => o.bind (·.child? name)) (some s) = some h) :
    h.Distinct ∧ h.name = id :=
  ⟨hs.lookup _ hh, name_lookup (show (Path.versionBuckets id ++ [id]).foldl _ (some s) = some h from hh)⟩

/-- The history looked up in a storage with distinct names, or a blank one when there is none,
has distinct names and the identifier as its name. -/
theorem Distinct.history {s : Staged} (hs : s.Distinct) (id : String) :
    (((Path.versionHistoryPath id).foldl (fun o name => o.bind (·.child? name)) (some s)).getD
      (blank id)).Distinct ∧
    (((Path.versionHistoryPath id).foldl (fun o name => o.bind (·.child? name)) (some s)).getD
      (blank id)).name = id := by
  cases hh : (Path.versionHistoryPath id).foldl (fun o name => o.bind (·.child? name)) (some s) with
  | none => exact ⟨distinct_blank id, rfl⟩
  | some h => exact hs.lookupHistory hh

/-- Putting a history with distinct names back in its place keeps names distinct. -/
theorem Distinct.putHistory {s h : Staged} {id : String} (hs : s.Distinct) (hh : h.Distinct)
    (hn : h.name = id) : (s.putAlong (Path.versionHistoryPath id) h).Distinct := by
  have := hh.putAlong (Path.versionBuckets id) hs
  rw [hn] at this
  exact this

end Staged

namespace RepoM

/-! ### The operations on nodes -/

/-- Changing the node at a path keeps distinct names when the change keeps its name and keeps
names distinct below it. -/
theorem keeps_distinct_modifyNode (path : String) {g : Node → Node} (hg : KeepsName g)
    (hkeep : ∀ m, Everywhere DistinctChildren m → Everywhere DistinctChildren (g m)) :
    Keeps DistinctSiblings (modifyNode path g) := by
  intro r hr
  rw [final_modifyNode]
  exact hr.withRoot (Everywhere.updateAlong_distinct hg _ hr.root fun m hm =>
    hkeep m (hr.root.descendAlong hm))

/-- A change that keeps a node's children keeps distinct names. -/
theorem keeps_distinct_modifyNode_of_children (path : String) {g : Node → Node}
    (hg : KeepsName g) (hkids : ∀ m, (g m).children = m.children) :
    Keeps DistinctSiblings (modifyNode path g) :=
  keeps_distinct_modifyNode path hg fun m hm => everywhere_of_children_eq hm (hkids m)

theorem keeps_distinct_addNode (parent name ty : String) :
    Keeps DistinctSiblings (addNode parent name ty) := by
  intro r hr
  by_cases hv : Path.ValidName name
  · cases hm : r.root.descendAlong (Path.segments parent) with
    | none =>
      obtain ⟨_, he⟩ : ∃ e, addNode parent name ty r = .error e r := addNode_of_none rfl hv hm
      rw [he, final_error]
      exact hr
    | some m =>
      cases hc : m.hasChild name with
      | true =>
        obtain ⟨_, he⟩ : ∃ e, addNode parent name ty r = .error e r :=
          addNode_of_hasChild rfl hv hm hc
        rw [he, final_error]
        exact hr
      | false =>
        -- the name is free at the parent, and the new node has no children
        rw [addNode_run rfl hv hm hc, final_ok]
        refine hr.withRoot (Everywhere.updateAlong_distinct (keepsName_appendChild _) _ hr.root
          fun m' hm' => ?_)
        rw [hm] at hm'
        cases hm'
        exact everywhere_appendChild (hr.root.descendAlong hm)
          (.intro _ List.nodup_nil fun _ hc => nomatch hc) hc
  · obtain ⟨_, he⟩ : ∃ e, addNode parent name ty r = .error e r := addNode_of_invalid hv
    rw [he, final_error]
    exact hr

theorem distinct_of_removeNode {path : String} {r : Repository} (hr : DistinctSiblings r) :
    DistinctSiblings (final (removeNode path r)) := by
  rcases final_removeNode path r with h | ⟨s, a, _, h⟩
  · rw [h]
    exact hr
  · rw [h]
    exact hr.withRoot (Everywhere.updateAlong_distinct (keepsName_eraseChild a) _ hr.root
      fun m hm => everywhere_eraseChild (hr.root.descendAlong hm) a)

theorem keeps_distinct_removeNode (path : String) : Keeps DistinctSiblings (removeNode path) :=
  fun _ hr => distinct_of_removeNode hr

/-- A move erases the source and appends it under a name that is free at the destination's
parent: the destination is checked to be absent, and erasing the source creates no path. -/
theorem keeps_distinct_moveNode (src dest : String) : Keeps DistinctSiblings (moveNode src dest) := by
  intro r hr
  unfold moveNode
  dsimp only
  split
  · exact keeps_throw_bind _ _ r hr
  · rename_i hnames
    have hname : Path.name dest ≠ "" := fun h => hnames (Or.inr (by rw [h]; rfl))
    split
    · exact keeps_throw_bind _ _ r hr
    · refine final_bind (keeps_nodeExists dest r hr) fun ex r₁ hex _ => ?_
      obtain ⟨hex, hr₁⟩ : (r.root.descendAlong (Path.segments dest)).isSome = ex ∧ r = r₁ := by
        rw [nodeExists_run rfl] at hex
        cases hex
        exact ⟨rfl, rfl⟩
      subst hex hr₁
      split
      · exact keeps_throw_bind _ _ _ hr
      · rename_i habsent
        have hgone : r.root.descendAlong (Path.segments dest) = none := by
          simpa using habsent
        refine final_bind (keeps_nodeExists _ r hr) fun ex r₂ hex _ => ?_
        obtain hr₂ : r = r₂ := by
          rw [nodeExists_run rfl] at hex
          cases hex
          rfl
        subst hr₂
        split
        · refine final_bind (keeps_requireNode src r hr) fun moved r₃ hmoved _ => ?_
          obtain ⟨hmv, hr₃⟩ := (requireNode_eq_ok rfl).mp hmoved
          subst r₃
          refine final_bind (distinct_of_removeNode hr) fun _ r₄ hrem hr₄ => ?_
          -- the destination is still absent once the source is erased
          have hgone₄ : r₄.root.descendAlong (Path.segments dest) = none := by
            rcases final_removeNode src r with h | ⟨s, a, _, h⟩
            · rw [hrem, final_ok] at h
              rw [h]
              exact hgone
            · rw [hrem, final_ok] at h
              rw [h]
              exact descendAlong_eraseChild_eq_none s hr.root hgone
          rw [final_modifyNode]
          refine hr₄.withRoot (Everywhere.updateAlong_distinct (keepsName_appendChild _) _ hr₄.root
            fun d hd => ?_)
          have hfree : d.hasChild (Path.name dest) = false := by
            rw [← child?_eq_none_iff]
            rw [Path.segments_eq_parent_name hname, descendAlong_append, hd] at hgone₄
            simpa using hgone₄
          exact everywhere_appendChild (hr₄.root.descendAlong hd)
            (everywhere_of_children_eq (hr.root.descendAlong hmv) rfl) hfree
        · exact keeps_throw_bind _ _ _ hr

/-! ### The version storage -/

/-- The staged copy of the storage of a repository with distinct names has distinct names. -/
theorem distinct_of_versionStorage {r r' : Repository} {storage : Staged}
    (hr : DistinctSiblings r) (h : versionStorage r = .ok storage r') : storage.Distinct := by
  unfold versionStorage at h
  rw [bind_of_ok get_run] at h
  cases hd : r.root.descendant? Known.versionStoragePath with
  | some s =>
    rw [hd] at h
    cases h
    exact Staged.distinct_ofNode (hr.root.descendAlong hd)
  | none =>
    rw [hd] at h
    cases h
    exact (Staged.distinct_blank _).typeIfFresh _

/-- Committing a staged storage with distinct names keeps names distinct: it is built and put
in place of the storage of the system node, which is added when missing. -/
theorem keeps_distinct_commit {storage : Staged} (hs : storage.Distinct) :
    Keeps DistinctSiblings (commitVersionStorage storage) := by
  unfold commitVersionStorage
  refine keeps_get.bind_of_run fun r _ _ hr hget => ?_
  cases hget
  have hput : Keeps DistinctSiblings
      (modifyNode (Path.join "/" Known.system) (·.putChild { storage.build with name := Known.versionStorage })) :=
    keeps_distinct_modifyNode _ (fun _ => rfl) fun m hm =>
      everywhere_putChild hm (everywhere_of_children_eq (Staged.everywhere_build hs) rfl)
  dsimp only
  split
  · rename_i hnone
    have hsystem : r.root.hasChild Known.system = false := by simpa using hnone
    -- the system node is added, without children, under a name the root does not have
    have hadded : DistinctSiblings { r with root := { r.root with
        children := r.root.children ++ [Node.empty Known.system Known.repSystem] } } :=
      hr.withRoot (everywhere_appendChild hr.root (everywhere_empty _ _) hsystem)
    exact Keeps.bind (fun _ _ => hadded) fun _ => hput
  · exact hput

/-- Every operation of an import keeps names distinct. -/
theorem opsKeep_distinct : OpsKeep DistinctSiblings where
  freshNumber := fun _ hr => ⟨hr.root, hr.saved⟩
  addNode := keeps_distinct_addNode
  removeNode := keeps_distinct_removeNode
  moveNode := keeps_distinct_moveNode
  setProperty := fun path p =>
    keeps_distinct_modifyNode_of_children path (keepsName_applyProperty p) (children_applyProperty p)
  removeProperty := fun path a =>
    keeps_distinct_modifyNode_of_children path (keepsName_removeProperty a) fun _ => rfl
  setPrimaryType := fun path _ => keeps_distinct_modifyNode_of_children path (fun _ => rfl) fun _ => rfl
  setMixins := fun path _ => keeps_distinct_modifyNode_of_children path (fun _ => rfl) fun _ => rfl
  commit := fun _ _ _ _ hr hvs hre => keeps_distinct_commit (hre.distinct (distinct_of_versionStorage hr hvs))

theorem keeps_distinct_save : Keeps DistinctSiblings save :=
  fun _ hr => ⟨hr.root, hr.root⟩

theorem keeps_distinct_discard : Keeps DistinctSiblings discard :=
  fun _ hr => ⟨hr.saved, hr.saved⟩

/-- Replacing the node at a path by one with its name and children keeps names distinct. -/
theorem distinct_modifyNode_const {path : String} {r : Repository} {m y : Node}
    (hr : DistinctSiblings r) (hm : r.root.descendAlong (Path.segments path) = some m)
    (hname : y.name = m.name) (hkids : y.children = m.children) :
    DistinctSiblings (final (modifyNode path (fun _ => y) r)) := by
  rw [final_modifyNode]
  -- the replacement is the node renamed to the name it already has
  have hy : r.root.updateAlong (fun _ => y) (Path.segments path) =
      r.root.updateAlong (renamedTo y) (Path.segments path) := by
    refine updateAlong_congr fun m' hm' => ?_
    rw [hm] at hm'
    cases hm'
    cases y
    cases hname
    rfl
  rw [hy]
  refine hr.withRoot (Everywhere.updateAlong_distinct (keepsName_renamedTo y) _ hr.root fun m' hm' => ?_)
  rw [hm] at hm'
  cases hm'
  exact everywhere_of_children_eq (hr.root.descendAlong hm) hkids

/-- Creating the version history of a node commits a storage with distinct names. -/
theorem keeps_distinct_history (n : Node) (id : String) :
    Keeps DistinctSiblings (do
      let storage ← versionStorage
      let (storage, created) ← ensureHistory storage n id
      if created then commitVersionStorage storage) := by
  refine keeps_versionStorage.bind_of_run fun r storage _ hr hvs => ?_
  refine (keeps_ensureHistory opsKeep_distinct.freshNumber storage n id).bind_of_run
    fun r₁ p _ _ hp => ?_
  have hd : p.1.Distinct := (yields_ensureHistory (distinct_of_versionStorage hr hvs) n id r₁ p _ hp).1
  obtain ⟨staged, created⟩ := p
  dsimp only
  split
  · exact keeps_distinct_commit hd
  · exact keeps_pure _

/-- What adding a mixin does once the node is written back: a versionable node with an
identifier gets its history. -/
theorem keeps_distinct_versionable (path mixin : String) (n : Node) :
    Keeps DistinctSiblings (do
      if mixin ≠ Known.mixVersionable then return
      let id ← match n.identifier? with
        | some id => pure id
        | none => throw (.repository s!"{path} has no identifier")
      let storage ← versionStorage
      let (storage, created) ← ensureHistory storage n id
      if created then commitVersionStorage storage : RepoM Unit) := by
  split
  · exact keeps_pure _
  · split
    · exact (keeps_pure _).bind fun id => keeps_distinct_history n id
    · exact keeps_throw_bind _ _

theorem keeps_distinct_addMixin (path mixin : String) : Keeps DistinctSiblings (addMixin path mixin) := by
  intro r hr
  unfold addMixin
  refine final_bind (keeps_requireNode path r hr) fun n r₁ hn _ => ?_
  obtain ⟨hn, hr₁⟩ := (requireNode_eq_ok rfl).mp hn
  subst hr₁
  dsimp only
  -- the node keeps its name and its children, with the mixin and a new identifier or without
  obtain ⟨y, hy, hname, hkids⟩ : ∃ y, (if n.mixins.contains mixin then n
      else { n with mixins := n.mixins ++ [mixin] }) = y ∧ y.name = n.name ∧ y.children = n.children :=
    ⟨_, rfl, by split <;> rfl, by split <;> rfl⟩
  rw [hy]
  split
  · refine final_bind (opsKeep_distinct.freshIdentifier r₁ hr) fun id r₂ hid hr₂ => ?_
    cases hid
    rw [bind_of_ok (pure_run _)]
    exact final_bind (distinct_modifyNode_const hr₂ hn hname hkids) fun _ r₃ _ hr₃ =>
      keeps_distinct_versionable path mixin _ r₃ hr₃
  · rw [bind_of_ok (pure_run _)]
    exact final_bind (distinct_modifyNode_const hr hn hname hkids) fun _ r₃ _ hr₃ =>
      keeps_distinct_versionable path mixin _ r₃ hr₃

theorem keeps_stagedIdentifier (s : Staged) : Keeps DistinctSiblings (stagedIdentifier s) := by
  unfold stagedIdentifier
  split
  · exact keeps_pure _
  · exact keeps_throw _

theorem keeps_distinct_checkin (path : String) : Keeps DistinctSiblings (checkin path) := by
  unfold checkin
  refine (keeps_requireNode path).bind fun n => ?_
  dsimp only
  split
  · exact keeps_throw_bind _ _
  · split
    · refine (keeps_pure _).bind fun id => ?_
      refine keeps_versionStorage.bind_of_run fun r storage _ hr hvs => ?_
      refine (keeps_ensureHistory opsKeep_distinct.freshNumber storage n id).bind_of_run
        fun r₁ p _ _ hp => ?_
      have hd : p.1.Distinct :=
        (yields_ensureHistory (distinct_of_versionStorage hr hvs) n id r₁ p _ hp).1
      obtain ⟨storage, _⟩ := p
      dsimp only
      obtain ⟨hhd, hhn⟩ := Staged.Distinct.history hd id
      generalize ((Path.versionHistoryPath id).foldl (fun o name => o.bind (·.child? name))
        (some storage)).getD (Staged.blank id) = history at hhd hhn ⊢
      split
      · refine (keeps_pure _).bind fun last => (keeps_stagedIdentifier last).bind fun pid => ?_
        refine (keeps_initVersion opsKeep_distinct.freshNumber _ _).bind_of_run
          fun r₂ version _ _ hv => ?_
        obtain ⟨hvd, hvn⟩ := yields_initVersion [pid] (hhd.child?_getD _).1 r₂ version _ hv
        refine (keeps_freeze opsKeep_distinct.freshNumber true _ n).bind_of_run
          fun r₃ frozen _ _ hf => ?_
        obtain ⟨hfd, hfn⟩ := yields_freeze true _ n (hvd.child?_getD _).1 r₃ frozen _ hf
        refine (keeps_stagedIdentifier _).bind fun vid => ?_
        refine (keeps_distinct_commit ?_).bind fun _ => keeps_pure _
        -- the new version holds its frozen node, and the history the new version
        have hver : (version.withChild Known.frozenNode fun _ => (frozen, ())).1.Distinct :=
          hvd.withChild (fun _ _ => hfn.trans (hvd.child?_getD _).2) fun _ _ _ => hfd
        exact hd.putHistory ((hhd.withChild (fun _ _ => hvn.trans (hhd.child?_getD _).2)
          fun _ _ _ => hver).modifyChild (fun _ h => h) fun _ _ h => h.setProperty _) hhn
      · exact keeps_throw_bind _ _
    · exact keeps_throw_bind _ _

theorem keeps_distinct_addVersionLabel (path version label : String) :
    Keeps DistinctSiblings (addVersionLabel path version label) := by
  unfold addVersionLabel
  refine (keeps_requireNode path).bind fun n => ?_
  dsimp only
  split
  · refine (keeps_pure _).bind fun id => ?_
    refine keeps_versionStorage.bind_of_run fun r storage _ hr hvs => ?_
    have hd := distinct_of_versionStorage hr hvs
    split
    · rename_i h hh
      obtain ⟨hhd, hhn⟩ := hd.lookupHistory hh
      refine (keeps_pure h).bind_of_run fun _ history _ _ hrun => ?_
      cases hrun
      split
      · refine (keeps_pure _).bind fun target => (keeps_stagedIdentifier target).bind fun vid => ?_
        -- the labels node keeps its name, and the history its place
        refine keeps_distinct_commit (hd.putHistory (hhd.withChild ?_ ?_) hhn)
        · intro c hc
          exact (Staged.name_typeIfFresh c _).trans hc
        · intro c _ hcd
          exact (hcd.typeIfFresh _).setProperty _
      · exact keeps_throw_bind _ _
    · exact keeps_throw_bind _ _
  · exact keeps_throw_bind _ _

/-- An import pass keeps a property that its operations, saving and discarding keep. -/
theorem OpsKeep.runEntries {P : Repository → Prop} (h : OpsKeep P) (hsave : Keeps P save)
    (hdiscard : Keeps P discard) (imp : Importer) (f : WorkspaceFilter) :
    ∀ (entries : List ImportEntry) (p : Progress) (info : ImportInfo),
      Keeps P (imp.runEntries f entries p info)
  | [], _, _ => by
    rw [Importer.runEntries]
    exact hsave.bind fun _ => keeps_pure _
  | e :: es, p, info => by
    rw [Importer.runEntries]
    refine (h.importSet imp f _ _ _).attempt.bind fun res => ?_
    cases res with
    | ok result => exact OpsKeep.runEntries h hsave hdiscard imp f es _ _
    | error err => exact hdiscard.bind fun _ => keeps_pure _

end RepoM

namespace SessionOp

/-- Every operation of a session keeps sibling names distinct, whether it succeeds or fails. -/
theorem keeps_distinct_run : ∀ op : SessionOp, Keeps DistinctSiblings op.run
  | addNode parent name ty => (keeps_distinct_addNode parent name ty).bind fun _ => keeps_pure _
  | removeNode path => keeps_distinct_removeNode path
  | moveNode src dest => keeps_distinct_moveNode src dest
  | setProperty path p => opsKeep_distinct.setProperty path p
  | removeProperty path name => opsKeep_distinct.removeProperty path name
  | setPrimaryType path ty => opsKeep_distinct.setPrimaryType path ty
  | setMixins path mixins => opsKeep_distinct.setMixins path mixins
  | save => keeps_distinct_save
  | discard => keeps_distinct_discard
  | addMixin path mixin => keeps_distinct_addMixin path mixin
  | checkin path => (keeps_distinct_checkin path).bind fun _ => keeps_pure _
  | addVersionLabel path version label => keeps_distinct_addVersionLabel path version label
  | importRun imp f entries =>
    (opsKeep_distinct.runEntries keeps_distinct_save keeps_distinct_discard imp f entries _ _).bind
      fun _ => keeps_pure _

theorem runAll_cons (op : SessionOp) (ops : List SessionOp) (r : Repository) :
    runAll (op :: ops) r = runAll ops (final (op.run r)) := by
  rw [runAll, List.foldl_cons]
  cases op.run r <;> rfl

theorem runAll_distinct : ∀ (ops : List SessionOp) {r : Repository}, DistinctSiblings r →
    DistinctSiblings (runAll ops r)
  | [], _, hr => hr
  | op :: ops, r, hr => by
    rw [runAll_cons]
    exact runAll_distinct ops (keeps_distinct_run op r hr)

/-- A session that starts from a tree in which no node has two children of one name never
builds a tree, transient or saved, in which one has: whatever its operations are, and whether
they succeed or fail. -/
theorem sibling_names_stay_distinct (tree : Node) (issued : Nat) (clock : Time.Timestamp)
    (htree : Everywhere DistinctChildren tree) (ops : List SessionOp) :
    DistinctSiblings (runAll ops (Repository.ofRoot tree issued clock)) :=
  runAll_distinct ops ⟨htree, htree⟩

/-- A session on a new repository that adds a node, fails to add it again, makes it versionable,
checks it in twice, labels a version and saves. -/
theorem versioned_session_keeps_names_distinct :
    Everywhere DistinctChildren emptyRoot ∧
      DistinctSiblings (runAll [addNode "/" "a" "nt:unstructured", addNode "/" "a" "nt:unstructured",
        addMixin "/a" Known.mixVersionable, checkin "/a", checkin "/a",
        addVersionLabel "/a" "1.0" "first", save] (Repository.ofRoot emptyRoot 0 creationMoment)) :=
  ⟨by decide, sibling_names_stay_distinct emptyRoot 0 creationMoment (by decide) _⟩

end SessionOp

end ContentSync
