import ContentSync.Proofs.KeptProperty
import ContentSync.Proofs.RescueMerge

/-!
# Staged trees keep sibling names distinct

The version storage is changed on a staged copy (`Staged`) that is committed in one step. A
staged child is only ever reached through `Staged.withChild`, which updates the first child of
a name or appends a blank one when there is none, so as long as the update keeps the child's
name, no two children of a staged node share a name (`Staged.Distinct`). This module shows
that every way the storage is staged keeps this: copying an existing tree in
(`Staged.distinct_ofNode`), the changes of a version document (`Staged.Restaged.distinct`),
freezing a node, creating a history, and putting a history back along its path; and that
building the staged tree gives back a tree whose nodes have distinct child names
(`Staged.everywhere_build`).

Main statements: `Staged.Distinct.withChild`, `Staged.Distinct.putAlong`,
`Staged.Restaged.distinct`, `Staged.everywhere_build`, `RepoM.yields_ensureHistory`.
-/

namespace ContentSync

open Node RepoM

namespace Staged

/-- Every node of the staged tree has children with distinct names. -/
inductive Distinct : Staged → Prop
  | intro (s : Staged) : (s.children.map (·.name)).Nodup → (∀ c ∈ s.children, Distinct c) →
      Distinct s

variable {s t : Staged} {name : String}

theorem Distinct.nodup (h : s.Distinct) : (s.children.map (·.name)).Nodup := by
  cases h with
  | intro _ hn _ => exact hn

theorem Distinct.child {c : Staged} (h : s.Distinct) (hc : c ∈ s.children) : c.Distinct := by
  cases h with
  | intro _ _ hcs => exact hcs c hc

/-- Only the children matter. -/
theorem Distinct.of_children_eq (h : s.Distinct) (hc : t.children = s.children) : t.Distinct :=
  .intro t (hc ▸ h.nodup) fun _ hct => h.child (hc ▸ hct)

theorem distinct_blank (name : String) : (blank name).Distinct :=
  .intro _ List.nodup_nil fun _ hc => nomatch hc

theorem Distinct.typeIfFresh (h : s.Distinct) (ty : String) : (s.typeIfFresh ty).Distinct := by
  unfold Staged.typeIfFresh
  split
  · exact h.of_children_eq rfl
  · exact h

theorem name_typeIfFresh (s : Staged) (ty : String) : (s.typeIfFresh ty).name = s.name := by
  unfold Staged.typeIfFresh
  split <;> rfl

theorem Distinct.setProperty (h : s.Distinct) (p : Property) : (s.setProperty p).Distinct :=
  h.of_children_eq rfl

theorem Distinct.child? {c : Staged} (h : s.Distinct) (hc : s.child? name = some c) : c.Distinct :=
  h.child (List.mem_of_find?_eq_some hc)

theorem name_of_child? {c : Staged} (hc : s.child? name = some c) : c.name = name := by
  simpa using List.find?_some hc

/-- The child of a name, or a blank one: it has that name and distinct names. -/
theorem Distinct.child?_getD (h : s.Distinct) (name : String) :
    ((s.child? name).getD (blank name)).Distinct ∧ ((s.child? name).getD (blank name)).name = name := by
  cases hc : s.child? name with
  | none => exact ⟨distinct_blank name, rfl⟩
  | some d => exact ⟨h.child? hc, name_of_child? hc⟩

/-! ## Updating a child by name -/

section WithChild

variable {α : Type} {f : Staged → Staged × α}

@[simp] theorem name_withChild (s : Staged) (name : String) (f : Staged → Staged × α) :
    (s.withChild name f).1.name = s.name :=
  rfl

theorem withChild_fst (s : Staged) (name : String) (f : Staged → Staged × α) :
    (s.withChild name f).1 = { s with children := (withChild.go name f s.children).1 } :=
  rfl

theorem withChild_go_nil (name : String) (f : Staged → Staged × α) :
    (withChild.go name f []).1 = [(f (blank name)).1] :=
  rfl

theorem withChild_go_cons (name : String) (f : Staged → Staged × α) (d : Staged) (ds : List Staged) :
    (withChild.go name f (d :: ds)).1 =
      if d.name = name then (f d).1 :: ds else d :: (withChild.go name f ds).1 := by
  rw [withChild.go]
  split <;> rfl

/-- The updated list keeps the names, or gains `name` at the end when it had none. -/
theorem map_name_withChild_go (hf : ∀ c, c.name = name → (f c).1.name = name) :
    ∀ cs : List Staged, (withChild.go name f cs).1.map (·.name) =
      if cs.any (·.name = name) then cs.map (·.name) else cs.map (·.name) ++ [name]
  | [] => by
    rw [withChild_go_nil]
    simp [hf (blank name) rfl]
  | d :: ds => by
    rw [withChild_go_cons]
    by_cases hd : d.name = name
    · simp [hd, hf d hd]
    · have ih := map_name_withChild_go hf ds
      simp only [hd, if_false, List.map_cons, ih, List.any_cons, decide_false, Bool.false_or]
      split <;> rfl

theorem mem_withChild_go {c : Staged} :
    ∀ {cs : List Staged}, c ∈ (withChild.go name f cs).1 →
      c ∈ cs ∨ ∃ d, (d ∈ cs ∨ d = blank name) ∧ d.name = name ∧ c = (f d).1
  | [], hc => by
    rw [withChild_go_nil, List.mem_singleton] at hc
    exact .inr ⟨blank name, .inr rfl, rfl, hc⟩
  | d :: ds, hc => by
    rw [withChild_go_cons] at hc
    split at hc
    · rename_i hd
      rcases List.mem_cons.mp hc with rfl | hc
      · exact .inr ⟨d, .inl List.mem_cons_self, hd, rfl⟩
      · exact .inl (List.mem_cons_of_mem d hc)
    · rcases List.mem_cons.mp hc with rfl | hc
      · exact .inl List.mem_cons_self
      · rcases mem_withChild_go hc with hc | ⟨e, he, hen, rfl⟩
        · exact .inl (List.mem_cons_of_mem d hc)
        · refine .inr ⟨e, ?_, hen, rfl⟩
          rcases he with he | rfl
          · exact .inl (List.mem_cons_of_mem d he)
          · exact .inr rfl

/-- Updating a child by name keeps names distinct, when the update keeps the child's name
and its names distinct. -/
theorem Distinct.withChild (hs : s.Distinct) (hname : ∀ c, c.name = name → (f c).1.name = name)
    (hf : ∀ c, c.name = name → c.Distinct → (f c).1.Distinct) :
    (s.withChild name f).1.Distinct := by
  rw [withChild_fst]
  refine .intro _ ?_ fun c hc => ?_
  · show ((withChild.go name f s.children).1.map (·.name)).Nodup
    rw [map_name_withChild_go hname s.children]
    split
    · exact hs.nodup
    · rename_i hnone
      refine List.nodup_append.mpr ⟨hs.nodup, by simp, ?_⟩
      rintro a ha b hb rfl
      rw [List.mem_singleton] at hb
      subst hb
      obtain ⟨d, hd, rfl⟩ := List.mem_map.mp ha
      exact hnone (List.any_eq_true.mpr ⟨d, hd, by simp⟩)
  · rcases mem_withChild_go hc with hc | ⟨d, hd, hdn, rfl⟩
    · exact hs.child hc
    · refine hf d hdn ?_
      rcases hd with hd | rfl
      · exact hs.child hd
      · exact distinct_blank name

end WithChild

/-! ## Paths of updates -/

theorem Distinct.modifyChild (hs : s.Distinct) {f : Staged → Staged}
    (hname : ∀ c, c.name = name → (f c).name = name)
    (hf : ∀ c, c.name = name → c.Distinct → (f c).Distinct) : (s.modifyChild name f).Distinct := by
  -- the children keep their names, and only the first one called `name` changes
  have key : ∀ cs : List Staged, (cs.map (·.name)).Nodup → (∀ c ∈ cs, c.Distinct) →
      ((modifyChild.go name f cs).map (·.name)) = cs.map (·.name) ∧
        ∀ c ∈ modifyChild.go name f cs, c.Distinct := by
    intro cs
    induction cs with
    | nil => intro _ _; exact ⟨rfl, fun _ hc => nomatch hc⟩
    | cons d ds ih =>
      intro hn hall
      rw [modifyChild.go]
      split
      · rename_i hd
        refine ⟨by simp [hname d hd, hd], fun c hc => ?_⟩
        rcases List.mem_cons.mp hc with rfl | hc
        · exact hf d hd (hall d List.mem_cons_self)
        · exact hall c (List.mem_cons_of_mem d hc)
      · obtain ⟨ihn, ihd⟩ := ih (List.nodup_cons.mp hn).2 fun c hc => hall c (List.mem_cons_of_mem d hc)
        refine ⟨by rw [List.map_cons, List.map_cons, ihn], fun c hc => ?_⟩
        rcases List.mem_cons.mp hc with rfl | hc
        · exact hall c List.mem_cons_self
        · exact ihd c hc
  obtain ⟨hn, hd⟩ := key s.children hs.nodup fun c hc => hs.child hc
  exact .intro _ (by show ((modifyChild.go name f s.children).map (·.name)).Nodup; rw [hn]; exact hs.nodup) hd

theorem name_putAlong (s : Staged) : ∀ (names : List String) (h : Staged), (s.putAlong names h).name = s.name
  | [], _ => rfl
  | [_], _ => rfl
  | _ :: _ :: _, _ => rfl

/-- Putting a node back at the end of a path named after it keeps names distinct. -/
theorem Distinct.putAlong {h : Staged} (hh : h.Distinct) :
    ∀ (names : List String) {s : Staged}, s.Distinct → (s.putAlong (names ++ [h.name]) h).Distinct
  | [], s, hs => hs.withChild (fun _ _ => rfl) fun _ _ _ => hh
  | n :: rest, s, hs => by
    obtain ⟨m, r, hmr⟩ : ∃ m r, rest ++ [h.name] = m :: r := by
      cases rest with
      | nil => exact ⟨h.name, [], rfl⟩
      | cons m r => exact ⟨m, r ++ [h.name], rfl⟩
    have hput : s.putAlong (n :: (rest ++ [h.name])) h =
        (s.withChild n fun c => (c.putAlong (rest ++ [h.name]) h, ())).1 := by
      rw [hmr]
      rfl
    rw [List.cons_append, hput]
    exact hs.withChild (fun c hc => (name_putAlong c _ h).trans hc) fun c _ hc =>
      Distinct.putAlong hh rest hc

theorem name_typeFreshAlong (s : Staged) (ty : String) :
    ∀ names : List String, (s.typeFreshAlong ty names).name = s.name
  | [] => rfl
  | _ :: _ => rfl

theorem Distinct.typeFreshAlong (ty : String) :
    ∀ (names : List String) {s : Staged}, s.Distinct → (s.typeFreshAlong ty names).Distinct
  | [], _, hs => hs
  | n :: rest, s, hs => by
    rw [Staged.typeFreshAlong]
    refine hs.withChild (fun c hc => ?_) fun c _ hc => Distinct.typeFreshAlong ty rest (hc.typeIfFresh ty)
    rw [name_typeFreshAlong]
    unfold Staged.typeIfFresh
    split <;> exact hc

theorem name_updateAlong {g : Staged → Staged} (hg : KeepsShape g) (s : Staged) :
    ∀ names : List String, (s.updateAlong names g).name = s.name
  | [] => (hg s).1
  | _ :: _ => rfl

theorem Distinct.updateAlong {g : Staged → Staged} (hg : KeepsShape g) :
    ∀ (names : List String) {s : Staged}, s.Distinct → (s.updateAlong names g).Distinct
  | [], s, hs => hs.of_children_eq (hg s).2
  | n :: rest, s, hs => by
    rw [Staged.updateAlong]
    exact hs.withChild (fun c hc => (name_updateAlong hg c rest).trans hc) fun c _ hc =>
      Distinct.updateAlong hg rest hc

/-- What a version document stages keeps names distinct. -/
theorem Restaged.distinct {s' : Staged} (h : s.Restaged s') (hs : s.Distinct) : s'.Distinct := by
  induction h with
  | refl => exact hs
  | typeFreshAlong ty names _ ih => exact ih.typeFreshAlong ty names
  | updateAlong names hg _ ih => exact ih.updateAlong hg names

/-! ## Looking a node up along a path -/

theorem lookup_none (names : List String) :
    names.foldl (fun o name => o.bind (·.child? name)) (none : Option Staged) = none := by
  induction names with
  | nil => rfl
  | cons _ _ ih => exact ih

/-- What passes from a node to each of its children holds of every node found along a path. -/
theorem lookup_of_child? {P : Staged → Prop}
    (hP : ∀ {s c : Staged} {a : String}, P s → s.child? a = some c → P c) :
    ∀ (names : List String) {s h : Staged}, P s →
      names.foldl (fun o name => o.bind (·.child? name)) (some s) = some h → P h
  | [], _, _, hs, hh => by
    cases hh
    exact hs
  | n :: ns, s, h, hs, hh => by
    rw [List.foldl_cons, Option.bind_some] at hh
    cases hc : s.child? n with
    | none => rw [hc, lookup_none] at hh; cases hh
    | some c => rw [hc] at hh; exact lookup_of_child? hP ns (hP hs hc) hh

/-- A node found along a path of a staged tree with distinct names has distinct names. -/
theorem Distinct.lookup :
    ∀ (names : List String) {s h : Staged}, s.Distinct →
      names.foldl (fun o name => o.bind (·.child? name)) (some s) = some h → h.Distinct
  | [], _, _, hs, hh => by
    cases hh
    exact hs
  | n :: ns, s, h, hs, hh => by
    rw [List.foldl_cons, Option.bind_some] at hh
    cases hc : s.child? n with
    | none => rw [hc, lookup_none] at hh; cases hh
    | some c => rw [hc] at hh; exact Distinct.lookup ns (hs.child? hc) hh

/-- A node found along a path is named by its last name. -/
theorem name_lookup {names : List String} {a : String} {s h : Staged}
    (hh : (names ++ [a]).foldl (fun o name => o.bind (·.child? name)) (some s) = some h) :
    h.name = a := by
  rw [List.foldl_append, List.foldl_cons, List.foldl_nil] at hh
  obtain ⟨c, -, hc⟩ := Option.bind_eq_some_iff.mp hh
  exact name_of_child? hc

/-! ## Copying a tree in and building it back -/

theorem ofNodes_eq_map (ns : List Node) : ofNodes ns = ns.map ofNode := by
  induction ns with
  | nil => rw [ofNodes]; rfl
  | cons n ns ih => rw [ofNodes, ih]; rfl

theorem name_ofNode (n : Node) : (ofNode n).name = n.name := by
  cases n
  rw [ofNode]

theorem children_ofNode (n : Node) : (ofNode n).children = n.children.map ofNode := by
  cases n
  rw [ofNode, ofNodes_eq_map]

theorem distinct_ofNode {n : Node} (h : Everywhere DistinctChildren n) : (ofNode n).Distinct := by
  induction h with
  | intro n hn _ ih =>
    refine .intro _ ?_ fun c hc => ?_
    · rw [children_ofNode, List.map_map]
      have hname : (·.name) ∘ ofNode = fun c : Node => c.name := funext name_ofNode
      rw [hname]
      exact hn
    · rw [children_ofNode] at hc
      obtain ⟨d, hd, rfl⟩ := List.mem_map.mp hc
      exact ih d hd

theorem buildAll_eq_map (ss : List Staged) : buildAll ss = ss.map build := by
  induction ss with
  | nil => rw [buildAll]; rfl
  | cons s ss ih => rw [buildAll, ih]; rfl

theorem name_build (s : Staged) : s.build.name = s.name := by
  cases s
  rw [build]

theorem children_build (s : Staged) : s.build.children = s.children.map build := by
  cases s
  rw [build, buildAll_eq_map]

theorem everywhere_build (h : s.Distinct) : Everywhere DistinctChildren s.build := by
  induction h with
  | intro s hn _ ih =>
    refine .intro _ ?_ fun c hc => ?_
    · show (s.build.children.map (·.name)).Nodup
      rw [children_build, List.map_map]
      have hname : (·.name) ∘ build = fun c : Staged => c.name := funext name_build
      rw [hname]
      exact hn
    · rw [children_build] at hc
      obtain ⟨d, hd, rfl⟩ := List.mem_map.mp hc
      exact ih d hd

end Staged

/-! ## Freezing and creating histories -/

namespace RepoM

/-- A staged node whose fields other than its name and children change stays as it was for
distinct names. -/
def StagedLike (target t : Staged) : Prop := t.Distinct ∧ t.name = target.name

theorem yields_initVersion (predecessors : List String) {v : Staged} (hv : v.Distinct) :
    Yields (StagedLike v) (initVersion predecessors v) := by
  unfold initVersion
  exact Yields.bind fun _ => Yields.bind fun _ =>
    yields_pure ⟨hv.of_children_eq rfl, rfl⟩

mutual
theorem yields_freeze (withContent : Bool) :
    ∀ (target : Staged) (source : Node), target.Distinct →
      Yields (StagedLike target) (freeze withContent target source)
  | target, ⟨_, _, _, props, cs⟩, ht => by
    rw [freeze]
    refine Yields.bind fun id => ?_
    dsimp only
    -- the frozen node's own fields are set first, then its children are frozen into it
    split
    · split <;> exact yields_pure ⟨ht.of_children_eq rfl, rfl⟩
    · split <;>
      · intro r a r' h
        obtain ⟨hd, hn⟩ := yields_freezeChildren _ cs (by
          exact ht.of_children_eq (Staged.shape_foldl _ (fun p _ => Staged.keepsShape_setProperty p) _).2)
          r a r' h
        exact ⟨hd, hn.trans (Staged.shape_foldl _ (fun p _ => Staged.keepsShape_setProperty p) _).1⟩

theorem yields_freezeChildren :
    ∀ (t : Staged) (cs : List Node), t.Distinct → Yields (StagedLike t) (freezeChildren t cs)
  | t, [], ht => by
    rw [freezeChildren]
    exact yields_pure ⟨ht, rfl⟩
  | t, c :: cs, ht => by
    rw [freezeChildren]
    dsimp only
    obtain ⟨hed, hen⟩ := ht.child?_getD c.name
    refine Yields.bind_of (yields_freeze true _ c hed) fun frozen ⟨hfd, hfn⟩ => ?_
    exact yields_freezeChildren _ cs (ht.withChild (fun _ _ => hfn.trans hen) fun _ _ _ => hfd)
end

theorem yields_descend (node : Node) (id : String) :
    ∀ (names : List String) (s : Staged), s.Distinct →
      Yields (fun p : Staged × Bool => StagedLike s p.1) (ensureHistory.descend node id names s)
  | [], s, hs => by
    rw [ensureHistory.descend]
    dsimp only
    obtain ⟨hed, hen⟩ := hs.child?_getD id
    split
    · exact yields_pure ⟨hs.withChild (fun _ h => h) fun _ _ h => h, rfl⟩
    · refine Yields.bind fun _ => ?_
      refine Yields.bind_of (yields_initVersion [] (Staged.distinct_blank _)) fun rv ⟨hrvd, hrvn⟩ => ?_
      refine Yields.bind_of (yields_freeze false _ node (Staged.distinct_blank _)) fun fr ⟨hfd, hfn⟩ => ?_
      -- the new history holds its labels and its root version, which holds its frozen node
      have hroot : (rv.withChild Known.frozenNode fun _ => (fr, ())).1.Distinct :=
        hrvd.withChild (fun _ _ => hfn) fun _ _ _ => hfd
      refine yields_pure ⟨hs.withChild (fun _ _ => hen) fun _ _ _ => ?_, rfl⟩
      refine Staged.Distinct.withChild ?_ (fun _ _ => hrvn) fun _ _ _ => hroot
      refine Staged.Distinct.withChild ?_ (fun _ h => h) fun _ _ h => h.of_children_eq rfl
      exact hed.of_children_eq rfl
  | bucket :: rest, s, hs => by
    rw [ensureHistory.descend]
    dsimp only
    obtain ⟨hed, hen⟩ := hs.child?_getD bucket
    refine Yields.bind_of (yields_descend node id rest _ (hed.typeIfFresh _)) fun p ⟨hpd, hpn⟩ => ?_
    exact yields_pure ⟨hs.withChild (fun _ _ => hpn.trans ((Staged.name_typeIfFresh _ _).trans hen))
      fun _ _ _ => hpd, rfl⟩

/-- Creating a history keeps names distinct in the staged storage. -/
theorem yields_ensureHistory {storage : Staged} (hs : storage.Distinct) (node : Node) (id : String) :
    Yields (fun p : Staged × Bool => StagedLike storage p.1) (ensureHistory storage node id) := by
  unfold ensureHistory
  exact yields_descend node id _ storage hs

theorem keeps_now {P : Repository → Prop} : Keeps P now :=
  keeps_get.bind fun _ => keeps_pure _

/-! ## Creating a history only draws identifiers -/

section DrawsIdentifiers

variable {P : Repository → Prop}

theorem keeps_freshIdentifier (h : Keeps P freshNumber) : Keeps P freshIdentifier :=
  h.bind fun _ => keeps_pure _

theorem keeps_initVersion (h : Keeps P freshNumber) (predecessors : List String) (v : Staged) :
    Keeps P (initVersion predecessors v) := by
  unfold RepoM.initVersion
  exact (keeps_freshIdentifier h).bind fun _ => keeps_now.bind fun _ => keeps_pure _

mutual
theorem keeps_freeze (h : Keeps P freshNumber) (withContent : Bool) :
    ∀ (target : Staged) (source : Node), Keeps P (RepoM.freeze withContent target source)
  | target, ⟨_, _, _, _, cs⟩ => by
    rw [RepoM.freeze]
    refine (keeps_freshIdentifier h).bind fun _ => ?_
    dsimp only
    split
    · exact keeps_pure _
    · exact keeps_freezeChildren h _ cs

theorem keeps_freezeChildren (h : Keeps P freshNumber) :
    ∀ (t : Staged) (cs : List Node), Keeps P (RepoM.freezeChildren t cs)
  | t, [] => by
    rw [RepoM.freezeChildren]
    exact keeps_pure _
  | t, c :: cs => by
    rw [RepoM.freezeChildren]
    exact (keeps_freeze h true _ c).bind fun _ => keeps_freezeChildren h _ cs
end

theorem keeps_descend (h : Keeps P freshNumber) (node : Node) (id : String) :
    ∀ (names : List String) (s : Staged), Keeps P (ensureHistory.descend node id names s)
  | [], s => by
    rw [ensureHistory.descend]
    dsimp only
    split
    · exact keeps_pure _
    · exact (keeps_freshIdentifier h).bind fun _ => (keeps_initVersion h _ _).bind fun _ =>
        (keeps_freeze h false _ node).bind fun _ => keeps_pure _
  | bucket :: rest, s => by
    rw [ensureHistory.descend]
    exact (keeps_descend h node id rest _).bind fun _ => keeps_pure _

/-- Creating a history keeps every property that drawing an identifier keeps. -/
theorem keeps_ensureHistory (h : Keeps P freshNumber) (storage : Staged) (node : Node)
    (id : String) : Keeps P (RepoM.ensureHistory storage node id) := by
  unfold RepoM.ensureHistory
  exact keeps_descend h node id _ storage

end DrawsIdentifiers

end RepoM

end ContentSync
