import ContentSync.Proofs.RescueRestore

/-!
# The scratch node beside the target

A replacement parks the target's children in a scratch node below the root, under a name no
other child of the root has. Every later step changes the tree at the target, below it, or
inside the scratch node, so the tree is best seen in two parts: the tree with the scratch node
erased (`Node.eraseChild s` of the root), which changes by updates at the target only, and the
scratch node itself. When the target is the root, the scratch node is one of the target's
children; `Node.SparesChild` says which updates of the target still leave it alone.

Main statements: `RescueTransformer.begin_of_ok` reads the parking back, and
`RescueTransformer.finish_run` puts every parked child back and removes the scratch node.
-/

namespace ContentSync

open Node

namespace Node

/-! ## Erasing the scratch node -/

section Scratch

variable {f g : Node → Node}

theorem updateChild_eraseP (hf : KeepsName f) {b s : String} (h : b ≠ s) (u : List String)
    (cs : List Node) :
    updateChild f b u (cs.eraseP (·.name = s)) = (updateChild f b u cs).eraseP (·.name = s) := by
  induction cs with
  | nil => rfl
  | cons c cs ih =>
    by_cases hc : c.name = s
    · -- `c` is the one erased, and the update passes it by
      have hcb : c.name ≠ b := fun hcb => h (hcb.symm.trans hc)
      rw [List.eraseP_cons_of_pos (by simpa using hc), updateChild_cons_of_ne hcb,
        List.eraseP_cons_of_pos (by simpa using hc)]
    · rw [List.eraseP_cons_of_neg (by simpa using hc)]
      by_cases hcb : c.name = b
      · have hc' : ¬ (c.updateAlong f u).name = s := by rwa [name_updateAlong hf]
        rw [updateChild_cons_of_eq hcb, updateChild_cons_of_eq hcb,
          List.eraseP_cons_of_neg (by simpa using hc')]
      · rw [updateChild_cons_of_ne hcb, updateChild_cons_of_ne hcb,
          List.eraseP_cons_of_neg (by simpa using hc), ih]

/-- Erasing the child `s` commutes with an update below another child. -/
theorem eraseChild_updateAlong_cons_of_ne (hf : KeepsName f) {b s : String} (h : b ≠ s)
    (u : List String) (n : Node) :
    eraseChild s (n.updateAlong f (b :: u)) = (eraseChild s n).updateAlong f (b :: u) := by
  rw [updateAlong_cons, updateAlong_cons]
  show { n with children := (updateChild f b u n.children).eraseP (·.name = s) } =
    { n with children := updateChild f b u (n.children.eraseP (·.name = s)) }
  rw [updateChild_eraseP hf h]

/-- A lookup through a child other than `s` does not see `s` erased. -/
theorem descendAlong_eraseChild_cons {b s : String} (h : b ≠ s) (u : List String) (n : Node) :
    (eraseChild s n).descendAlong (b :: u) = n.descendAlong (b :: u) := by
  rw [descendAlong_cons, descendAlong_cons, child?_eraseChild_of_ne (Ne.symm h)]

theorem child?_updateAlong_cons_of_ne (hf : KeepsName f) {b s : String} (h : b ≠ s)
    (u : List String) (n : Node) : (n.updateAlong f (b :: u)).child? s = n.child? s := by
  rw [child?_updateAlong_cons hf, if_neg h]

/-- An update of the node at `ps` that leaves the root's child `s` alone, whenever the root has
one: it commutes with erasing `s`, and `s` is still the same node after it. -/
def SparesChild (s : String) (ps : List String) (f : Node → Node) : Prop :=
  ∀ n : Node, n.hasChild s = true →
    eraseChild s (n.updateAlong f ps) = (eraseChild s n).updateAlong f ps ∧
      (n.updateAlong f ps).child? s = n.child? s

/-- Below another child of the root, every update spares `s`. -/
theorem sparesChild_cons (hf : KeepsName f) {b s : String} (h : b ≠ s) (u : List String) :
    SparesChild s (b :: u) f := fun n _ =>
  ⟨eraseChild_updateAlong_cons_of_ne hf h u n, child?_updateAlong_cons_of_ne hf h u n⟩

/-- An update that spares `s` at the root spares it at any target outside `s`. -/
theorem SparesChild.of_root (hf : KeepsName f) {s : String} (hroot : SparesChild s [] f)
    {ps : List String} (hps : ps.head? ≠ some s) : SparesChild s ps f := by
  cases ps with
  | nil => exact hroot
  | cons b u =>
    have hb : b ≠ s := fun hb => hps (by rw [hb]; rfl)
    exact sparesChild_cons hf hb u

theorem SparesChild.comp (hf : KeepsName f) {s : String} {ps : List String}
    (hsf : SparesChild s ps f) (hsg : SparesChild s ps g) : SparesChild s ps (g ∘ f) := by
  intro n hn
  obtain ⟨hef, hcf⟩ := hsf n hn
  have hn' : (n.updateAlong f ps).hasChild s = true := by
    obtain ⟨d, hd⟩ := exists_child?_of_hasChild hn
    exact hasChild_of_child? (hcf.trans hd)
  obtain ⟨heg, hcg⟩ := hsg _ hn'
  rw [← updateAlong_updateAlong hf, ← updateAlong_updateAlong hf, heg, hef, hcg, hcf]
  exact ⟨rfl, rfl⟩

/-- Erasing another child of the root spares `s`. -/
theorem sparesChild_eraseChild {a s : String} (has : a ≠ s) : SparesChild s [] (eraseChild a) := by
  intro n _
  rw [updateAlong_nil, updateAlong_nil]
  refine ⟨?_, child?_eraseChild_of_ne has n⟩
  show { n with children :=
      List.eraseP (fun c : Node => c.name = s) (n.children.eraseP (·.name = a)) } =
    { n with children :=
      List.eraseP (fun c : Node => c.name = a) (n.children.eraseP (·.name = s)) }
  rw [List.eraseP_comm]
  intro c _
  by_cases hc : c.name = s
  · exact Or.inl (by simpa [hc] using Ne.symm has)
  · exact Or.inr (by simpa using hc)

/-- Appending children to a root that has `s` spares it: the first `s` stays first. -/
theorem sparesChild_appendChildren (cs : List Node) {s : String} :
    SparesChild s [] (appendChildren cs) := by
  intro n hn
  obtain ⟨d, hd⟩ := exists_child?_of_hasChild hn
  have hdn : d ∈ n.children := mem_of_child? hd
  rw [updateAlong_nil, updateAlong_nil]
  refine ⟨?_, ?_⟩
  · show { n with children := (n.children ++ cs).eraseP (·.name = s) } =
      { n with children := n.children.eraseP (·.name = s) ++ cs }
    rw [List.eraseP_append_left (by simpa using name_of_child? hd) cs hdn]
  · show (n.children ++ cs).find? (·.name = s) = n.children.find? (·.name = s)
    rw [List.find?_append]
    change (n.child? s).or _ = n.child? s
    rw [hd]
    rfl

theorem sparesChild_appendChild (c : Node) {s : String} : SparesChild s [] (appendChild c) :=
  sparesChild_appendChildren [c]

/-! ## Paths beside the scratch node -/

theorem filter_eraseP_name (cs : List Node) (s : String) :
    (cs.eraseP (·.name = s)).filter (·.name ≠ s) = cs.filter (·.name ≠ s) := by
  induction cs with
  | nil => rfl
  | cons c cs ih =>
    by_cases hc : c.name = s
    · rw [List.eraseP_cons_of_pos (by simpa using hc), List.filter_cons_of_neg (by simpa using hc)]
    · rw [List.eraseP_cons_of_neg (by simpa using hc), List.filter_cons_of_pos (by simpa using hc),
        List.filter_cons_of_pos (by simpa using hc), ih]

/-- Among children with distinct names, erasing the first called `a` is dropping all of them. -/
theorem eraseP_name_eq_filter {cs : List Node} (h : (cs.map (·.name)).Nodup) (a : String) :
    cs.eraseP (·.name = a) = cs.filter (·.name ≠ a) := by
  induction cs with
  | nil => rfl
  | cons c cs ih =>
    rw [List.map_cons, List.nodup_cons] at h
    by_cases hc : c.name = a
    · have hnone : ∀ d ∈ cs, d.name ≠ a := fun d hd hda =>
        h.1 (List.mem_map.mpr ⟨d, hd, hda.trans hc.symm⟩)
      rw [List.eraseP_cons_of_pos (by simpa using hc), List.filter_cons_of_neg (by simpa using hc),
        List.filter_eq_self.mpr fun d hd => by simpa using hnone d hd]
    · rw [List.eraseP_cons_of_neg (by simpa using hc), List.filter_cons_of_pos (by simpa using hc),
        ih h.2]

variable {ps : List String} {s : String}

/-- A path that does not start at `s`, extended by a name other than `s`, starts elsewhere. -/
theorem exists_cons_append (hhead : ps.head? ≠ some s) {a : String} (ha : a ≠ s)
    (u : List String) : ∃ b v, ps ++ a :: u = b :: v ∧ b ≠ s := by
  cases ps with
  | nil => exact ⟨a, u, rfl, ha⟩
  | cons b ps => exact ⟨b, ps ++ a :: u, rfl, fun hb => hhead (by rw [hb]; rfl)⟩

theorem descendAlong_eraseChild_append (hhead : ps.head? ≠ some s) {a : String} (ha : a ≠ s)
    (u : List String) (n : Node) :
    (eraseChild s n).descendAlong (ps ++ a :: u) = n.descendAlong (ps ++ a :: u) := by
  obtain ⟨b, v, hbv, hb⟩ := exists_cons_append hhead ha u
  rw [hbv, descendAlong_eraseChild_cons hb]

/-- Below the target, every update spares `s`. -/
theorem sparesChild_append (hf : KeepsName f) (hhead : ps.head? ≠ some s) {a : String}
    (ha : a ≠ s) (u : List String) : SparesChild s (ps ++ a :: u) f := by
  obtain ⟨b, v, hbv, hb⟩ := exists_cons_append hhead ha u
  rw [hbv]
  exact sparesChild_cons hf hb v

theorem name_of_mem_filter_name {cs : List Node} {c : Node} (h : c ∈ cs.filter (·.name = s)) :
    c.name = s := by
  simpa using (List.mem_filter.mp h).2

theorem name_ne_of_mem_filter_name {cs : List Node} {c : Node} (h : c ∈ cs.filter (·.name ≠ s)) :
    c.name ≠ s := by
  simpa using (List.mem_filter.mp h).2

/-- The target's children other than `s` are the same whether `s` is erased or not. -/
theorem children_filter_eraseChild (hhead : ps.head? ≠ some s) (n : Node) :
    (n.descendAlong ps).map (fun y => y.children.filter (·.name ≠ s)) =
      ((eraseChild s n).descendAlong ps).map (fun y => y.children.filter (·.name ≠ s)) := by
  cases ps with
  | nil =>
    show some (n.children.filter (·.name ≠ s)) =
      some ((n.children.eraseP (·.name = s)).filter (·.name ≠ s))
    rw [filter_eraseP_name]
  | cons b u => rw [descendAlong_eraseChild_cons fun hb => hhead (by rw [hb]; rfl)]

/-- The names along a path of a well-named tree are valid. -/
theorem validName_of_descendAlong {n m : Node} (hw : Everywhere SiblingsWellNamed n)
    (h : n.descendAlong ps = some m) : ∀ a ∈ ps, Path.ValidName a := by
  induction ps generalizing n with
  | nil => intro a ha; cases ha
  | cons b ps ih =>
    rw [descendAlong_cons] at h
    cases hc : n.child? b with
    | none => rw [hc] at h; cases h
    | some c =>
      rw [hc, Option.bind_some] at h
      intro a ha
      rcases List.mem_cons.mp ha with rfl | ha
      · rw [← name_of_child? hc]
        exact hw.self.2 c (mem_of_child? hc)
      · exact ih (hw.child (mem_of_child? hc)) h a ha

/-! ## Replacing the target's state spares the scratch node -/

theorem applyProperty_withChildren (cs : List Node) (n : Node) (p : Property) :
    (withChildren cs n).applyProperty p = withChildren cs (n.applyProperty p) := by
  unfold applyProperty
  split
  · split <;> rfl
  · split <;> rfl

theorem replaced_withChildren (new : Node) (preserved : List String) (cs : List Node) (y : Node) :
    replaced new preserved (withChildren cs y) = withChildren cs (replaced new preserved y) := by
  -- the stale names are read off the properties, which `withChildren` leaves alone
  have hset : ∀ (qs : List Property) (m : Node),
      qs.foldl applyProperty (withChildren cs m) = withChildren cs (qs.foldl applyProperty m) := by
    intro qs
    induction qs with
    | nil => intro m; rfl
    | cons q qs ih => intro m; rw [List.foldl_cons, applyProperty_withChildren, ih]; rfl
  have hrem : ∀ (names : List String) (m : Node),
      names.foldl Node.removeProperty (withChildren cs m) =
        withChildren cs (names.foldl Node.removeProperty m) := by
    intro names
    induction names with
    | nil => intro m; rfl
    | cons a names ih => intro m; rw [List.foldl_cons, List.foldl_cons, ← ih]; rfl
  unfold replaced
  rw [← hset, ← hrem]
  rfl

theorem sparesChild_replaced (new : Node) (preserved : List String) :
    SparesChild s [] (replaced new preserved) := by
  intro n _
  rw [updateAlong_nil, updateAlong_nil]
  have hchildren := RescueTransformer.children_replaced new preserved n
  refine ⟨?_, ?_⟩
  · show withChildren ((replaced new preserved n).children.eraseP (·.name = s))
      (replaced new preserved n) = replaced new preserved (withChildren (n.children.eraseP (·.name = s)) n)
    rw [replaced_withChildren, hchildren]
  · show (replaced new preserved n).children.find? (·.name = s) = n.children.find? (·.name = s)
    rw [hchildren]

end Scratch

end Node

namespace RescueTransformer

/-! ## Parking the target's children -/

section Park

variable {ps : List String} {s : String} {base : Node}

/-- The tree while children are parked in the scratch node `s`: with `s` erased, it is `base`
changed by `F` at the target; `s` holds the parked children `D`. -/
def Parked (s : String) (ps : List String) (base : Node) (F : Node → Node) (D : List Node)
    (root : Node) : Prop :=
  eraseChild s root = base.updateAlong F ps ∧
    root.child? s = some (withChildren D (Node.empty s Known.ntUnstructured))

/-- The scratch node is `/s`. -/
theorem join_root (hs : Path.ValidName s) : Path.join "/" s = Path.render [s] :=
  @Path.join_render [] (fun _ h => nomatch h) s hs

/-- A path that does not start at `s` is no prefix of one that does. -/
theorem not_prefix_cons (hhead : ps.head? ≠ some s) {a : String} (ha : a ≠ s) (v : List String) :
    ¬ (ps ++ [a]) <+: s :: v := by
  obtain ⟨b, w, hbw, hb⟩ := exists_cons_append hhead ha []
  rw [hbw]
  intro h
  exact hb (List.cons_prefix_cons.mp h).1

/-- Moving one child `c` of the target into the scratch node. -/
theorem park_step {K D : List Node} {c T : Node} {U : Repository}
    (hps : ∀ x ∈ ps, Path.ValidName x) (hs : Path.ValidName s) (hhead : ps.head? ≠ some s)
    (hT : base.descendAlong ps = some T) (hK : (K.map (·.name)).Nodup) (hc : c ∈ K)
    (hcs : c.name ≠ s) (hcv : Path.ValidName c.name) (hD : ∀ d ∈ D, d.name ≠ c.name)
    (hP : Parked s ps base (withChildren K) D U.root) :
    ∃ root', RepoM.moveNode (Path.join (Path.render ps) c.name)
        (Path.join (Path.join "/" s) c.name) U = .ok () { U with root := root' } ∧
      Parked s ps base (withChildren (K.filter (·.name ≠ c.name))) (D ++ [c]) root' := by
  obtain ⟨hX, hS⟩ := hP
  have hvs : ∀ x ∈ ps ++ [c.name], Path.ValidName x := by
    intro x hx
    rcases List.mem_append.mp hx with hx | hx
    · exact hps x hx
    · rw [List.mem_singleton.mp hx]
      exact hcv
  have hvd : ∀ x ∈ [s] ++ [c.name], Path.ValidName x := by
    intro x hx
    rcases List.mem_append.mp hx with hx | hx
    · rw [List.mem_singleton.mp hx]
      exact hs
    · rw [List.mem_singleton.mp hx]
      exact hcv
  have hsrc : Path.join (Path.render ps) c.name = Path.render (ps ++ [c.name]) :=
    Path.join_render hps hcv
  have hdst : Path.join (Path.join "/" s) c.name = Path.render ([s] ++ [c.name]) := by
    rw [join_root hs]
    exact Path.join_render (fun x hx => by rw [List.mem_singleton.mp hx]; exact hs) hcv
  have hdesc : Path.isDescendantOrSelf (Path.render (ps ++ [c.name])) (Path.render ([s] ++ [c.name]))
      = false := by
    cases h : Path.isDescendantOrSelf (Path.render (ps ++ [c.name])) (Path.render ([s] ++ [c.name]))
    · rfl
    · exact absurd ((Path.isDescendantOrSelf_render hvs hvd).mp h) (not_prefix_cons hhead hcs _)
  -- the child is found at the target, the scratch node beside it
  have hfound : U.root.descendAlong (ps ++ [c.name]) = some c := by
    rw [← descendAlong_eraseChild_append hhead hcs, hX,
      descendAlong_updateAlong_append (keepsName_withChildren K), hT]
    rw [Option.bind_some, descendAlong_cons, child?_of_mem (n := withChildren K T) hK hc]
    rfl
  obtain ⟨m, hm, hmc⟩ := descendAlong_snoc_eq_some.mp hfound
  have hd : U.root.descendAlong [s] = some (withChildren D (Node.empty s Known.ntUnstructured)) := by
    rw [descendAlong_cons, hS]
    rfl
  have hfree : (withChildren D (Node.empty s Known.ntUnstructured)).hasChild c.name = false :=
    List.any_eq_false.mpr fun d hd' => by simpa using hD d hd'
  have hmove := RepoM.moveNode_run (Path.segments_render hvs) (Path.segments_render hvd) hdesc
    (not_prefix_cons hhead hcs []) hm hmc hd hfree
  rw [← hsrc, ← hdst, rename_self rfl] at hmove
  refine ⟨_, hmove, ?_, ?_⟩
  · -- with the scratch node erased, the move only erased `c` at the target
    have hspare := (SparesChild.of_root (keepsName_eraseChild c.name) (sparesChild_eraseChild hcs)
      hhead U.root (hasChild_of_child? hS)).1
    rw [eraseChild_updateAlong_cons (keepsName_appendChild c) s [], hspare, hX,
      updateAlong_updateAlong (keepsName_withChildren K)]
    apply updateAlong_congr
    intro n _
    show withChildren (K.eraseP (·.name = c.name)) n = withChildren (K.filter (·.name ≠ c.name)) n
    rw [eraseP_name_eq_filter hK]
  · have hspare := (SparesChild.of_root (keepsName_eraseChild c.name) (sparesChild_eraseChild hcs)
      hhead U.root (hasChild_of_child? hS)).2
    rw [child?_updateAlong_cons (keepsName_appendChild c), if_pos rfl, hspare, hS]
    rfl

/-- The parking loop: every child in `rest` is moved in turn, and the loop returns their names
after those moved before. -/
theorem park_loop {g : String → List String → RepoM (ForInStep (List String))}
    (hps : ∀ x ∈ ps, Path.ValidName x) (hs : Path.ValidName s) (hhead : ps.head? ≠ some s)
    {T : Node} (hT : base.descendAlong ps = some T) :
    ∀ (rest K D : List Node) (acc out : List String) (U U' : Repository),
      (K.map (·.name)).Nodup → (rest.map (·.name)).Nodup →
      (∀ c ∈ rest, c ∈ K ∧ c.name ≠ s ∧ Path.ValidName c.name) →
      (∀ c ∈ rest, ∀ d ∈ D, d.name ≠ c.name) → Parked s ps base (withChildren K) D U.root →
      forIn (rest.map (·.name)) acc g U = .ok out U' →
      (∀ (a : String) (acc : List String) (V V' : Repository),
        RepoM.moveNode (Path.join (Path.render ps) a) (Path.join (Path.join "/" s) a) V = .ok () V' →
          g a acc V = .ok (.yield (acc ++ [a])) V') →
      out = acc ++ rest.map (·.name) ∧
        Parked s ps base (withChildren (K.filter fun c => c.name ∉ rest.map (·.name))) (D ++ rest)
          U'.root := by
  intro rest
  induction rest with
  | nil =>
    intro K D acc out U U' _ _ _ _ hP hloop _
    rw [List.map_nil, List.forIn_nil, RepoM.pure_run] at hloop
    cases hloop
    refine ⟨(List.append_nil acc).symm, ?_⟩
    rw [List.append_nil, List.filter_eq_self.mpr fun c _ => by simp]
    exact hP
  | cons c rest ih =>
    intro K D acc out U U' hK hrest hmem hdisj hP hloop hg
    obtain ⟨hcK, hcs, hcv⟩ := hmem c List.mem_cons_self
    obtain ⟨root₁, hmove, hP₁⟩ :=
      park_step hps hs hhead hT hK hcK hcs hcv (hdisj c List.mem_cons_self) hP
    rw [List.map_cons, List.forIn_cons, RepoM.bind_of_ok (hg _ _ _ _ hmove)] at hloop
    dsimp only at hloop
    rw [List.map_cons, List.nodup_cons] at hrest
    -- the rest of the loop runs from the tree with `c` parked
    have hK₁ : ((K.filter (·.name ≠ c.name)).map (·.name)).Nodup :=
      (List.filter_sublist.map fun d : Node => d.name).nodup hK
    have hmem₁ : ∀ d ∈ rest, d ∈ K.filter (·.name ≠ c.name) ∧ d.name ≠ s ∧ Path.ValidName d.name := by
      intro d hd
      obtain ⟨hdK, hds, hdv⟩ := hmem d (List.mem_cons_of_mem c hd)
      have hdc : d.name ≠ c.name := fun h => hrest.1 (List.mem_map.mpr ⟨d, hd, h⟩)
      exact ⟨List.mem_filter.mpr ⟨hdK, by simpa using hdc⟩, hds, hdv⟩
    have hdisj₁ : ∀ d ∈ rest, ∀ e ∈ D ++ [c], e.name ≠ d.name := by
      intro d hd e he
      rcases List.mem_append.mp he with he | he
      · exact hdisj d (List.mem_cons_of_mem c hd) e he
      · rw [List.mem_singleton.mp he]
        exact fun h => hrest.1 (List.mem_map.mpr ⟨d, hd, h.symm⟩)
    obtain ⟨hout, hP'⟩ := ih _ _ _ _ _ _ hK₁ hrest.2 hmem₁ hdisj₁ hP₁ hloop hg
    refine ⟨by rw [hout, List.append_assoc, List.singleton_append, List.map_cons], ?_⟩
    rw [List.filter_filter, List.append_assoc, List.singleton_append] at hP'
    have hfilter : (K.filter fun d => d.name ∉ c.name :: rest.map (·.name)) =
        K.filter fun d => (decide (d.name ∉ rest.map (·.name)) && decide (d.name ≠ c.name)) := by
      apply List.filter_congr
      intro d _
      by_cases hdc : d.name = c.name <;> by_cases hdr : d.name ∈ rest.map (·.name) <;> simp [hdc, hdr]
    rw [List.map_cons, hfilter]
    exact hP'

/-- A successful `begin` at a node of a well-named tree parks the target's children: the scratch
node `s` is new below the root, and it holds, in order, every child of the target but one
named `s`, which stays where it is. -/
theorem begin_of_ok {pres : List String} {r r' : Repository} {t : RescueTransformer} {T : Node}
    (hwell : Everywhere SiblingsWellNamed r.root) (hT : r.root.descendAlong ps = some T)
    (h : begin (Path.render ps) pres r = .ok t r') :
    ∃ s, Path.ValidName s ∧ r.root.hasChild s = false ∧ ps.head? ≠ some s ∧
      t = { target := Path.render ps, scratch := Path.join "/" s,
            rescued := (T.children.filter (·.name ≠ s)).map (·.name), preserved := pres,
            stack := [], started := false } ∧
      Parked s ps r.root (withChildren (T.children.filter (·.name = s)))
        (T.children.filter (·.name ≠ s)) r'.root := by
  have hps := validName_of_descendAlong hwell hT
  unfold begin at h
  obtain ⟨k, r₁, hk, h₁⟩ := RepoM.bind_eq_ok.mp h
  rw [RepoM.freshNumber_run] at hk
  cases hk
  generalize "tmp-" ++ simpleIdentifierOf (r.issued + 1) = s at h₁
  -- the scratch node is added below the root
  obtain ⟨scratch, r₂, hadd, h₂⟩ := RepoM.bind_eq_ok.mp h₁
  obtain ⟨hs, m, hm, hfresh, rfl, rfl⟩ := (RepoM.addNode_eq_ok Path.segments_root).mp hadd
  cases hm
  have hhead : ps.head? ≠ some s := by
    intro hh
    cases ps with
    | nil => cases hh
    | cons b u =>
      have hb : b = s := Option.some.inj hh
      rw [hb, descendAlong_cons] at hT
      cases hc : r.root.child? s with
      | none => rw [hc] at hT; cases hT
      | some c => rw [hasChild_of_child? hc] at hfresh; cases hfresh
  have hP₀ : Parked s ps r.root (withChildren T.children) []
      (r.root.updateAlong (appendChild (Node.empty s Known.ntUnstructured)) []) := by
    rw [updateAlong_nil]
    constructor
    · have hnone : ∀ c ∈ r.root.children, ¬ decide (c.name = s) = true := by
        intro c hc hcs
        have : r.root.hasChild s = true := List.any_eq_true.mpr ⟨c, hc, hcs⟩
        rw [hfresh] at this
        cases this
      show withChildren ((r.root.children ++ [_]).eraseP (·.name = s)) r.root = _
      rw [List.eraseP_append_right _ hnone, List.eraseP_cons_of_pos (by simp [Node.empty]),
        List.append_nil,
        withChildren_children, updateAlong_eq_self hT (withChildren_children T)]
    · rw [child?_appendChild_fresh (c := Node.empty s Known.ntUnstructured) (a := s) rfl hfresh]
      rfl
  -- the target's children are read once the scratch node is there
  obtain ⟨T', r₃, hreq, h₃⟩ := RepoM.bind_eq_ok.mp h₂
  obtain ⟨hT', rfl⟩ := (RepoM.requireNode_eq_ok (Path.segments_render hps)).mp hreq
  have hnames : (T'.children.map (·.name)).filter (· ≠ s) =
      (T.children.filter (·.name ≠ s)).map (·.name) := by
    have hkids := children_filter_eraseChild hhead
      (r.root.updateAlong (appendChild (Node.empty s Known.ntUnstructured)) [])
    rw [hT', hP₀.1, updateAlong_eq_self hT (withChildren_children T), hT] at hkids
    rw [List.filter_map]
    exact congrArg (List.map (·.name)) (Option.some.inj hkids)
  dsimp only at h₃
  obtain ⟨out, r₄, hloop, hpure⟩ := RepoM.bind_eq_ok.mp h₃
  rw [hnames] at hloop
  have hK : (T.children.map (·.name)).Nodup := (hwell.descendAlong hT).self.1
  obtain ⟨hout, hP⟩ := park_loop hps hs hhead hT _ T.children [] [] out _ r₄ hK
    ((List.filter_sublist.map fun d : Node => d.name).nodup hK)
    (fun c hc => by
      obtain ⟨hcT, hcs⟩ := List.mem_filter.mp hc
      exact ⟨hcT, by simpa using hcs, (hwell.descendAlong hT).self.2 c hcT⟩)
    (fun _ _ _ hd => nomatch hd) hP₀ hloop
    (by
      intro a acc V V' hmv
      rw [RepoM.bind_of_ok (RepoM.attempt_of_ok hmv)]
      rfl)
  rw [RepoM.pure_run] at hpure
  cases hpure
  refine ⟨s, hs, hfresh, hhead, by rw [hout, List.nil_append], ?_⟩
  -- what was not moved is exactly the children named `s`
  have hkept : (T.children.filter fun c => c.name ∉ (T.children.filter (·.name ≠ s)).map (·.name)) =
      T.children.filter (·.name = s) := by
    apply List.filter_congr
    intro c hc
    by_cases hcs : c.name = s
    · simp [hcs]
    · have : c.name ∈ (T.children.filter (·.name ≠ s)).map (·.name) :=
        List.mem_map.mpr ⟨c, List.mem_filter.mpr ⟨hc, by simpa using hcs⟩, rfl⟩
      rw [decide_eq_decide]
      exact ⟨fun h => absurd this h, fun h => absurd h hcs⟩
  rw [hkept, List.nil_append] at hP
  exact hP

/-! ## Streaming beside the parked children -/

theorem hasChild_eraseChild_of_false {n : Node} {a : String} (s : String)
    (h : n.hasChild a = false) : (eraseChild s n).hasChild a = false :=
  List.any_eq_false.mpr fun c hc => List.any_eq_false.mp h c (List.eraseP_sublist.subset hc)

theorem name_join_root (hs : Path.ValidName s) : Path.name (Path.join "/" s) = s := by
  rw [Path.name_eq_getLastD, join_root hs,
    Path.segments_render fun x hx => by rw [List.mem_singleton.mp hx]; exact hs]
  rfl

/-- The target while children are parked: beside the scratch node it has the children of its
node in the tree with `s` erased. -/
theorem target_of_parked {F : Node → Node} {D : List Node} {T root : Node}
    (hhead : ps.head? ≠ some s) (hF : KeepsName F) (hT : base.descendAlong ps = some T)
    (hP : Parked s ps base F D root) :
    ∃ y, root.descendAlong ps = some y ∧
      y.children.filter (·.name ≠ s) = (F T).children.filter (·.name ≠ s) ∧
      ∀ a, y.hasChild a = false → (F T).hasChild a = false := by
  cases ps with
  | nil =>
    -- the target is the root, and the scratch node one of its children
    cases hT
    have hroot : F base = eraseChild s root := by rw [hP.1, updateAlong_nil]
    refine ⟨root, rfl, ?_, ?_⟩
    · rw [hroot]
      exact (filter_eraseP_name root.children s).symm
    · intro a ha
      rw [hroot]
      exact hasChild_eraseChild_of_false s ha
  | cons b u =>
    have hb : b ≠ s := fun hb => hhead (by rw [hb]; rfl)
    refine ⟨F T, ?_, rfl, fun _ ha => ha⟩
    rw [← descendAlong_eraseChild_cons hb, hP.1, descendAlong_updateAlong_self hF, hT]
    rfl

/-- Streaming the new content into a target whose children are parked replaces the target's
state and appends the streamed children, under names the target's node did not have, and
leaves the scratch node alone. -/
theorem stream_of_parked {f : WorkspaceFilter} {t t' : RescueTransformer} {new T : Node}
    {F : Node → Node} {D : List Node} {r r' : Repository}
    (hps : ∀ x ∈ ps, Path.ValidName x) (hs : Path.ValidName s) (hhead : ps.head? ≠ some s)
    (hF : KeepsName F) (hT : base.descendAlong ps = some T) (hleft : ∀ c ∈ (F T).children, c.name = s)
    (htarget : t.target = Path.render ps) (hscratch : t.scratch = Path.join "/" s)
    (hstack : t.stack = []) (hstarted : t.started = false) (hP : Parked s ps base F D r.root)
    (h : DocViewImport.streamNode f (Path.render ps) t new r = .ok t' r') :
    t' = { t with started := true } ∧
      Parked s ps base (appendChildren (streamedChildren f (Path.render ps) new.children) ∘
        replaced new t.preserved ∘ F) D r'.root ∧
      ∀ c ∈ streamedChildren f (Path.render ps) new.children, (F T).hasChild c.name = false := by
  rw [← htarget] at h ⊢
  obtain ⟨y, hy, hfilter, hhas⟩ := target_of_parked hhead hF hT hP
  -- beside the scratch node the target has only children named like it
  have hleft' : ∀ c ∈ y.children, c.name = Path.name t.scratch := by
    rw [hscratch, name_join_root hs]
    intro c hc
    apply Classical.byContradiction
    intro hcs
    have hc' : c ∈ y.children.filter (·.name ≠ s) := List.mem_filter.mpr ⟨hc, by simpa using hcs⟩
    rw [hfilter] at hc'
    exact hcs (hleft c (List.mem_filter.mp hc').1)
  obtain ⟨rfl, rfl, hfresh⟩ := streamTarget_of_ok hstack hstarted
    (by rw [htarget]; exact Path.segments_render hps) hy hleft' h
  refine ⟨rfl, ?_, fun c hc => hhas _ (hfresh c hc)⟩
  have hspare : SparesChild s ps (appendChildren (streamedChildren f t.target new.children) ∘
      replaced new t.preserved) :=
    SparesChild.of_root ((keepsName_appendChildren _).comp (keepsName_replaced _ _))
      (SparesChild.comp (keepsName_replaced _ _) (sparesChild_replaced _ _)
        (sparesChild_appendChildren _)) hhead
  obtain ⟨herase, hchild⟩ := hspare r.root (hasChild_of_child? hP.2)
  constructor
  · dsimp only
    rw [herase, hP.1, updateAlong_updateAlong hF]
    rfl
  · rw [hchild, hP.2]

/-! ## Putting the parked children back -/

/-- The first parked child is found in the scratch node under its name. -/
theorem scratch_lookup {F : Node → Node} {R root : Node} {Rest : List Node}
    (hP : Parked s ps base F (R :: Rest) root) : root.descendAlong [s, R.name] = some R := by
  rw [descendAlong_cons, hP.2, Option.bind_some, descendAlong_cons]
  show ((R :: Rest).find? (·.name = R.name)).bind (·.descendAlong []) = some R
  rw [List.find?_cons_of_pos (by simp)]
  rfl

/-- Putting back the first parked child `R`: the tree with `s` erased gains it at the target,
merged or appended (`Node.putBack`), and the scratch node loses it. -/
theorem restore_step (t : RescueTransformer) {fuel : Nat} {F : Node → Node} {R T : Node}
    {Rest : List Node} {acc : List String} {U : Repository}
    (hps : ∀ x ∈ ps, Path.ValidName x) (hs : Path.ValidName s) (hhead : ps.head? ≠ some s)
    (hF : KeepsName F) (hT : base.descendAlong ps = some T) (hsize : R.subtreeSize ≤ fuel)
    (hR : Everywhere SiblingsWellNamed R) (hRv : Path.ValidName R.name) (hRs : R.name ≠ s)
    (hP : Parked s ps base F (R :: Rest) U.root) :
    ∃ out root', t.restore fuel (Path.join (Path.join "/" s) R.name)
        (Path.join (Path.render ps) R.name) acc U = .ok out { U with root := root' } ∧
      Parked s ps base (putBack t.preserved R ∘ F) Rest root' := by
  have hsp : ∀ x ∈ [s], Path.ValidName x := fun x hx => by rw [List.mem_singleton.mp hx]; exact hs
  have hsrc : Path.join (Path.join "/" s) R.name = Path.render ([s] ++ [R.name]) := by
    rw [join_root hs]
    exact Path.join_render hsp hRv
  have hdst : Path.join (Path.render ps) R.name = Path.render (ps ++ [R.name]) :=
    Path.join_render hps hRv
  -- the scratch node and the target are apart
  have hsd : ¬ ([s] ++ [R.name]) <+: (ps ++ [R.name]) := by
    obtain ⟨b, v, hbv, hb⟩ := exists_cons_append hhead hRs []
    rw [hbv]
    intro h
    exact hb (List.cons_prefix_cons.mp h).1.symm
  have hds : ¬ (ps ++ [R.name]) <+: ([s] ++ [R.name]) := not_prefix_cons hhead hRs [R.name]
  have hexists : (U.root.descendAlong ps).isSome := by
    obtain ⟨y, hy, -, -⟩ := target_of_parked hhead hF hT hP
    rw [hy]
    rfl
  obtain ⟨out, hout⟩ := restore_run t fuel R [s] ps R.name acc U hsize hR hRv hsp hps hsd hds
    (scratch_lookup hP) hexists
  rw [hsrc, hdst]
  refine ⟨out, _, hout, ?_⟩
  -- whether a supplied child is there decides between merging and appending
  have hlook : U.root.descendAlong (ps ++ [R.name]) = (F T).child? R.name := by
    rw [← descendAlong_eraseChild_append hhead hRs [], hP.1, descendAlong_updateAlong_append hF, hT,
      Option.bind_some, descendAlong_cons]
    cases (F T).child? R.name <;> rfl
  have hgone : (withChildren (R :: Rest) (Node.empty s Known.ntUnstructured)).updateAlong
      (eraseChild R.name) [] = withChildren Rest (Node.empty s Known.ntUnstructured) := by
    rw [updateAlong_nil, eraseChild_withChildren_cons]
  rw [restoredRoot, hlook]
  cases hc : (F T).child? R.name with
  | some D =>
    dsimp only
    have hspare := sparesChild_append (keepsName_absorb t.preserved R) hhead hRs [] U.root
      (hasChild_of_child? hP.2)
    constructor
    · rw [eraseChild_updateAlong_cons (keepsName_eraseChild R.name) s [], hspare.1, hP.1,
        updateAlong_append, updateAlong_updateAlong hF]
      apply updateAlong_congr
      intro m hm
      rw [hT] at hm
      cases hm
      show (F T).updateAlong (absorb t.preserved R) [R.name] = putBack t.preserved R (F T)
      rw [putBack, if_pos (hasChild_of_child? hc)]
    · rw [child?_updateAlong_cons (keepsName_eraseChild R.name), if_pos rfl, hspare.2, hP.2,
        Option.map_some, hgone]
  | none =>
    dsimp only
    have hc₁ : (U.root.updateAlong (eraseChild R.name) [s]).child? s =
        some (withChildren Rest (Node.empty s Known.ntUnstructured)) := by
      rw [child?_updateAlong_cons (keepsName_eraseChild R.name), if_pos rfl, hP.2, Option.map_some,
        hgone]
    have hspare := SparesChild.of_root (keepsName_appendChild R) (sparesChild_appendChild R) hhead
      (U.root.updateAlong (eraseChild R.name) [s]) (hasChild_of_child? hc₁)
    constructor
    · rw [hspare.1, eraseChild_updateAlong_cons (keepsName_eraseChild R.name) s [], hP.1,
        updateAlong_updateAlong hF]
      apply updateAlong_congr
      intro m hm
      rw [hT] at hm
      cases hm
      have hfree : (F T).hasChild R.name = false := (child?_eq_none_iff _ _).mp hc
      show appendChild R (F T) = putBack t.preserved R (F T)
      rw [putBack, if_neg (by rw [hfree]; exact Bool.false_ne_true)]
    · rw [hspare.2, hc₁]

/-- The loop of `finish`: the parked children are put back one after another. -/
theorem restore_loop {g : String → List String → RepoM (ForInStep (List String))}
    (t : RescueTransformer) (fuel : Nat) (hps : ∀ x ∈ ps, Path.ValidName x)
    (hs : Path.ValidName s) (hhead : ps.head? ≠ some s) {T : Node}
    (hT : base.descendAlong ps = some T) :
    ∀ (Rest : List Node) (F : Node → Node) (acc out : List String) (U U' : Repository),
      KeepsName F →
      (∀ R ∈ Rest, R.subtreeSize ≤ fuel ∧ Everywhere SiblingsWellNamed R ∧
        Path.ValidName R.name ∧ R.name ≠ s) →
      Parked s ps base F Rest U.root →
      forIn (Rest.map (·.name)) acc g U = .ok out U' →
      (∀ R ∈ Rest, ∀ (acc : List String) (V : Repository),
        (V.root.descendAlong [s, R.name]).isSome = true →
        g R.name acc V = (do
          let restored ← t.restore fuel (Path.join (Path.join "/" s) R.name)
            (Path.join (Path.render ps) R.name) acc
          pure (ForInStep.yield restored)) V) →
      Parked s ps base (absorbChildren t.preserved Rest ∘ F) [] U'.root := by
  intro Rest
  induction Rest with
  | nil =>
    intro F acc out U U' _ _ hP hloop _
    rw [List.map_nil, List.forIn_nil, RepoM.pure_run] at hloop
    cases hloop
    have hnil : (absorbChildren t.preserved [] ∘ F) = F := funext fun m => absorbChildren_nil _ _
    rw [hnil]
    exact hP
  | cons R Rest ih =>
    intro F acc out U U' hF hRest hP hloop hg
    obtain ⟨hsize, hR, hRv, hRs⟩ := hRest R List.mem_cons_self
    obtain ⟨out₁, root₁, hrun, hP₁⟩ := restore_step t hps hs hhead hF hT hsize hR hRv hRs hP
    have hex : (U.root.descendAlong [s, R.name]).isSome = true := by rw [scratch_lookup hP]; rfl
    have hstep : g R.name acc U = .ok (.yield out₁) { U with root := root₁ } := by
      rw [hg R List.mem_cons_self acc U hex, RepoM.bind_of_ok hrun]
      rfl
    rw [List.map_cons, List.forIn_cons, RepoM.bind_of_ok hstep] at hloop
    dsimp only at hloop
    have hP' := ih (putBack t.preserved R ∘ F) out₁ out _ U' ((keepsName_putBack _ R).comp hF)
      (fun R' hR' => hRest R' (List.mem_cons_of_mem R hR')) hP₁ hloop
      (fun R' hR' => hg R' (List.mem_cons_of_mem R hR'))
    have hcomp : (absorbChildren t.preserved Rest ∘ putBack t.preserved R ∘ F) =
        absorbChildren t.preserved (R :: Rest) ∘ F :=
      funext fun m => (absorbChildren_cons _ R Rest (F m)).symm
    rw [hcomp] at hP'
    exact hP'

/-- A successful `finish` over parked children puts each back in turn and removes the emptied
scratch node: the tree is then `base` with the children put back at the target. -/
theorem finish_of_ok {pres : List String} {F : Node → Node} {D : List Node} {T : Node}
    {r r' : Repository} {out : List String}
    (hps : ∀ x ∈ ps, Path.ValidName x) (hs : Path.ValidName s) (hhead : ps.head? ≠ some s)
    (hF : KeepsName F) (hT : base.descendAlong ps = some T)
    (hD : ∀ R ∈ D, Everywhere SiblingsWellNamed R ∧ Path.ValidName R.name ∧ R.name ≠ s)
    (hP : Parked s ps base F D r.root)
    (h : ({ target := Path.render ps, scratch := Path.join "/" s, rescued := D.map (·.name),
            preserved := pres, stack := [], started := true } : RescueTransformer).finish r =
          .ok out r') :
    r'.root = base.updateAlong (absorbChildren pres D ∘ F) ps := by
  have hscratch : Path.segments (Path.join "/" s) = [s] := by
    rw [join_root hs]
    exact Path.segments_render fun x hx => by rw [List.mem_singleton.mp hx]; exact hs
  unfold finish at h
  simp only [List.isEmpty_nil, Bool.not_true, Bool.false_eq_true, ↓reduceIte] at h
  obtain ⟨x, r₁, hget, h₁⟩ := RepoM.bind_eq_ok.mp h
  cases hget
  obtain ⟨restored, r₂, hloop, h₂⟩ := RepoM.bind_eq_ok.mp h₁
  -- every parked child fits in the fuel, being smaller than the tree
  have hsizes : ∀ R ∈ D, R.subtreeSize ≤ r.root.subtreeSize + 1 ∧ Everywhere SiblingsWellNamed R ∧
      Path.ValidName R.name ∧ R.name ≠ s := by
    intro R hR
    have hscr : r.root.descendAlong [s] =
        some (withChildren D (Node.empty s Known.ntUnstructured)) := by
      rw [descendAlong_cons, hP.2]
      rfl
    have h₁ := subtreeSize_lt_of_mem (n := withChildren D (Node.empty s Known.ntUnstructured)) hR
    have h₂ := subtreeSize_le_of_descendAlong hscr
    exact ⟨by omega, hD R hR⟩
  have hP₂ := restore_loop
    { target := Path.render ps, scratch := Path.join "/" s, rescued := D.map (·.name),
      preserved := pres, stack := [], started := true }
    (r.root.subtreeSize + 1) hps hs hhead hT D F [] restored r r₂ hF hsizes hP hloop
    (by
      intro R hR acc V hex
      have hsegs : Path.segments (Path.join (Path.join "/" s) R.name) = [s, R.name] := by
        rw [join_root hs, Path.join_render (fun x hx => by rw [List.mem_singleton.mp hx]; exact hs)
          (hD R hR).2.1]
        exact Path.segments_render fun x hx => by
          rcases List.mem_append.mp hx with hx | hx
          · rw [List.mem_singleton.mp hx]; exact hs
          · rw [List.mem_singleton.mp hx]; exact (hD R hR).2.1
      rw [RepoM.bind_of_ok (RepoM.nodeExists_run hsegs), if_pos hex])
  -- the scratch node is empty at the end, and removed
  have hempty : r₂.root.descendAlong [s] = some (Node.empty s Known.ntUnstructured) := by
    rw [descendAlong_cons, hP₂.2]
    rfl
  rw [RepoM.bind_of_ok (RepoM.requireNode_run hscratch hempty)] at h₂
  simp only [Node.empty, List.isEmpty_nil, ↓reduceIte] at h₂
  rw [RepoM.bind_of_ok (RepoM.removeNode_run (a := s) (s := []) hscratch rfl
    (hasChild_of_child? hP₂.2)), RepoM.pure_run] at h₂
  cases h₂
  rw [updateAlong_nil]
  exact hP₂.1

end Park

end RescueTransformer

end ContentSync
