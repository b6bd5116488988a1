import ContentSync.Proofs.RescueScratch
import ContentSync.Proofs.PropertyUpdates
import Mathlib.Tactic.Set

/-!
# Replacing a node merges the new content with the old

What a replacement with rescue should produce, said without the repository: `Node.merge`
merges new content with the node it replaces, and `Node.restrict` cuts the new content down to
the paths the filter contains. `Node.SameUpToOrder` relates two nodes that differ at most in the
order of their own properties and children.

The running code builds the same trees: what streaming creates is the restricted content
(`streamed_eq_restrict`), and what putting a rescued node back into a supplied one creates is
their merge (`absorb_eq_merge`). The main statement, `rescued_replacement_merges`, puts the
three phases of a replacement together.
-/

namespace ContentSync

open Node

namespace Node

/-! ## The specification -/

mutual
/-- The content `n` at `path`, with only the descendants whose paths the filter contains. -/
def restrict (f : WorkspaceFilter) (path : String) : Node → Node
  | ⟨name, primaryType, mixins, properties, children⟩ =>
    ⟨name, primaryType, mixins, properties, restrictChildren f path children⟩

/-- The children among `cs` of the node at `path` whose paths the filter contains,
restricted. -/
def restrictChildren (f : WorkspaceFilter) (path : String) : List Node → List Node
  | [] => []
  | c :: cs =>
    if f.contains (Path.join path c.name) then
      restrict f (Path.join path c.name) c :: restrictChildren f path cs
    else restrictChildren f path cs
end

mutual
/-- New content `n` merged with the node `old` it replaces: the content's types and properties
with the preserved properties of `old` that the content lacks; as children, each child of the
content merged with the old child of its name if there is one, then the old children the
content lacks, whole. -/
def merge (preserved : List String) : Node → Node → Node
  | ⟨_, primaryType, mixins, properties, children⟩, old =>
    ⟨old.name, primaryType, mixins,
      properties ++ old.properties.filter fun p =>
        preserved.contains p.name && (findProperty? p.name properties).isNone,
      mergeChildren preserved children old.children ++
        old.children.filter fun d => !children.any (·.name = d.name)⟩

/-- The children `cs` of new content, each merged with the first child of its name among
`olds`. -/
def mergeChildren (preserved : List String) : List Node → List Node → List Node
  | [], _ => []
  | c :: cs, olds =>
    (match olds.find? (·.name = c.name) with
      | some d => merge preserved c d
      | none => c) :: mergeChildren preserved cs olds
end

/-- Two nodes alike but for the order of their own properties and of their own children. -/
def SameUpToOrder (m n : Node) : Prop :=
  m.name = n.name ∧ m.primaryType = n.primaryType ∧ m.mixins = n.mixins ∧
    m.properties.Perm n.properties ∧ m.children.Perm n.children

theorem restrict_eq (f : WorkspaceFilter) (path : String) (n : Node) :
    restrict f path n = withChildren (restrictChildren f path n.children) n := by
  cases n
  rw [restrict]
  rfl

theorem restrictChildren_cons (f : WorkspaceFilter) (path : String) (c : Node) (cs : List Node) :
    restrictChildren f path (c :: cs) =
      if f.contains (Path.join path c.name) then
        restrict f (Path.join path c.name) c :: restrictChildren f path cs
      else restrictChildren f path cs := by
  rw [restrictChildren]

theorem merge_eq (preserved : List String) (n old : Node) :
    merge preserved n old =
      ⟨old.name, n.primaryType, n.mixins,
        n.properties ++ old.properties.filter fun p =>
          preserved.contains p.name && (findProperty? p.name n.properties).isNone,
        mergeChildren preserved n.children old.children ++
          old.children.filter fun d => !n.children.any (·.name = d.name)⟩ := by
  cases n
  rw [merge]

theorem mergeChildren_cons (preserved : List String) (c : Node) (cs olds : List Node) :
    mergeChildren preserved (c :: cs) olds =
      (match olds.find? (·.name = c.name) with
        | some d => merge preserved c d
        | none => c) :: mergeChildren preserved cs olds := by
  rw [mergeChildren]

/-! ## Streaming creates the restricted content -/

mutual
theorem streamed_eq_restrict (f : WorkspaceFilter) :
    (path : String) → (n : Node) → Everywhere PlainProperties n → streamed f path n = restrict f path n
  | path, ⟨name, primaryType, mixins, properties, children⟩, h => by
    rw [streamed_eq, created_of_plainProperties h.self, restrict_eq,
      streamedChildren_eq_restrictChildren f path children fun c hc => h.child hc]
    rfl

theorem streamedChildren_eq_restrictChildren (f : WorkspaceFilter) :
    (path : String) → (cs : List Node) → (∀ c ∈ cs, Everywhere PlainProperties c) →
      streamedChildren f path cs = restrictChildren f path cs
  | path, [], _ => by rw [streamedChildren, restrictChildren]
  | path, c :: cs, h => by
    rw [streamedChildren_cons, restrictChildren_cons,
      streamed_eq_restrict f (Path.join path c.name) c (h c List.mem_cons_self),
      streamedChildren_eq_restrictChildren f path cs fun d hd => h d (List.mem_cons_of_mem c hd)]
end

/-! ## Putting rescued nodes back merges them -/

/-- The children of a node have distinct names. -/
def DistinctChildren (n : Node) : Prop :=
  (n.children.map (·.name)).Nodup

instance (n : Node) : Decidable n.DistinctChildren :=
  inferInstanceAs (Decidable (List.Nodup _))

theorem mergeChildren_append (preserved : List String) (cs ds olds : List Node) :
    mergeChildren preserved (cs ++ ds) olds =
      mergeChildren preserved cs olds ++ mergeChildren preserved ds olds := by
  induction cs with
  | nil => rfl
  | cons c cs ih => rw [List.cons_append, mergeChildren_cons, mergeChildren_cons, ih]; rfl

/-- Children that no old child matches are kept as they are. -/
theorem mergeChildren_of_none {preserved : List String} {cs olds : List Node}
    (h : ∀ c ∈ cs, olds.find? (·.name = c.name) = none) : mergeChildren preserved cs olds = cs := by
  induction cs with
  | nil => rfl
  | cons c cs ih =>
    rw [mergeChildren_cons, h c List.mem_cons_self, ih fun d hd => h d (List.mem_cons_of_mem c hd)]

/-- Merging reads the old children only through the lookups of the new children's names. -/
theorem mergeChildren_congr {preserved : List String} {cs olds olds' : List Node}
    (h : ∀ c ∈ cs, olds.find? (·.name = c.name) = olds'.find? (·.name = c.name)) :
    mergeChildren preserved cs olds = mergeChildren preserved cs olds' := by
  induction cs with
  | nil => rfl
  | cons c cs ih =>
    rw [mergeChildren_cons, mergeChildren_cons, h c List.mem_cons_self,
      ih fun d hd => h d (List.mem_cons_of_mem c hd)]

theorem find?_name_eq_none {rs : List Node} {a : String} (h : a ∉ rs.map (·.name)) :
    rs.find? (·.name = a) = none :=
  List.find?_eq_none.mpr fun d hd hda => h (List.mem_map.mpr ⟨d, hd, by simpa using hda⟩)

theorem child?_appendChild_of_ne {c : Node} {b : String} (h : c.name ≠ b) (n : Node) :
    (appendChild c n).child? b = n.child? b := by
  show (n.children ++ [c]).find? (·.name = b) = n.children.find? (·.name = b)
  rw [List.find?_append, List.find?_singleton, if_neg (by simpa using h), Option.or_none]

/-- Merging after the child named like `r` was merged with `r` is merging among `r` and the
other old children. -/
theorem mergeChildren_updateChild {preserved : List String} {r : Node} {rs : List Node}
    (hr : r.name ∉ rs.map (·.name)) (cs : List Node) (hcs : (cs.map (·.name)).Nodup)
    (hrec : ∀ d ∈ cs, d.name = r.name → absorb preserved r d = merge preserved d r) :
    mergeChildren preserved (updateChild (absorb preserved r) r.name [] cs) rs =
      mergeChildren preserved cs (r :: rs) := by
  induction cs with
  | nil => rfl
  | cons c cs ih =>
    rw [List.map_cons, List.nodup_cons] at hcs
    by_cases hc : c.name = r.name
    · -- `c` is the one merged, and no other child has its name
      have hnone : rs.find? (·.name = (absorb preserved r c).name) = none := by
        rw [keepsName_absorb preserved r c, hc]
        exact find?_name_eq_none hr
      rw [updateChild_cons_of_eq hc, updateAlong_nil, mergeChildren_cons, mergeChildren_cons, hnone,
        List.find?_cons_of_pos (by simpa using hc.symm), hrec c List.mem_cons_self hc]
      congr 1
      apply mergeChildren_congr
      intro d hd
      have hdr : r.name ≠ d.name := fun e => hcs.1 (List.mem_map.mpr ⟨d, hd, e.symm.trans hc.symm⟩)
      rw [List.find?_cons_of_neg (by simpa using hdr)]
    · rw [updateChild_cons_of_ne hc, mergeChildren_cons, mergeChildren_cons,
        List.find?_cons_of_neg (by simpa using Ne.symm hc),
        ih hcs.2 fun d hd => hrec d (List.mem_cons_of_mem c hd)]

theorem any_name_eq_of_map {cs ds : List Node} (h : cs.map (·.name) = ds.map (·.name))
    (a : String) : cs.any (·.name = a) = ds.any (·.name = a) := by
  have hc : cs.any (·.name = a) = (cs.map (·.name)).any (· = a) := by rw [List.any_map]; rfl
  have hd : ds.any (·.name = a) = (ds.map (·.name)).any (· = a) := by rw [List.any_map]; rfl
  rw [hc, hd, h]

/-- Putting rescued children back one after another: each is merged into the child of its
name, and those without one are appended in order. -/
theorem absorbChildren_eq_merge (preserved : List String) (rs : List Node) :
    ∀ n : Node, (rs.map (·.name)).Nodup → (n.children.map (·.name)).Nodup →
      (∀ r ∈ rs, ∀ d, n.child? r.name = some d → absorb preserved r d = merge preserved d r) →
      absorbChildren preserved rs n =
        withChildren (mergeChildren preserved n.children rs ++
          rs.filter fun r => !n.children.any (·.name = r.name)) n := by
  induction rs with
  | nil =>
    intro n _ _ _
    rw [absorbChildren_nil, List.filter_nil, List.append_nil,
      mergeChildren_of_none fun _ _ => rfl, withChildren_children]
  | cons r rs ih =>
    intro n hrs hn hrec
    rw [List.map_cons, List.nodup_cons] at hrs
    rw [absorbChildren_cons, putBack]
    by_cases hr : n.hasChild r.name = true
    · -- `r` is merged into the child of its name
      rw [if_pos hr]
      have hkids : (n.updateAlong (absorb preserved r) [r.name]).children =
          updateChild (absorb preserved r) r.name [] n.children := by
        rw [updateAlong_cons]
      have hnames : (updateChild (absorb preserved r) r.name [] n.children).map (·.name) =
          n.children.map (·.name) := map_name_updateChild (keepsName_absorb preserved r) _ _ _
      have hlook : ∀ r' ∈ rs,
          (n.updateAlong (absorb preserved r) [r.name]).child? r'.name = n.child? r'.name := by
        intro r' hr'
        have hne : r.name ≠ r'.name := fun e => hrs.1 (List.mem_map.mpr ⟨r', hr', e.symm⟩)
        rw [child?_updateAlong_cons (keepsName_absorb preserved r), if_neg hne]
      rw [ih _ hrs.2 (by rw [hkids, hnames]; exact hn) fun r' hr' d hd =>
        hrec r' (List.mem_cons_of_mem r hr') d (by rw [← hlook r' hr']; exact hd)]
      rw [hkids, updateAlong_cons]
      show withChildren _ n = withChildren _ n
      have hrec' : ∀ d ∈ n.children, d.name = r.name → absorb preserved r d = merge preserved d r :=
        fun d hd hdr => hrec r List.mem_cons_self d (by rw [← hdr]; exact child?_of_mem hn hd)
      have hany : n.children.any (·.name = r.name) = true := hr
      rw [mergeChildren_updateChild hrs.1 n.children hn hrec',
        List.filter_cons_of_neg (by simp [hany])]
      congr 2
      apply List.filter_congr
      intro r' _
      rw [any_name_eq_of_map hnames]
    · -- `r` is appended after the children the node had
      have hfree : n.hasChild r.name = false := by simpa using hr
      rw [if_neg hr]
      have hnd : ((appendChild r n).children.map (·.name)).Nodup := by
        show ((n.children ++ [r]).map (·.name)).Nodup
        rw [List.map_append, List.nodup_append]
        refine ⟨hn, List.nodup_cons.mpr ⟨List.not_mem_nil, List.nodup_nil⟩, ?_⟩
        intro a ha b hb hab
        obtain ⟨c, hc, rfl⟩ := List.mem_map.mp ha
        have hb' : b = r.name := by simpa using hb
        have : n.hasChild r.name = true := List.any_eq_true.mpr ⟨c, hc, by simp [← hb', hab]⟩
        rw [hfree] at this
        cases this
      rw [ih _ hrs.2 hnd fun r' hr' d hd => hrec r' (List.mem_cons_of_mem r hr') d (by
        have hne : r.name ≠ r'.name := fun e => hrs.1 (List.mem_map.mpr ⟨r', hr', e.symm⟩)
        rw [← child?_appendChild_of_ne hne]
        exact hd)]
      show withChildren _ n = withChildren _ n
      have hnone : ∀ c ∈ n.children,
          (r :: rs).find? (·.name = c.name) = rs.find? (·.name = c.name) := by
        intro c hc
        have hne : r.name ≠ c.name := by
          intro e
          have : n.hasChild r.name = true := List.any_eq_true.mpr ⟨c, hc, by simp [e]⟩
          rw [hfree] at this
          cases this
        exact List.find?_cons_of_neg (by simpa using hne)
      show withChildren (mergeChildren preserved (n.children ++ [r]) rs ++
          rs.filter fun r' => !(n.children ++ [r]).any (·.name = r'.name)) n = _
      have hlast : mergeChildren preserved [r] rs = [r] := mergeChildren_of_none fun c hc => by
        rw [List.mem_singleton.mp hc]
        exact find?_name_eq_none hrs.1
      have hfirst : mergeChildren preserved n.children rs = mergeChildren preserved n.children (r :: rs) :=
        mergeChildren_congr fun c hc => (hnone c hc).symm
      rw [mergeChildren_append, hlast, hfirst, List.filter_cons_of_pos (by simp [show n.children.any (·.name = r.name) = false from hfree])]
      have hrest : (rs.filter fun r' => !(n.children ++ [r]).any (·.name = r'.name)) =
          rs.filter fun r' => !n.children.any (·.name = r'.name) := by
        apply List.filter_congr
        intro r' hr'
        have hne : r.name ≠ r'.name := fun e => hrs.1 (List.mem_map.mpr ⟨r', hr', e.symm⟩)
        simp [List.any_append, hne]
      rw [hrest, List.append_assoc, List.singleton_append]

/-- Putting a rescued node back into the supplied node of its name merges them, the supplied
node as the new content and the rescued one as the old. -/
theorem absorb_eq_merge (preserved : List String) {R : Node} (hW : Everywhere SiblingsWellNamed R) :
    Everywhere PlainProperties R → ∀ D : Node, Everywhere DistinctChildren D → D.name = R.name →
      absorb preserved R D = merge preserved D R := by
  induction hW with
  | intro R hself _ ih =>
    intro hP D hD hname
    -- the preserved properties of `R` that `D` lacks are appended to those of `D`
    have hfresh : ∀ q ∈ keptProperties preserved R D, q.name ∉ D.properties.map (·.name) := by
      intro q hq
      have hkeep := (List.mem_filter.mp hq).2
      rw [Bool.and_eq_true, isNone_property?] at hkeep
      simpa using hkeep.2
    have hkept : (keptProperties preserved R D).foldl applyProperty D =
        { D with properties := D.properties ++ keptProperties preserved R D } := by
      rw [foldl_applyProperty_of_plain (keptProperties preserved R D)
          fun q hq => hP.self.2 q (List.mem_filter.mp hq).1,
        setAll_of_fresh (keptProperties preserved R D)
          ((List.filter_sublist.map fun d : Property => d.name).nodup hP.self.1) D.properties hfresh]
    -- each rescued child meets the supplied child of its name, if any, and merges with it
    have hrec : ∀ r ∈ R.children, ∀ d,
        ((keptProperties preserved R D).foldl applyProperty D).child? r.name = some d →
        absorb preserved r d = merge preserved d r := by
      intro r hr d hd
      rw [hkept] at hd
      exact ih r hr (hP.child hr) d (hD.child (mem_of_child? hd)) (name_of_child? hd)
    have hnd : (((keptProperties preserved R D).foldl applyProperty D).children.map (·.name)).Nodup := by
      rw [hkept]
      exact hD.self
    rw [absorb_eq, absorbChildren_eq_merge preserved R.children _ hself.1 hnd hrec, hkept, merge_eq]
    obtain ⟨name, primaryType, mixins, properties, children⟩ := D
    dsimp only at hname
    subst hname
    rfl

/-! ## Restricted content keeps distinct names -/

theorem mem_restrictChildren {f : WorkspaceFilter} {path : String} {d : Node} :
    ∀ {cs : List Node}, d ∈ restrictChildren f path cs →
      ∃ c ∈ cs, d = restrict f (Path.join path c.name) c
  | [], h => by rw [restrictChildren] at h; cases h
  | c :: cs, h => by
    rw [restrictChildren_cons] at h
    split at h
    · rcases List.mem_cons.mp h with rfl | h
      · exact ⟨c, List.mem_cons_self, rfl⟩
      · obtain ⟨c', hc', rfl⟩ := mem_restrictChildren h
        exact ⟨c', List.mem_cons_of_mem c hc', rfl⟩
    · obtain ⟨c', hc', rfl⟩ := mem_restrictChildren h
      exact ⟨c', List.mem_cons_of_mem c hc', rfl⟩

theorem name_restrict (f : WorkspaceFilter) (path : String) (n : Node) :
    (restrict f path n).name = n.name := by
  rw [restrict_eq]
  rfl

theorem map_name_restrictChildren_sublist (f : WorkspaceFilter) (path : String) (cs : List Node) :
    ((restrictChildren f path cs).map (·.name)).Sublist (cs.map (·.name)) := by
  induction cs with
  | nil => simp only [restrictChildren, List.map_nil, List.nil_sublist]
  | cons c cs ih =>
    rw [restrictChildren_cons]
    split
    · rw [List.map_cons, List.map_cons, name_restrict]
      exact ih.cons_cons c.name
    · exact ih.cons c.name

/-- Restricting content whose children have distinct names keeps them distinct, at every
depth. -/
theorem everywhere_restrict (f : WorkspaceFilter) {n : Node} (h : Everywhere DistinctChildren n) :
    ∀ path, Everywhere DistinctChildren (restrict f path n) := by
  induction h with
  | intro n hself _ ih =>
    intro path
    rw [restrict_eq]
    refine Everywhere.intro _ ((map_name_restrictChildren_sublist f path n.children).nodup hself) ?_
    intro d hd
    obtain ⟨c, hc, rfl⟩ := mem_restrictChildren hd
    exact ih c hc _

/-! ## The replaced target -/

theorem find?_filter_of_imp {p q : Node → Bool} (h : ∀ x, p x = true → q x = true) (l : List Node) :
    (l.filter q).find? p = l.find? p := by
  induction l with
  | nil => rfl
  | cons x l ih =>
    by_cases hq : q x = true
    · rw [List.filter_cons_of_pos hq]
      by_cases hp : p x = true
      · rw [List.find?_cons_of_pos hp, List.find?_cons_of_pos hp]
      · rw [List.find?_cons_of_neg hp, List.find?_cons_of_neg hp, ih]
    · have hp : ¬ p x = true := fun hp => hq (h x hp)
      rw [List.filter_cons_of_neg hq, List.find?_cons_of_neg hp, ih]

open List in
/-- The children a replacement leaves at the target, against those of the merge: the children
`cs` of the old target split into those named `s`, which stayed in place, and the others, which
were parked and come back; the new children `sc` carry none of the names that stayed. -/
theorem mergeChildren_parked_perm (preserved : List String) (s : String) (cs sc : List Node)
    (hsep : ∀ c ∈ sc, ∀ d ∈ cs.filter (·.name = s), d.name ≠ c.name) :
    (mergeChildren preserved (cs.filter (·.name = s) ++ sc) (cs.filter (·.name ≠ s)) ++
        (cs.filter (·.name ≠ s)).filter fun r =>
          !(cs.filter (·.name = s) ++ sc).any (·.name = r.name)).Perm
      (mergeChildren preserved sc cs ++ cs.filter fun d => !sc.any (·.name = d.name)) := by
  have hnone : ∀ c : Node, c.name = s → (cs.filter (·.name ≠ s)).find? (·.name = c.name) = none := by
    intro c hc
    refine List.find?_eq_none.mpr fun x hx hxc => name_ne_of_mem_filter_name hx ?_
    rw [← hc]
    simpa using hxc
  -- the children that stayed meet no parked child of their name
  have hkept : mergeChildren preserved (cs.filter (·.name = s)) (cs.filter (·.name ≠ s)) =
      cs.filter (·.name = s) :=
    mergeChildren_of_none fun c hc => hnone c (name_of_mem_filter_name hc)
  -- a new child finds the same old child among the parked ones as among all of them
  have hnew : mergeChildren preserved sc (cs.filter (·.name ≠ s)) = mergeChildren preserved sc cs := by
    apply mergeChildren_congr
    intro c hc
    by_cases hcs : c.name = s
    · rw [hnone c hcs]
      refine (List.find?_eq_none.mpr fun x hx hxc => ?_).symm
      have hxc : x.name = c.name := by simpa using hxc
      exact hsep c hc x (List.mem_filter.mpr ⟨hx, by simp [hxc, hcs]⟩) hxc
    · exact find?_filter_of_imp (fun x hx => by simp only [decide_eq_true_eq] at hx ⊢; rw [hx]; exact hcs) cs
  have hleft : ((cs.filter (·.name ≠ s)).filter fun r =>
      !(cs.filter (·.name = s) ++ sc).any (·.name = r.name)) =
      (cs.filter (·.name ≠ s)).filter fun r => !sc.any (·.name = r.name) := by
    apply List.filter_congr
    intro r hr
    have hrs : r.name ≠ s := name_ne_of_mem_filter_name hr
    have hstay : (cs.filter (·.name = s)).any (·.name = r.name) = false := by
      refine List.any_eq_false.mpr fun x hx hxr => hrs ?_
      have hxs : x.name = s := name_of_mem_filter_name hx
      have hxr : x.name = r.name := by simpa using hxr
      rw [← hxr, hxs]
    rw [List.any_append, hstay, Bool.false_or]
  -- the old children the new content lacks: those that stayed, then the parked ones
  have hsplit : (cs.filter fun d => !sc.any (·.name = d.name)).Perm
      (cs.filter (·.name = s) ++ (cs.filter (·.name ≠ s)).filter fun d => !sc.any (·.name = d.name)) := by
    have hstay : ((cs.filter fun d => !sc.any (·.name = d.name)).filter (·.name = s)) =
        cs.filter (·.name = s) := by
      rw [List.filter_filter]
      apply List.filter_congr
      intro x hx
      by_cases hxs : x.name = s
      · have hfree : sc.any (·.name = x.name) = false := List.any_eq_false.mpr fun c hc hcx =>
          hsep c hc x (List.mem_filter.mpr ⟨hx, by simpa using hxs⟩) (by simp only [decide_eq_true_eq] at hcx; exact hcx.symm)
        rw [hfree]
        simp
      · simp [hxs]
    have hrest : ((cs.filter fun d => !sc.any (·.name = d.name)).filter fun x => !decide (x.name = s)) =
        (cs.filter (·.name ≠ s)).filter fun d => !sc.any (·.name = d.name) := by
      rw [List.filter_filter, List.filter_filter]
      apply List.filter_congr
      intro x _
      simp [Bool.and_comm]
    rw [← hstay, ← hrest]
    exact (List.filter_append_perm _ _).symm
  rw [mergeChildren_append, hkept, hnew, hleft]
  calc (cs.filter (·.name = s) ++ mergeChildren preserved sc cs ++
        (cs.filter (·.name ≠ s)).filter fun d => !sc.any (·.name = d.name))
      _ ~ mergeChildren preserved sc cs ++ cs.filter (·.name = s) ++
          (cs.filter (·.name ≠ s)).filter fun d => !sc.any (·.name = d.name) :=
        List.perm_append_comm.append_right _
      _ = mergeChildren preserved sc cs ++ (cs.filter (·.name = s) ++
          (cs.filter (·.name ≠ s)).filter fun d => !sc.any (·.name = d.name)) :=
        List.append_assoc _ _ _
      _ ~ mergeChildren preserved sc cs ++ cs.filter fun d => !sc.any (·.name = d.name) :=
        hsplit.symm.append_left _

/-- The node a replacement leaves at the target: the old target `T` keeps its children under the
scratch name `s` in place, takes the state of `N`, gets the restricted children of `N` appended
and its other children put back. Up to order it is the merge of the restricted content with
`T`. -/
theorem replacedTarget_sameUpToOrder (f : WorkspaceFilter) (p : String) (preserved : List String)
    {N T : Node} {s : String}
    (hT : Everywhere SiblingsWellNamed T) (hTp : Everywhere PlainProperties T)
    (hN : Everywhere PlainProperties N) (hNd : Everywhere DistinctChildren N)
    (hfresh : ∀ c ∈ restrictChildren f p N.children,
      (withChildren (T.children.filter (·.name = s)) T).hasChild c.name = false) :
    SameUpToOrder
      (absorbChildren preserved (T.children.filter (·.name ≠ s))
        (appendChildren (restrictChildren f p N.children)
          (replaced N preserved (withChildren (T.children.filter (·.name = s)) T))))
      (merge preserved (restrict f p N) T) := by
  set kept := T.children.filter (·.name = s) with hkept
  set moved := T.children.filter (·.name ≠ s) with hmoved
  set sc := restrictChildren f p N.children with hsc
  set Y := appendChildren sc (replaced N preserved (withChildren kept T)) with hY
  have hsep : ∀ c ∈ sc, ∀ d ∈ kept, d.name ≠ c.name := by
    intro c hc d hd hdc
    have hany : kept.any (·.name = c.name) = true := List.any_eq_true.mpr ⟨d, hd, by simpa using hdc⟩
    have hnot : kept.any (·.name = c.name) = false := hfresh c hc
    rw [hany] at hnot
    cases hnot
  have hYc : Y.children = kept ++ sc := by
    show (replaced N preserved (withChildren kept T)).children ++ sc = kept ++ sc
    rw [RescueTransformer.children_replaced]
    rfl
  have hmovedNd : (moved.map (·.name)).Nodup :=
    (List.filter_sublist.map fun d : Node => d.name).nodup hT.self.1
  have hYNd : (Y.children.map (·.name)).Nodup := by
    rw [hYc, List.map_append, List.nodup_append]
    refine ⟨(List.filter_sublist.map fun d : Node => d.name).nodup hT.self.1,
      (map_name_restrictChildren_sublist f p N.children).nodup hNd.self, ?_⟩
    intro a ha b hb hab
    obtain ⟨d, hd, rfl⟩ := List.mem_map.mp ha
    obtain ⟨c, hc, rfl⟩ := List.mem_map.mp hb
    exact hsep c hc d hd hab
  -- a parked child meets only a new child of its name, and merges with it
  have hrec : ∀ r ∈ moved, ∀ d, Y.child? r.name = some d →
      absorb preserved r d = merge preserved d r := by
    intro r hr d hd
    have hrT := (List.mem_filter.mp hr).1
    have hdr := name_of_child? hd
    have hdY := mem_of_child? hd
    rw [hYc] at hdY
    rcases List.mem_append.mp hdY with hdk | hds
    · have hrs : r.name ≠ s := name_ne_of_mem_filter_name hr
      have hds : d.name = s := name_of_mem_filter_name hdk
      exact absurd (by rw [← hdr]; exact hds) hrs
    · obtain ⟨c, hc, rfl⟩ := mem_restrictChildren hds
      exact absorb_eq_merge preserved (hT.child hrT) (hTp.child hrT) _
        (everywhere_restrict f (hNd.child hc) _) hdr
  have hM : absorbChildren preserved moved Y = withChildren (mergeChildren preserved (kept ++ sc) moved ++
      moved.filter fun r => !(kept ++ sc).any (·.name = r.name)) Y := by
    rw [absorbChildren_eq_merge preserved moved Y hmovedNd hYNd hrec, hYc]
  rw [hM, merge_eq, restrict_eq f p N]
  have htypes := types_replaced hN.self.2 preserved (withChildren kept T)
  exact ⟨keepsName_replaced N preserved (withChildren kept T), htypes.1, htypes.2,
    properties_replaced hN.self preserved (y := withChildren kept T) hTp.self.1,
    mergeChildren_parked_perm preserved s T.children sc hsep⟩

end Node

/-! ## A whole replacement -/

open RescueTransformer in
/-- What the three phases of a replacement with rescue leave when they succeed: the node at `ps`
replaced by the restricted content, into which the preserved properties and the children of the
old node are put back; the old children under the scratch name `s` stay where they were, and no
child of the content has the name of one of them. -/
theorem replacement_run_root {f : WorkspaceFilter} {ps pres : List String} {N T : Node}
    {r r' : Repository} {out : List String}
    (hwell : Everywhere SiblingsWellNamed r.root) (hN : Everywhere PlainProperties N)
    (hT : r.root.descendAlong ps = some T)
    (h : (do
        let t ← RescueTransformer.begin (Path.render ps) pres
        let t ← DocViewImport.streamNode f (Path.render ps) t N
        t.finish) r = .ok out r') :
    ∃ s, (∀ c ∈ restrictChildren f (Path.render ps) N.children,
        (withChildren (T.children.filter (·.name = s)) T).hasChild c.name = false) ∧
      r'.root = r.root.updateAlong (fun _ => absorbChildren pres (T.children.filter (·.name ≠ s))
        (appendChildren (restrictChildren f (Path.render ps) N.children)
          (replaced N pres (withChildren (T.children.filter (·.name = s)) T)))) ps := by
  obtain ⟨t, r₁, hbegin, h₁⟩ := RepoM.bind_eq_ok.mp h
  obtain ⟨s, hs, _, hhead, rfl, hP₁⟩ := begin_of_ok hwell hT hbegin
  obtain ⟨t', r₂, hstream, hfinish⟩ := RepoM.bind_eq_ok.mp h₁
  have hps := validName_of_descendAlong hwell hT
  have hTw := hwell.descendAlong hT
  -- beginning parks every child of the target but those under the scratch name
  have hleft : ∀ c ∈ (withChildren (T.children.filter (·.name = s)) T).children, c.name = s :=
    fun c hc => name_of_mem_filter_name hc
  obtain ⟨rfl, hP₂, hfresh⟩ :=
    stream_of_parked hps hs hhead (keepsName_withChildren _) hT hleft rfl rfl rfl rfl hP₁ hstream
  have hD : ∀ R ∈ T.children.filter (·.name ≠ s),
      Everywhere SiblingsWellNamed R ∧ Path.ValidName R.name ∧ R.name ≠ s := by
    intro R hR
    have hRT := (List.mem_filter.mp hR).1
    exact ⟨hTw.child hRT, hTw.self.2 R hRT, name_ne_of_mem_filter_name hR⟩
  have hroot := finish_of_ok hps hs hhead
    (((keepsName_appendChildren _).comp (keepsName_replaced _ _)).comp (keepsName_withChildren _))
    hT hD hP₂ hfinish
  -- what streaming appends is the restricted content
  have hsc : streamedChildren f (Path.render ps) N.children =
      restrictChildren f (Path.render ps) N.children :=
    streamedChildren_eq_restrictChildren f _ N.children fun c hc => hN.child hc
  refine ⟨s, by rw [← hsc]; exact hfresh, ?_⟩
  rw [hroot, ← hsc]
  apply updateAlong_congr
  intro m hm
  rw [hT] at hm
  cases hm
  rfl

/-- A replacement with rescue of the node at `ps` of a well-named tree by new content `N`:
beginning it, streaming `N` in and finishing it. When the three phases succeed, the tree has
changed only at `ps`, and the node there is the merge of the restricted content with the old
one, up to the order of that node's own properties and children; below it, the merge is
exact. -/
theorem rescued_replacement_merges {f : WorkspaceFilter} {ps pres : List String} {N T : Node}
    {r r' : Repository} {out : List String}
    (hwell : Everywhere SiblingsWellNamed r.root) (hplain : Everywhere PlainProperties r.root)
    (hN : Everywhere PlainProperties N) (hNd : Everywhere DistinctChildren N)
    (hT : r.root.descendAlong ps = some T)
    (h : (do
        let t ← RescueTransformer.begin (Path.render ps) pres
        let t ← DocViewImport.streamNode f (Path.render ps) t N
        t.finish) r = .ok out r') :
    ∃ M, r'.root = r.root.updateAlong (fun _ => M) ps ∧
      M.SameUpToOrder (merge pres (restrict f (Path.render ps) N) T) := by
  obtain ⟨s, hfresh, hroot⟩ := replacement_run_root hwell hN hT h
  exact ⟨_, hroot, replacedTarget_sameUpToOrder f (Path.render ps) pres
    (hwell.descendAlong hT) (hplain.descendAlong hT) hN hNd hfresh⟩

/-- A page titled `Old` with one child `x`. -/
def oldPage : Node :=
  ⟨"page", "nt:unstructured", [], [⟨"title", .string, false, [.string "Old"]⟩],
    [Node.empty "x" "nt:unstructured"]⟩

/-- A root holding `oldPage`. -/
def pageTree : Node :=
  ⟨"", "rep:root", [], [], [oldPage]⟩

/-- New content for the page: titled `New`, without children. -/
def newPage : Node :=
  ⟨"page", "nt:unstructured", [], [⟨"title", .string, false, [.string "New"]⟩], []⟩

theorem page_replacement_merges :
    ∃ M out r', (do
        let t ← RescueTransformer.begin (Path.render ["page"]) []
        let t ← DocViewImport.streamNode (WorkspaceFilter.forRoot "/") (Path.render ["page"]) t newPage
        t.finish) (Repository.ofRoot pageTree 0 creationMoment) = .ok out r' ∧
      r'.root = pageTree.updateAlong (fun _ => M) ["page"] ∧
      M.SameUpToOrder
        (merge [] (restrict (WorkspaceFilter.forRoot "/") (Path.render ["page"]) newPage) oldPage) := by
  obtain ⟨out, r', hrun⟩ : ∃ out r', (do
        let t ← RescueTransformer.begin (Path.render ["page"]) []
        let t ← DocViewImport.streamNode (WorkspaceFilter.forRoot "/") (Path.render ["page"]) t newPage
        t.finish) (Repository.ofRoot pageTree 0 creationMoment) = .ok out r' :=
    ⟨_, _, rfl⟩
  obtain ⟨M, hroot, hsame⟩ := rescued_replacement_merges (by decide) (by decide) (by decide)
    (by decide) rfl hrun
  exact ⟨M, out, r', hrun, hroot, hsame⟩

/-- New content for the page that also carries a `jcr:primaryType` property naming
`nt:folder`. -/
def typedNewPage : Node :=
  ⟨"page", "nt:unstructured", [],
    [⟨Known.primaryType, .name, false, [.name "nt:folder"]⟩, ⟨"title", .string, false, [.string "New"]⟩], []⟩

/-- Without the plainness of the new content the merge is not what a replacement builds: a
`jcr:primaryType` property of the content retypes the page, where the merge keeps the content's
own type. -/
theorem typed_page_replacement_retypes :
    ∃ out r', (do
        let t ← RescueTransformer.begin (Path.render ["page"]) []
        let t ← DocViewImport.streamNode (WorkspaceFilter.forRoot "/") (Path.render ["page"]) t
          typedNewPage
        t.finish) (Repository.ofRoot pageTree 0 creationMoment) = .ok out r' ∧
      (r'.root.descendAlong ["page"]).map (·.primaryType) = some "nt:folder" ∧
      (merge [] (restrict (WorkspaceFilter.forRoot "/") (Path.render ["page"]) typedNewPage)
        oldPage).primaryType = "nt:unstructured" :=
  ⟨_, _, rfl, by decide, by decide⟩

end ContentSync
