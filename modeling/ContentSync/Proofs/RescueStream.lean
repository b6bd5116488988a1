import ContentSync.Proofs.RepositoryOps
import ContentSync.Import.DocView

/-!
# Streaming new content into a replacement

During a replacement the first node started is the target: its types are set and its
properties replaced (`RescueTransformer.replaceTarget_run`, with `Node.replaced` saying what
the target becomes). Every later node is created below the innermost open node: its name and
primary type by `addNode`, its mixins and properties one after another (`Node.created`).
Which children are streamed at all is decided by the filter, on the path each child gets
(`Node.streamed`).

`streamNode_of_ok` reads a successful stream of one node back: the transformer is as before,
every name was valid and new below its parent, and the parent gained one child, the streamed
content. It is proved together with `streamChildren_of_ok`, following the two functions'
recursion over a node and its children.
-/

namespace ContentSync

open Node

namespace Node

/-- The node as streaming creates it: the name, types and mixins of `n`, with the properties
of `n` set one after another and no children. -/
def created (n : Node) : Node :=
  n.properties.foldl applyProperty { empty n.name n.primaryType with mixins := n.mixins }

mutual
/-- The content `n` as streamed at `path`: only the children whose paths the filter contains
are kept, at every depth, and each node is as streaming creates it. -/
def streamed (f : WorkspaceFilter) (path : String) : Node → Node
  | n@⟨_, _, _, _, cs⟩ => appendChildren (streamedChildren f path cs) n.created

/-- The children among `cs` of the node at `path` that are streamed, as streamed. -/
def streamedChildren (f : WorkspaceFilter) (path : String) : List Node → List Node
  | [] => []
  | c :: cs =>
    if f.contains (Path.join path c.name) then
      streamed f (Path.join path c.name) c :: streamedChildren f path cs
    else streamedChildren f path cs
end

/-- The target's own state after `replaceTarget`: the types of `new`, the properties of `new`
set one after another over the old ones that `new` also has or that are preserved. -/
def replaced (new : Node) (preserved : List String) (y : Node) : Node :=
  let stale := (y.properties.map (·.name)).filter fun a =>
    (new.property? a).isNone && !preserved.contains a
  new.properties.foldl applyProperty
    (stale.foldl Node.removeProperty { y with primaryType := new.primaryType, mixins := new.mixins })

theorem name_foldl_applyProperty (ps : List Property) (n : Node) :
    (ps.foldl applyProperty n).name = n.name := by
  induction ps generalizing n with
  | nil => rfl
  | cons p ps ih => rw [List.foldl_cons, ih, keepsName_applyProperty p n]

theorem name_created (n : Node) : n.created.name = n.name :=
  name_foldl_applyProperty n.properties _

theorem keepsName_replaced (new : Node) (preserved : List String) :
    KeepsName (replaced new preserved) := by
  intro y
  rw [replaced, name_foldl_applyProperty]
  -- removing properties keeps the name
  have h : ∀ (names : List String) (m : Node), (names.foldl Node.removeProperty m).name = m.name := by
    intro names
    induction names with
    | nil => intro m; rfl
    | cons a names ih => intro m; rw [List.foldl_cons, ih]; rfl
  rw [h]

theorem streamed_eq (f : WorkspaceFilter) (path : String) (n : Node) :
    streamed f path n = appendChildren (streamedChildren f path n.children) n.created := by
  cases n
  rw [streamed]

theorem streamedChildren_cons (f : WorkspaceFilter) (path : String) (c : Node) (cs : List Node) :
    streamedChildren f path (c :: cs) =
      if f.contains (Path.join path c.name) then
        streamed f (Path.join path c.name) c :: streamedChildren f path cs
      else streamedChildren f path cs := by
  rw [streamedChildren]

theorem name_streamed (f : WorkspaceFilter) (path : String) (n : Node) :
    (streamed f path n).name = n.name := by
  rw [streamed_eq]
  exact name_created n

end Node

namespace RescueTransformer

/-! ## Starting a node below an open one -/

/-- A start below an open node that succeeds has added the node as created, below the open
node, under a valid name it did not have; the new node is open. -/
theorem startNode_of_ok {t t' : RescueTransformer} {new : Node} {parent : String}
    {rest qs : List String} {r r' : Repository} (hstack : t.stack = parent :: rest)
    (hqs : Path.segments parent = qs) (h : t.startNode new r = .ok t' r') :
    Path.ValidName new.name ∧ ∃ z, r.root.descendAlong qs = some z ∧
      z.hasChild new.name = false ∧
      t' = { t with stack := Path.join parent new.name :: t.stack } ∧
      r' = { r with root := r.root.updateAlong (appendChild new.created) qs } := by
  unfold startNode at h
  rw [hstack] at h
  obtain ⟨path, r₁, hadd, hrest⟩ := RepoM.bind_eq_ok.mp h
  obtain ⟨hv, z, hz, hzc, rfl, rfl⟩ := (RepoM.addNode_eq_ok hqs).mp hadd
  refine ⟨hv, z, hz, hzc, ?_⟩
  have hpath : Path.segments (Path.join parent new.name) = qs ++ [new.name] := by
    rw [Path.segments_join_validName parent hv, hqs]
  have hnew : (r.root.updateAlong (appendChild (empty new.name new.primaryType)) qs).descendAlong
      (qs ++ [new.name]) = some (empty new.name new.primaryType) := by
    rw [descendAlong_updateAlong_append (keepsName_appendChild _), hz]
    show ((appendChild (empty new.name new.primaryType) z).child? new.name).bind
      (·.descendAlong []) = _
    rw [child?_appendChild_fresh (c := empty new.name new.primaryType) (a := new.name) rfl hzc]
    rfl
  -- the properties are set on the node after its mixins, if there are any
  have hroot (e : Node) (he : e.name = new.name) :
      (r.root.updateAlong (appendChild e) qs).updateAlong
        (fun n => new.properties.foldl applyProperty n) (qs ++ [new.name]) =
      r.root.updateAlong (appendChild (new.properties.foldl applyProperty e)) qs := by
    rw [updateAlong_appendChild_fresh hz he hzc [], updateAlong_nil]
  by_cases hmx : new.mixins.isEmpty = true
  · have hnil : new.mixins = [] := List.isEmpty_iff.mp hmx
    simp only [hmx, Bool.not_true, Bool.false_eq_true, if_false] at hrest
    rw [RepoM.bind_of_ok (RepoM.forIn_setProperty_run
      (r := { r with root := r.root.updateAlong (appendChild (empty new.name new.primaryType)) qs })
      hpath hnew new.properties), RepoM.pure_run] at hrest
    cases hrest
    refine ⟨by rw [hstack], ?_⟩
    dsimp only
    rw [hroot (empty new.name new.primaryType) rfl]
    simp only [created, hnil]
    rfl
  · simp only [hmx, Bool.not_false, if_true] at hrest
    rw [RepoM.bind_of_ok (RepoM.setMixins_run new.mixins hpath hnew)] at hrest
    have hmixed : ((r.root.updateAlong (appendChild (empty new.name new.primaryType)) qs).updateAlong
        (withMixins new.mixins) (qs ++ [new.name])) =
        r.root.updateAlong (appendChild (withMixins new.mixins (empty new.name new.primaryType))) qs := by
      rw [updateAlong_appendChild_fresh (e := empty new.name new.primaryType) (a := new.name) hz rfl
        hzc [], updateAlong_nil]
    have hnew' : (r.root.updateAlong
        (appendChild (withMixins new.mixins (empty new.name new.primaryType))) qs).descendAlong
        (qs ++ [new.name]) = some (withMixins new.mixins (empty new.name new.primaryType)) := by
      rw [descendAlong_updateAlong_append (keepsName_appendChild _), hz]
      show ((appendChild (withMixins new.mixins (empty new.name new.primaryType)) z).child?
        new.name).bind (·.descendAlong []) = _
      rw [child?_appendChild_fresh (c := withMixins new.mixins (empty new.name new.primaryType))
        (a := new.name) rfl hzc]
      rfl
    dsimp only at hrest
    rw [hmixed, RepoM.bind_of_ok (RepoM.forIn_setProperty_run (r := { r with root := (
      r.root.updateAlong (appendChild (withMixins new.mixins (empty new.name new.primaryType))) qs) })
      hpath hnew' new.properties), RepoM.pure_run] at hrest
    cases hrest
    refine ⟨by rw [hstack], ?_⟩
    dsimp only
    rw [hroot (withMixins new.mixins (empty new.name new.primaryType)) rfl]
    rfl

theorem endNode_of_cons {t : RescueTransformer} {top : String} {rest : List String}
    (h : t.stack = top :: rest) : t.endNode = .ok { t with stack := rest } := by
  rw [endNode, h]

theorem hasChild_appendChild_false {z c : Node} {a : String}
    (h : (appendChild c z).hasChild a = false) : z.hasChild a = false := by
  rw [hasChild] at h ⊢
  show z.children.any (·.name = a) = false
  have h' : (z.children ++ [c]).any (·.name = a) = false := h
  rw [List.any_append, Bool.or_eq_false_iff] at h'
  exact h'.1

/-! ## Streaming below an open node -/

mutual
/-- A stream of one node below the open node at `parent` that succeeds leaves the transformer
as it was and has appended the node, as streamed, to the open node, under a valid name the
open node did not have. -/
theorem streamNode_of_ok (f : WorkspaceFilter) :
    (c : Node) → (t t' : RescueTransformer) → (parent : String) → (rest qs : List String) →
    (r r' : Repository) → t.stack = parent :: rest → Path.segments parent = qs →
    DocViewImport.streamNode f (Path.join parent c.name) t c r = .ok t' r' →
    t' = t ∧ Path.ValidName c.name ∧ ∃ z, r.root.descendAlong qs = some z ∧
      z.hasChild c.name = false ∧
      r' = { r with root := r.root.updateAlong (appendChild (streamed f (Path.join parent c.name) c)) qs }
  | ⟨name, pt, mx, ps, cs⟩, t, t', parent, rest, qs, r, r', hstack, hqs, hrun => by
    rw [DocViewImport.streamNode] at hrun
    obtain ⟨t₁, r₁, hstart, hrest⟩ := RepoM.bind_eq_ok.mp hrun
    obtain ⟨hv, z, hz, hzc, rfl, rfl⟩ := startNode_of_ok hstack hqs hstart
    obtain ⟨t₂, r₂, hkids, hend⟩ := RepoM.bind_eq_ok.mp hrest
    have hpath : Path.segments (Path.join parent name) = qs ++ [name] := by
      rw [Path.segments_join_validName parent hv, hqs]
    obtain ⟨rfl, rfl, -⟩ := streamChildren_of_ok f cs _ t₂ (Path.join parent name) t.stack
      (qs ++ [name]) _ r₂ rfl hpath hkids
    rw [endNode_of_cons rfl] at hend
    cases hend
    refine ⟨rfl, hv, z, hz, hzc, ?_⟩
    -- the children were appended inside the node just created
    have hname : (created ⟨name, pt, mx, ps, cs⟩).name = name := name_created _
    dsimp only
    rw [updateAlong_appendChild_fresh hz hname hzc [], updateAlong_nil, streamed_eq]

/-- A stream of the children `cs` of the open node at `path` that succeeds leaves the
transformer as it was and has appended the streamed children, in order, each under a name
the open node did not have. -/
theorem streamChildren_of_ok (f : WorkspaceFilter) :
    (cs : List Node) → (t t' : RescueTransformer) → (path : String) → (rest qs : List String) →
    (r r' : Repository) → t.stack = path :: rest → Path.segments path = qs →
    DocViewImport.streamChildren f path t cs r = .ok t' r' →
    t' = t ∧
      r' = { r with root := r.root.updateAlong (appendChildren (streamedChildren f path cs)) qs } ∧
      ∀ z, r.root.descendAlong qs = some z →
        ∀ c ∈ streamedChildren f path cs, z.hasChild c.name = false
  | [], t, t', path, rest, qs, r, r', _, _, hrun => by
    rw [DocViewImport.streamChildren, RepoM.pure_run] at hrun
    cases hrun
    refine ⟨rfl, ?_, fun _ _ c hc => by simp [streamedChildren] at hc⟩
    have hnil : r.root.updateAlong (appendChildren (streamedChildren f path [])) qs = r.root := by
      rw [updateAlong_congr (g := id) fun m _ => by cases m; simp [streamedChildren, appendChildren],
        updateAlong_id]
    rw [hnil]
  | c :: cs, t, t', path, rest, qs, r, r', hstack, hqs, hrun => by
    rw [DocViewImport.streamChildren] at hrun
    by_cases hin : f.contains (Path.join path c.name) = true
    · rw [if_pos hin] at hrun
      obtain ⟨t₁, r₁, hnode, hrest⟩ := RepoM.bind_eq_ok.mp hrun
      obtain ⟨rfl, -, z, hz, hzc, rfl⟩ :=
        streamNode_of_ok f c t t₁ path rest qs r r₁ hstack hqs hnode
      obtain ⟨rfl, rfl, hfresh⟩ := streamChildren_of_ok f cs _ t' path rest qs _ r' hstack hqs hrest
      refine ⟨rfl, ?_, ?_⟩
      · rw [streamedChildren_cons, if_pos hin]
        dsimp only
        rw [updateAlong_updateAlong (keepsName_appendChild _)]
        congr 2
        funext m
        cases m
        simp [appendChildren, appendChild]
      · intro z' hz' d hd
        rw [hz] at hz'
        cases hz'
        rw [streamedChildren_cons, if_pos hin] at hd
        rcases List.mem_cons.mp hd with rfl | hd
        · rw [name_streamed]
          exact hzc
        · have hz₁ : (r.root.updateAlong (appendChild (streamed f (Path.join path c.name) c)) qs).descendAlong
              qs = some (appendChild (streamed f (Path.join path c.name) c) z) := by
            rw [descendAlong_updateAlong_self (keepsName_appendChild _), hz]
            rfl
          exact hasChild_appendChild_false (hfresh _ hz₁ d hd)
    · rw [if_neg hin, RepoM.bind_of_ok (RepoM.pure_run t)] at hrun
      obtain ⟨rfl, rfl, hfresh⟩ := streamChildren_of_ok f cs t t' path rest qs r r' hstack hqs hrun
      rw [streamedChildren_cons, if_neg hin]
      exact ⟨rfl, rfl, hfresh⟩
end

/-! ## Replacing the target's own state -/

/-- With the target's children all gone to the scratch node, replacing the target changes only
its own state, to `Node.replaced`. -/
theorem replaceTarget_run {t : RescueTransformer} {new y : Node} {ps : List String}
    {r : Repository} (hs : Path.segments t.target = ps) (hy : r.root.descendAlong ps = some y)
    (hleft : ∀ c ∈ y.children, c.name = Path.name t.scratch) :
    t.replaceTarget new r =
      .ok () { r with root := r.root.updateAlong (replaced new t.preserved) ps } := by
  -- the target's node after setting its types, and the properties then found stale
  let y₂ : Node := withMixins new.mixins (withPrimaryType new.primaryType y)
  let stale := (y₂.properties.map (·.name)).filter fun a =>
    (new.property? a).isNone && !t.preserved.contains a
  let u₁ := r.root.updateAlong (withPrimaryType new.primaryType) ps
  let u₂ := u₁.updateAlong (withMixins new.mixins) ps
  let u₃ := u₂.updateAlong (fun n => stale.foldl Node.removeProperty n) ps
  have hy₁ : u₁.descendAlong ps = some (withPrimaryType new.primaryType y) := by
    rw [descendAlong_updateAlong_self (keepsName_withPrimaryType _), hy]
    rfl
  have hy₂ : u₂.descendAlong ps = some y₂ := by
    rw [descendAlong_updateAlong_self (keepsName_withMixins _), hy₁]
    rfl
  have hy₃ : u₃.descendAlong ps = some (stale.foldl Node.removeProperty y₂) := by
    rw [descendAlong_updateAlong_self (keepsName_foldl_removeProperty _), hy₂]
    rfl
  -- no child but the scratch node is left to remove
  have hnone : (y₂.children.filter (·.name ≠ Path.name t.scratch)).map
      (Path.join t.target ·.name) = [] := by
    rw [List.filter_eq_nil_iff.mpr fun c hc => by simpa using hleft c hc]
    rfl
  unfold replaceTarget
  rw [RepoM.bind_of_ok (RepoM.setPrimaryType_run new.primaryType hs hy),
    RepoM.bind_of_ok (RepoM.setMixins_run (r := { r with root := u₁ }) new.mixins hs hy₁),
    RepoM.bind_of_ok (RepoM.requireNode_run (r := { r with root := u₂ }) hs hy₂),
    RepoM.bind_of_ok (RepoM.forIn_removeProperty_run (r := { r with root := u₂ }) hs hy₂ stale),
    RepoM.bind_of_ok (RepoM.forIn_setProperty_run (r := { r with root := u₃ }) hs hy₃
      new.properties), hnone, List.forIn_nil, RepoM.bind_of_ok (RepoM.pure_run _), RepoM.pure_run]
  -- the four changes at the target make one, which is `replaced` at the target's node
  have hroot : u₃.updateAlong (fun n => new.properties.foldl applyProperty n) ps =
      r.root.updateAlong (replaced new t.preserved) ps := by
    show (((r.root.updateAlong (withPrimaryType new.primaryType) ps).updateAlong
      (withMixins new.mixins) ps).updateAlong (fun n => stale.foldl Node.removeProperty n) ps).updateAlong
      (fun n => new.properties.foldl applyProperty n) ps = _
    rw [updateAlong_updateAlong (keepsName_withPrimaryType _),
      updateAlong_updateAlong ((keepsName_withMixins _).comp (keepsName_withPrimaryType _)),
      updateAlong_updateAlong ((keepsName_foldl_removeProperty _).comp
        ((keepsName_withMixins _).comp (keepsName_withPrimaryType _)))]
    apply updateAlong_congr
    intro m hm
    rw [hy] at hm
    cases hm
    rfl
  rw [hroot]

theorem children_replaced (new : Node) (preserved : List String) (y : Node) :
    (replaced new preserved y).children = y.children := by
  rw [replaced]
  -- neither removing nor setting properties touches the children
  have hset : ∀ (ps : List Property) (m : Node), (ps.foldl applyProperty m).children = m.children := by
    intro ps
    induction ps with
    | nil => intro m; rfl
    | cons p ps ih =>
      intro m
      rw [List.foldl_cons, ih]
      unfold applyProperty
      split
      · split <;> rfl
      · split <;> rfl
  have hrem : ∀ (names : List String) (m : Node),
      (names.foldl Node.removeProperty m).children = m.children := by
    intro names
    induction names with
    | nil => intro m; rfl
    | cons a names ih => intro m; rw [List.foldl_cons, ih]; rfl
  rw [hset, hrem]

/-! ## Streaming the whole new content -/

/-- Streaming the new content from its first node, the target, replaces the target's own state
and then appends the target's streamed children, each under a name the target did not have;
the transformer is then started with no open node. -/
theorem streamTarget_of_ok {f : WorkspaceFilter} {t t' : RescueTransformer} {new y : Node}
    {ps : List String} {r r' : Repository} (hstack : t.stack = []) (hstarted : t.started = false)
    (hs : Path.segments t.target = ps) (hy : r.root.descendAlong ps = some y)
    (hleft : ∀ c ∈ y.children, c.name = Path.name t.scratch)
    (h : DocViewImport.streamNode f t.target t new r = .ok t' r') :
    t' = { t with started := true } ∧
      r' = { r with root := (r.root.updateAlong
        (appendChildren (streamedChildren f t.target new.children) ∘ replaced new t.preserved) ps) } ∧
      ∀ c ∈ streamedChildren f t.target new.children, y.hasChild c.name = false := by
  obtain ⟨name, pt, mx, props, cs⟩ := new
  rw [DocViewImport.streamNode] at h
  obtain ⟨t₁, r₁, hstart, hrest⟩ := RepoM.bind_eq_ok.mp h
  unfold startNode at hstart
  rw [hstack] at hstart
  simp only [hstarted, Bool.false_eq_true, if_false] at hstart
  rw [RepoM.bind_of_ok (replaceTarget_run hs hy hleft), RepoM.pure_run] at hstart
  cases hstart
  obtain ⟨t₂, r₂, hkids, hend⟩ := RepoM.bind_eq_ok.mp hrest
  have hy₁ : (r.root.updateAlong (replaced ⟨name, pt, mx, props, cs⟩ t.preserved) ps).descendAlong ps =
      some (replaced ⟨name, pt, mx, props, cs⟩ t.preserved y) := by
    rw [descendAlong_updateAlong_self (keepsName_replaced _ _), hy]
    rfl
  obtain ⟨rfl, rfl, hfresh⟩ := streamChildren_of_ok f cs _ t₂ t.target [] ps _ r₂ rfl hs hkids
  rw [endNode_of_cons rfl] at hend
  cases hend
  refine ⟨?_, ?_, ?_⟩
  · rw [← hstack]
  · dsimp only
    rw [updateAlong_updateAlong (keepsName_replaced _ _)]
  · intro c hc
    have := hfresh _ hy₁ c hc
    rwa [hasChild, children_replaced] at this

end RescueTransformer

end ContentSync
