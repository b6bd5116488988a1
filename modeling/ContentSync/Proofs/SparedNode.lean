import ContentSync.Proofs.KeptNode
import ContentSync.Proofs.RepositoryOps

/-!
# Operations that spare a node

`RepoM.Spares q m0 x` says that a run of `x` from any state that keeps the node at `q` (in the
sense of `Node.KeptAt`) ends in a state that still keeps it, whether the run succeeds or fails:
a failure inside `RepoM.attempt` keeps what was done before it, so failed runs matter too.

The first part gives the rules by which runs compose (`final_bind`, `final_forIn`); the second
says, once per operation of the repository, which paths it may touch: an operation on a node's
own state spares every other node, adding a node spares all, removing or moving a node spares
what is not below it.
-/

namespace ContentSync

open Node

/-! ## Paths aside from the watched one -/

/-- The path `p` is aside from the way to the node at `q`: it is neither that node nor a node
above it. -/
def Aside (q : List String) (p : String) : Prop := ¬ Path.segments p <+: q

theorem Aside.ne {q : List String} {p : String} (h : Aside q p) : Path.segments p ≠ q :=
  fun heq => h (heq ▸ List.prefix_refl q)

/-- Every path below a path aside from `q` is aside from it too. -/
theorem Aside.join {q : List String} {p : String} (h : Aside q p) (n : String) :
    Aside q (Path.join p n) :=
  fun hq => h ((Path.segments_prefix_join p n).trans hq)

namespace RepoM

variable {α β γ : Type} {r : Repository}

/-! ## Where a run ends -/

/-- The state a run ends in, whether it succeeds or fails. -/
def final : EStateM.Result Error Repository α → Repository
  | .ok _ r => r
  | .error _ r => r

@[simp] theorem final_ok (a : α) (r : Repository) :
    final (.ok a r : EStateM.Result Error Repository α) = r := rfl

@[simp] theorem final_error (e : Error) (r : Repository) :
    final (.error e r : EStateM.Result Error Repository α) = r := rfl

/-- A property of the final state of `x >>= f`: it holds where `x` fails, and where `x`
succeeds it must hold after `f`. -/
theorem final_bind {P : Repository → Prop} {x : RepoM α} {f : α → RepoM β}
    (hx : P (final (x r))) (hf : ∀ a r₁, x r = .ok a r₁ → P r₁ → P (final (f a r₁))) :
    P (final ((x >>= f) r)) := by
  cases h : x r with
  | ok a r₁ =>
    rw [bind_of_ok h]
    rw [h] at hx
    exact hf a r₁ h hx
  | error e r₁ =>
    rw [bind_of_error h]
    rw [h] at hx
    exact hx

/-- A property kept by every pass of a loop's body is kept by the loop. -/
theorem final_forIn {P : Repository → Prop} (l : List β) (body : β → γ → RepoM (ForInStep γ))
    (hbody : ∀ b ∈ l, ∀ acc r, P r → P (final (body b acc r))) :
    ∀ (init : γ) (r : Repository), P r → P (final (forIn l init body r)) := by
  induction l with
  | nil =>
    intro init r hr
    rw [List.forIn_nil]
    exact hr
  | cons b l ih =>
    intro init r hr
    rw [List.forIn_cons]
    refine final_bind (hbody b List.mem_cons_self init r hr) fun step r₁ _ h₁ => ?_
    cases step with
    | done a => exact h₁
    | yield a => exact ih (fun c hc => hbody c (List.mem_cons_of_mem b hc)) a r₁ h₁

@[simp] theorem final_attempt (x : RepoM α) : final (attempt x r) = final (x r) := by
  unfold attempt
  cases x r <;> rfl

@[simp] theorem final_ofExcept (x : Except Error α) : final (ofExcept x r) = r := by
  cases x <;> rfl

@[simp] theorem final_pure (a : α) : final ((pure a : RepoM α) r) = r := rfl

@[simp] theorem final_throw (e : Error) : final ((throw e : RepoM α) r) = r := rfl

/-! ## Sparing a node -/

/-- Every run of `x` from a state that keeps the node at `q` in the state of `m0` ends in a
state that still keeps it. -/
def Spares (q : List String) (m0 : Node) (x : RepoM α) : Prop :=
  ∀ r, KeptAt q m0 r.root → KeptAt q m0 (final (x r)).root

section Spares

variable {q : List String} {m0 : Node}

theorem Spares.bind {x : RepoM α} {f : α → RepoM β} (hx : Spares q m0 x)
    (hf : ∀ a, Spares q m0 (f a)) : Spares q m0 (x >>= f) :=
  fun r hr => final_bind (hx r hr) fun a r₁ _ h₁ => hf a r₁ h₁

/-- A bind spares the node when `x` does and `f` does at every result of a run of `x` from a
state that keeps the node: the continuation may rely on what that run returned. -/
theorem Spares.bind_of_run {x : RepoM α} {f : α → RepoM β} (hx : Spares q m0 x)
    (hf : ∀ r a r₁, KeptAt q m0 r.root → x r = .ok a r₁ → Spares q m0 (f a)) :
    Spares q m0 (x >>= f) :=
  fun r hr => final_bind (hx r hr) fun a r₁ hrun h₁ => hf r a r₁ hr hrun r₁ h₁

theorem spares_pure (a : α) : Spares q m0 (pure a : RepoM α) := fun _ hr => hr

theorem spares_throw (e : Error) : Spares q m0 (throw e : RepoM α) := fun _ hr => hr

theorem spares_ofExcept (x : Except Error α) : Spares q m0 (ofExcept x) := by
  intro r hr
  rw [final_ofExcept]
  exact hr

theorem Spares.attempt {x : RepoM α} (hx : Spares q m0 x) : Spares q m0 (attempt x) := by
  intro r hr
  rw [final_attempt]
  exact hx r hr

theorem Spares.forIn {l : List β} {body : β → γ → RepoM (ForInStep γ)}
    (hbody : ∀ b ∈ l, ∀ acc, Spares q m0 (body b acc)) (init : γ) :
    Spares q m0 (forIn l init body) :=
  fun r hr => final_forIn (P := fun r => KeptAt q m0 r.root) l body
    (fun b hb acc r hr => hbody b hb acc r hr) init r hr

/-- A loop that runs a sparing operation for each element spares the node. -/
theorem spares_forIn_each {l : List β} {op : β → RepoM PUnit} (hop : ∀ b ∈ l, Spares q m0 (op b)) :
    Spares q m0 (forIn l PUnit.unit fun b _ => do
      op b
      pure (ForInStep.yield PUnit.unit)) :=
  Spares.forIn (fun b hb _ => (hop b hb).bind fun _ => spares_pure _) PUnit.unit

theorem spares_throw_bind (e : Error) (f : α → RepoM β) : Spares q m0 ((throw e : RepoM α) >>= f) :=
  fun _ hr => hr

/-! ## What each operation spares -/

/-- A run that leaves the tree as it was spares every node. -/
theorem spares_of_root {x : RepoM α} (h : ∀ r, (final (x r)).root = r.root) : Spares q m0 x := by
  intro r hr
  rw [h r]
  exact hr

theorem spares_get : Spares q m0 (get : RepoM Repository) := spares_of_root fun _ => rfl

theorem spares_freshNumber : Spares q m0 freshNumber := spares_of_root fun _ => rfl

theorem spares_freshIdentifier : Spares q m0 freshIdentifier := spares_of_root fun _ => rfl

theorem spares_nodeExists (path : String) : Spares q m0 (nodeExists path) :=
  spares_of_root fun _ => rfl

theorem spares_requireNode (path : String) : Spares q m0 (requireNode path) := by
  refine spares_of_root fun r => ?_
  cases hm : r.root.descendAlong (Path.segments path) with
  | none => rw [requireNode_of_none rfl hm]; rfl
  | some m => rw [requireNode_run rfl hm]; rfl

theorem final_modifyNode (path : String) (g : Node → Node) (r : Repository) :
    final (modifyNode path g r) = { r with root := r.root.updateAlong g (Path.segments path) } := by
  cases hm : r.root.descendAlong (Path.segments path) with
  | none => rw [modifyNode_of_none rfl hm, final_error, updateAlong_of_descendAlong_eq_none hm]
  | some m => rw [modifyNode_run rfl hm, final_ok]

/-- Changing the own state of a node other than the watched one spares it. -/
theorem spares_modifyNode {path : String} {g : Node → Node} (hg : KeepsName g)
    (hkids : ∀ m, (g m).children = m.children) (hq : Path.segments path ≠ q) :
    Spares q m0 (modifyNode path g) := by
  intro r hr
  rw [final_modifyNode]
  exact hr.updateAlong_state hg hkids hq

theorem spares_setProperty {path : String} (p : Property) (hq : Path.segments path ≠ q) :
    Spares q m0 (setProperty path p) :=
  spares_modifyNode (keepsName_applyProperty p) (children_applyProperty p) hq

/-- Setting properties one after another at a node other than the watched one spares it. -/
theorem spares_forIn_setProperty {path : String} (ps : List Property) (hq : Path.segments path ≠ q) :
    Spares q m0 (forIn ps PUnit.unit fun p _ => do
      setProperty path p
      pure (ForInStep.yield PUnit.unit)) :=
  spares_forIn_each fun p _ => spares_setProperty p hq

theorem spares_removeProperty {path : String} (a : String) (hq : Path.segments path ≠ q) :
    Spares q m0 (removeProperty path a) :=
  spares_modifyNode (keepsName_removeProperty a) (fun _ => rfl) hq

theorem spares_setPrimaryType {path : String} (t : String) (hq : Path.segments path ≠ q) :
    Spares q m0 (setPrimaryType path t) :=
  spares_modifyNode (keepsName_withPrimaryType t) (fun _ => rfl) hq

theorem spares_setMixins {path : String} (ms : List String) (hq : Path.segments path ≠ q) :
    Spares q m0 (setMixins path ms) :=
  spares_modifyNode (keepsName_withMixins ms) (fun _ => rfl) hq

/-- Appending a child with a valid name spares every node. -/
theorem spares_modifyNode_appendChild (path : String) {c : Node} (hc : Path.ValidName c.name) :
    Spares q m0 (modifyNode path (appendChild c)) := by
  intro r hr
  rw [final_modifyNode]
  exact hr.updateAlong_appendChild hc

/-- An `addNode` either fails and leaves the state as it was, or appends a child with a valid
name to the parent. -/
theorem final_addNode (parent name ty : String) (r : Repository) :
    final (addNode parent name ty r) = r ∨ (Path.ValidName name ∧ final (addNode parent name ty r) =
      { r with root := r.root.updateAlong (appendChild (empty name ty)) (Path.segments parent) }) := by
  have herr : (∃ e, addNode parent name ty r = .error e r) → final (addNode parent name ty r) = r := by
    rintro ⟨e, he⟩
    rw [he, final_error]
  by_cases hv : Path.ValidName name
  · cases hm : r.root.descendAlong (Path.segments parent) with
    | none => exact Or.inl (herr (addNode_of_none rfl hv hm))
    | some m =>
      cases hc : m.hasChild name with
      | true => exact Or.inl (herr (addNode_of_hasChild rfl hv hm hc))
      | false =>
        rw [addNode_run rfl hv hm hc, final_ok]
        exact Or.inr ⟨hv, rfl⟩
  · exact Or.inl (herr (addNode_of_invalid hv))

/-- Adding a node spares every node. -/
theorem spares_addNode (parent name ty : String) : Spares q m0 (addNode parent name ty) := by
  intro r hr
  rcases final_addNode parent name ty r with h | ⟨hv, h⟩
  · rw [h]
    exact hr
  · rw [h]
    exact hr.updateAlong_appendChild hv

/-- A node that `addNode` creates is aside from the watched node, which was there before. -/
theorem aside_of_addNode {parent name ty path : String} {r r' : Repository}
    (hr : KeptAt q m0 r.root) (h : addNode parent name ty r = .ok path r') :
    Aside q path ∧ Path.segments path = Path.segments parent ++ [name] := by
  obtain ⟨hv, m, hm, hc, rfl, -⟩ := (addNode_eq_ok rfl).mp h
  have hseg := Path.segments_join_validName parent hv
  refine ⟨fun hpre => ?_, hseg⟩
  rw [hseg] at hpre
  -- the way to the watched node would pass through the new name, which the parent lacked
  have hsome := hr.isSome_of_prefix hpre
  rw [descendAlong_append, hm, Option.bind_some, descendAlong_cons,
    (child?_eq_none_iff m name).mpr hc] at hsome
  simp at hsome

/-- A node that `addNode` creates under the parent and the last name of a path `p` is at `p`,
which is therefore aside from the watched node. -/
theorem aside_of_addNode_name {p ty path : String} {r r' : Repository} (hr : KeptAt q m0 r.root)
    (h : addNode (Path.parent p) (Path.name p) ty r = .ok path r') : Aside q p := by
  obtain ⟨hv, -⟩ := (addNode_eq_ok rfl).mp h
  obtain ⟨haside, hseg⟩ := aside_of_addNode hr h
  rw [← Path.segments_eq_parent_name hv.1] at hseg
  intro hp
  exact haside (by rw [hseg]; exact hp)

/-- A `removeNode` either fails and leaves the state as it was, or erases the child named by
the path's last segment from the node at the others. -/
theorem final_removeNode (path : String) (r : Repository) :
    final (removeNode path r) = r ∨ ∃ s a, Path.segments path = s ++ [a] ∧
      final (removeNode path r) = { r with root := r.root.updateAlong (eraseChild a) s } := by
  rcases List.eq_nil_or_concat (Path.segments path) with hnil | ⟨s, a, hs⟩
  · -- the root is never removed
    have hname : (Path.name path).isEmpty = true := by
      rw [Path.name_eq_getLastD, hnil]
      rfl
    left
    unfold removeNode
    simp only [hname, if_true]
    rfl
  · rw [List.concat_eq_append] at hs
    have hpar := segments_parent_of_segments hs
    have hne : a.isEmpty = false := String.isEmpty_eq_false_iff.mpr (last_ne_empty_of_segments hs)
    cases hm : r.root.descendAlong s with
    | none =>
      left
      unfold removeNode
      simp only [name_of_segments hs, hne, Bool.false_eq_true, if_false,
        bind_of_error (requireNode_of_none hpar hm)]
      rfl
    | some m =>
      cases hc : m.hasChild a with
      | true =>
        rw [removeNode_run hs hm hc, final_ok]
        exact Or.inr ⟨s, a, hs, rfl⟩
      | false =>
        left
        unfold removeNode
        simp only [name_of_segments hs, hne, Bool.false_eq_true, if_false,
          bind_of_ok (requireNode_run hpar hm), removeChild?_of_not_hasChild hc]
        rfl

/-- Removing a node aside from the watched one spares it. -/
theorem spares_removeNode {path : String} (hpath : Aside q path) : Spares q m0 (removeNode path) := by
  intro r hr
  rcases final_removeNode path r with h | ⟨s, a, hs, h⟩
  · rw [h]
    exact hr
  · rw [h]
    exact hr.updateAlong_eraseChild (hs ▸ hpath)

/-- Moving a node aside from the watched one spares it: the move removes the node and appends
it, under the destination's last name, which the checks make valid. -/
theorem spares_moveNode {src : String} (dest : String) (hsrc : Aside q src) :
    Spares q m0 (moveNode src dest) := by
  unfold moveNode
  dsimp only
  split
  · exact spares_throw_bind _ _
  · rename_i hnames
    have hvalid : Path.ValidName (Path.name dest) :=
      Path.validName_name fun h => hnames (Or.inr (by rw [h]; rfl))
    have htail : ∀ d, Spares q m0 (do
        let moved ← requireNode src
        removeNode src
        modifyNode d (appendChild { moved with name := Path.name dest })) := fun d =>
      (spares_requireNode src).bind fun _ =>
        (spares_removeNode hsrc).bind fun _ => spares_modifyNode_appendChild d hvalid
    -- the remaining checks only read the tree
    split
    · exact spares_throw_bind _ _
    · refine (spares_nodeExists dest).bind fun _ => ?_
      split
      · exact spares_throw_bind _ _
      · refine (spares_nodeExists _).bind fun _ => ?_
        split
        · exact htail _
        · exact spares_throw_bind _ _

end Spares

end RepoM

end ContentSync
