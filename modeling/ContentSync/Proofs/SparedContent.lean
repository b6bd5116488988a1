import ContentSync.Proofs.SparedNode
import ContentSync.Import.DocView

/-!
# Content imports that spare a node

A content import changes the repository at the paths of the document it imports: it creates
missing nodes, changes the state of existing ones in merge and update mode, and replaces them
in replace mode, rescuing their children through a scratch node below the root. This module
shows which nodes all this spares, in the sense of `RepoM.Spares`.

A replacement spares every node aside from its target (`spares_replaceNode`): the scratch node
is new, every move starts below the target or the scratch node, and every change of state is
made at the target or at a node the replacement created. A whole content import spares a node
that the filter leaves out when no node above it is replaced (`spares_importNode`): under that
condition, which `OutOfScope` states, every node the import changes or replaces lies aside
from it, provided the document's names are valid, so that the paths of its nodes are the
canonical paths of their names.
-/

namespace ContentSync

open Node RepoM

variable {q : List String} {m0 : Node}

/-! ## Replacing with rescue -/

namespace RescueTransformer

/-- Beginning the replacement of a node aside from the watched one spares it: the scratch node
is added below the root, and only the target's children are moved. -/
theorem spares_begin {target : String} (pres : List String) (htarget : Aside q target) :
    Spares q m0 (begin target pres) := by
  unfold begin
  refine spares_freshNumber.bind fun _ => (spares_addNode _ _ _).bind fun _ =>
    (spares_requireNode target).bind fun _ =>
      (Spares.forIn (fun name _ _ => ?_) []).bind fun _ => spares_pure _
  refine (spares_moveNode _ (htarget.join name)).attempt.bind fun _ => ?_
  split <;> exact spares_pure _

/-- A replacement begun from a state that keeps the watched node replaces the given target and
parks the children in a scratch node aside from the watched one. -/
theorem fields_of_begin {target : String} {pres : List String} {t : RescueTransformer}
    {r r' : Repository} (hr : KeptAt q m0 r.root) (h : begin target pres r = .ok t r') :
    t.target = target ∧ Aside q t.scratch := by
  unfold begin at h
  obtain ⟨_, r₁, hn, h⟩ := bind_eq_ok.mp h
  obtain ⟨_, r₂, hadd, h⟩ := bind_eq_ok.mp h
  obtain ⟨_, r₃, -, h⟩ := bind_eq_ok.mp h
  obtain ⟨_, r₄, -, h⟩ := bind_eq_ok.mp h
  cases h
  -- drawing the scratch number leaves the tree as it was
  have hr₁ : KeptAt q m0 r₁.root := by
    rw [freshNumber_run] at hn
    cases hn
    exact hr
  exact ⟨rfl, (aside_of_addNode hr₁ hadd).1⟩

/-- Replacing the own state of a target aside from the watched node spares it: the target's
properties and types change, and its remaining children are removed. -/
theorem spares_replaceTarget {t : RescueTransformer} (new : Node) (ht : Aside q t.target) :
    Spares q m0 (t.replaceTarget new) := by
  unfold replaceTarget
  refine (spares_setPrimaryType _ ht.ne).bind fun _ => (spares_setMixins _ ht.ne).bind fun _ =>
    (spares_requireNode _).bind fun _ =>
      (spares_forIn_each fun a _ => spares_removeProperty a ht.ne).bind fun _ =>
        (spares_forIn_setProperty _ ht.ne).bind fun _ =>
          (spares_forIn_each fun c hc => spares_removeNode ?_).bind fun _ => spares_pure _
  -- the leftover children lie below the target
  obtain ⟨d, -, rfl⟩ := List.mem_map.mp hc
  exact ht.join _

/-- Starting a node keeps the target and the scratch node of the replacement. -/
theorem fields_of_startNode {t t' : RescueTransformer} {new : Node} {r r' : Repository}
    (h : t.startNode new r = .ok t' r') : t'.target = t.target ∧ t'.scratch = t.scratch := by
  cases hs : t.stack with
  | nil =>
    cases hstarted : t.started with
    | true =>
      simp only [startNode, hs, hstarted, if_true] at h
      rw [bind_of_error (throw_run _)] at h
      cases h
    | false =>
      simp only [startNode, hs, hstarted, Bool.false_eq_true, if_false] at h
      obtain ⟨_, _, -, h⟩ := bind_eq_ok.mp h
      cases h
      exact ⟨rfl, rfl⟩
  | cons parent rest =>
    simp only [startNode, hs] at h
    obtain ⟨_, _, -, h⟩ := bind_eq_ok.mp h
    by_cases hmixins : (!new.mixins.isEmpty) = true
    · rw [if_pos hmixins] at h
      obtain ⟨_, _, -, h⟩ := bind_eq_ok.mp h
      obtain ⟨_, _, -, h⟩ := bind_eq_ok.mp h
      cases h
      exact ⟨rfl, rfl⟩
    · rw [if_neg hmixins] at h
      obtain ⟨_, _, -, h⟩ := bind_eq_ok.mp h
      cases h
      exact ⟨rfl, rfl⟩

/-- Starting a node spares the watched node when the target is aside from it: the first start
replaces the target's own state, every later one creates a new node and sets its state. -/
theorem spares_startNode {t : RescueTransformer} (new : Node) (ht : Aside q t.target) :
    Spares q m0 (t.startNode new) := by
  unfold startNode
  split
  · split
    · exact spares_throw_bind _ _
    · exact (spares_replaceTarget new ht).bind fun _ => spares_pure _
  · refine (spares_addNode _ _ _).bind_of_run fun r path _ hr hadd => ?_
    -- the node just created is not the watched one
    have hpath : Path.segments path ≠ q := (aside_of_addNode hr hadd).1.ne
    dsimp only
    split
    · exact (spares_setMixins _ hpath).bind fun _ =>
        (spares_forIn_setProperty _ hpath).bind fun _ => spares_pure _
    · exact (spares_forIn_setProperty _ hpath).bind fun _ => spares_pure _

/-- Ending a node keeps the target and the scratch node of the replacement. -/
theorem fields_of_endNode {t t' : RescueTransformer} (h : t.endNode = .ok t') :
    t'.target = t.target ∧ t'.scratch = t.scratch := by
  unfold endNode at h
  split at h
  · cases h
  · cases h
    exact ⟨rfl, rfl⟩

end RescueTransformer

theorem ofExcept_eq_ok {α : Type} {x : Except Error α} {a : α} {r r' : Repository}
    (h : ofExcept x r = .ok a r') : x = .ok a ∧ r' = r := by
  cases x with
  | error e => cases h
  | ok b =>
    cases h
    exact ⟨rfl, rfl⟩

open RescueTransformer in
mutual
/-- Streaming a node keeps the target and the scratch node of the replacement. -/
theorem fields_of_streamNode (f : WorkspaceFilter) :
    (N : Node) → (t t' : RescueTransformer) → (path : String) → (r r' : Repository) →
    DocViewImport.streamNode f path t N r = .ok t' r' →
    t'.target = t.target ∧ t'.scratch = t.scratch
  | ⟨_, _, _, _, cs⟩, t, t', path, r, r', h => by
    rw [DocViewImport.streamNode] at h
    obtain ⟨t₁, r₁, h₁, h⟩ := bind_eq_ok.mp h
    obtain ⟨t₂, r₂, h₂, h⟩ := bind_eq_ok.mp h
    obtain ⟨e₁, e₁'⟩ := fields_of_startNode h₁
    obtain ⟨e₂, e₂'⟩ := fields_of_streamChildren f cs t₁ t₂ path r₁ r₂ h₂
    obtain ⟨e₃, e₃'⟩ := fields_of_endNode (ofExcept_eq_ok h).1
    exact ⟨e₃.trans (e₂.trans e₁), e₃'.trans (e₂'.trans e₁')⟩

/-- Streaming children keeps the target and the scratch node of the replacement. -/
theorem fields_of_streamChildren (f : WorkspaceFilter) :
    (cs : List Node) → (t t' : RescueTransformer) → (path : String) → (r r' : Repository) →
    DocViewImport.streamChildren f path t cs r = .ok t' r' →
    t'.target = t.target ∧ t'.scratch = t.scratch
  | [], t, t', path, r, r', h => by
    rw [DocViewImport.streamChildren, pure_run] at h
    cases h
    exact ⟨rfl, rfl⟩
  | c :: cs, t, t', path, r, r', h => by
    rw [DocViewImport.streamChildren] at h
    by_cases hc : f.contains (Path.join path c.name) = true
    · rw [if_pos hc] at h
      obtain ⟨t₁, r₁, h₁, h⟩ := bind_eq_ok.mp h
      obtain ⟨e₁, e₁'⟩ := fields_of_streamNode f c t t₁ _ r r₁ h₁
      obtain ⟨e₂, e₂'⟩ := fields_of_streamChildren f cs t₁ t' path r₁ r' h
      exact ⟨e₂.trans e₁, e₂'.trans e₁'⟩
    · rw [if_neg hc, bind_of_ok (pure_run t)] at h
      exact fields_of_streamChildren f cs t t' path r r' h
end

open RescueTransformer in
mutual
/-- Streaming new content into a replacement whose target is aside from the watched node
spares it. -/
theorem spares_streamNode (f : WorkspaceFilter) :
    (N : Node) → (t : RescueTransformer) → (path : String) → Aside q t.target →
    Spares q m0 (DocViewImport.streamNode f path t N)
  | ⟨_, _, _, _, cs⟩, t, path, ht => by
    rw [DocViewImport.streamNode]
    refine (spares_startNode _ ht).bind_of_run fun _ t₁ _ _ h₁ => ?_
    have ht₁ : Aside q t₁.target := by
      rw [(fields_of_startNode h₁).1]
      exact ht
    exact (spares_streamChildren f cs t₁ path ht₁).bind fun _ => spares_ofExcept _

/-- Streaming children into a replacement whose target is aside from the watched node spares
it. -/
theorem spares_streamChildren (f : WorkspaceFilter) :
    (cs : List Node) → (t : RescueTransformer) → (path : String) → Aside q t.target →
    Spares q m0 (DocViewImport.streamChildren f path t cs)
  | [], t, path, _ => by
    rw [DocViewImport.streamChildren]
    exact spares_pure _
  | c :: cs, t, path, ht => by
    rw [DocViewImport.streamChildren]
    split
    · refine (spares_streamNode f c t _ ht).bind_of_run fun r t₁ r₁ _ h₁ =>
        spares_streamChildren f cs t₁ path ?_
      -- the child's stream kept the target
      rw [(fields_of_streamNode f c t t₁ _ r r₁ h₁).1]
      exact ht
    · refine (spares_pure t).bind_of_run fun _ t₁ _ _ h₁ => ?_
      cases h₁
      exact spares_streamChildren f cs t path ht
end

namespace RescueTransformer

/-- Moving rescued nodes back spares the watched node when both ends are aside from it: every
move, change of state and removal is at or below one of them. -/
theorem spares_restore (t : RescueTransformer) (fuel : Nat) :
    ∀ (src dest : String) (restored : List String), Aside q src → Aside q dest →
      Spares q m0 (t.restore fuel src dest restored) := by
  induction fuel with
  | zero =>
    intro src dest restored _ _
    rw [restore]
    exact spares_pure _
  | succ fuel ih =>
    intro src dest restored hsrc hdest
    rw [restore]
    refine (spares_nodeExists dest).bind fun _ => ?_
    split
    · refine (spares_moveNode dest hsrc).attempt.bind fun _ => ?_
      split <;> exact spares_pure _
    · refine (spares_requireNode src).bind fun _ => (spares_requireNode dest).bind fun _ =>
        (spares_forIn_setProperty _ hdest.ne).bind fun _ => ?_
      -- the children are restored one level further down, on both sides
      refine (Spares.forIn (fun c _ acc => (ih _ _ acc (hsrc.join c.name) (hdest.join c.name)).bind
        fun _ => spares_pure _) restored).bind fun _ => (spares_requireNode src).bind fun _ => ?_
      split
      · exact (spares_removeNode hsrc).bind fun _ => spares_pure _
      · exact spares_pure _

/-- Finishing a replacement whose target and scratch node are aside from the watched node
spares it. -/
theorem spares_finish {t : RescueTransformer} (htarget : Aside q t.target)
    (hscratch : Aside q t.scratch) : Spares q m0 t.finish := by
  unfold finish
  have hrest : Spares q m0 (do
      let r ← get
      let restored ← forIn t.rescued [] fun name restored => do
        if ← nodeExists (Path.join t.scratch name) then
          let restored ← t.restore (r.root.subtreeSize + 1) (Path.join t.scratch name)
            (Path.join t.target name) restored
          pure (ForInStep.yield restored)
        else pure (ForInStep.yield restored)
      if (← requireNode t.scratch).children.isEmpty then removeNode t.scratch
      pure restored) := by
    refine spares_get.bind fun _ => (Spares.forIn (fun name _ acc => ?_) []).bind fun _ =>
      (spares_requireNode _).bind fun _ => ?_
    · refine (spares_nodeExists _).bind fun _ => ?_
      split
      · exact (spares_restore t _ _ _ acc (hscratch.join name) (htarget.join name)).bind
          fun _ => spares_pure _
      · exact spares_pure _
    · split
      · exact (spares_removeNode hscratch).bind fun _ => spares_pure _
      · exact spares_pure _
  split
  · exact spares_throw_bind _ _
  · exact hrest

end RescueTransformer

/-! ## Nodes out of the filter's scope -/

/-- The filter leaves the node at `q` out, and no node above it is in the filter's scope
with import mode replace. -/
structure OutOfScope (f : WorkspaceFilter) (q : List String) : Prop where
  excluded : f.contains (Path.render q) = false
  noReplaceAbove : ∀ a, a <+: q → a ≠ q → f.contains (Path.render a) = true →
    f.importMode (Path.render a) ≠ .replace

section Scope

variable {f : WorkspaceFilter} {names : List String}

/-- A canonical path in the filter's scope is not the watched node's. -/
theorem OutOfScope.ne (hq : OutOfScope f q) (hnames : ∀ n ∈ names, Path.ValidName n)
    (hin : f.contains (Path.render names) = true) : Path.segments (Path.render names) ≠ q := by
  rw [Path.segments_render hnames]
  rintro rfl
  rw [hq.excluded] at hin
  cases hin

/-- A canonical path that the filter imports in replace mode is aside from the watched node. -/
theorem OutOfScope.aside (hq : OutOfScope f q) (hnames : ∀ n ∈ names, Path.ValidName n)
    (hin : f.contains (Path.render names) = true)
    (hmode : f.importMode (Path.render names) = .replace) : Aside q (Path.render names) := by
  intro hpre
  have hne := hq.ne hnames hin
  rw [Path.segments_render hnames] at hpre hne
  exact hq.noReplaceAbove names hpre hne hin hmode

end Scope

/-! ## Importing content -/

namespace DocViewImport

/-- Replacing a node aside from the watched one spares it. -/
theorem spares_replaceNode (x : DocViewImport) {path : String} (new : Node) (info : ImportInfo)
    (hpath : Aside q path) : Spares q m0 (x.replaceNode path new info) := by
  unfold replaceNode
  refine (spares_requireNode path).bind fun _ => ?_
  split
  · exact spares_pure _
  · refine (RescueTransformer.spares_begin _ hpath).bind_of_run fun _ t _ hr hbegin => ?_
    obtain ⟨htarget, hscratch⟩ := RescueTransformer.fields_of_begin hr hbegin
    have ht : Aside q t.target := by
      rw [htarget]
      exact hpath
    refine (spares_streamNode x.filter new t path ht).bind_of_run fun _ t' _ _ hstream => ?_
    -- the stream kept the target and the scratch node
    obtain ⟨e₁, e₂⟩ := fields_of_streamNode x.filter new t t' path _ _ hstream
    have ht' : Aside q t'.target := by
      rw [e₁]
      exact ht
    have hs' : Aside q t'.scratch := by
      rw [e₂]
      exact hscratch
    exact (RescueTransformer.spares_finish ht' hs').bind fun _ => spares_pure _

mutual
/-- Creating a subtree spares every node that was there: each node it sets the state of is one
it has just added. -/
theorem spares_createSubtree (f : WorkspaceFilter) :
    (N : Node) → (path : String) → Spares q m0 (createSubtree f path N)
  | ⟨_, _, mixins, props, cs⟩, path => by
    rw [createSubtree]
    refine (spares_addNode _ _ _).bind_of_run fun r _ _ hr hadd => ?_
    have hpath : Path.segments path ≠ q := (aside_of_addNode_name hr hadd).ne
    have htail := ((spares_forIn_setProperty props hpath : Spares q m0 _)).bind fun _ =>
      spares_createChildren f cs path
    dsimp only
    split
    · exact (spares_setMixins _ hpath).bind fun _ => htail
    · exact htail

/-- Creating the children of a node spares every node that was there. -/
theorem spares_createChildren (f : WorkspaceFilter) :
    (cs : List Node) → (path : String) → Spares q m0 (createChildren f path cs)
  | [], path => by
    rw [createChildren]
    exact spares_pure _
  | c :: cs, path => by
    rw [createChildren]
    split
    · exact (spares_createSubtree f c _).bind fun _ => spares_createChildren f cs path
    · exact spares_createChildren f cs path
end

/-- Merging the state of a node other than the watched one spares it. -/
theorem spares_mergeState {path : String} (new : Node) (hpath : Path.segments path ≠ q) :
    Spares q m0 (mergeState path new) := by
  unfold mergeState
  refine (spares_requireNode path).bind fun _ => ?_
  dsimp only
  split
  · exact (spares_setMixins _ hpath).bind fun _ =>
      (spares_forIn_setProperty _ hpath).bind fun _ => spares_pure _
  · exact (spares_forIn_setProperty _ hpath).bind fun _ => spares_pure _

/-- Updating the state of a node other than the watched one spares it. -/
theorem spares_updateState {path : String} (new : Node) (hpath : Path.segments path ≠ q) :
    Spares q m0 (updateState path new) := by
  unfold updateState
  refine (spares_requireNode path).bind fun _ => ?_
  dsimp only
  -- the primary type, the mixins and the properties, each set only where it differs
  split
  · refine (spares_setPrimaryType _ hpath).bind fun _ => ?_
    split
    · exact (spares_setMixins _ hpath).bind fun _ =>
        (spares_forIn_setProperty _ hpath).bind fun _ => spares_pure _
    · exact (spares_forIn_setProperty _ hpath).bind fun _ => spares_pure _
  · split
    · exact (spares_setMixins _ hpath).bind fun _ =>
        (spares_forIn_setProperty _ hpath).bind fun _ => spares_pure _
    · exact (spares_forIn_setProperty _ hpath).bind fun _ => spares_pure _


mutual
/-- Importing a document with validly named nodes at a canonical path spares every node that
the filter leaves out and that has no node above it replaced. -/
theorem spares_importNode (x : DocViewImport) (hq : OutOfScope x.filter q) :
    (N : Node) → (path : String) → (info : ImportInfo) → Path.Canonical path →
    Everywhere ValidChildNames N → Spares q m0 (x.importNode path info N)
  | ⟨name, pt, mixins, props, cs⟩, path, info, hpath, hN => by
    obtain ⟨names, hnames, rfl⟩ := hpath
    have hcs : ∀ c ∈ cs, Path.ValidName c.name ∧ Everywhere ValidChildNames c :=
      fun c hc => ⟨hN.self c hc, hN.child hc⟩
    rw [importNode]
    refine (spares_nodeExists _).bind fun _ => ?_
    split
    · -- a missing node is created
      split
      · exact (spares_createSubtree _ _ _).bind fun _ => spares_pure _
      · exact spares_pure _
    · split
      · exact spares_importChildren x hq cs names info hnames hcs
      · rename_i hout
        have hin : x.filter.contains (Path.render names) = true := by simpa using hout
        split
        · rename_i hmode
          exact spares_replaceNode x _ info (hq.aside hnames hin hmode)
        · exact (spares_mergeState _ (hq.ne hnames hin)).bind fun _ =>
            spares_importChildren x hq cs names _ hnames hcs
        · exact (spares_updateState _ (hq.ne hnames hin)).bind fun _ =>
            spares_importChildren x hq cs names _ hnames hcs

/-- Importing validly named children below a canonical path spares every node that the filter
leaves out and that has no node above it replaced. -/
theorem spares_importChildren (x : DocViewImport) (hq : OutOfScope x.filter q) :
    (cs : List Node) → (names : List String) → (info : ImportInfo) →
    (∀ n ∈ names, Path.ValidName n) →
    (∀ c ∈ cs, Path.ValidName c.name ∧ Everywhere ValidChildNames c) →
    Spares q m0 (x.importChildren (Path.render names) info cs)
  | [], _, info, _, _ => by
    rw [importChildren]
    exact spares_pure _
  | c :: cs, names, info, hnames, hcs => by
    rw [importChildren]
    obtain ⟨hc, hcN⟩ := hcs c List.mem_cons_self
    -- the child's path is the canonical path one name longer
    have hchild : Path.Canonical (Path.join (Path.render names) c.name) :=
      Path.Canonical.join ⟨names, hnames, rfl⟩ (Or.inr hc)
    exact (spares_importNode x hq c _ info hchild hcN).bind fun _ =>
      spares_importChildren x hq cs names _ hnames fun d hd => hcs d (List.mem_cons_of_mem c hd)
end

end DocViewImport

/-- Importing the primary document of an artifact set spares every node that the filter leaves
out and that has no node above it replaced, when the document's target path is canonical and
every document the artifact can be read as has validly named nodes. -/
theorem spares_acceptDocView (ignored : List String) {f : WorkspaceFilter} {parent name : String}
    {set : ArtifactSet} (hq : OutOfScope f q)
    (htarget : ∀ a, set.primary? = some a →
      Path.Canonical (Path.join (Path.join parent name) a.relativePath))
    (hdocs : ∀ a, set.primary? = some a → ∀ tree data doc, a.content tree = .ok data →
      parseDocView data = .ok doc → Everywhere ValidChildNames doc) :
    Spares q m0 (acceptDocView ignored f parent name set) := by
  unfold acceptDocView
  split
  · exact spares_pure _
  · rename_i primary hprimary
    split
    · exact spares_pure _
    · -- the document read, and then imported at the target
      refine spares_get.bind fun r₀ => (spares_ofExcept _).bind_of_run fun _ data _ _ hdata => ?_
      refine (spares_ofExcept _).bind_of_run fun _ doc _ _ hdoc => ?_
      have hN := hdocs primary hprimary r₀.root data doc (ofExcept_eq_ok hdata).1
        (ofExcept_eq_ok hdoc).1
      exact (DocViewImport.spares_importNode _ hq doc _ _ (htarget primary hprimary) hN).bind
        fun _ => spares_pure _

end ContentSync
