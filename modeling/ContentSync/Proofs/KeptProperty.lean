import ContentSync.Proofs.SparedNode
import ContentSync.Proofs.ExceptRun
import ContentSync.Import.Importer
import Mathlib.Tactic.SplitIfs

/-!
# Properties that every import keeps

`RepoM.Keeps P x` says that a run of `x` from a state with `P` ends in a state with `P`, whether
it succeeds or fails: a failure inside `RepoM.attempt` keeps what was done before it, so failed
runs count too.

An import changes the repository only through a few operations: drawing an identifier, the node
operations, and committing a staged version storage. `RepoM.OpsKeep P` asks that each of them
keep `P`, a commit only for a storage staged from a repository with `P` by the changes a version
document makes (`Staged.Restaged`). Under these conditions every handler keeps `P`, and so does
offering an artifact set to the handlers (`OpsKeep.importSet`); the handlers are walked here
once, for every such property.
-/

namespace ContentSync

open Node

/-! ## Staging changes of the version storage -/

namespace Staged

/-- A change of a staged node that keeps its name and its children. -/
def KeepsShape (g : Staged → Staged) : Prop :=
  ∀ s, (g s).name = s.name ∧ (g s).children = s.children

theorem keepsShape_id : KeepsShape id := fun _ => ⟨rfl, rfl⟩

theorem keepsShape_setProperty (p : Property) : KeepsShape (·.setProperty p) := fun _ => ⟨rfl, rfl⟩

/-- Steps that each keep a node's shape keep it when taken one after another. -/
theorem shape_foldl {ι : Type} {step : Staged → ι → Staged} :
    ∀ (is : List ι), (∀ i ∈ is, KeepsShape (step · i)) → ∀ s,
      (is.foldl step s).name = s.name ∧ (is.foldl step s).children = s.children
  | [], _, _ => ⟨rfl, rfl⟩
  | i :: is, hstep, s => by
    obtain ⟨h₁, h₂⟩ := shape_foldl is (fun j hj => hstep j (List.mem_cons_of_mem i hj)) (step s i)
    obtain ⟨h₃, h₄⟩ := hstep i List.mem_cons_self s
    exact ⟨h₁.trans h₃, h₂.trans h₄⟩

/-- The staged trees a version document can turn `s` into: it creates the nodes along a path,
typing those it creates, and changes a node along a path without renaming it or touching its
children. -/
inductive Restaged (s : Staged) : Staged → Prop
  | refl : Restaged s s
  | typeFreshAlong {s' : Staged} (t : String) (names : List String) :
      Restaged s s' → Restaged s (s'.typeFreshAlong t names)
  | updateAlong {s' : Staged} (names : List String) {g : Staged → Staged} :
      KeepsShape g → Restaged s s' → Restaged s (s'.updateAlong names g)

theorem Restaged.trans {s s' s'' : Staged} (h₁ : Restaged s s') (h₂ : Restaged s' s'') :
    Restaged s s'' := by
  induction h₂ with
  | refl => exact h₁
  | typeFreshAlong t names _ ih => exact ih.typeFreshAlong t names
  | updateAlong names hg _ ih => exact ih.updateAlong names hg

end Staged

namespace RepoM

variable {α β γ : Type} {P : Repository → Prop}

/-! ## Runs that keep a property -/

/-- Every run of `x` from a state with `P` ends in a state with `P`, whether it succeeds or
fails. -/
def Keeps (P : Repository → Prop) (x : RepoM α) : Prop :=
  ∀ r, P r → P (final (x r))

theorem Keeps.bind {x : RepoM α} {f : α → RepoM β} (hx : Keeps P x) (hf : ∀ a, Keeps P (f a)) :
    Keeps P (x >>= f) :=
  fun r hr => final_bind (hx r hr) fun a r₁ _ h₁ => hf a r₁ h₁

/-- A bind keeps `P` when `x` does and `f` does at every result of a run of `x` from a state
with `P`: the continuation may rely on what that run returned. -/
theorem Keeps.bind_of_run {x : RepoM α} {f : α → RepoM β} (hx : Keeps P x)
    (hf : ∀ r a r₁, P r → x r = .ok a r₁ → Keeps P (f a)) : Keeps P (x >>= f) :=
  fun r hr => final_bind (hx r hr) fun a r₁ hrun h₁ => hf r a r₁ hr hrun r₁ h₁

theorem keeps_pure (a : α) : Keeps P (pure a : RepoM α) := fun _ hr => hr

theorem keeps_throw (e : Error) : Keeps P (throw e : RepoM α) := fun _ hr => hr

theorem keeps_throw_bind (e : Error) (f : α → RepoM β) : Keeps P ((throw e : RepoM α) >>= f) :=
  fun _ hr => hr

theorem keeps_ofExcept (x : Except Error α) : Keeps P (ofExcept x) := by
  intro r hr
  rw [final_ofExcept]
  exact hr

theorem Keeps.attempt {x : RepoM α} (hx : Keeps P x) : Keeps P (attempt x) := by
  intro r hr
  rw [final_attempt]
  exact hx r hr

theorem Keeps.forIn {l : List β} {body : β → γ → RepoM (ForInStep γ)}
    (hbody : ∀ b ∈ l, ∀ acc, Keeps P (body b acc)) (init : γ) : Keeps P (forIn l init body) :=
  fun r hr => final_forIn l body hbody init r hr

/-- A loop that runs an operation keeping `P` for each element keeps `P`. -/
theorem keeps_forIn_each {l : List β} {op : β → RepoM PUnit} (hop : ∀ b ∈ l, Keeps P (op b)) :
    Keeps P (forIn l PUnit.unit fun b _ => do
      op b
      pure (ForInStep.yield PUnit.unit)) :=
  Keeps.forIn (fun b hb _ => (hop b hb).bind fun _ => keeps_pure _) PUnit.unit

/-- A run that ends in the state it started from keeps every property. -/
theorem keeps_of_final {x : RepoM α} (h : ∀ r, final (x r) = r) : Keeps P x := by
  intro r hr
  rw [h r]
  exact hr

theorem keeps_get : Keeps P (get : RepoM Repository) := keeps_of_final fun _ => rfl

theorem keeps_nodeExists (path : String) : Keeps P (nodeExists path) :=
  keeps_of_final fun _ => rfl

theorem final_requireNode (path : String) (r : Repository) : final (requireNode path r) = r := by
  cases hm : r.root.descendAlong (Path.segments path) with
  | none => rw [requireNode_of_none rfl hm, final_error]
  | some m => rw [requireNode_run rfl hm, final_ok]

theorem keeps_requireNode (path : String) : Keeps P (requireNode path) :=
  keeps_of_final (final_requireNode path)

theorem keeps_versionStorage : Keeps P versionStorage := by
  unfold versionStorage
  refine keeps_get.bind fun _ => ?_
  split <;> exact keeps_pure _

/-! ## Values that runs return -/

/-- Every successful run of `x` returns a value with `Q`. -/
def Yields (Q : α → Prop) (x : RepoM α) : Prop :=
  ∀ r a r', x r = .ok a r' → Q a

theorem Yields.bind {Q : β → Prop} {x : RepoM α} {f : α → RepoM β} (hf : ∀ a, Yields Q (f a)) :
    Yields Q (x >>= f) := by
  intro r b r' h
  obtain ⟨a, r₁, -, h⟩ := bind_eq_ok.mp h
  exact hf a r₁ b r' h

/-- A bind returns values with `Q` when `f` does at every value with `Q'` that `x` returns. -/
theorem Yields.bind_of {Q' : α → Prop} {Q : β → Prop} {x : RepoM α} {f : α → RepoM β}
    (hx : Yields Q' x) (hf : ∀ a, Q' a → Yields Q (f a)) : Yields Q (x >>= f) := by
  intro r b r' h
  obtain ⟨a, r₁, ha, h⟩ := bind_eq_ok.mp h
  exact hf a (hx r a r₁ ha) r₁ b r' h

theorem yields_pure {Q : α → Prop} {a : α} (h : Q a) : Yields Q (pure a : RepoM α) := by
  intro r b r' hr
  cases hr
  exact h

theorem yields_throw_bind {Q : β → Prop} (e : Error) (f : α → RepoM β) :
    Yields Q ((throw e : RepoM α) >>= f) := by
  intro r b r' h
  cases h

/-- The value of a computation that cannot touch the repository is one it can succeed with. -/
theorem yields_ofExcept_bind {Q : β → Prop} {x : Except Error α} {f : α → RepoM β}
    (hf : ∀ a, x = .ok a → Yields Q (f a)) : Yields Q (ofExcept x >>= f) := by
  cases x with
  | error e => exact yields_throw_bind e f
  | ok a => exact hf a rfl

/-! ## What an import needs to keep a property -/

/-- Conditions under which every import keeps a property `P` of the repository: drawing an
identifier and each node operation keep it, and so does committing a storage that a version
document staged from the storage of a repository with `P`. -/
structure OpsKeep (P : Repository → Prop) : Prop where
  freshNumber : Keeps P freshNumber
  addNode : ∀ parent name ty, Keeps P (addNode parent name ty)
  removeNode : ∀ path, Keeps P (removeNode path)
  moveNode : ∀ src dest, Keeps P (moveNode src dest)
  setProperty : ∀ path p, Keeps P (setProperty path p)
  removeProperty : ∀ path a, Keeps P (removeProperty path a)
  setPrimaryType : ∀ path t, Keeps P (setPrimaryType path t)
  setMixins : ∀ path ms, Keeps P (setMixins path ms)
  commit : ∀ r s r' s', P r → versionStorage r = .ok s r' → s.Restaged s' →
    Keeps P (commitVersionStorage s')

end RepoM

/-! ## What a version document stages -/

namespace Staged

open RepoM

theorem restaged_startLabels {storage s' : Staged} {history : List String} {e : Element}
    (h : startLabels storage history e = .ok s') : storage.Restaged s' := by
  unfold startLabels at h
  obtain ⟨labels, -, h⟩ := Except.bind_eq_ok_iff.mp h
  cases h
  exact Restaged.refl.updateAlong _ fun l => shape_foldl labels
    (fun p _ => keepsShape_setProperty p) { l with primaryType := some Known.ntVersionLabels }

theorem restaged_startVersion {storage s' : Staged} {history path : List String} {e : Element}
    (h : startVersion storage history e = .ok (s', path)) : storage.Restaged s' := by
  unfold startVersion at h
  simp only [Except.bind_eq_ok_iff] at h
  obtain ⟨_, -, _, -, _, -, _, -, _, -, _, -, _, -, _, -, h⟩ := h
  cases h
  exact Restaged.refl.updateAlong _ fun _ => ⟨rfl, rfl⟩

/-- Each change an attribute of a frozen element makes keeps the node's shape. -/
theorem keepsShape_frozenChange {key value : String} {g : Staged → Staged}
    (h : frozenChange key value = .ok g) : KeepsShape g := by
  unfold frozenChange at h
  split at h
  · cases h
    exact keepsShape_id
  · split at h
    · obtain ⟨_, -, h⟩ := Except.bind_eq_ok_iff.mp h
      cases h
      exact fun _ => ⟨rfl, rfl⟩
    · split at h
      · obtain ⟨_, -, h⟩ := Except.bind_eq_ok_iff.mp h
        cases h
        exact keepsShape_setProperty _
      · split at h
        · obtain ⟨_, -, h⟩ := Except.bind_eq_ok_iff.mp h
          cases h
          exact keepsShape_setProperty _
        · split at h
          · obtain ⟨_, -, h⟩ := Except.bind_eq_ok_iff.mp h
            cases h
            exact keepsShape_setProperty _
          · obtain ⟨_, -, h⟩ := Except.bind_eq_ok_iff.mp h
            cases h
            exact keepsShape_setProperty _

/-- The changes read from a list of frozen attributes each keep the node's shape. -/
theorem keepsShape_of_mapM_frozenChange :
    ∀ (attrs : List (String × String)) (changes : List (Staged → Staged)),
      attrs.mapM (fun (k, v) => frozenChange k v) = .ok changes → ∀ g ∈ changes, KeepsShape g
  | [], changes, h => by
    cases h
    intro g hg
    cases hg
  | (k, v) :: attrs, changes, h => by
    rw [List.mapM_cons] at h
    obtain ⟨g, hg, h⟩ := Except.bind_eq_ok_iff.mp h
    obtain ⟨gs, hgs, h⟩ := Except.bind_eq_ok_iff.mp h
    cases h
    intro g' hg'
    rcases List.mem_cons.mp hg' with rfl | hg'
    · exact keepsShape_frozenChange hg
    · exact keepsShape_of_mapM_frozenChange attrs gs hgs g' hg'

theorem restaged_startFrozen {storage s' : Staged} {parent path : List String} {e : Element}
    {nodeType : String} (h : startFrozen storage parent e nodeType = .ok (s', path)) :
    storage.Restaged s' := by
  unfold startFrozen at h
  obtain ⟨_, -, h⟩ := Except.bind_eq_ok_iff.mp h
  obtain ⟨changes, hchanges, h⟩ := Except.bind_eq_ok_iff.mp h
  cases h
  exact Restaged.refl.updateAlong _ fun s => shape_foldl changes
    (fun g hg => keepsShape_of_mapM_frozenChange _ changes hchanges g hg)
    { s with primaryType := some nodeType }

theorem yields_startHistory (storage : Staged) (e : Element) :
    Yields (fun x : Staged × List String => storage.Restaged x.1) (startHistory storage e) := by
  unfold startHistory
  refine Yields.bind fun _ => ?_
  dsimp only
  split
  · exact yields_throw_bind _ _
  · split_ifs
    · exact yields_pure ((Restaged.refl.typeFreshAlong _ _).updateAlong _ keepsShape_id)
    · -- a new history gets its type and identifiers
      split
      · exact yields_ofExcept_bind fun _ _ => Yields.bind fun _ =>
          yields_pure ((Restaged.refl.typeFreshAlong _ _).updateAlong _ fun _ => ⟨rfl, rfl⟩)
      · exact Yields.bind fun _ => Yields.bind fun _ =>
          yields_pure ((Restaged.refl.typeFreshAlong _ _).updateAlong _ fun _ => ⟨rfl, rfl⟩)

/-- An element opens a frame other than the root's, and stages only the changes `Restaged`
allows. -/
theorem yields_openFrame (storage : Staged) (parent : VersionFrame) (e : Element) :
    Yields (fun x : VersionFrame × Staged => storage.Restaged x.2 ∧ x.1 ≠ .root)
      (openFrame storage parent e) := by
  unfold openFrame
  refine Yields.bind fun _ => ?_
  split
  · split
    · exact (yields_startHistory storage e).bind_of fun _ h => yields_pure ⟨h, nofun⟩
    · exact yields_pure ⟨Restaged.refl, nofun⟩
  · split
    · exact yields_ofExcept_bind fun _ h => yields_pure ⟨restaged_startLabels h, nofun⟩
    · split
      · exact yields_ofExcept_bind fun _ h => yields_pure ⟨restaged_startVersion h, nofun⟩
      · exact yields_pure ⟨Restaged.refl, nofun⟩
  · split
    · exact yields_ofExcept_bind fun _ h => yields_pure ⟨restaged_startFrozen h, nofun⟩
    · exact yields_pure ⟨Restaged.refl, nofun⟩
  · exact yields_ofExcept_bind fun _ h => yields_pure ⟨restaged_startFrozen h, nofun⟩
  · exact yields_pure ⟨Restaged.refl, nofun⟩

/-- A version document stages, from the storage it starts with, only the changes
`Restaged` allows. -/
theorem yields_applyVersionEvents (fuel : Nat) :
    ∀ (reader : ElementReader) (stack : List VersionFrame) (seenRoot : Bool) (storage : Staged),
      Yields storage.Restaged (applyVersionEvents fuel reader stack seenRoot storage) := by
  induction fuel with
  | zero =>
    intro reader stack seenRoot storage
    rw [applyVersionEvents]
    exact yields_pure Restaged.refl
  | succ fuel ih =>
    intro reader stack seenRoot storage
    rw [applyVersionEvents]
    refine Yields.bind fun _ => ?_
    dsimp only
    split
    · split
      · exact yields_throw_bind _ _
      · exact yields_pure Restaged.refl
    · split
      · split
        · exact yields_throw_bind _ _
        · split
          · exact yields_throw_bind _ _
          · exact ih _ _ _ _
      · -- the storage the element stages goes on to the next events
        exact (yields_openFrame _ _ _).bind_of fun x hx =>
          fun r s' r' hs' => hx.1.trans (ih _ _ _ x.2 r s' r' hs')
    · split
      · exact fun _ _ _ h => by cases h
      · exact ih _ _ _ _

end Staged

/-! ## Reading a version document only draws identifiers -/

namespace RepoM

variable {P : Repository → Prop}

theorem keeps_startHistory (h : Keeps P freshNumber) (storage : Staged) (e : Element) :
    Keeps P (startHistory storage e) := by
  unfold startHistory
  refine (keeps_ofExcept _).bind fun _ => ?_
  dsimp only
  split
  · exact keeps_throw_bind _ _
  · -- a known history is only looked up; a new one draws an identifier
    split_ifs
    · exact keeps_pure _
    · split
      · exact (keeps_ofExcept _).bind fun _ => (h.bind fun _ => keeps_pure _).bind fun _ =>
          keeps_pure _
      · exact (keeps_pure _).bind fun _ => (h.bind fun _ => keeps_pure _).bind fun _ =>
          keeps_pure _

theorem keeps_openFrame (h : Keeps P freshNumber) (storage : Staged) (parent : VersionFrame)
    (e : Element) : Keeps P (openFrame storage parent e) := by
  unfold openFrame
  refine (keeps_ofExcept _).bind fun _ => ?_
  split
  · split
    · exact (keeps_startHistory h _ _).bind fun _ => keeps_pure _
    · exact keeps_pure _
  · split
    · exact (keeps_ofExcept _).bind fun _ => keeps_pure _
    · split
      · exact (keeps_ofExcept _).bind fun _ => keeps_pure _
      · exact keeps_pure _
  · split
    · exact (keeps_ofExcept _).bind fun _ => keeps_pure _
    · exact keeps_pure _
  · exact (keeps_ofExcept _).bind fun _ => keeps_pure _
  · exact keeps_pure _

/-- Reading the events of a version document keeps every property that drawing an identifier
keeps: it stages what it reads and touches the repository only to draw identifiers for new
histories. -/
theorem keeps_applyVersionEvents (h : Keeps P freshNumber) (fuel : Nat) :
    ∀ (reader : ElementReader) (stack : List VersionFrame) (seenRoot : Bool) (storage : Staged),
      Keeps P (applyVersionEvents fuel reader stack seenRoot storage) := by
  induction fuel with
  | zero =>
    intro reader stack seenRoot storage
    rw [applyVersionEvents]
    exact keeps_pure _
  | succ fuel ih =>
    intro reader stack seenRoot storage
    rw [applyVersionEvents]
    refine (keeps_ofExcept _).bind fun _ => ?_
    dsimp only
    split
    · split
      · exact keeps_throw_bind _ _
      · exact keeps_pure _
    · split
      · split
        · exact keeps_throw_bind _ _
        · split
          · exact keeps_throw_bind _ _
          · exact ih _ _ _ _
      · exact (keeps_openFrame h _ _ _).bind fun _ => ih _ _ _ _
    · split
      · exact keeps_throw _
      · exact ih _ _ _ _

end RepoM

/-! ## The handlers keep such a property -/

namespace RepoM.OpsKeep

open RepoM

variable {P : Repository → Prop}

theorem freshIdentifier (h : OpsKeep P) : Keeps P freshIdentifier :=
  h.freshNumber.bind fun _ => keeps_pure _

theorem forIn_setProperty (h : OpsKeep P) (path : String) (ps : List Property) :
    Keeps P (forIn ps PUnit.unit fun p _ => do
      RepoM.setProperty path p
      pure (ForInStep.yield PUnit.unit)) :=
  keeps_forIn_each fun p _ => h.setProperty path p

/-! ### Replacing with rescue -/

theorem begin (h : OpsKeep P) (target : String) (pres : List String) :
    Keeps P (RescueTransformer.begin target pres) := by
  unfold RescueTransformer.begin
  refine h.freshNumber.bind fun _ => (h.addNode _ _ _).bind fun _ =>
    (keeps_requireNode target).bind fun _ =>
      (Keeps.forIn (fun name _ _ => ?_) []).bind fun _ => keeps_pure _
  refine (h.moveNode _ _).attempt.bind fun _ => ?_
  split <;> exact keeps_pure _

theorem replaceTarget (h : OpsKeep P) (t : RescueTransformer) (new : Node) :
    Keeps P (t.replaceTarget new) := by
  unfold RescueTransformer.replaceTarget
  exact (h.setPrimaryType _ _).bind fun _ => (h.setMixins _ _).bind fun _ =>
    (keeps_requireNode _).bind fun _ =>
      (keeps_forIn_each fun a _ => h.removeProperty _ a).bind fun _ =>
        (h.forIn_setProperty _ _).bind fun _ =>
          (keeps_forIn_each fun c _ => h.removeNode c).bind fun _ => keeps_pure _

theorem startNode (h : OpsKeep P) (t : RescueTransformer) (new : Node) :
    Keeps P (t.startNode new) := by
  unfold RescueTransformer.startNode
  split
  · split
    · exact keeps_throw_bind _ _
    · exact (h.replaceTarget t new).bind fun _ => keeps_pure _
  · refine (h.addNode _ _ _).bind fun _ => ?_
    dsimp only
    split
    · exact (h.setMixins _ _).bind fun _ => (h.forIn_setProperty _ _).bind fun _ => keeps_pure _
    · exact (h.forIn_setProperty _ _).bind fun _ => keeps_pure _

mutual
theorem streamNode (h : OpsKeep P) (f : WorkspaceFilter) :
    (N : Node) → (t : RescueTransformer) → (path : String) →
      Keeps P (DocViewImport.streamNode f path t N)
  | ⟨_, _, _, _, cs⟩, t, path => by
    rw [DocViewImport.streamNode]
    exact (h.startNode t _).bind fun t₁ => (streamChildren h f cs t₁ path).bind fun _ =>
      keeps_ofExcept _

theorem streamChildren (h : OpsKeep P) (f : WorkspaceFilter) :
    (cs : List Node) → (t : RescueTransformer) → (path : String) →
      Keeps P (DocViewImport.streamChildren f path t cs)
  | [], t, path => by
    rw [DocViewImport.streamChildren]
    exact keeps_pure _
  | c :: cs, t, path => by
    rw [DocViewImport.streamChildren]
    split
    · exact (streamNode h f c t _).bind fun t₁ => streamChildren h f cs t₁ path
    · exact (keeps_pure t).bind fun t₁ => streamChildren h f cs t₁ path
end

/-- Moving rescued nodes back keeps `P`, at every depth the fuel allows. -/
theorem restore (h : OpsKeep P) (t : RescueTransformer) (fuel : Nat) :
    ∀ (src dest : String) (restored : List String), Keeps P (t.restore fuel src dest restored) := by
  induction fuel with
  | zero =>
    intro src dest restored
    rw [RescueTransformer.restore]
    exact keeps_pure _
  | succ fuel ih =>
    intro src dest restored
    rw [RescueTransformer.restore]
    refine (keeps_nodeExists dest).bind fun _ => ?_
    split
    · refine (h.moveNode src dest).attempt.bind fun _ => ?_
      split <;> exact keeps_pure _
    · refine (keeps_requireNode src).bind fun _ => (keeps_requireNode dest).bind fun _ =>
        (h.forIn_setProperty _ _).bind fun _ => ?_
      refine (Keeps.forIn (fun c _ acc => (ih _ _ acc).bind fun _ => keeps_pure _)
        restored).bind fun _ => (keeps_requireNode src).bind fun _ => ?_
      split
      · exact (h.removeNode src).bind fun _ => keeps_pure _
      · exact keeps_pure _

theorem finish (h : OpsKeep P) (t : RescueTransformer) : Keeps P t.finish := by
  unfold RescueTransformer.finish
  split
  · exact keeps_throw_bind _ _
  · refine keeps_get.bind fun _ => (Keeps.forIn (fun name _ acc => ?_) []).bind fun _ =>
      (keeps_requireNode _).bind fun _ => ?_
    · refine (keeps_nodeExists _).bind fun _ => ?_
      split
      · exact (h.restore t _ _ _ acc).bind fun _ => keeps_pure _
      · exact keeps_pure _
    · split
      · exact (h.removeNode _).bind fun _ => keeps_pure _
      · exact keeps_pure _

/-! ### Importing content -/

mutual
theorem createSubtree (h : OpsKeep P) (f : WorkspaceFilter) :
    (N : Node) → (path : String) → Keeps P (DocViewImport.createSubtree f path N)
  | ⟨_, _, mixins, props, cs⟩, path => by
    rw [DocViewImport.createSubtree]
    refine (h.addNode _ _ _).bind fun _ => ?_
    have htail := (h.forIn_setProperty path props).bind fun _ => createChildren h f cs path
    dsimp only
    split
    · exact (h.setMixins _ _).bind fun _ => htail
    · exact htail

theorem createChildren (h : OpsKeep P) (f : WorkspaceFilter) :
    (cs : List Node) → (path : String) → Keeps P (DocViewImport.createChildren f path cs)
  | [], path => by
    rw [DocViewImport.createChildren]
    exact keeps_pure _
  | c :: cs, path => by
    rw [DocViewImport.createChildren]
    split
    · exact (createSubtree h f c _).bind fun _ => createChildren h f cs path
    · exact createChildren h f cs path
end

theorem replaceNode (h : OpsKeep P) (x : DocViewImport) (path : String) (new : Node)
    (info : ImportInfo) : Keeps P (x.replaceNode path new info) := by
  unfold DocViewImport.replaceNode
  refine (keeps_requireNode path).bind fun _ => ?_
  split
  · exact keeps_pure _
  · exact (h.begin _ _).bind fun t => (h.streamNode x.filter new t path).bind fun t' =>
      (h.finish t').bind fun _ => keeps_pure _

theorem mergeState (h : OpsKeep P) (path : String) (new : Node) :
    Keeps P (DocViewImport.mergeState path new) := by
  unfold DocViewImport.mergeState
  refine (keeps_requireNode path).bind fun _ => ?_
  dsimp only
  split
  · exact (h.setMixins _ _).bind fun _ => (h.forIn_setProperty _ _).bind fun _ => keeps_pure _
  · exact (h.forIn_setProperty _ _).bind fun _ => keeps_pure _

theorem updateState (h : OpsKeep P) (path : String) (new : Node) :
    Keeps P (DocViewImport.updateState path new) := by
  unfold DocViewImport.updateState
  refine (keeps_requireNode path).bind fun _ => ?_
  dsimp only
  -- the primary type, the mixins and the properties, each set only where it differs
  split
  · refine (h.setPrimaryType _ _).bind fun _ => ?_
    split
    · exact (h.setMixins _ _).bind fun _ => (h.forIn_setProperty _ _).bind fun _ => keeps_pure _
    · exact (h.forIn_setProperty _ _).bind fun _ => keeps_pure _
  · split
    · exact (h.setMixins _ _).bind fun _ => (h.forIn_setProperty _ _).bind fun _ => keeps_pure _
    · exact (h.forIn_setProperty _ _).bind fun _ => keeps_pure _

mutual
theorem importNode (h : OpsKeep P) (x : DocViewImport) :
    (N : Node) → (path : String) → (info : ImportInfo) → Keeps P (x.importNode path info N)
  | ⟨name, pt, mixins, props, cs⟩, path, info => by
    rw [DocViewImport.importNode]
    refine (keeps_nodeExists _).bind fun _ => ?_
    split
    · split
      · exact (h.createSubtree _ _ _).bind fun _ => keeps_pure _
      · exact keeps_pure _
    · split
      · exact importChildren h x cs path info
      · split
        · exact h.replaceNode x _ _ info
        · exact (h.mergeState _ _).bind fun _ => importChildren h x cs path _
        · exact (h.updateState _ _).bind fun _ => importChildren h x cs path _

theorem importChildren (h : OpsKeep P) (x : DocViewImport) :
    (cs : List Node) → (path : String) → (info : ImportInfo) →
      Keeps P (x.importChildren path info cs)
  | [], path, info => by
    rw [DocViewImport.importChildren]
    exact keeps_pure _
  | c :: cs, path, info => by
    rw [DocViewImport.importChildren]
    exact (importNode h x c _ info).bind fun info' => importChildren h x cs path info'
end

theorem acceptDocView (h : OpsKeep P) (ignored : List String) (f : WorkspaceFilter)
    (parent name : String) (set : ArtifactSet) :
    Keeps P (ContentSync.acceptDocView ignored f parent name set) := by
  unfold ContentSync.acceptDocView
  split
  · exact keeps_pure _
  · split
    · exact keeps_pure _
    · exact keeps_get.bind fun _ => (keeps_ofExcept _).bind fun _ => (keeps_ofExcept _).bind
        fun _ => (h.importNode _ _ _ _).bind fun _ => keeps_pure _

/-! ### Folders and access control -/

theorem clearAcl (h : OpsKeep P) (path : String) : Keeps P (RepoM.clearAcl path) := by
  unfold RepoM.clearAcl
  refine (keeps_requireNode path).bind fun _ =>
    (keeps_forIn_each fun p _ => h.removeNode p).bind fun _ => ?_
  split
  · exact h.setMixins _ _
  · exact keeps_pure _

theorem syncFolderChildren (h : OpsKeep P) (ac : AccessControlHandling) (f : WorkspaceFilter)
    (parent path : String) (set : ArtifactSet) :
    Keeps P (ContentSync.syncFolderChildren ac f parent path set) := by
  unfold ContentSync.syncFolderChildren
  refine (keeps_requireNode _).bind fun _ =>
    (Keeps.forIn (fun _ _ _ => ?_) _).bind fun _ => keeps_pure _
  dsimp only
  split
  · exact keeps_pure _
  · split
    · split
      · split
        · exact (h.clearAcl path).bind fun _ => keeps_pure _
        · exact keeps_pure _
      · exact (h.removeNode _).bind fun _ => keeps_pure _
    · split
      · exact (h.clearAcl path).bind fun _ => keeps_pure _
      · exact keeps_pure _

/-! ### Version histories -/

theorem importVersions (h : OpsKeep P) (data : List UInt8) :
    Keeps P (ContentSync.importVersions data) := by
  unfold ContentSync.importVersions
  refine keeps_versionStorage.bind_of_run fun r s r₁ hr hs => ?_
  refine (keeps_applyVersionEvents h.freshNumber _ _ _ _ _).bind_of_run fun _ s' _ _ hs' => ?_
  have hstaged : s.Restaged s' := Staged.yields_applyVersionEvents _ _ _ _ s _ _ _ hs'
  refine keeps_get.bind fun _ => ?_
  split
  · exact keeps_pure _
  · exact (h.commit r s r₁ s' hr hs hstaged).bind fun _ => keeps_pure _

/-! ### The handlers together -/

theorem acceptFolder (h : OpsKeep P) (folderType : String) (ac : AccessControlHandling)
    (f : WorkspaceFilter) (parent : String) (set : ArtifactSet) :
    Keeps P (ContentSync.acceptFolder folderType ac f parent set) := by
  unfold ContentSync.acceptFolder
  split
  · exact keeps_pure _
  · dsimp only
    split
    · exact keeps_pure _
    · split
      · exact keeps_pure _
      · refine (keeps_nodeExists _).bind fun _ => ?_
        split
        · exact (h.addNode _ _ _).bind fun _ => keeps_pure _
        · split
          · split
            · exact keeps_pure _
            · refine keeps_get.bind fun _ => (keeps_ofExcept _).bind fun _ =>
                (h.importVersions _).bind fun _ => ?_
              split <;> exact keeps_pure _
          · exact (h.syncFolderChildren ac f parent _ set).bind fun _ => keeps_pure _

/-- Offering an artifact set to the handlers keeps every property that the operations keep. -/
theorem importSet (h : OpsKeep P) (imp : Importer) (f : WorkspaceFilter) (parent name : String)
    (set : ArtifactSet) : Keeps P (imp.importSet f parent name set) := by
  unfold Importer.importSet
  refine (h.acceptDocView _ f parent name set).bind fun _ => ?_
  split
  · exact (h.acceptFolder _ _ f parent set).bind fun _ => by split <;> exact keeps_pure _
  · exact (h.acceptFolder _ _ f parent set).bind fun _ => by split <;> exact keeps_pure _

end RepoM.OpsKeep

end ContentSync
