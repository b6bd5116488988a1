import ContentSync.Proofs.HistoryStaging

/-!
# Identifiers outside the system node, fit for a history

A node outside the system node gets an identifier from the repository, which draws
`identifierOf k` for the next `k` (`RepoM.addMixin`), or from a property `jcr:uuid` set by hand.
A drawn identifier is a valid name, long enough to fill the three buckets of its history
(`historyIdentifier_identifierOf`); one set by hand is asked to be so too.

The operations on nodes outside the system node keep every identifier there fit for a history
(`IdsFit`) when no identifier set by hand is unfit, and leave the version storage as it was.
Drawing identifiers and committing a staged storage are all that adding a mixin, checking in
and labelling do besides changing one node, so what those keep, the three operations keep
(`keeps_checkin_of`, `keeps_addVersionLabel_of`, `keeps_addMixin_of`); the clock is one such
thing.

Main statements: `Node.IdFits.identifier`, `IdsFit.updateAlong`, `keeps_storage_moveNode`,
`keeps_idsFit_moveNode`, `keeps_checkin_of`.
-/

namespace ContentSync

open Node RepoM

/-! ## Identifiers fit for a history -/

/-- An identifier a history can be kept under: a valid name, long enough to fill the three
buckets of its history. -/
structure HistoryIdentifier (id : String) : Prop where
  validName : Path.ValidName id
  length_le : 6 ≤ id.length

/-- Every identifier the node holds is a string fit for a history. -/
def Node.IdFits (n : Node) : Prop :=
  ∀ q ∈ n.properties, q.name = Known.uuid →
    ∃ u, q = Property.ofString Known.uuid u ∧ HistoryIdentifier u

/-- Every identifier of the tree outside the system node is fit for a history: the root's, and
those of the subtrees of its other children. -/
structure IdsFit (root : Node) : Prop where
  self : root.IdFits
  child : ∀ c ∈ root.children, c.name ≠ Known.system → c.Everywhere Node.IdFits

theorem Node.IdFits.identifier {n : Node} (h : n.IdFits) {id : String}
    (hid : n.identifier? = some id) : HistoryIdentifier id := by
  unfold Node.identifier? Node.property? findProperty? at hid
  cases hq : n.properties.find? (·.name = Known.uuid) with
  | none =>
    rw [hq] at hid
    cases hid
  | some q =>
    obtain ⟨hqn, hmem⟩ := List.find?_eq_some_iff_append.mp hq |>.imp_right fun _ =>
      List.mem_of_find?_eq_some hq
    obtain ⟨u, rfl, hu⟩ := h q hmem (by simpa using hqn)
    rw [hq] at hid
    exact Option.some_inj.mp hid ▸ hu

theorem length_identifierOf (k : Nat) : 6 ≤ (identifierOf k).length := by
  have hprefix : "00000000-0000-4000-8000-".length = 24 := by decide +kernel
  have hlen : (identifierOf k).length = "00000000-0000-4000-8000-".length + (hex12 k).length := by
    unfold identifierOf
    exact String.length_append ..
  omega

/-- No hex digit is a slash. -/
theorem slash_not_mem_toDigits_sixteen (k : Nat) : '/' ∉ Nat.toDigits 16 k := by
  induction k using Nat.strongRecOn with
  | ind k ih =>
    have hdigit : ∀ d < 16, Nat.digitChar d ≠ '/' := by decide
    by_cases h16 : 16 ≤ k
    · rw [toDigits_sixteen_of_le h16, List.mem_append, List.mem_singleton, not_or]
      exact ⟨ih (k / 16) (Nat.div_lt_self (by omega) (by decide)),
        fun h => hdigit (k % 16) (Nat.mod_lt _ (by decide)) h.symm⟩
    · rw [toDigits_of_lt (by omega : k < 16), List.mem_singleton]
      exact fun h => hdigit k (by omega) h.symm

theorem validName_identifierOf (k : Nat) : Path.ValidName (identifierOf k) := by
  refine ⟨fun h => ?_, ?_⟩
  · have := length_identifierOf k
    rw [h] at this
    simp at this
  · have hlist : (identifierOf k).toList = "00000000-0000-4000-8000-".toList ++
        (List.replicate (12 - (Nat.toDigits 16 k).length) '0' ++ Nat.toDigits 16 k) := by
      unfold identifierOf hex12
      simp only [String.toList_append, String.toList_ofList]
    rw [hlist, List.mem_append, List.mem_append, not_or, not_or]
    exact ⟨by decide +kernel, by simp, slash_not_mem_toDigits_sixteen k⟩

theorem historyIdentifier_identifierOf (k : Nat) : HistoryIdentifier (identifierOf k) :=
  ⟨validName_identifierOf k, length_identifierOf k⟩

namespace IdsFit

variable {root : Node}

/-- Every node at a path that does not lead into the system node holds fit identifiers. -/
theorem descendAlong (h : IdsFit root) {t : List String} (ht : t.head? ≠ some Known.system)
    {m : Node} (hm : root.descendAlong t = some m) : m.IdFits := by
  cases t with
  | nil =>
    cases hm
    exact h.self
  | cons a t =>
    rw [descendAlong_cons] at hm
    cases hc : root.child? a with
    | none => rw [hc] at hm; cases hm
    | some c =>
      rw [hc] at hm
      have ha : c.name ≠ Known.system := by
        rw [name_of_child? hc]
        simpa using ht
      exact ((h.child c (mem_of_child? hc) ha).descendAlong hm).self

/-- A node below a child other than the system node holds fit identifiers all through. -/
theorem everywhere_descendAlong (h : IdsFit root) {a : String} (ha : a ≠ Known.system)
    {t : List String} {m : Node} (hm : root.descendAlong (a :: t) = some m) :
    m.Everywhere Node.IdFits := by
  rw [descendAlong_cons] at hm
  cases hc : root.child? a with
  | none => rw [hc] at hm; cases hm
  | some c =>
    rw [hc] at hm
    exact (h.child c (mem_of_child? hc) (by rw [name_of_child? hc]; exact ha)).descendAlong hm

end IdsFit

/-- A change `g` of the node `m` that keeps its identifiers fit, and whose children are the
node's own or hold fit identifiers all through. -/
structure KeepsFit (g : Node → Node) (m : Node) : Prop where
  self : m.IdFits → (g m).IdFits
  child : ∀ c ∈ (g m).children, c ∈ m.children ∨ c.Everywhere Node.IdFits

theorem KeepsFit.everywhere {g : Node → Node} {m : Node} (hg : KeepsFit g m)
    (hm : m.Everywhere Node.IdFits) : (g m).Everywhere Node.IdFits :=
  .intro _ (hg.self hm.self) fun c hc => (hg.child c hc).elim hm.child id

theorem everywhere_idFits_updateAlong {g : Node → Node} :
    ∀ (t : List String) {n : Node}, n.Everywhere Node.IdFits →
      (∀ m, n.descendAlong t = some m → KeepsFit g m) →
        (n.updateAlong g t).Everywhere Node.IdFits
  | [], n, hn, hg => by
    rw [updateAlong_nil]
    exact (hg n rfl).everywhere hn
  | a :: t, n, hn, hg => by
    rw [updateAlong_cons]
    refine .intro _ hn.self fun d hd => ?_
    rcases mem_updateChild hd with hd | ⟨c, hc, rfl⟩
    · exact hn.child hd
    · refine everywhere_idFits_updateAlong t (hn.child (List.mem_of_find?_eq_some hc))
        fun m hm => hg m ?_
      rw [descendAlong_cons, show n.child? a = some c from hc]
      exact hm

/-- Changing a node at a path that does not lead into the system node keeps identifiers
fit. -/
theorem IdsFit.updateAlong {root : Node} (h : IdsFit root) {g : Node → Node}
    {t : List String} (ht : t.head? ≠ some Known.system)
    (hg : ∀ m, root.descendAlong t = some m → KeepsFit g m) :
    IdsFit (root.updateAlong g t) := by
  cases t with
  | nil =>
    rw [updateAlong_nil]
    have hroot := hg root rfl
    exact ⟨hroot.self h.self, fun c hc hcn => (hroot.child c hc).elim (h.child c · hcn) id⟩
  | cons a t =>
    rw [updateAlong_cons]
    refine ⟨h.self, fun d hd hdn => ?_⟩
    rcases mem_updateChild hd with hd | ⟨c, hc, rfl⟩
    · exact h.child d hd hdn
    · have hca : c.name = a := by simpa using List.find?_some hc
      have ha : c.name ≠ Known.system := by
        rw [hca]
        simpa using ht
      refine everywhere_idFits_updateAlong t (h.child c (List.mem_of_find?_eq_some hc) ha)
        fun m hm => hg m ?_
      rw [descendAlong_cons, show root.child? a = some c from hc]
      exact hm

theorem removePropertyIn_sublist (a : String) :
    ∀ ps : List Property, (removePropertyIn a ps).Sublist ps
  | [] => List.Sublist.slnil
  | q :: rest => by
    rw [removePropertyIn]
    split
    · exact List.sublist_cons_self q rest
    · exact (removePropertyIn_sublist a rest).cons_cons q

/-- Setting a property other than an identifier, or an identifier fit for a history, keeps
identifiers fit. -/
theorem keepsFit_applyProperty {p : Property}
    (hp : p.name = Known.uuid → ∃ u, p = Property.ofString Known.uuid u ∧ HistoryIdentifier u)
    (m : Node) :
    KeepsFit (·.applyProperty p) m := by
  refine ⟨fun hm q hq hqn => ?_, fun c hc => .inl (children_applyProperty p m ▸ hc)⟩
  unfold Node.applyProperty at hq
  split at hq
  · split at hq <;> exact hm q hq hqn
  · split at hq
    · exact hm q hq hqn
    · rcases mem_setPropertyIn hq with rfl | hq
      · exact hp hqn
      · exact hm q hq hqn

theorem keepsFit_removeProperty (a : String) (m : Node) : KeepsFit (·.removeProperty a) m :=
  ⟨fun hm q hq => hm q ((removePropertyIn_sublist a _).subset hq), fun _ hc => .inl hc⟩

/-- A change of the node's own type or mixins. -/
theorem keepsFit_of_properties {g : Node → Node} {m : Node}
    (hprops : (g m).properties = m.properties) (hkids : (g m).children = m.children) :
    KeepsFit g m :=
  ⟨fun hm q hq => hm q (hprops ▸ hq), fun _ hc => .inl (hkids ▸ hc)⟩

theorem keepsFit_appendChild {c : Node} (hc : c.Everywhere Node.IdFits) (m : Node) :
    KeepsFit (appendChild c) m := by
  refine ⟨fun hm => hm, fun d hd => ?_⟩
  rcases List.mem_append.mp hd with hd | hd
  · exact .inl hd
  · exact .inr (List.mem_singleton.mp hd ▸ hc)

theorem keepsFit_eraseChild (a : String) (m : Node) : KeepsFit (eraseChild a) m :=
  ⟨fun hm => hm, fun _ hd => .inl (List.eraseP_sublist.subset hd)⟩

theorem everywhere_idFits_empty (name ty : String) : (Node.empty name ty).Everywhere Node.IdFits :=
  .intro _ (fun _ h => by cases h) fun _ h => by cases h

/-- A node keeps its identifiers under another name. -/
theorem Node.Everywhere.idFits_rename {m : Node} (hm : m.Everywhere Node.IdFits) (a : String) :
    ({ m with name := a } : Node).Everywhere Node.IdFits :=
  .intro _ hm.self fun _ hc => hm.child hc

/-- A change of the system node is not seen outside it. -/
theorem IdsFit.updateAlong_system {root : Node} (h : IdsFit root) {g : Node → Node}
    (hg : KeepsName g) : IdsFit (root.updateAlong g [Known.system]) := by
  rw [updateAlong_cons]
  refine ⟨h.self, fun d hd hdn => ?_⟩
  rcases mem_updateChild hd with hd | ⟨c, hc, rfl⟩
  · exact h.child d hd hdn
  · have hca : c.name = Known.system := by simpa using List.find?_some hc
    rw [updateAlong_nil, hg c, hca] at hdn
    exact absurd rfl hdn

theorem IdsFit.appendSystem {root : Node} (h : IdsFit root) :
    IdsFit { root with children := root.children ++ [Node.empty Known.system Known.repSystem] } := by
  refine ⟨h.self, fun d hd hdn => ?_⟩
  rcases List.mem_append.mp hd with hd | hd
  · exact h.child d hd hdn
  · rw [List.mem_singleton] at hd
    subst hd
    exact absurd rfl hdn

/-- Committing a storage changes the system node only, adding it when it is missing. -/
theorem keeps_idsFit_commit (s : Staged) :
    Keeps (fun r => IdsFit r.root) (commitVersionStorage s) := by
  unfold commitVersionStorage
  refine keeps_get.bind_of_run fun _ r _ hr hget => ?_
  cases hget
  dsimp only
  have hput : Keeps (fun r => IdsFit r.root) (modifyNode (Path.join "/" Known.system)
      (·.putChild { s.build with name := Known.versionStorage })) := by
    intro r' hr'
    rw [final_modifyNode, segments_systemPath]
    exact hr'.updateAlong_system fun _ => rfl
  split
  · exact Keeps.bind (fun _ _ => hr.appendSystem) fun _ => hput
  · exact hput

/-! ## Operations on nodes outside the system node -/

section NodeOperations

variable {x : Option Node}

theorem keeps_storage_modifyNode {path : String} {g : Node → Node} (hg : KeepsName g)
    (hkids : ∀ m, (g m).children = m.children) (hout : Path.OutsideSystem path) :
    Keeps (fun r => r.root.descendant? Known.versionStoragePath = x) (modifyNode path g) := by
  intro r hr
  rw [final_modifyNode]
  exact (storage_updateAlong hg r.root hout fun _ => by unfold Node.child?; rw [hkids]).trans hr

/-- Appending a child whose path leads outside the system node. -/
theorem keeps_storage_appendChild {parent : String} {c : Node}
    (hout : (Path.segments parent ++ [c.name]).head? ≠ some Known.system) :
    Keeps (fun r => r.root.descendant? Known.versionStoragePath = x)
      (modifyNode parent (appendChild c)) := by
  intro r hr
  obtain ⟨hpar, hname⟩ := outside_of_append hout
  rw [final_modifyNode]
  exact (storage_updateAlong (keepsName_appendChild c) r.root hpar fun hnil =>
    child?_appendChild_of_ne (hname hnil) _).trans hr

theorem keeps_storage_addNode {parent name ty : String}
    (hout : Path.OutsideSystem (Path.join parent name)) :
    Keeps (fun r => r.root.descendant? Known.versionStoragePath = x) (addNode parent name ty) := by
  intro r hr
  rcases final_addNode parent name ty r with h | ⟨hv, h⟩
  · rw [h]
    exact hr
  · rw [h, ← final_modifyNode]
    unfold Path.OutsideSystem at hout
    rw [Path.segments_join_validName parent hv] at hout
    exact keeps_storage_appendChild hout r hr

theorem keeps_storage_removeNode {path : String} (hout : Path.OutsideSystem path) :
    Keeps (fun r => r.root.descendant? Known.versionStoragePath = x) (removeNode path) := by
  intro r hr
  rcases final_removeNode path r with h | ⟨s, a, hs, h⟩
  · rw [h]
    exact hr
  · rw [h]
    unfold Path.OutsideSystem at hout
    rw [hs] at hout
    obtain ⟨hpar, hname⟩ := outside_of_append hout
    exact (storage_updateAlong (keepsName_eraseChild a) r.root hpar fun hnil =>
      child?_eraseChild_of_ne (hname hnil) _).trans hr

theorem keeps_idsFit_modifyNode {path : String} {g : Node → Node} (hg : ∀ m, KeepsFit g m)
    (hout : Path.OutsideSystem path) : Keeps (fun r => IdsFit r.root) (modifyNode path g) := by
  intro r hr
  rw [final_modifyNode]
  exact hr.updateAlong hout fun m _ => hg m

theorem keeps_idsFit_addNode {parent name ty : String}
    (hout : Path.OutsideSystem (Path.join parent name)) :
    Keeps (fun r => IdsFit r.root) (addNode parent name ty) := by
  intro r hr
  rcases final_addNode parent name ty r with h | ⟨hv, h⟩
  · rw [h]
    exact hr
  · rw [h]
    unfold Path.OutsideSystem at hout
    rw [Path.segments_join_validName parent hv] at hout
    exact hr.updateAlong (outside_of_append hout).1 fun m _ =>
      keepsFit_appendChild (everywhere_idFits_empty name ty) m

theorem keeps_idsFit_removeNode {path : String} (hout : Path.OutsideSystem path) :
    Keeps (fun r => IdsFit r.root) (removeNode path) := by
  intro r hr
  rcases final_removeNode path r with h | ⟨s, a, hs, h⟩
  · rw [h]
    exact hr
  · rw [h]
    unfold Path.OutsideSystem at hout
    rw [hs] at hout
    exact hr.updateAlong (outside_of_append hout).1 fun m _ => keepsFit_eraseChild a m

/-- A move checks its paths, removes the source and appends the node found there, renamed,
below the destination's parent: what those last two steps keep, the move keeps. -/
theorem keeps_moveNode_of {P : Repository → Prop} {src dest : String}
    (hmove : ∀ r moved, P r → r.root.descendAlong (Path.segments src) = some moved →
      Path.name src ≠ "" → Path.name dest ≠ "" →
        Keeps P (do
          removeNode src
          modifyNode (Path.parent dest) (appendChild { moved with name := Path.name dest }))) :
    Keeps P (moveNode src dest) := by
  unfold moveNode
  dsimp only
  split
  · exact keeps_throw_bind _ _
  · rename_i hnames
    have hsrc : Path.name src ≠ "" := fun h => hnames (Or.inl (by rw [h]; rfl))
    have hdest : Path.name dest ≠ "" := fun h => hnames (Or.inr (by rw [h]; rfl))
    split
    · exact keeps_throw_bind _ _
    · refine (keeps_nodeExists dest).bind fun _ => ?_
      split
      · exact keeps_throw_bind _ _
      · refine (keeps_nodeExists _).bind fun _ => ?_
        split
        · refine (keeps_requireNode src).bind_of_run fun r moved _ hr hrun => ?_
          exact hmove r moved hr ((requireNode_eq_ok rfl).mp hrun).1 hsrc hdest
        · exact keeps_throw_bind _ _

theorem keeps_storage_moveNode {src dest : String} (hsrc : Path.OutsideSystem src)
    (hdest : Path.OutsideSystem dest) :
    Keeps (fun r => r.root.descendant? Known.versionStoragePath = x) (moveNode src dest) :=
  keeps_moveNode_of fun _ moved _ _ _ hname => by
    have hout := hdest
    unfold Path.OutsideSystem at hout
    rw [Path.segments_eq_parent_name hname] at hout
    exact (keeps_storage_removeNode hsrc).bind fun _ =>
      keeps_storage_appendChild (c := { moved with name := Path.name dest }) hout

/-- The moved node lies below a child of the root other than the system node. -/
theorem keeps_idsFit_moveNode {src dest : String} (hsrc : Path.OutsideSystem src)
    (hdest : Path.OutsideSystem dest) : Keeps (fun r => IdsFit r.root) (moveNode src dest) :=
  keeps_moveNode_of fun r moved hr hmoved hsrcname hname => by
    have heverywhere : moved.Everywhere Node.IdFits := by
      have hseg := Path.segments_eq_parent_name hsrcname
      unfold Path.OutsideSystem at hsrc
      cases hs : Path.segments src with
      | nil =>
        rw [hs] at hseg
        simp at hseg
      | cons a t =>
        rw [hs] at hmoved hsrc
        exact hr.everywhere_descendAlong (by simpa using hsrc) hmoved
    have hout := hdest
    unfold Path.OutsideSystem at hout
    rw [Path.segments_eq_parent_name hname] at hout
    exact (keeps_idsFit_removeNode hsrc).bind fun _ =>
      keeps_idsFit_modifyNode (keepsFit_appendChild (heverywhere.idFits_rename _))
        (outside_of_append hout).1

end NodeOperations

/-! ## Operations that draw identifiers and commit a storage -/

section Frames

variable {P : Repository → Prop}

theorem keeps_stagedIdentifier_any (s : Staged) : Keeps P (stagedIdentifier s) := by
  unfold stagedIdentifier
  split
  · exact keeps_pure _
  · exact keeps_throw _

variable (hfresh : Keeps P freshNumber) (hcommit : ∀ s, Keeps P (commitVersionStorage s))
include hfresh hcommit

/-- Creating a history draws identifiers, then commits the storage if it created one. -/
theorem keeps_history_of (n : Node) (id : String) :
    Keeps P (do
      let storage ← versionStorage
      let (storage, created) ← ensureHistory storage n id
      if created then commitVersionStorage storage) := by
  refine keeps_versionStorage.bind fun storage =>
    (keeps_ensureHistory hfresh storage n id).bind fun p => ?_
  obtain ⟨storage, created⟩ := p
  dsimp only
  split
  · exact hcommit _
  · exact keeps_pure _

theorem keeps_versionable_of (path mixin : String) (n : Node) :
    Keeps P (do
      if mixin ≠ Known.mixVersionable then return
      let id ← match n.identifier? with
        | some id => pure id
        | none => throw (.repository s!"{path} has no identifier")
      let storage ← versionStorage
      let (storage, created) ← ensureHistory storage n id
      if created then commitVersionStorage storage : RepoM Unit) := by
  split
  · exact keeps_pure _
  · split
    · exact (keeps_pure _).bind fun id => keeps_history_of hfresh hcommit n id
    · exact keeps_throw_bind _ _

/-- Adding a mixin changes one node, then draws identifiers and commits. -/
theorem keeps_addMixin_of (hmod : ∀ path g, Keeps P (modifyNode path g)) (path mixin : String) :
    Keeps P (addMixin path mixin) := by
  unfold addMixin
  refine (keeps_requireNode path).bind fun n => ?_
  dsimp only
  -- with or without a new identifier, the node is written back and its history made
  generalize (if n.mixins.contains mixin then n else { n with mixins := n.mixins ++ [mixin] }) = n₁
  split
  · exact (keeps_freshIdentifier hfresh).bind fun _ => (keeps_pure _).bind fun n' =>
      (hmod path _).bind fun _ => keeps_versionable_of hfresh hcommit path mixin n'
  · exact (keeps_pure _).bind fun n' =>
      (hmod path _).bind fun _ => keeps_versionable_of hfresh hcommit path mixin n'

/-- Checking in draws identifiers and commits. -/
theorem keeps_checkin_of (path : String) : Keeps P (checkin path) := by
  unfold checkin
  refine (keeps_requireNode path).bind fun n => ?_
  dsimp only
  split
  · exact keeps_throw_bind _ _
  · split
    · refine (keeps_pure _).bind fun id => keeps_versionStorage.bind fun storage =>
        (keeps_ensureHistory hfresh storage n id).bind fun p => ?_
      obtain ⟨storage, _⟩ := p
      dsimp only
      split
      · refine (keeps_pure _).bind fun last => (keeps_stagedIdentifier_any last).bind fun _ => ?_
        refine (keeps_initVersion hfresh _ _).bind fun _ => (keeps_freeze hfresh true _ n).bind
          fun _ => (keeps_stagedIdentifier_any _).bind fun _ => ?_
        exact (hcommit _).bind fun _ => keeps_pure _
      · exact keeps_throw_bind _ _
    · exact keeps_throw_bind _ _

omit hfresh in
/-- Labelling commits. -/
theorem keeps_addVersionLabel_of (path version label : String) :
    Keeps P (addVersionLabel path version label) := by
  unfold addVersionLabel
  refine (keeps_requireNode path).bind fun n => ?_
  dsimp only
  split
  · refine (keeps_pure _).bind fun id => keeps_versionStorage.bind fun storage => ?_
    split
    · refine (keeps_pure _).bind fun history => ?_
      split
      · exact (keeps_pure _).bind fun target =>
          (keeps_stagedIdentifier_any target).bind fun _ => hcommit _
      · exact keeps_throw_bind _ _
    · exact keeps_throw_bind _ _
  · exact keeps_throw_bind _ _

end Frames

/-! ## The clock -/

section Clock

variable {c : Time.Timestamp}

theorem keeps_clock_modifyNode (path : String) (g : Node → Node) :
    Keeps (·.clock = c) (modifyNode path g) := by
  intro r hr
  rw [final_modifyNode]
  exact hr

theorem keeps_clock_commit (s : Staged) : Keeps (·.clock = c) (commitVersionStorage s) := by
  intro r hr
  obtain ⟨root, hrun, -⟩ := commitVersionStorage_run s r
  rw [hrun, final_ok]
  exact hr

theorem keeps_clock_removeNode (path : String) : Keeps (·.clock = c) (removeNode path) := by
  intro r hr
  rcases final_removeNode path r with h | ⟨_, _, _, h⟩ <;> rw [h] <;> exact hr

/-- No operation of a session or of an import moves the clock. -/
theorem opsKeep_clock : OpsKeep (·.clock = c) where
  freshNumber := fun _ hr => hr
  addNode parent name ty := by
    intro r hr
    rcases final_addNode parent name ty r with h | ⟨_, h⟩ <;> rw [h] <;> exact hr
  removeNode := keeps_clock_removeNode
  moveNode _ _ := keeps_moveNode_of fun _ _ _ _ _ _ =>
    (keeps_clock_removeNode _).bind fun _ => keeps_clock_modifyNode _ _
  setProperty path p := keeps_clock_modifyNode path _
  removeProperty path a := keeps_clock_modifyNode path _
  setPrimaryType path _ := keeps_clock_modifyNode path _
  setMixins path _ := keeps_clock_modifyNode path _
  commit _ _ _ s' _ _ _ := keeps_clock_commit s'

theorem keeps_clock_run : ∀ op : SessionOp, Keeps (·.clock = c) op.run
  | .addNode parent name ty => (opsKeep_clock.addNode parent name ty).bind fun _ => keeps_pure _
  | .removeNode path => opsKeep_clock.removeNode path
  | .moveNode src dest => opsKeep_clock.moveNode src dest
  | .setProperty path p => opsKeep_clock.setProperty path p
  | .removeProperty path name => opsKeep_clock.removeProperty path name
  | .setPrimaryType path ty => opsKeep_clock.setPrimaryType path ty
  | .setMixins path ms => opsKeep_clock.setMixins path ms
  | .save => fun _ hr => hr
  | .discard => fun _ hr => hr
  | .addMixin path mixin =>
    keeps_addMixin_of (fun _ hr => hr) keeps_clock_commit keeps_clock_modifyNode path mixin
  | .checkin path =>
    (keeps_checkin_of (fun _ hr => hr) keeps_clock_commit path).bind fun _ => keeps_pure _
  | .addVersionLabel path version label =>
    keeps_addVersionLabel_of keeps_clock_commit path version label
  | .importRun imp f entries =>
    (opsKeep_clock.runEntries (fun _ hr => hr) (fun _ hr => hr) imp f entries _ _).bind
      fun _ => keeps_pure _

end Clock

end ContentSync
