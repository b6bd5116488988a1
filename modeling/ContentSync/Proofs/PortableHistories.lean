import ContentSync.Proofs.DrawnIdentifiers
import ContentSync.Proofs.AllOrNothing

/-!
# Version histories survive a version document

A session that changes nodes outside the system node, adds mixins, checks in nodes whose
content a frozen element carries, binds labels with label names, saves and discards keeps
every version history of its storage as a version document carries it. Written out by the
serializer and read back by the importer into a repository that has no history of that
identifier, such a history comes back with its name, the identifier of its node and all its
children.

The invariant (`Repository.HistoriesPortable`) is the shape of the storage, every history
readable four names below it (`StorageCarried`), the identifiers outside the system node
fit for a history, all in the transient and the saved tree, and a clock with its fields in
range.

Main statements: `keeps_portable_addMixin`, `portable_checkin`, `runAll_portable`.
-/

namespace ContentSync

open Node Staged RepoM

variable {L : String → Prop}

/-! ## Histories as a version document carries them -/

/-- Every node four names below the version storage of the tree, where the histories stand,
is a history as a version document carries it. -/
def StorageCarried (L : String → Prop) (root : Node) : Prop :=
  ∀ st, root.descendant? Known.versionStoragePath = some st → st.AtDepth (HistoryReadable L) 4

theorem storageCarried_emptyRoot : StorageCarried L emptyRoot := by
  intro st hst
  have hempty : emptyRoot.descendant? Known.versionStoragePath =
      some (Node.empty Known.versionStorage Known.repVersionStorage) := by
    rfl
  rw [hempty] at hst
  cases hst
  exact atDepth_of_children_nil rfl 3

/-- The staged storage of a tree with carried histories: a copy of the stored one, or a new
empty one. -/
theorem versionStorage_carried {r : Repository} (h : StorageCarried L r.root) :
    ∃ s, versionStorage r = .ok s r ∧ s.build.AtDepth (HistoryReadable L) 4 ∧ s.Settled := by
  unfold versionStorage
  rw [bind_of_ok get_run]
  cases hd : r.root.descendant? Known.versionStoragePath with
  | some st =>
    refine ⟨_, pure_run _, ?_, Staged.settled_ofNode st⟩
    rw [Staged.build_ofNode]
    exact h st hd
  | none =>
    exact ⟨_, pure_run _, atDepth_of_children_nil rfl 3, Staged.settled_of_children_nil rfl⟩

theorem storageCarried_commit {storage : Staged}
    (hs : storage.build.AtDepth (HistoryReadable L) 4) (r : Repository) :
    StorageCarried L (final (commitVersionStorage storage r)).root := by
  obtain ⟨root, hrun, hroot⟩ := commitVersionStorage_run storage r
  rw [hrun, final_ok]
  intro st hst
  rw [hroot] at hst
  cases hst
  exact hs.of_children rfl

/-- Creating the history of a node with an identifier of six characters or more keeps the
histories carried. -/
theorem carried_history (n : Node) {id : String} (hid : 6 ≤ id.length) {r : Repository}
    (hv : r.clock.Valid)
    (hr : StorageCarried L r.root) :
    StorageCarried L (final ((do
      let storage ← versionStorage
      let (storage, created) ← ensureHistory storage n id
      if created then commitVersionStorage storage) r)).root := by
  obtain ⟨s, hvs, hs, hset⟩ := versionStorage_carried hr
  rw [bind_of_ok hvs]
  obtain ⟨s', created, k', hrun, hs'⟩ :=
    ensureHistory_readable s n hid r hv hs hset
  rw [bind_of_ok hrun]
  dsimp only
  split
  · exact storageCarried_commit hs' _
  · exact hr

/-! ## The invariant -/

/-- What a tree keeps so that its histories survive a version document: every history carried,
and every identifier outside the system node fit for a history. -/
structure Node.HistoriesPortable (L : String → Prop) (root : Node) : Prop where
  carried : StorageCarried L root
  ids : IdsFit root

/-- What a session keeps so that its histories survive a version document: the storage in
shape, the transient and the saved tree portable, and a clock with its fields in range. -/
structure Repository.HistoriesPortable (L : String → Prop) (r : Repository) : Prop where
  shaped : HistoriesShaped r
  root : r.root.HistoriesPortable L
  saved : r.saved.HistoriesPortable L
  clock_valid : r.clock.Valid

/-- A run that keeps the shape and the transient tree portable, and leaves the saved tree and
the clock alone, keeps the invariant. -/
theorem Repository.HistoriesPortable.of_root {r r' : Repository} (hr : r.HistoriesPortable L)
    (hshaped : HistoriesShaped r') (hroot : r'.root.HistoriesPortable L)
    (hsaved : r'.saved = r.saved) (hclock : r'.clock = r.clock) : r'.HistoriesPortable L :=
  ⟨hshaped, hroot, hsaved ▸ hr.saved, hclock ▸ hr.clock_valid⟩

theorem storageCarried_of_storage {root root' : Node} (h : StorageCarried L root)
    (heq : root'.descendant? Known.versionStoragePath = root.descendant? Known.versionStoragePath) :
    StorageCarried L root' :=
  fun st hst => h st (heq ▸ hst)

/-- An operation on nodes outside the system node keeps the invariant when it keeps the shape,
the version storage, the fit identifiers, the saved tree and the clock. -/
theorem keeps_portable_of {α : Type} {x : RepoM α} (hshaped : Keeps HistoriesShaped x)
    (hstorage : ∀ st, Keeps (fun r => r.root.descendant? Known.versionStoragePath = st) x)
    (hids : Keeps (fun r => IdsFit r.root) x) (hsaved : ∀ s, Keeps (·.saved = s) x)
    (hclock : ∀ c, Keeps (·.clock = c) x) : Keeps (Repository.HistoriesPortable L) x :=
  fun r hr => hr.of_root (hshaped r hr.shaped)
    ⟨storageCarried_of_storage hr.root.carried (hstorage _ r rfl), hids r hr.root.ids⟩
    (hsaved _ r rfl) (hclock _ r rfl)

/-! ## Adding a mixin -/

/-- Writing back a node with its name, its children and fit identifiers, then creating its
history if it is versionable, keeps the tree portable. -/
theorem portable_writeBack {path : String} (hout : Path.OutsideSystem path) (mixin : String)
    {r : Repository} (hroot : r.root.HistoriesPortable L) (hv : r.clock.Valid) {n y : Node}
    (hn : r.root.descendAlong (Path.segments path) = some n) (hname : y.name = n.name)
    (hkids : y.children = n.children) (hy : y.IdFits) :
    (final ((do
      modifyNode path fun _ => y
      if mixin ≠ Known.mixVersionable then return
      let id ← match y.identifier? with
        | some id => pure id
        | none => throw (.repository s!"{path} has no identifier")
      let storage ← versionStorage
      let (storage, created) ← ensureHistory storage y id
      if created then commitVersionStorage storage : RepoM Unit) r)).root.HistoriesPortable L := by
  rw [bind_of_ok (modifyNode_run rfl hn)]
  -- the node written back leaves the storage and the fit identifiers as they were
  have hwritten : (r.root.updateAlong (fun _ => y) (Path.segments path)).HistoriesPortable L := by
    refine ⟨storageCarried_of_storage hroot.carried ?_, hroot.ids.updateAlong hout fun m hm => ?_⟩
    · rw [updateAlong_const_eq hn hname]
      exact storage_updateAlong (keepsName_renamedTo y) r.root hout fun hnil => by
        rw [hnil] at hn
        cases hn
        unfold Node.child?
        exact congrArg (List.find? _) hkids
    · rw [hn] at hm
      cases hm
      exact ⟨fun _ => hy, fun c hc => .inl (hkids ▸ hc)⟩
  split
  · exact hwritten
  · split
    · rename_i id hid
      rw [bind_of_ok (pure_run _)]
      exact ⟨carried_history y (hy.identifier hid).length_le hv hwritten.carried,
        keeps_history_of (fun _ h => h) keeps_idsFit_commit y _ _ hwritten.ids⟩
    · exact hwritten

theorem root_portable_addMixin {path : String} (hout : Path.OutsideSystem path) (mixin : String)
    {r : Repository} (hr : r.HistoriesPortable L) :
    (final (addMixin path mixin r)).root.HistoriesPortable L := by
  unfold addMixin
  refine final_bind (P := fun r' => r'.root.HistoriesPortable L)
    (by rw [final_requireNode]; exact hr.root) fun n r₁ hn _ => ?_
  obtain ⟨hn, rfl⟩ := (requireNode_eq_ok rfl).mp hn
  dsimp only
  -- the node with the mixin keeps its name, children and properties
  generalize hy : (if n.mixins.contains mixin then n
    else { n with mixins := n.mixins ++ [mixin] }) = y
  have hyn : y.name = n.name ∧ y.children = n.children ∧ y.properties = n.properties := by
    rw [← hy]
    split <;> exact ⟨rfl, rfl, rfl⟩
  have hnd : y.IdFits := fun q hq => hr.root.ids.descendAlong hout hn q (hyn.2.2 ▸ hq)
  split
  · -- a drawn identifier is set, fit for a history
    rw [bind_of_ok (freshIdentifier_run r₁), bind_of_ok (pure_run _)]
    refine portable_writeBack (r := { r₁ with issued := r₁.issued + 1 })
      (y := y.setProperty (Property.ofString Known.uuid (identifierOf (r₁.issued + 1)))) hout mixin
      hr.root hr.clock_valid hn hyn.1 hyn.2.1 fun q hq hqn => ?_
    rcases mem_setPropertyIn hq with rfl | hq
    · exact ⟨_, rfl, historyIdentifier_identifierOf _⟩
    · exact hnd q hq hqn
  · rw [bind_of_ok (pure_run _)]
    exact portable_writeBack hout mixin hr.root hr.clock_valid hn hyn.1 hyn.2.1 hnd

theorem keeps_portable_addMixin {path : String} (hout : Path.OutsideSystem path) (mixin : String) :
    Keeps (Repository.HistoriesPortable L) (addMixin path mixin) :=
  fun r hr => hr.of_root (keeps_addMixin path mixin r hr.shaped) (root_portable_addMixin hout mixin hr)
    (keeps_addMixin_of (fun _ h => h) keeps_saved_commitVersionStorage keeps_saved_modifyNode path
      mixin r rfl)
    (keeps_addMixin_of (fun _ h => h) keeps_clock_commit keeps_clock_modifyNode path mixin r rfl)

/-! ## Checking in -/

theorem findProperty?_uuid_versionProperties (u : String) (t : Time.Timestamp)
    (preds succs : List String) :
    findProperty? Known.uuid (versionProperties u t preds succs) =
      some (Property.ofString Known.uuid u) := by
  simp [versionProperties, findProperty?]

/-- A new version holding its frozen node is named by its own identifier. -/
theorem stagedIdentifier_withFrozen (a u : String) (t : Time.Timestamp) (preds : List String)
    (fr : Staged) (r : Repository) :
    stagedIdentifier ((⟨a, some Known.ntVersion, [], versionProperties u t preds [], [], true⟩ :
      Staged).withChild Known.frozenNode fun _ => (fr, ())).1 r = .ok u r :=
  stagedIdentifier_run (findProperty?_uuid_versionProperties u t preds []) r

/-- Checking in a node outside the system node whose content a frozen element carries keeps
the histories carried: the new version is readable, and the last one only gains a
successor. -/
theorem carried_checkin {path : String} (hout : Path.OutsideSystem path) {r : Repository}
    (hr : r.HistoriesPortable L)
    (hfz : ∀ n, r.root.descendAlong (Path.segments path) = some n → n.Freezable) :
    StorageCarried L (final (checkin path r)).root := by
  unfold checkin
  refine final_bind (P := fun r' => StorageCarried L r'.root)
    (by rw [final_requireNode]; exact hr.root.carried) fun n r₁ hn _ => ?_
  obtain ⟨hn, rfl⟩ := (requireNode_eq_ok rfl).mp hn
  dsimp only
  split
  · exact hr.root.carried
  · cases hid : n.identifier? with
    | none => exact hr.root.carried
    | some id =>
      have hfit := (hr.root.ids.descendAlong hout hn).identifier hid
      dsimp only
      rw [bind_of_ok (pure_run _)]
      -- the staged storage and the history created for the node, if it had none
      obtain ⟨s, hvs, hsc, hset⟩ := versionStorage_carried hr.root.carried
      obtain ⟨s₂, hvs₂, hs, -⟩ := versionStorage_run hr.shaped.root
      rw [hvs] at hvs₂
      cases hvs₂
      rw [bind_of_ok hvs]
      obtain ⟨s', created, k', hrun, hs'⟩ :=
        ensureHistory_readable s n hfit.length_le r₁ hr.clock_valid hsc hset
      obtain ⟨s'', created', k'', hrun', -, hshaped, -⟩ :=
        ensureHistory_run s n id r₁ hs hset
      rw [hrun] at hrun'
      cases hrun'
      rw [bind_of_ok hrun]
      dsimp only
      have hlen := length_versionHistoryPath hfit.length_le
      generalize hlook : (Path.versionHistoryPath id).foldl
        (fun o name => o.bind (·.child? name)) (some s') = look
      cases look with
      | none => exact hr.root.carried
      | some h₀ =>
      -- the history: readable, and in shape, so its next version's name is free
      have hh₀ : h₀.build.HistoryReadable L := atDepth_lookup _ (by rw [hlen]; exact hs') hlook
      have hsh₀ := hshaped.lookup _ hlook
      rw [List.nil_append] at hsh₀
      rw [Option.getD_some]
      have ht : h₀.info.type = Known.ntVersionHistory := by
        have htype := hh₀.type
        rw [primaryType_build] at htype
        exact htype
      have hinv := (hsh₀.self.history ht).2
      obtain ⟨l₁, v, l₂, u, preds, hsplit, hfirst, -, hvt, hv, hlast⟩ := Staged.last_version hinv
      rw [hlast]
      dsimp only
      rw [bind_of_ok (pure_run _), bind_of_ok (stagedIdentifier_run hv.1 _)]
      have hname : toString "1." ++ toString ((h₀.children.filter
          (·.primaryType = some Known.ntVersion)).length - 1) =
            versionName ((versionsOf (h₀.children.map Staged.info)).length - 1) := by
        rw [← Staged.map_info_filter_version, List.length_map]
        rfl
      have hnew : ∀ d ∈ h₀.children,
          d.name ≠ versionName ((versionsOf (h₀.children.map Staged.info)).length - 1) :=
        fun d hd => hinv.name_ne_next (List.mem_map_of_mem hd)
      have hnone : h₀.child? (versionName ((versionsOf (h₀.children.map Staged.info)).length - 1)) =
          none :=
        List.find?_eq_none.mpr fun d hd => by simpa using hnew d hd
      rw [hname, hnone, Option.getD_none, bind_of_ok (initVersion_blank _ _ _)]
      dsimp only [Staged.child?, List.find?_nil, Option.getD_none]
      -- the frozen copy of the node, then the new version's identifier; the version is dated by
      -- the clock cut to milliseconds
      have hnow := Time.Timestamp.throughText_valid hr.clock_valid
      obtain ⟨fr, k₂, hfr, -, hfrc, -⟩ := freeze_carried true (Staged.blank Known.frozenNode) n _
        (frozenFields_blank _) (fun _ h => by cases h) fun _ => hfz n hn
      rw [bind_of_ok hfr, bind_of_ok (stagedIdentifier_withFrozen _ _ _ _ _ _)]
      dsimp only
      have hH := historyReadable_checkin (x := identifierOf (k' + 1)) hh₀ hsplit
        hfirst ((Staged.info_type_eq_version v).mp hvt) hnew
        (versionReadable_withFrozen _ (identifierOf (k' + 1)) hnow.1 hnow.2 [u] hfrc)
        rfl
      have hput := atDepth_putAlong hH _ (versionHistoryPath_ne_nil _) (by rw [hlen]; exact hs')
      rw [hlen] at hput
      exact final_bind (P := fun r' => StorageCarried L r'.root) (storageCarried_commit hput _)
        fun _ _ _ h => h

theorem portable_checkin {path : String} (hout : Path.OutsideSystem path) {r : Repository}
    (hr : r.HistoriesPortable L)
    (hfz : ∀ n, r.root.descendAlong (Path.segments path) = some n → n.Freezable) :
    (final (checkin path r)).HistoriesPortable L :=
  hr.of_root (keeps_checkin path r hr.shaped)
    ⟨carried_checkin hout hr hfz,
      keeps_checkin_of (fun _ h => h) keeps_idsFit_commit path r hr.root.ids⟩
    (keeps_checkin_of (fun _ h => h) keeps_saved_commitVersionStorage path r rfl)
    (keeps_checkin_of (fun _ h => h) keeps_clock_commit path r rfl)

/-! ## Binding a label -/

/-- Binding a label name to a version of a node outside the system node keeps the histories
carried: the label node only gains a property a label element reads back. -/
theorem carried_addVersionLabel {path version label : String} (hout : Path.OutsideSystem path)
    (hL : L label) (hkey : LabelKey label) {r : Repository} (hr : r.HistoriesPortable L) :
    StorageCarried L (final (addVersionLabel path version label r)).root := by
  unfold addVersionLabel
  refine final_bind (P := fun r' => StorageCarried L r'.root)
    (by rw [final_requireNode]; exact hr.root.carried) fun n r₁ hn _ => ?_
  obtain ⟨hn, rfl⟩ := (requireNode_eq_ok rfl).mp hn
  dsimp only
  cases hid : n.identifier? with
  | none => exact hr.root.carried
  | some id =>
  have hfit := (hr.root.ids.descendAlong hout hn).identifier hid
  dsimp only
  rw [bind_of_ok (pure_run _)]
  obtain ⟨s, hvs, hsc, -⟩ := versionStorage_carried hr.root.carried
  obtain ⟨s₂, hvs₂, hs, -⟩ := versionStorage_run hr.shaped.root
  rw [hvs] at hvs₂
  cases hvs₂
  rw [bind_of_ok hvs]
  have hlen := length_versionHistoryPath hfit.length_le
  generalize hlook : (Path.versionHistoryPath id).foldl
    (fun o name => o.bind (·.child? name)) (some s) = look
  cases look with
  | none => exact hr.root.carried
  | some h₀ =>
  dsimp only
  rw [bind_of_ok (pure_run _)]
  generalize htarget : (h₀.child? version).filter (·.primaryType = some Known.ntVersion) = found
  cases found with
  | none => exact hr.root.carried
  | some target =>
  dsimp only
  obtain ⟨hc, htt⟩ := Option.filter_eq_some_iff.mp htarget
  rw [bind_of_ok (pure_run _)]
  -- the history is readable and in shape; its versions have identifiers
  have hh₀ : h₀.build.HistoryReadable L := atDepth_lookup _ (by rw [hlen]; exact hsc) hlook
  have hsh₀ := hs.lookup _ hlook
  rw [List.nil_append] at hsh₀
  have ht : h₀.info.type = Known.ntVersionHistory := by
    have htype := hh₀.type
    rw [primaryType_build] at htype
    exact htype
  have hinv := (hsh₀.self.history ht).2
  have hv : target.info ∈ versionsOf (h₀.children.map Staged.info) :=
    mem_versionsOf.mpr ⟨List.mem_map_of_mem (List.mem_of_find?_eq_some hc),
      (Staged.info_type_eq_version _).mpr (by simpa using htt)⟩
  obtain ⟨u, hu⟩ := hinv.identifier_of_version hv
  rw [bind_of_ok (stagedIdentifier_run hu _)]
  have hH := historyReadable_label (u := u) hh₀ hL hkey fun c hc hcn hct =>
    hinv.type_ne_of_versionLabels (List.mem_map_of_mem hc) hcn ((Staged.info_type_eq_version c).mpr hct)
  have hput := atDepth_putAlong hH _ (versionHistoryPath_ne_nil _) (by rw [hlen]; exact hsc)
  rw [hlen] at hput
  exact storageCarried_commit hput _

theorem portable_addVersionLabel {path version label : String} (hout : Path.OutsideSystem path)
    (hL : L label) (hkey : LabelKey label) {r : Repository} (hr : r.HistoriesPortable L) :
    (final (addVersionLabel path version label r)).HistoriesPortable L :=
  hr.of_root (keeps_addVersionLabel path version label r hr.shaped)
    ⟨carried_addVersionLabel hout hL hkey hr,
      keeps_addVersionLabel_of keeps_idsFit_commit path version label r hr.root.ids⟩
    (keeps_addVersionLabel_of keeps_saved_commitVersionStorage path version label r rfl)
    (keeps_addVersionLabel_of keeps_clock_commit path version label r rfl)

/-! ## Sessions -/

theorem idsFit_emptyRoot : IdsFit emptyRoot where
  self _ h := by cases h
  child c hc hne := by
    have hsys : c.name = Known.system := by
      rw [show emptyRoot.children = [_] from rfl, List.mem_singleton] at hc
      rw [hc]
      rfl
    exact absurd hsys hne

theorem portable_ofRoot_emptyRoot (issued : Nat) {clock : Time.Timestamp} (hv : clock.Valid) :
    (Repository.ofRoot emptyRoot issued clock).HistoriesPortable L :=
  ⟨⟨storageShaped_emptyRoot _, storageShaped_emptyRoot _⟩, ⟨storageCarried_emptyRoot, idsFit_emptyRoot⟩,
    ⟨storageCarried_emptyRoot, idsFit_emptyRoot⟩, hv⟩

namespace SessionOp

/-- The operations under which histories stay portable, in the state `r` they run from: node
operations outside the system node, properties other than an identifier or a string identifier
fit for a history, mixins, check-ins of nodes whose content a frozen element carries, labels
under label names that `L` admits, saving and discarding. An import is left out. -/
def Portable (L : String → Prop) (r : Repository) : SessionOp → Prop
  | addNode parent a _ => Path.OutsideSystem (Path.join parent a)
  | removeNode path => Path.OutsideSystem path
  | moveNode src dest => Path.OutsideSystem src ∧ Path.OutsideSystem dest
  | setProperty path p => Path.OutsideSystem path ∧
      (p.name = Known.uuid → ∃ u, p = Property.ofString Known.uuid u ∧ HistoryIdentifier u)
  | removeProperty path _ => Path.OutsideSystem path
  | setPrimaryType path _ => Path.OutsideSystem path
  | setMixins path _ => Path.OutsideSystem path
  | save | discard => True
  | addMixin path _ => Path.OutsideSystem path
  | checkin path => Path.OutsideSystem path ∧
      ∀ n, r.root.descendAlong (Path.segments path) = some n → n.Freezable
  | addVersionLabel path _ label => Path.OutsideSystem path ∧ L label ∧ LabelKey label
  | importRun _ _ _ => False

/-- Every operation of the list is portable in the state the ones before it leave. -/
def PortableRun (L : String → Prop) : List SessionOp → Repository → Prop
  | [], _ => True
  | op :: ops, r => op.Portable L r ∧ PortableRun L ops (final (op.run r))

/-- A portable operation keeps the invariant, whether it succeeds or fails. -/
theorem portable_run : ∀ (op : SessionOp) {r : Repository}, op.Portable L r →
    r.HistoriesPortable L → (final (op.run r)).HistoriesPortable L
  | addNode parent a ty, r, h, hr =>
    keeps_portable_of (keeps_historiesShaped (addNode parent a ty) h)
      (fun _ => (keeps_storage_addNode h).bind fun _ => keeps_pure _)
      ((keeps_idsFit_addNode h).bind fun _ => keeps_pure _)
      (fun _ => (keeps_saved_addNode parent a ty).bind fun _ => keeps_pure _)
      (fun _ => keeps_clock_run _) r hr
  | removeNode path, r, h, hr =>
    keeps_portable_of (keeps_historiesShaped (removeNode path) h)
      (fun _ => keeps_storage_removeNode h) (keeps_idsFit_removeNode h)
      (fun _ => keeps_saved_removeNode path) (fun _ => keeps_clock_run _) r hr
  | moveNode src dest, r, h, hr =>
    keeps_portable_of (keeps_historiesShaped (moveNode src dest) h)
      (fun _ => keeps_storage_moveNode h.1 h.2) (keeps_idsFit_moveNode h.1 h.2)
      (fun _ => keeps_saved_moveNode src dest) (fun _ => keeps_clock_run _) r hr
  | setProperty path p, r, h, hr =>
    keeps_portable_of (keeps_historiesShaped (setProperty path p) h.1)
      (fun _ => keeps_storage_modifyNode (keepsName_applyProperty p) (children_applyProperty p) h.1)
      (keeps_idsFit_modifyNode (keepsFit_applyProperty h.2) h.1)
      (fun _ => keeps_saved_modifyNode path _) (fun _ => keeps_clock_run _) r hr
  | removeProperty path a, r, h, hr =>
    keeps_portable_of (keeps_historiesShaped (removeProperty path a) h)
      (fun _ => keeps_storage_modifyNode (keepsName_removeProperty a) (fun _ => rfl) h)
      (keeps_idsFit_modifyNode (keepsFit_removeProperty a) h)
      (fun _ => keeps_saved_modifyNode path _) (fun _ => keeps_clock_run _) r hr
  | setPrimaryType path t, r, h, hr =>
    keeps_portable_of (keeps_historiesShaped (setPrimaryType path t) h)
      (fun _ => keeps_storage_modifyNode (fun _ => rfl) (fun _ => rfl) h)
      (keeps_idsFit_modifyNode (fun _ => keepsFit_of_properties rfl rfl) h)
      (fun _ => keeps_saved_modifyNode path _) (fun _ => keeps_clock_run _) r hr
  | setMixins path ms, r, h, hr =>
    keeps_portable_of (keeps_historiesShaped (setMixins path ms) h)
      (fun _ => keeps_storage_modifyNode (fun _ => rfl) (fun _ => rfl) h)
      (keeps_idsFit_modifyNode (fun _ => keepsFit_of_properties rfl rfl) h)
      (fun _ => keeps_saved_modifyNode path _) (fun _ => keeps_clock_run _) r hr
  | save, _, _, hr =>
    ⟨keeps_historiesShaped save trivial _ hr.shaped, hr.root, hr.root, hr.clock_valid⟩
  | discard, _, _, hr =>
    ⟨keeps_historiesShaped discard trivial _ hr.shaped, hr.saved, hr.saved, hr.clock_valid⟩
  | addMixin _ _, r, h, hr => keeps_portable_addMixin h _ r hr
  | checkin _, _, h, hr =>
    final_bind (P := Repository.HistoriesPortable L) (portable_checkin h.1 hr h.2) fun _ _ _ h => h
  | addVersionLabel _ _ _, _, h, hr => portable_addVersionLabel h.1 h.2.1 h.2.2 hr

theorem runAll_portable : ∀ (ops : List SessionOp) {r : Repository}, PortableRun L ops r →
    r.HistoriesPortable L → (runAll ops r).HistoriesPortable L
  | [], _, _, hr => hr
  | op :: ops, r, ⟨hop, hops⟩, hr => by
    rw [runAll_cons]
    exact runAll_portable ops hops (portable_run op hop hr)

end SessionOp

/-! ## Version documents of a session -/

/-- The version document of an artifact is written from the history of its versioned node. -/
theorem content_versions {tree : Node} {a : Artifact} {p : String} {prov : Provenance}
    {data : List UInt8} (ha : a.source = .versions p prov) (h : a.content tree = .ok data) :
    ∃ hist, versionHistoryIn tree (prov.versionedPath p) = .ok (some hist) ∧
      data = Text.utf8Bytes (versionsDocument p hist) := by
  unfold Artifact.content at h
  rw [ha] at h
  dsimp only at h
  cases hv : versionHistoryIn tree (prov.versionedPath p) with
  | error e =>
    rw [hv] at h
    cases h
  | ok found =>
    rw [hv] at h
    cases found with
    | none => cases h
    | some hist =>
      injection h with h
      exact ⟨hist, rfl, h.symm⟩

/-- A history is found only for a versionable node with an identifier. -/
theorem versionHistoryIn_eq_some {tree hist : Node} {path : String}
    (h : versionHistoryIn tree path = .ok (some hist)) :
    ∃ n id, tree.descendant? path = some n ∧ n.isNodeType Known.mixVersionable = true ∧
      n.identifier? = some id := by
  unfold versionHistoryIn nodeAt at h
  cases hn : tree.descendant? path with
  | none =>
    rw [hn] at h
    cases h
  | some n =>
    rw [hn] at h
    simp only [bind, Except.bind] at h
    cases hver : n.isNodeType Known.mixVersionable with
    | false =>
      rw [hver] at h
      cases h
    | true =>
      cases hid : n.identifier? with
      | none =>
        rw [hver, hid] at h
        cases h
      | some id => exact ⟨n, id, rfl, hver, hid⟩

/-- A stored history is named by the identifier it is stored under. -/
theorem name_of_storedHistory? {root h : Node} {id : String}
    (hh : storedHistory? root id = some h) : h.name = id := by
  obtain ⟨st, -, hst⟩ := Option.bind_eq_some_iff.mp hh
  rw [Path.versionHistoryPath, descendAlong_append] at hst
  obtain ⟨m, -, hm⟩ := Option.bind_eq_some_iff.mp hst
  have hc : m.child? id = some h := by simpa using hm
  exact name_of_child? hc

/-- The history found for a node outside the system node of a portable tree is stored under
the node's identifier, and a version document carries it. -/
theorem Node.HistoriesPortable.history_readable {root hist : Node} {path : String}
    (hr : root.HistoriesPortable L) (hout : Path.OutsideSystem path)
    (h : versionHistoryIn root path = .ok (some hist)) :
    ∃ id, (root.descendant? path).bind Node.identifier? = some id ∧
      storedHistory? root id = some hist ∧ hist.HistoryReadable L := by
  obtain ⟨n, id, hn, hver, hid⟩ := versionHistoryIn_eq_some h
  have hfit := (hr.ids.descendAlong hout hn).identifier hid
  rw [versionHistoryIn_eq_descendAlong hn hver hid hfit.validName] at h
  have hstored : storedHistory? root id = some hist := by
    injection h
  obtain ⟨st, hst, hhist⟩ := Option.bind_eq_some_iff.mp hstored
  have hdepth := hr.carried st hst
  rw [← length_versionHistoryPath hfit.length_le] at hdepth
  refine ⟨id, ?_, hstored, hdepth.descendAlong _ hhist⟩
  rw [hn]
  exact hid

/-- With no label name that is a namespace key, the children of a readable history are kept as
they are. -/
theorem Node.HistoryReadable.map_dropNamespaceLike {h : Node}
    (hh : h.HistoryReadable fun a => isNamespaceKey a = false) :
    h.children.map Node.dropNamespaceLike = h.children := by
  conv_rhs => rw [← List.map_id h.children]
  refine List.map_congr_left fun c hc => ?_
  rcases hh.child c hc with hl | hv
  · exact Node.dropNamespaceLike_eq_self_of_key fun q hq => (hl.label q hq).1
  · exact Node.dropNamespaceLike_eq_self hv.not_xmlns

theorem property?_versionableUuid_importedHistory (h : Node) (hid v : String) :
    (h.importedHistory hid v).property? Known.versionableUuid =
      some (Property.ofString Known.versionableUuid v) := by
  have hne : Known.uuid ≠ Known.versionableUuid := by decide +kernel
  simp [Node.importedHistory, Node.property?, findProperty?, Property.ofString, hne]

/-- A child with a property that reads as a namespace declaration is not kept as it is. -/
theorem map_dropNamespaceLike_ne {cs : List Node} {c : Node} (hc : c ∈ cs) {q : Property}
    (hq : q ∈ c.properties) (hns : q.namespaceLike = true) :
    cs.map Node.dropNamespaceLike ≠ cs := by
  intro heq
  have hself : ∀ d ∈ cs, d.dropNamespaceLike = d :=
    (List.map_inj_left (g := id)).mp (heq.trans (List.map_id cs).symm)
  have hkept : q ∈ c.dropNamespaceLike.properties := by
    rw [hself c hc]
    exact hq
  simp [Node.dropNamespaceLike, hns] at hkept

theorem storedHistory?_emptyRoot (id : String) : storedHistory? emptyRoot id = none := by
  obtain ⟨b, rest, hpath⟩ := List.exists_cons_of_ne_nil (versionHistoryPath_ne_nil id)
  rw [storedHistory?, hpath]
  rfl

theorem creationMoment_valid : creationMoment.Valid := by
  constructor <;> decide

/-- Along a session on a new repository whose operations are portable, with label names that
are no namespace keys, the version document written for a node outside the system
node rebuilds the node's history in every repository without a history of its identifier:
reading it succeeds and stores a history with the same name, the same versionable identifier
and the same children. -/
theorem versionDocument_rebuilds_history (issued : Nat) {clock : Time.Timestamp}
    (hv : clock.Valid) {ops : List SessionOp}
    (hops : SessionOp.PortableRun (fun label => isNamespaceKey label = false) ops
      (Repository.ofRoot emptyRoot issued clock))
    {p : String} (hout : Path.OutsideSystem p) {a : Artifact} (ha : a.source = .versions p .node)
    {data : List UInt8}
    (hdata : a.content (SessionOp.runAll ops (Repository.ofRoot emptyRoot issued clock)).root =
      .ok data) :
    ∃ id h, ((SessionOp.runAll ops (Repository.ofRoot emptyRoot issued clock)).root.descendant?
          p).bind Node.identifier? = some id ∧
      storedHistory? (SessionOp.runAll ops (Repository.ofRoot emptyRoot issued clock)).root id =
        some h ∧
      ∀ target : Repository, storedHistory? target.root id = none →
        ∃ r' h', importVersions data target = .ok true r' ∧
          storedHistory? r'.root id = some h' ∧ h'.name = h.name ∧
          h'.property? Known.versionableUuid = h.property? Known.versionableUuid ∧
          h'.children = h.children := by
  have hR := SessionOp.runAll_portable ops hops (portable_ofRoot_emptyRoot issued hv)
  obtain ⟨hist, hvh, rfl⟩ := content_versions ha hdata
  rw [Provenance.versionedPath, Provenance.relativePath,
    show Path.join p "" = p from if_pos rfl] at hvh
  obtain ⟨id, hid, hstored, hh⟩ := hR.root.history_readable hout hvh
  have hname := name_of_storedHistory? hstored
  refine ⟨id, hist, hid, hstored, fun target hfree => ?_⟩
  obtain ⟨v, r', hvu, himp, -, hnew⟩ :=
    importVersions_versionsDocument hh p target (by rw [hname]; exact hfree)
  rw [hname] at hnew
  exact ⟨r', _, himp, hnew, rfl, by rw [property?_versionableUuid_importedHistory, hvu],
    hh.map_dropNamespaceLike⟩

/-- A page made versionable, its root version labelled `first`: its version document rebuilds
its history in a new repository. -/
theorem labelled_page_history_rebuilds :
    ∃ data, Artifact.content (SessionOp.runAll [.addNode "/" "page" "nt:unstructured",
          .addMixin "/page" Known.mixVersionable, .addVersionLabel "/page" "jcr:rootVersion" "first"]
          (Repository.ofRoot emptyRoot 0 creationMoment)).root
        { relativePath := "", extension := dotVersionsXml, type := .versions,
          serialization := .generic, source := .versions "/page" .node } = .ok data ∧
      ∃ id h, storedHistory? (SessionOp.runAll [.addNode "/" "page" "nt:unstructured",
          .addMixin "/page" Known.mixVersionable, .addVersionLabel "/page" "jcr:rootVersion" "first"]
          (Repository.ofRoot emptyRoot 0 creationMoment)).root id = some h ∧
        ∃ r' h', importVersions data (Repository.ofRoot emptyRoot 0 creationMoment) = .ok true r' ∧
          storedHistory? r'.root id = some h' ∧ h'.children = h.children := by
  -- the serializer is evaluated by the kernel alone
  have hok : (Artifact.content (SessionOp.runAll [.addNode "/" "page" "nt:unstructured",
      .addMixin "/page" Known.mixVersionable, .addVersionLabel "/page" "jcr:rootVersion" "first"]
      (Repository.ofRoot emptyRoot 0 creationMoment)).root
      { relativePath := "", extension := dotVersionsXml, type := .versions,
        serialization := .generic, source := .versions "/page" .node }).toBool = true := by
    decide +kernel
  generalize hres : Artifact.content _ _ = res at hok ⊢
  cases res with
  | error e => cases hok
  | ok data =>
    obtain ⟨id, h, -, hstored, hrebuild⟩ := versionDocument_rebuilds_history 0 creationMoment_valid
      (by exact ⟨(by decide : Path.OutsideSystem (Path.join "/" "page")),
        (by decide : Path.OutsideSystem "/page"), ⟨(by decide : Path.OutsideSystem "/page"),
          by decide +kernel, by decide +kernel, by decide +kernel, by decide +kernel⟩,
        trivial⟩) (by decide) rfl hres
    obtain ⟨r', h', himport, hstored', -, -, hkids⟩ :=
      hrebuild (Repository.ofRoot emptyRoot 0 creationMoment) (storedHistory?_emptyRoot id)
    exact ⟨data, rfl, id, h, hstored, r', h', himport, hstored', hkids⟩

/-- A label whose name reads as a namespace declaration does not come back: the version document
of a page whose root version is labelled `xmlns:x` rebuilds a history with other children. -/
theorem namespace_label_lost :
    ∃ data, Artifact.content (SessionOp.runAll [.addNode "/" "page" "nt:unstructured",
          .addMixin "/page" Known.mixVersionable,
          .addVersionLabel "/page" "jcr:rootVersion" "xmlns:x"]
          (Repository.ofRoot emptyRoot 0 creationMoment)).root
        { relativePath := "", extension := dotVersionsXml, type := .versions,
          serialization := .generic, source := .versions "/page" .node } = .ok data ∧
      ∃ id h, storedHistory? (SessionOp.runAll [.addNode "/" "page" "nt:unstructured",
          .addMixin "/page" Known.mixVersionable,
          .addVersionLabel "/page" "jcr:rootVersion" "xmlns:x"]
          (Repository.ofRoot emptyRoot 0 creationMoment)).root id = some h ∧
        ∃ r' h', importVersions data (Repository.ofRoot emptyRoot 0 creationMoment) = .ok true r' ∧
          storedHistory? r'.root id = some h' ∧ h'.children ≠ h.children := by
  -- the serializer and the label node are evaluated by the kernel alone
  have hok : (Artifact.content (SessionOp.runAll [.addNode "/" "page" "nt:unstructured",
      .addMixin "/page" Known.mixVersionable, .addVersionLabel "/page" "jcr:rootVersion" "xmlns:x"]
      (Repository.ofRoot emptyRoot 0 creationMoment)).root
      { relativePath := "", extension := dotVersionsXml, type := .versions,
        serialization := .generic, source := .versions "/page" .node }).toBool = true := by
    decide +kernel
  have hns : ((versionHistoryIn (SessionOp.runAll [.addNode "/" "page" "nt:unstructured",
      .addMixin "/page" Known.mixVersionable, .addVersionLabel "/page" "jcr:rootVersion" "xmlns:x"]
      (Repository.ofRoot emptyRoot 0 creationMoment)).root "/page").toOption.join.any fun h =>
        h.children.any fun c => c.properties.any (·.namespaceLike)) = true := by
    decide +kernel
  generalize hres : Artifact.content _ _ = res at hok ⊢
  cases res with
  | error e => cases hok
  | ok data =>
    obtain ⟨hist, hvh, rfl⟩ := content_versions rfl hres
    rw [Provenance.versionedPath, Provenance.relativePath,
      show Path.join "/page" "" = "/page" from if_pos rfl] at hvh
    -- every label name admitted, the history is readable, its namespace label included
    obtain ⟨id, -, hstored, hh⟩ := Node.HistoriesPortable.history_readable
      (SessionOp.runAll_portable (L := fun _ => True) _ (by exact ⟨(by decide : Path.OutsideSystem (Path.join "/" "page")),
          (by decide : Path.OutsideSystem "/page"), ⟨(by decide : Path.OutsideSystem "/page"),
            trivial, by decide +kernel, by decide +kernel, by decide +kernel⟩, trivial⟩)
        (portable_ofRoot_emptyRoot 0 creationMoment_valid)).root (by decide) hvh
    have hname := name_of_storedHistory? hstored
    obtain ⟨v, r', -, himport, -, hnew⟩ := importVersions_versionsDocument hh "/page"
      (Repository.ofRoot emptyRoot 0 creationMoment) (by rw [hname]; exact storedHistory?_emptyRoot _)
    rw [hname] at hnew
    rw [hvh] at hns
    simp only [Except.toOption, Option.join_some, Option.any_some, List.any_eq_true] at hns
    obtain ⟨c, hc, q, hq, hq'⟩ := hns
    exact ⟨_, rfl, id, hist, hstored, r', _, himport, hnew,
      map_dropNamespaceLike_ne hc hq hq'⟩

end ContentSync
