import ContentSync.Proofs.StorageTrees
import ContentSync.Proofs.DistinctSiblings

/-!
# Version histories keep their shape

Along a session on a new repository, every version history in the version storage keeps the
shape of one (`VersionGraph`): its versions are the root version, then `1.0`, `1.1`, … in child
order, each linked to the one before and after it, with distinct identifiers, and it has one
label node whose properties, but the node's own identifier, reference its versions. This
holds whatever the session does outside the system node, and whatever versions it creates,
checks in and labels, saves and discards.

The invariant is `HistoriesShaped`: the storage of the transient and of the saved tree has the
shape node by node (`Node.Shaped`), with the identifiers issued so far. Node operations outside
the system node leave the storage as it is; adding a mixin inside the storage changes a node
only as `ChildInfo.Step` allows; and the version operations stage the storage, keep its shape
there (`ensureHistory_run`, `Staged.Shaped.checkin`, `Staged.Shaped.label`) and commit it.

Main statements: `SessionOp.keeps_historiesShaped` (one operation) and
`SessionOp.version_histories_keep_their_shape` (a whole session).
-/

namespace ContentSync

open Node RepoM

/-! ## Paths outside the system node -/

/-- A path that does not lead into the system node. -/
def Path.OutsideSystem (path : String) : Prop :=
  (Path.segments path).head? ≠ some Known.system

instance (path : String) : Decidable (Path.OutsideSystem path) :=
  inferInstanceAs (Decidable (_ ≠ _))

theorem segments_versionStoragePath :
    Path.segments Known.versionStoragePath = [Known.system, Known.versionStorage] := by
  decide

theorem segments_systemPath : Path.segments (Path.join "/" Known.system) = [Known.system] := by
  decide

/-- The names of a path outside the system node, its last name apart. -/
theorem outside_of_append {s : List String} {a : String}
    (h : (s ++ [a]).head? ≠ some Known.system) :
    s.head? ≠ some Known.system ∧ (s = [] → a ≠ Known.system) := by
  cases s with
  | nil => exact ⟨by simp, fun _ ha => h (by simp [ha])⟩
  | cons x s => exact ⟨by simpa using h, fun h => by cases h⟩

theorem child?_appendChild_of_ne {c : Node} {b : String} (h : c.name ≠ b) (n : Node) :
    (appendChild c n).child? b = n.child? b := by
  show (n.children ++ [c]).find? (·.name = b) = n.children.find? (·.name = b)
  rw [List.find?_append]
  cases n.children.find? (·.name = b) with
  | some d => rfl
  | none => simp [h]

/-- An update along a path that does not lead into the system node, and that keeps the system
node of the root when it is made at the root, keeps the version storage. -/
theorem storage_updateAlong {g : Node → Node} (hg : KeepsName g) (root : Node) {t : List String}
    (ht : t.head? ≠ some Known.system)
    (hroot : t = [] → (g root).child? Known.system = root.child? Known.system) :
    (root.updateAlong g t).descendant? Known.versionStoragePath =
      root.descendant? Known.versionStoragePath := by
  unfold Node.descendant?
  rw [segments_versionStoragePath]
  have hchild : ∀ m b, root.descendAlong t = some m → t ++ [b] <+: [Known.system, Known.versionStorage] →
      (g m).child? b = m.child? b := by
    intro m b hm hpre
    obtain ⟨u, hu⟩ := hpre
    -- the update is at the root, and what is looked up there is the system node
    cases t with
    | nil =>
      cases hm
      obtain rfl : b = Known.system := by simpa using congrArg List.head? hu
      exact hroot rfl
    | cons x t =>
      have hx : x = Known.system := by simpa using congrArg List.head? hu
      exact absurd (by simp [hx]) ht
  rcases descendAlong_updateAlong_cases hg root t _ hchild with h | ⟨rfl, -⟩ | ⟨b, v, rfl, -⟩
  · exact h
  · exact absurd rfl ht
  · exact absurd rfl ht

/-! ## The invariant -/

/-- The version storage of the tree, if it has one, has the shape the storage asks for, with
identifiers drawn among the first `N`. -/
def StorageShaped (N : Nat) (root : Node) : Prop :=
  ∀ s, root.descendant? Known.versionStoragePath = some s → s.Shaped N []

theorem StorageShaped.mono {N N' : Nat} {root : Node} (h : StorageShaped N root) (hN : N ≤ N') :
    StorageShaped N' root :=
  fun s hs => (h s hs).mono hN

theorem StorageShaped.updateAlong {g : Node → Node} (hg : KeepsName g) {N : Nat} {root : Node}
    {t : List String} (ht : t.head? ≠ some Known.system)
    (hroot : t = [] → (g root).child? Known.system = root.child? Known.system)
    (h : StorageShaped N root) : StorageShaped N (root.updateAlong g t) := by
  intro s hs
  rw [storage_updateAlong hg root ht hroot] at hs
  exact h s hs

theorem storageShaped_emptyRoot (N : Nat) : StorageShaped N emptyRoot := by
  intro s hs
  have hempty : emptyRoot.descendant? Known.versionStoragePath =
      some (Node.empty Known.versionStorage Known.repVersionStorage) := by
    rfl
  rw [hempty] at hs
  cases hs
  exact .intro (StorageShape.leaf (by decide)) fun _ hc => by cases hc

/-- The transient and the saved tree keep the version storage in shape, with the identifiers
issued so far. -/
structure HistoriesShaped (r : Repository) : Prop where
  root : StorageShaped r.issued r.root
  saved : StorageShaped r.issued r.saved

theorem HistoriesShaped.withRoot {r : Repository} {root : Node} (h : HistoriesShaped r)
    (hroot : StorageShaped r.issued root) : HistoriesShaped { r with root } :=
  ⟨hroot, h.saved⟩

/-- Drawing identifiers keeps the invariant: the bound only grows. -/
theorem HistoriesShaped.withIssued {r : Repository} {k : Nat} (h : HistoriesShaped r)
    (hk : r.issued ≤ k) : HistoriesShaped { r with issued := k } :=
  ⟨h.root.mono hk, h.saved.mono hk⟩

/-! ## Nodes that gain a mixin -/

/-- `y` replaces `m` as adding a mixin does: the name, the type and the children stay, and so
do the properties, but that a node without an identifier may gain one. -/
structure Node.MixinUpdate (m y : Node) : Prop where
  name : y.name = m.name
  type : y.primaryType = m.primaryType
  children : y.children = m.children
  properties : y.properties = m.properties ∨
    m.identifier? = none ∧ ∃ id, y.properties = setPropertyIn (Property.ofString Known.uuid id) m.properties

/-- A node that gains a mixin changes as a history's child may, as long as a version has an
identifier already. -/
theorem Node.MixinUpdate.step {m y : Node} (h : m.MixinUpdate y)
    (hv : m.primaryType = Known.ntVersion →
      ∃ u, m.property? Known.uuid = some (Property.ofString Known.uuid u)) :
    m.info.Step y.info := by
  refine ⟨h.name, h.type, fun ht => ?_, fun q hq => ?_⟩
  · rcases h.properties with hp | ⟨hnone, -⟩
    · exact hp
    · obtain ⟨u, hu⟩ := hv ht
      have : m.identifier? = some u := by
        rw [Node.identifier?, hu]
        rfl
      rw [hnone] at this
      cases this
  · change q ∈ y.properties at hq
    show q ∈ m.properties ∨ q.name = Known.uuid
    rcases h.properties with hp | ⟨-, id, hp⟩
    · exact .inl (hp ▸ hq)
    · rw [hp] at hq
      rcases mem_setPropertyIn hq with rfl | hq
      · exact .inr rfl
      · exact .inl hq

/-- Adding a mixin to a node keeps the storage in shape: above the storage nothing it holds
changes, the storage itself keeps its children, and a node inside it changes as a history's
child may. -/
theorem StorageShaped.mixinUpdate {N : Nat} {root m y : Node} {t : List String}
    (h : StorageShaped N root) (hm : root.descendAlong t = some m) (hy : m.MixinUpdate y) :
    StorageShaped N (root.updateAlong (fun _ => y) t) := by
  -- the replacement is the node renamed to the name it already has
  have hren : root.updateAlong (fun _ => y) t = root.updateAlong (renamedTo y) t := by
    refine updateAlong_congr fun m' hm' => ?_
    rw [hm] at hm'
    cases hm'
    have hname := hy.name
    cases y
    cases hname
    rfl
  rw [hren]
  intro s hs
  unfold Node.descendant? at hs
  have hchild : ∀ m' b, root.descendAlong t = some m' →
      t ++ [b] <+: Path.segments Known.versionStoragePath →
        (renamedTo y m').child? b = m'.child? b := by
    intro m' b hm' _
    rw [hm] at hm'
    cases hm'
    unfold Node.child?
    rw [show (renamedTo y m).children = y.children from rfl, hy.children]
  rcases descendAlong_updateAlong_cases (keepsName_renamedTo y) root t _ hchild with
    heq | ⟨rfl, heq⟩ | ⟨b, v, rfl, heq⟩
  · -- away from the storage
    rw [heq] at hs
    exact h s hs
  · -- the top of the storage itself
    rw [heq, hm] at hs
    cases hs
    exact (h m hm).of_state rfl hy.type hy.children
  · -- a node inside the storage
    obtain ⟨st, hst, rfl⟩ := Option.map_eq_some_iff.mp (heq ▸ hs)
    refine Node.Shaped.updateAlong v (h st hst) fun m' hm' => ?_
    have hm'' : root.descendAlong (Path.segments Known.versionStoragePath ++ b :: v) = some m' := by
      rw [descendAlong_append, hst, Option.bind_some, hm']
    rw [hm] at hm''
    cases hm''
    have hinfo : (renamedTo y m).info = y.info := by
      show (⟨m.name, y.primaryType, y.properties⟩ : ChildInfo) = ⟨y.name, _, _⟩
      rw [hy.name]
    refine ⟨hy.children, hinfo ▸ hy.step fun ht => ?_⟩
    exact Node.Shaped.identifier_of_version v (h st hst) hm' ht

/-! ## Checking in on a staged history -/

namespace Staged

variable {N : Nat} {p : List String}

/-- A staged node is a version exactly when it is typed as one: an untyped node is built
unstructured. -/
theorem info_type_eq_version (c : Staged) :
    c.info.type = Known.ntVersion ↔ c.primaryType = some Known.ntVersion := by
  show c.primaryType.getD Known.ntUnstructured = Known.ntVersion ↔ _
  cases c.primaryType with
  | none => exact ⟨fun h => absurd h (by decide), fun h => by cases h⟩
  | some t => exact ⟨fun h => by rw [← h]; rfl, fun h => Option.some_inj.mp h⟩

theorem map_info_filter_version (cs : List Staged) :
    (cs.filter (·.primaryType = some Known.ntVersion)).map info = versionsOf (cs.map info) := by
  induction cs with
  | nil => rfl
  | cons c cs ih =>
    by_cases hc : c.primaryType = some Known.ntVersion
    · rw [List.filter_cons_of_pos (by simpa using hc), List.map_cons, List.map_cons,
        versionsOf_cons_of_version ((info_type_eq_version c).mpr hc), ih]
    · rw [List.filter_cons_of_neg (by simpa using hc), List.map_cons,
        versionsOf_cons_of_ne (mt (info_type_eq_version c).mp hc), ih]

/-- Only the name, the type and the children of a node matter to the shape. -/
theorem Shaped.of_state {s t : Staged} (h : s.Shaped N p) (hname : t.name = s.name)
    (htype : t.info.type = s.info.type) (hkids : t.children = s.children) : t.Shaped N p :=
  .intro (hkids ▸ h.self.of_self hname htype) fun _ hc => h.child (hkids ▸ hc)

/-- The last version of a staged history: the first child of its name, followed by no version,
and last among the children typed as versions. -/
theorem last_version {cs : List Staged} (h : HistoryInvariant N (cs.map info)) :
    ∃ l₁ v l₂ u preds, cs = l₁ ++ v :: l₂ ∧ (∀ d ∈ l₁, d.name ≠ v.name) ∧
      versionsOf (l₂.map info) = [] ∧ v.info.type = Known.ntVersion ∧ v.info.Links u preds [] ∧
      (cs.filter (·.primaryType = some Known.ntVersion)).getLast? = some v := by
  obtain ⟨i₁, vi, i₂, u, preds, hsplit, hfirst, hi₂, hvt, hv⟩ := h.last_version
  obtain ⟨l₁, rest, rfl, rfl, hrest⟩ := List.map_eq_append_iff.mp hsplit
  obtain ⟨v, l₂, rfl, rfl, rfl⟩ := List.map_eq_cons_iff.mp hrest
  have hl₂ : l₂.filter (·.primaryType = some Known.ntVersion) = [] := by
    rw [← List.map_eq_nil_iff (f := info), map_info_filter_version, hi₂]
  refine ⟨l₁, v, l₂, u, preds, rfl, fun d hd => hfirst d.info (List.mem_map_of_mem hd), hi₂, hvt,
    hv, ?_⟩
  rw [List.filter_append, List.filter_cons_of_pos (by simpa using (info_type_eq_version v).mp hvt),
    hl₂, List.getLast?_append, List.getLast?_singleton]
  rfl

theorem Settled.lookup (names : List String) {s h : Staged} (hs : s.Settled)
    (hh : names.foldl (fun o name => o.bind (·.child? name)) (some s) = some h) : h.Settled :=
  lookup_of_child? (fun hs hc => (hs.child? hc).2) names hs hh

/-- A history has a label node. -/
theorem exists_labels {cs : List Staged} (h : HistoryInvariant N (cs.map info)) :
    ∃ l, cs.find? (·.name = Known.versionLabels) = some l := by
  obtain ⟨us, hg, -⟩ := h.graph
  obtain ⟨l, hl, -⟩ := hg.labels
  have hmem : l ∈ (cs.map info).filter (·.name = Known.versionLabels) := by
    rw [hl]
    exact List.mem_singleton_self l
  obtain ⟨hmem, hname⟩ := List.mem_filter.mp hmem
  obtain ⟨c, hc, rfl⟩ := List.mem_map.mp hmem
  exact Option.isSome_iff_exists.mp (List.find?_isSome.mpr ⟨c, hc, hname⟩)

/-- The last version once it takes `x` as its successor, as a check-in does. -/
theorem info_addSuccessor {v : Staged}
    (h : v.property? Known.successors = some (Property.references Known.successors [])) (x : String) :
    (v.setProperty (Property.references Known.successors
      (((v.property? Known.successors).map Property.valueTexts).getD [] ++ [x]))).info =
        v.info.succeededBy x := by
  rw [h]
  rfl

/-- A new version holding its frozen node. -/
theorem Shaped.version_withFrozen {v fr : Staged} (hv : v.primaryType = some Known.ntVersion)
    (hkids : v.children = []) (hfr : fr.Frozen) :
    (v.withChild Known.frozenNode fun _ => (fr, ())).1.Shaped N p := by
  have hkids' : (v.withChild Known.frozenNode fun _ => (fr, ())).1.children = [fr] := by
    rw [withChild_fst, hkids]
    rfl
  have htype : (v.withChild Known.frozenNode fun _ => (fr, ())).1.info.type = Known.ntVersion := by
    show v.primaryType.getD _ = _
    rw [hv]
    rfl
  refine .intro ⟨fun h => absurd (htype ▸ h) (by decide), fun _ c hc => ?_⟩ fun c hc => ?_
  · rw [hkids', List.map_singleton, List.mem_singleton] at hc
    rw [hc]
    exact hfr.type_ne_version
  · rw [hkids', List.mem_singleton] at hc
    rw [hc]
    exact hfr.shaped

/-- Checking in on a staged history: the new version `w` goes last, under a name no child has,
and the last version `v` is changed by `f` to take `w` as its only successor. -/
theorem Shaped.checkin {h v w : Staged} {l₁ l₂ : List Staged} {u : String} {preds : List String}
    {k N' : Nat} {f : Staged → Staged} (hh : h.Shaped N p) (ht : h.info.type = Known.ntVersionHistory)
    (hsplit : h.children = l₁ ++ v :: l₂) (hfirst : ∀ d ∈ l₁, d.name ≠ v.name)
    (hl₂ : versionsOf (l₂.map info) = []) (hvt : v.info.type = Known.ntVersion)
    (hv : v.info.Links u preds []) (hf : (f v).info = v.info.succeededBy (identifierOf k))
    (hfkids : (f v).children = v.children) (hk : N < k) (hkN : k ≤ N') {a : String}
    (ha : a = versionName ((versionsOf (h.children.map info)).length - 1)) (hwn : w.name = a)
    (hwt : w.info.type = Known.ntVersion) (hw : w.info.Links (identifierOf k) [u] [])
    (hws : w.Shaped N' (p ++ [a])) :
    ((h.withChild a fun _ => (w, ())).1.modifyChild v.name f).Shaped N' p := by
  obtain ⟨hpath, hinv⟩ := hh.self.history ht
  -- no child has the new version's name
  have hnew : ∀ d ∈ h.children, d.name ≠ a := fun d hd =>
    ha ▸ hinv.name_ne_next (List.mem_map_of_mem hd)
  have hkids : ((h.withChild a fun _ => (w, ())).1.modifyChild v.name f).children =
      l₁ ++ f v :: l₂ ++ [w] := by
    show modifyChild.go v.name f (withChild.go a _ h.children).1 = _
    rw [withChild_go_of_forall_ne _ hnew, hsplit, List.append_assoc, List.cons_append,
      modifyChild_go_of_first f hfirst rfl]
    simp
  have hinv' : HistoryInvariant N' ((l₁ ++ f v :: l₂ ++ [w]).map info) := by
    rw [hsplit, List.map_append, List.map_cons] at hinv ha
    rw [List.map_append, List.map_append, List.map_cons, hf, List.map_singleton]
    exact hinv.checkin hl₂ hvt hv hk hkN (hwn.trans ha) hwt hw
  have hfv : (f v).name = v.name := congrArg ChildInfo.name hf
  refine .intro ?_ fun d hd => ?_
  · show StorageShape N' p h.info _
    rw [hkids]
    exact ⟨fun _ => ⟨hpath, hinv'⟩, fun hne => absurd ht hne⟩
  · rw [hkids] at hd
    have hold : ∀ d, d ∈ l₁ ∨ d ∈ l₂ → d.Shaped N' (p ++ [d.name]) := fun d hd =>
      (hh.child (by rw [hsplit]; rcases hd with hd | hd <;> simp [hd])).mono (Nat.le_of_lt (Nat.lt_of_lt_of_le hk hkN))
    simp only [List.mem_append, List.mem_cons, List.not_mem_nil, or_false] at hd
    rcases hd with (hd | rfl | hd) | rfl
    · exact hold d (.inl hd)
    · -- the last version, with its new successor
      rw [hfv]
      refine ((hh.child (by rw [hsplit]; simp)).of_state hfv ?_ hfkids).mono
        (Nat.le_of_lt (Nat.lt_of_lt_of_le hk hkN))
      rw [hf]
      rfl
    · exact hold d (.inr hd)
    · rw [hwn]
      exact hws

/-- Binding a label on a staged history: the label node, the first child of its name, gains a
reference to a version of the history. -/
theorem Shaped.label {h l : Staged} {f : Staged → Staged × Unit} {a u : String}
    (hh : h.Shaped N p) (ht : h.info.type = Known.ntVersionHistory)
    (hl : h.child? Known.versionLabels = some l)
    (hf : (f l).1.info =
      ⟨l.name, l.info.type, setPropertyIn (Property.single a (.reference u)) l.properties⟩)
    (hfkids : (f l).1.children = l.children)
    (hu : ∃ v ∈ versionsOf (h.children.map info),
      findProperty? Known.uuid v.properties = some (Property.ofString Known.uuid u)) :
    (h.withChild Known.versionLabels f).1.Shaped N p := by
  obtain ⟨hpath, hinv⟩ := hh.self.history ht
  obtain ⟨hln, l₁, l₂, hsplit, hfirst⟩ := List.find?_eq_some_iff_append.mp hl
  have hln : l.name = Known.versionLabels := by simpa using hln
  have hfirst : ∀ d ∈ l₁, d.name ≠ Known.versionLabels := fun d hd => by simpa using hfirst d hd
  have hkids : (h.withChild Known.versionLabels f).1.children = l₁ ++ (f l).1 :: l₂ := by
    show (withChild.go Known.versionLabels f h.children).1 = _
    rw [hsplit, withChild_go_of_first f hfirst hln]
  have hfn : (f l).1.name = l.name := congrArg ChildInfo.name hf
  have hft : (f l).1.info.type = l.info.type := by rw [hf]
  have hinv' : HistoryInvariant N ((l₁ ++ (f l).1 :: l₂).map info) := by
    rw [hsplit, List.map_append, List.map_cons] at hinv hu
    rw [List.map_append, List.map_cons]
    exact hinv.label hln hfn (hft ▸ hinv.type_ne_of_versionLabels (by simp) hln) (a := a)
      (by rw [hf]; rfl) hu
  refine .intro ?_ fun d hd => ?_
  · show StorageShape N p h.info _
    rw [hkids]
    exact ⟨fun _ => ⟨hpath, hinv'⟩, fun hne => absurd ht hne⟩
  · rw [hkids] at hd
    rcases List.mem_append.mp hd with hd | hd
    · exact hh.child (by rw [hsplit]; exact List.mem_append_left _ hd)
    · rcases List.mem_cons.mp hd with rfl | hd
      · rw [hfn]
        exact (hh.child (by rw [hsplit]; simp)).of_state hfn hft hfkids
      · exact hh.child (by rw [hsplit]; simp [hd])

end Staged

namespace RepoM

/-! ## Operations on nodes outside the system node -/

theorem keeps_modifyNode_outside {path : String} {g : Node → Node} (hg : KeepsName g)
    (hkids : ∀ m, (g m).children = m.children) (hout : Path.OutsideSystem path) :
    Keeps HistoriesShaped (modifyNode path g) := by
  intro r hr
  rw [final_modifyNode]
  exact hr.withRoot (hr.root.updateAlong hg hout fun _ => by unfold Node.child?; rw [hkids])

/-- Appending a child whose path leads outside the system node. -/
theorem keeps_modifyNode_appendChild {parent : String} {c : Node}
    (hout : (Path.segments parent ++ [c.name]).head? ≠ some Known.system) :
    Keeps HistoriesShaped (modifyNode parent (appendChild c)) := by
  intro r hr
  obtain ⟨hpar, hname⟩ := outside_of_append hout
  rw [final_modifyNode]
  exact hr.withRoot (hr.root.updateAlong (keepsName_appendChild c) hpar fun hnil =>
    child?_appendChild_of_ne (hname hnil) _)

theorem keeps_addNode_outside {parent name ty : String}
    (hout : Path.OutsideSystem (Path.join parent name)) :
    Keeps HistoriesShaped (addNode parent name ty) := by
  intro r hr
  rcases final_addNode parent name ty r with h | ⟨hv, h⟩
  · rw [h]
    exact hr
  · rw [h, ← final_modifyNode]
    unfold Path.OutsideSystem at hout
    rw [Path.segments_join_validName parent hv] at hout
    exact keeps_modifyNode_appendChild hout r hr

theorem keeps_removeNode_outside {path : String} (hout : Path.OutsideSystem path) :
    Keeps HistoriesShaped (removeNode path) := by
  intro r hr
  rcases final_removeNode path r with h | ⟨s, a, hs, h⟩
  · rw [h]
    exact hr
  · rw [h]
    unfold Path.OutsideSystem at hout
    rw [hs] at hout
    obtain ⟨hpar, hname⟩ := outside_of_append hout
    exact hr.withRoot (hr.root.updateAlong (keepsName_eraseChild a) hpar fun hnil =>
      child?_eraseChild_of_ne (hname hnil) _)

/-- A move erases the source and appends the node under the destination's last name, both
outside the system node. -/
theorem keeps_moveNode_outside {src dest : String} (hsrc : Path.OutsideSystem src)
    (hdest : Path.OutsideSystem dest) : Keeps HistoriesShaped (moveNode src dest) := by
  unfold moveNode
  dsimp only
  split
  · exact keeps_throw_bind _ _
  · rename_i hnames
    have hname : Path.name dest ≠ "" := fun h => hnames (Or.inr (by rw [h]; rfl))
    split
    · exact keeps_throw_bind _ _
    · refine (keeps_nodeExists dest).bind fun _ => ?_
      split
      · exact keeps_throw_bind _ _
      · refine (keeps_nodeExists _).bind fun _ => ?_
        split
        · refine (keeps_requireNode src).bind fun moved =>
            (keeps_removeNode_outside hsrc).bind fun _ => ?_
          have hout := hdest
          unfold Path.OutsideSystem at hout
          rw [Path.segments_eq_parent_name hname] at hout
          exact keeps_modifyNode_appendChild (c := { moved with name := Path.name dest }) hout
        · exact keeps_throw_bind _ _

/-! ## Drawing identifiers -/

theorem freshIdentifier_run (r : Repository) :
    freshIdentifier r = .ok (identifierOf (r.issued + 1)) { r with issued := r.issued + 1 } :=
  rfl

/-- A version once initialized: a version with the next identifier, the given predecessors
and no successor, and its children as they were. -/
theorem initVersion_run (preds : List String) (v : Staged) (r : Repository) :
    ∃ v', initVersion preds v r = .ok v' { r with issued := r.issued + 1 } ∧
      v'.name = v.name ∧ v'.primaryType = some Known.ntVersion ∧ v'.children = v.children ∧
      v'.info.Links (identifierOf (r.issued + 1)) preds [] := by
  refine ⟨_, rfl, rfl, rfl, rfl, ?_⟩
  refine ⟨?_, ?_, ?_⟩
  · show findProperty? Known.uuid (setPropertyIn _ (setPropertyIn _ (setPropertyIn _
      (setPropertyIn (Property.ofString Known.uuid _) v.properties)))) = _
    rw [findProperty?_setPropertyIn_of_ne (show Known.successors ≠ Known.uuid by decide),
      findProperty?_setPropertyIn_of_ne (show Known.predecessors ≠ Known.uuid by decide),
      findProperty?_setPropertyIn_of_ne (show Known.created ≠ Known.uuid by decide)]
    exact findProperty?_setPropertyIn_of_eq (by rfl) _
  · show findProperty? Known.predecessors (setPropertyIn _
      (setPropertyIn (Property.references Known.predecessors preds) _)) = _
    rw [findProperty?_setPropertyIn_of_ne (show Known.successors ≠ Known.predecessors by decide)]
    exact findProperty?_setPropertyIn_of_eq (by rfl) _
  · exact findProperty?_setPropertyIn_of_eq (by rfl) _

/-! ## Frozen copies -/

mutual
/-- Freezing a node into a target whose children are frozen draws identifiers and makes a
frozen copy. -/
theorem freeze_run (withContent : Bool) : ∀ (target : Staged) (source : Node) (r : Repository),
    (∀ c ∈ target.children, c.Frozen) →
      ∃ t k, freeze withContent target source r = .ok t { r with issued := k } ∧
        r.issued ≤ k ∧ t.Frozen
  | target, ⟨name, ty, mixins, props, cs⟩, r, ht => by
    rw [freeze, bind_of_ok (freshIdentifier_run r)]
    dsimp only
    -- the target with its own fields set is a frozen node over the target's children
    have hown : ∀ t : Staged, t.primaryType = some Known.ntFrozenNode →
        t.children = target.children → t.Frozen :=
      fun t htype hkids => .intro htype (hkids ▸ ht)
    split
    · refine ⟨_, r.issued + 1, pure_run _, Nat.le_succ _, ?_⟩
      exact hown _ (by split <;> rfl) (by split <;> rfl)
    · refine (freezeChildren_run _ cs _ ?_).imp fun t' ⟨k, hrun, hk, ht'⟩ =>
        ⟨k, hrun, Nat.le_trans (Nat.le_succ _) hk, ht'⟩
      exact Staged.Frozen.foldl_setProperty _ (hown _ (by split <;> rfl) (by split <;> rfl))

theorem freezeChildren_run : ∀ (t : Staged) (cs : List Node) (r : Repository), t.Frozen →
    ∃ t' k, freezeChildren t cs r = .ok t' { r with issued := k } ∧ r.issued ≤ k ∧ t'.Frozen
  | t, [], r, ht => ⟨t, r.issued, rfl, Nat.le_refl _, ht⟩
  | t, c :: cs, r, ht => by
    rw [freezeChildren]
    obtain ⟨frozen, k, hrun, hk, hf⟩ := freeze_run true _ c r (ht.child?_getD c.name)
    rw [bind_of_ok hrun]
    dsimp only
    refine (freezeChildren_run _ cs _ ?_).imp fun t' ⟨k', hrun', hk', ht'⟩ =>
      ⟨k', hrun', Nat.le_trans hk hk', ht'⟩
    exact ht.withChild fun _ => hf
end

/-! ## Creating a history -/

/-- The bucket of a name below a settled node, as a history's creation takes it: the child of
that name, or a new blank bucket. -/
theorem bucket_shaped {N : Nat} {p : List String} {s : Staged} (hs : s.Shaped N p)
    (hset : s.Settled) (b : String) :
    (((s.child? b).getD (Staged.blank b)).typeIfFresh Known.repVersionStorage).Shaped N (p ++ [b]) ∧
      (((s.child? b).getD (Staged.blank b)).typeIfFresh Known.repVersionStorage).Settled := by
  cases hc : s.child? b with
  | none =>
    exact ⟨.intro (StorageShape.leaf (show Known.repVersionStorage ≠ Known.ntVersionHistory by
      decide)) (fun _ h => by cases h), Staged.settled_of_children_nil rfl⟩
  | some c =>
    obtain ⟨hfresh, hcset⟩ := hset.child? hc
    rw [Option.getD_some, Staged.info_typeIfFresh_of_settled hfresh]
    exact ⟨hs.child? hc, hcset⟩

/-- Creating the history of `id` below the buckets on the way to it: the staged storage keeps
its shape, with the identifiers drawn, and the node where it starts keeps its own fields. -/
theorem descend_run (node : Node) (id : String) :
    ∀ (names p : List String) (s : Staged) (r : Repository),
      p ++ names = Path.versionBuckets id → s.Shaped r.issued p → s.Settled →
        ∃ s' created k, ensureHistory.descend node id names s r =
          .ok (s', created) { r with issued := k } ∧ r.issued ≤ k ∧ s'.Shaped k p ∧ s'.info = s.info
  | [], p, s, r, hp, hs, hset => by
    rw [List.append_nil] at hp
    rw [ensureHistory.descend]
    dsimp only
    split
    · -- the history is there already: nothing changes
      rename_i hthere
      obtain ⟨c, hc⟩ : ∃ c, s.child? id = some c := by
        cases hc : s.child? id with
        | none =>
          rw [hc] at hthere
          simp [Staged.blank] at hthere
        | some c => exact ⟨c, rfl⟩
      refine ⟨_, false, r.issued, pure_run _, Nat.le_refl _, ?_, rfl⟩
      exact hs.withChild (fun c' hc' => ⟨.refl _, hs.child? hc'⟩) fun hnone => by
        rw [hc] at hnone
        cases hnone
    · -- a new history: its label node, then its root version holding a frozen node
      rename_i hnew
      have hnone : s.child? id = none := by
        cases hc : s.child? id with
        | none => rfl
        | some c =>
          rw [hc] at hnew
          exact absurd (hset.child? hc).1 (by simpa using hnew)
      rw [bind_of_ok (freshIdentifier_run r)]
      obtain ⟨rv, hrv, hrvname, hrvtype, hrvkids, hrvlinks⟩ :=
        initVersion_run [] (Staged.blank Known.rootVersion) { r with issued := r.issued + 1 }
      rw [bind_of_ok hrv]
      obtain ⟨fr, k, hfr, hk, hfrozen⟩ := freeze_run false (Staged.blank Known.frozenNode) node
        { r with issued := r.issued + 1 + 1 } fun _ h => by cases h
      rw [bind_of_ok hfr]
      dsimp only at hk
      refine ⟨_, true, k, pure_run _, by omega, ?_, rfl⟩
      rw [hnone, Option.getD_none]
      -- the root version holds the frozen node
      have hroot : (rv.withChild Known.frozenNode fun _ => (fr, ())).1.Shaped k
          (p ++ [id] ++ [Known.rootVersion]) := by
        have hkids : (rv.withChild Known.frozenNode fun _ => (fr, ())).1.children = [fr] := by
          rw [Staged.withChild_fst, hrvkids]
          rfl
        have htype : (rv.withChild Known.frozenNode fun _ => (fr, ())).1.info.type =
            Known.ntVersion := by
          show rv.primaryType.getD _ = _
          rw [hrvtype]
          rfl
        refine .intro ⟨fun h => absurd (htype ▸ h) (by decide), fun _ c hc => ?_⟩ fun c hc => ?_
        · rw [hkids, List.map_singleton, List.mem_singleton] at hc
          rw [hc]
          exact hfrozen.type_ne_version
        · rw [hkids, List.mem_singleton] at hc
          rw [hc]
          exact hfrozen.shaped
      refine (hs.mono (by omega)).withChild (fun c hc => by rw [hnone] at hc; cases hc)
        fun _ => ⟨rfl, show Known.ntVersionHistory ≠ Known.ntVersion by decide, fun hh => ?_, ?_⟩
      · -- a history below a history sits in buckets named after it
        obtain ⟨hpath, -⟩ := hs.self.history hh
        rw [hp] at hpath
        exact not_versionLike_of_nested hpath
      · refine .intro ⟨fun _ => ⟨by rw [hp]; rfl, ?_⟩, fun h => absurd rfl h⟩ fun c hc => ?_
        · -- the label node and the root version, whose identifier was drawn second
          have hinfo : (rv.withChild Known.frozenNode fun _ => (fr, ())).1.info =
              ⟨Known.rootVersion, Known.ntVersion, rv.properties⟩ := by
            show (⟨rv.name, rv.primaryType.getD _, rv.properties⟩ : ChildInfo) = _
            rw [hrvname, hrvtype]
            rfl
          have hlinks := hrvlinks
          rw [show rv.info = (rv.withChild Known.frozenNode fun _ => (fr, ())).1.info from rfl,
            hinfo] at hlinks
          show HistoryInvariant k [⟨Known.versionLabels, Known.ntVersionLabels, []⟩,
            (rv.withChild Known.frozenNode fun _ => (fr, ())).1.info]
          rw [hinfo]
          exact HistoryInvariant.created (by omega) hlinks
        · have hne : Known.versionLabels ≠ Known.rootVersion := by decide
          simp only [Staged.withChild_fst, Staged.withChild_go_nil, Staged.withChild_go_cons,
            Staged.setProperty, Staged.blank, hne, if_false, List.mem_cons, List.not_mem_nil,
            or_false] at hc
          rcases hc with rfl | rfl
          · exact .intro (StorageShape.leaf (show Known.ntVersionLabels ≠ Known.ntVersionHistory by
              decide)) fun _ h => by cases h
          · have hname : rv.name = Known.rootVersion := hrvname
            simpa only [Staged.withChild_fst, hname] using hroot
  | bucket :: rest, p, s, r, hp, hs, hset => by
    rw [ensureHistory.descend]
    dsimp only
    obtain ⟨hbs, hbset⟩ := bucket_shaped hs hset bucket
    obtain ⟨inner, created, k, hrun, hk, hinner, hinfo⟩ :=
      descend_run node id rest (p ++ [bucket]) _ r (by rw [List.append_assoc]; exact hp) hbs hbset
    rw [bind_of_ok hrun]
    refine ⟨_, created, k, pure_run _, hk, ?_, rfl⟩
    refine (hs.mono hk).withChild (fun c hc => ?_) fun hnone => ?_
    · -- the bucket was there: it keeps its own fields
      rw [hc, Option.getD_some, Staged.info_typeIfFresh_of_settled (hset.child? hc).1] at hinfo
      refine ⟨?_, hinner⟩
      rw [hinfo]
      exact .refl _
    · -- a new bucket: its name has two characters
      rw [hnone] at hinfo
      have hlen : bucket.length = 2 :=
        length_of_mem_versionBuckets (hp ▸ List.mem_append_right _ List.mem_cons_self)
      refine ⟨congrArg ChildInfo.name hinfo, ?_, fun _ => ⟨not_versionLike_of_length_two hlen,
        ne_versionLabels_of_length_two hlen⟩, hinner⟩
      rw [hinfo]
      show Known.repVersionStorage ≠ Known.ntVersion
      decide

theorem ensureHistory_run (storage : Staged) (node : Node) (id : String) (r : Repository)
    (hs : storage.Shaped r.issued []) (hset : storage.Settled) :
    ∃ s' created k, ensureHistory storage node id r = .ok (s', created) { r with issued := k } ∧
      r.issued ≤ k ∧ s'.Shaped k [] ∧ s'.info = storage.info :=
  descend_run node id _ [] storage r rfl hs hset

/-! ## Staging and committing the storage -/

/-- The staged storage of a repository in shape is in shape, and it is settled: a copy of the
stored one, or a new empty one. -/
theorem versionStorage_run {r : Repository} (h : StorageShaped r.issued r.root) :
    ∃ s, versionStorage r = .ok s r ∧ s.Shaped r.issued [] ∧ s.Settled := by
  unfold versionStorage
  rw [bind_of_ok get_run]
  cases hd : r.root.descendant? Known.versionStoragePath with
  | some st => exact ⟨_, pure_run _, Staged.shaped_ofNode (h st hd), Staged.settled_ofNode st⟩
  | none =>
    exact ⟨_, pure_run _, .intro (StorageShape.leaf (show Known.repVersionStorage ≠
      Known.ntVersionHistory by decide)) (fun _ h => by cases h), Staged.settled_of_children_nil rfl⟩

theorem child?_putChild_self (c n : Node) : (n.putChild c).child? c.name = some c := by
  show (putChild.go c n.children).find? (·.name = c.name) = some c
  induction n.children with
  | nil => simp [putChild.go]
  | cons d ds ih =>
    rw [putChild.go]
    split
    · simp
    · rename_i hne
      simpa [hne] using ih

/-- The storage put below the system node, found there. -/
theorem descendant?_putStorage {root sys : Node} (hsys : root.descendAlong [Known.system] = some sys)
    {built : Node} (hb : built.name = Known.versionStorage) :
    (root.updateAlong (·.putChild built) [Known.system]).descendant? Known.versionStoragePath =
      some built := by
  unfold Node.descendant?
  rw [segments_versionStoragePath, show [Known.system, Known.versionStorage] =
    [Known.system] ++ [Known.versionStorage] from rfl,
    descendAlong_updateAlong_append (f := (·.putChild built)) (fun _ => rfl), hsys, Option.bind_some, descendAlong_cons,
    ← hb, child?_putChild_self]
  rfl

/-- A commit puts the built storage in place, the system node being added when missing; it
changes nothing but the transient tree. -/
theorem commitVersionStorage_run (storage : Staged) (r : Repository) :
    ∃ root, commitVersionStorage storage r = .ok () { r with root } ∧
      root.descendant? Known.versionStoragePath = some { storage.build with name := Known.versionStorage } := by
  unfold commitVersionStorage
  rw [bind_of_ok get_run]
  dsimp only
  split
  · -- no system node yet: it is added last, and found there
    rename_i hnone
    have hchild : r.root.child? Known.system = none :=
      (child?_eq_none_iff _ _).mpr (by simpa using hnone)
    have hsys : ({ r.root with children := r.root.children ++
        [Node.empty Known.system Known.repSystem] } : Node).descendAlong [Known.system] =
          some (Node.empty Known.system Known.repSystem) := by
      unfold Node.child? at hchild
      simp [Node.child?, List.find?_append, hchild, Node.empty]
    rw [bind_of_ok (set_run _)]
    exact ⟨_, modifyNode_run segments_systemPath hsys, descendant?_putStorage hsys rfl⟩
  · rename_i hsome
    obtain ⟨sys, hsys⟩ := exists_child?_of_hasChild (by simpa using hsome)
    have hsys' : r.root.descendAlong [Known.system] = some sys := by simp [hsys]
    exact ⟨_, modifyNode_run segments_systemPath hsys', descendant?_putStorage hsys' rfl⟩

/-- Committing a storage in shape keeps the invariant. -/
theorem historiesShaped_commit {r : Repository} (hr : HistoriesShaped r) {storage : Staged}
    (hs : storage.Shaped r.issued []) : HistoriesShaped (final (commitVersionStorage storage r)) := by
  obtain ⟨root, hrun, hroot⟩ := commitVersionStorage_run storage r
  rw [hrun, final_ok]
  refine hr.withRoot fun s hs' => ?_
  rw [hroot] at hs'
  cases hs'
  exact hs.build.rename _

/-- Creating the version history of a node keeps the invariant. -/
theorem keeps_history (n : Node) (id : String) :
    Keeps HistoriesShaped (do
      let storage ← versionStorage
      let (storage, created) ← ensureHistory storage n id
      if created then commitVersionStorage storage) := by
  intro r hr
  obtain ⟨s, hvs, hs, hset⟩ := versionStorage_run hr.root
  rw [bind_of_ok hvs]
  obtain ⟨s', created, k, hrun, hk, hs', -⟩ := ensureHistory_run s n id r hs hset
  rw [bind_of_ok hrun]
  dsimp only
  split
  · exact historiesShaped_commit (hr.withIssued hk) hs'
  · exact hr.withIssued hk

theorem historiesShaped_mixinUpdate {r : Repository} (hr : HistoriesShaped r) {path : String}
    {m y : Node} (hm : r.root.descendAlong (Path.segments path) = some m) (hy : m.MixinUpdate y) :
    HistoriesShaped (final (modifyNode path (fun _ => y) r)) := by
  rw [final_modifyNode]
  exact hr.withRoot (hr.root.mixinUpdate hm hy)

/-- What adding a mixin does once the node is written back: a versionable node with an
identifier gets its history. -/
theorem keeps_versionable (path mixin : String) (n : Node) :
    Keeps HistoriesShaped (do
      if mixin ≠ Known.mixVersionable then return
      let id ← match n.identifier? with
        | some id => pure id
        | none => throw (.repository s!"{path} has no identifier")
      let storage ← versionStorage
      let (storage, created) ← ensureHistory storage n id
      if created then commitVersionStorage storage : RepoM Unit) := by
  split
  · exact keeps_pure _
  · split
    · exact (keeps_pure _).bind fun id => keeps_history n id
    · exact keeps_throw_bind _ _

/-- Adding a mixin keeps the invariant, also to a node inside the storage: the node changes
as `Node.MixinUpdate` allows. -/
theorem keeps_addMixin (path mixin : String) : Keeps HistoriesShaped (addMixin path mixin) := by
  intro r hr
  unfold addMixin
  refine final_bind (keeps_requireNode path r hr) fun n r₁ hn _ => ?_
  obtain ⟨hn, hr₁⟩ := (requireNode_eq_ok rfl).mp hn
  subst hr₁
  dsimp only
  -- the node with the mixin keeps all the shape reads of it
  obtain ⟨y, hy, hupd⟩ : ∃ y, (if n.mixins.contains mixin then n
      else { n with mixins := n.mixins ++ [mixin] }) = y ∧ n.MixinUpdate y ∧ y.properties = n.properties :=
    ⟨_, rfl, ⟨by split <;> rfl, by split <;> rfl, by split <;> rfl, .inl (by split <;> rfl)⟩,
      by split <;> rfl⟩
  obtain ⟨hupd, hprops⟩ := hupd
  rw [hy]
  split
  · -- no identifier yet: one is drawn and set
    rename_i hcond
    have hnone : n.identifier? = none := by
      have h := hcond.2
      unfold Node.identifier? Node.property? at h ⊢
      rw [hprops] at h
      simpa using h
    refine final_bind (hr.withIssued (Nat.le_succ r₁.issued)) fun id r₂ hrun hr₂ => ?_
    rw [freshIdentifier_run] at hrun
    cases hrun
    rw [bind_of_ok (pure_run _)]
    have hid : n.MixinUpdate (y.setProperty (Property.ofString Known.uuid (identifierOf (r₁.issued + 1)))) :=
      ⟨hupd.name, hupd.type, hupd.children, .inr ⟨hnone, _, by rw [← hprops]; rfl⟩⟩
    exact final_bind (historiesShaped_mixinUpdate hr₂ hn hid) fun _ r₃ _ hr₃ =>
      keeps_versionable path mixin _ r₃ hr₃
  · rw [bind_of_ok (pure_run _)]
    exact final_bind (historiesShaped_mixinUpdate hr hn hupd) fun _ r₃ _ hr₃ =>
      keeps_versionable path mixin _ r₃ hr₃

theorem stagedIdentifier_run {s : Staged} {u : String}
    (h : findProperty? Known.uuid s.properties = some (Property.ofString Known.uuid u)) (r : Repository) :
    stagedIdentifier s r = .ok u r := by
  unfold stagedIdentifier Staged.property?
  rw [h]
  rfl

theorem keeps_checkin (path : String) : Keeps HistoriesShaped (checkin path) := by
  unfold checkin
  refine (keeps_requireNode path).bind fun n => ?_
  dsimp only
  split
  · exact keeps_throw_bind _ _
  · split
    · refine (keeps_pure _).bind fun id => ?_
      intro r hr
      obtain ⟨s, hvs, hs, hset⟩ := versionStorage_run hr.root
      rw [bind_of_ok hvs]
      obtain ⟨s', created, k, hrun, hk, hs', -⟩ := ensureHistory_run s n id r hs hset
      rw [bind_of_ok hrun]
      have hr₁ := hr.withIssued hk
      dsimp only
      generalize hlook : (Path.versionHistoryPath id).foldl (fun o name => o.bind (·.child? name))
        (some s') = look
      cases look with
      | none => exact hr₁
      | some h₀ =>
      have hh₀ := hs'.lookup _ hlook
      rw [Option.getD_some]
      by_cases ht : h₀.info.type = Known.ntVersionHistory
      case neg =>
        -- a node there that is no history holds no version: the check-in fails
        have hnone : h₀.children.filter (·.primaryType = some Known.ntVersion) = [] := by
          rw [← List.map_eq_nil_iff (f := Staged.info), Staged.map_info_filter_version]
          exact List.filter_eq_nil_iff.mpr fun c hc => by
            simpa using hh₀.self.plain ht c hc
        rw [hnone]
        exact hr₁
      case pos =>
      have hinv := (hh₀.self.history ht).2
      obtain ⟨l₁, v, l₂, u, preds, hsplit, hfirst, hl₂, hvt, hv, hlast⟩ := Staged.last_version hinv
      rw [hlast]
      dsimp only
      rw [bind_of_ok (pure_run _), bind_of_ok (stagedIdentifier_run hv.1 _)]
      -- the new version's name, which no child has
      have hname : toString "1." ++ toString ((h₀.children.filter
          (·.primaryType = some Known.ntVersion)).length - 1) =
            versionName ((versionsOf (h₀.children.map Staged.info)).length - 1) := by
        rw [← Staged.map_info_filter_version, List.length_map]
        rfl
      have hnew : h₀.child? (versionName ((versionsOf (h₀.children.map Staged.info)).length - 1)) =
          none :=
        List.find?_eq_none.mpr fun d hd => by
          have hne : d.name ≠ _ := hinv.name_ne_next (List.mem_map_of_mem hd)
          simpa using hne
      rw [hname, hnew, Option.getD_none]
      obtain ⟨v', hrv, hvn, hvt', hvk, hvl⟩ := initVersion_run [u] (Staged.blank _) _
      rw [bind_of_ok hrv]
      dsimp only
      have hfz : v'.child? Known.frozenNode = none := by
        unfold Staged.child?
        rw [hvk]
        rfl
      rw [hfz, Option.getD_none]
      obtain ⟨fr, k₂, hfr, hk₂, hfrozen⟩ :=
        freeze_run true (Staged.blank Known.frozenNode) n _ fun _ h => by cases h
      rw [bind_of_ok hfr]
      dsimp only
      rw [bind_of_ok (stagedIdentifier_run (s := (v'.withChild Known.frozenNode fun _ => (fr, ())).1)
        hvl.1 _)]
      dsimp only
      have hk₂' : k + 1 ≤ k₂ := hk₂
      refine final_bind (historiesShaped_commit (hr.withIssued (by omega : r.issued ≤ k₂)) ?_)
        fun _ _ _ h => h
      -- the history with the new version put back in the storage
      rw [List.nil_append] at hh₀
      refine hs'.mono (Nat.le_trans (Nat.le_succ k) hk₂') |>.putAlong _ hlook rfl ?_
      rw [List.nil_append]
      exact hh₀.checkin ht hsplit hfirst hl₂ hvt hv (Staged.info_addSuccessor hv.2.2 _) rfl
        (Nat.lt_succ_self k) hk₂' rfl hvn (by show v'.primaryType.getD _ = _; rw [hvt']; rfl) hvl
        (Staged.Shaped.version_withFrozen hvt' (by rw [hvk]; rfl) hfrozen)
    · exact keeps_throw_bind _ _

theorem keeps_addVersionLabel (path version label : String) :
    Keeps HistoriesShaped (addVersionLabel path version label) := by
  unfold addVersionLabel
  refine (keeps_requireNode path).bind fun n => ?_
  dsimp only
  split
  · refine (keeps_pure _).bind fun id => ?_
    intro r hr
    obtain ⟨s, hvs, hs, hset⟩ := versionStorage_run hr.root
    rw [bind_of_ok hvs]
    generalize hlook : (Path.versionHistoryPath id).foldl (fun o name => o.bind (·.child? name))
      (some s) = look
    cases look with
    | none => exact hr
    | some h₀ =>
    dsimp only
    rw [bind_of_ok (pure_run _)]
    have hh₀ := hs.lookup _ hlook
    rw [List.nil_append] at hh₀
    generalize htarget : (h₀.child? version).filter (·.primaryType = some Known.ntVersion) = found
    cases found with
    | none => exact hr
    | some target =>
    dsimp only
    obtain ⟨hc, htt⟩ := Option.filter_eq_some_iff.mp htarget
    rw [bind_of_ok (pure_run _)]
    have htt' : target.info.type = Known.ntVersion :=
      (Staged.info_type_eq_version _).mpr (by simpa using htt)
    have hmem : target.info ∈ h₀.children.map Staged.info :=
      List.mem_map_of_mem (List.mem_of_find?_eq_some hc)
    -- only a history holds a version
    have ht : h₀.info.type = Known.ntVersionHistory := by
      by_contra hne
      exact hh₀.self.plain hne _ hmem htt'
    have hinv := (hh₀.self.history ht).2
    have hv : target.info ∈ versionsOf (h₀.children.map Staged.info) :=
      mem_versionsOf.mpr ⟨hmem, htt'⟩
    obtain ⟨u, hu⟩ := hinv.identifier_of_version hv
    rw [bind_of_ok (stagedIdentifier_run hu _)]
    -- the label node was stored before: it keeps its type
    obtain ⟨l, hl⟩ := Staged.exists_labels hinv
    have hfresh := ((Staged.Settled.lookup _ hset hlook).child? hl).1
    refine historiesShaped_commit hr (hs.putAlong _ hlook rfl ?_)
    rw [List.nil_append]
    exact hh₀.label ht hl (by rw [Staged.info_typeIfFresh_of_settled hfresh]; rfl)
      (by rw [Staged.info_typeIfFresh_of_settled hfresh]; rfl) ⟨_, hv, hu⟩
  · exact keeps_throw_bind _ _

end RepoM

/-! ## Sessions -/

/-- Every version history of the storage of `root` has the shape of one. -/
def HistoriesWellFormed (root : Node) : Prop :=
  ∀ storage, root.descendant? Known.versionStoragePath = some storage →
    ∀ p h, storage.descendAlong p = some h → h.primaryType = Known.ntVersionHistory →
      ∃ us, VersionGraph (h.children.map Node.info) us

theorem StorageShaped.wellFormed {N : Nat} {root : Node} (h : StorageShaped N root) :
    HistoriesWellFormed root := by
  intro storage hs p hist hh ht
  obtain ⟨-, hinv⟩ := ((h storage hs).descendAlong p hh).self.history ht
  obtain ⟨us, hg, -⟩ := hinv.graph
  exact ⟨us, hg⟩

namespace SessionOp

/-- The operation changes nodes only outside the system node, or is one of the operations
that change the version storage as the repository means them to: adding a mixin, checking
in, labelling, saving and discarding. An import is left out. -/
def OutsideSystem : SessionOp → Prop
  | addNode parent name _ => Path.OutsideSystem (Path.join parent name)
  | removeNode path => Path.OutsideSystem path
  | moveNode src dest => Path.OutsideSystem src ∧ Path.OutsideSystem dest
  | setProperty path _ => Path.OutsideSystem path
  | removeProperty path _ => Path.OutsideSystem path
  | setPrimaryType path _ => Path.OutsideSystem path
  | setMixins path _ => Path.OutsideSystem path
  | save | discard | addMixin _ _ | checkin _ | addVersionLabel _ _ _ => True
  | importRun _ _ _ => False

instance (op : SessionOp) : Decidable op.OutsideSystem :=
  match op with
  | addNode parent name _ => inferInstanceAs (Decidable (Path.OutsideSystem (Path.join parent name)))
  | removeNode path => inferInstanceAs (Decidable (Path.OutsideSystem path))
  | moveNode src dest => inferInstanceAs (Decidable (Path.OutsideSystem src ∧ Path.OutsideSystem dest))
  | setProperty path _ => inferInstanceAs (Decidable (Path.OutsideSystem path))
  | removeProperty path _ => inferInstanceAs (Decidable (Path.OutsideSystem path))
  | setPrimaryType path _ => inferInstanceAs (Decidable (Path.OutsideSystem path))
  | setMixins path _ => inferInstanceAs (Decidable (Path.OutsideSystem path))
  | save | discard | addMixin _ _ | checkin _ | addVersionLabel _ _ _ => isTrue trivial
  | importRun _ _ _ => isFalse id

/-- Each such operation keeps the version storage in shape, whether it succeeds or fails. -/
theorem keeps_historiesShaped : ∀ op : SessionOp, op.OutsideSystem → Keeps HistoriesShaped op.run
  | addNode _ _ _, h => (keeps_addNode_outside h).bind fun _ => keeps_pure _
  | removeNode _, h => keeps_removeNode_outside h
  | moveNode _ _, h => keeps_moveNode_outside h.1 h.2
  | setProperty _ p, h => keeps_modifyNode_outside (keepsName_applyProperty p) (children_applyProperty p) h
  | removeProperty _ a, h => keeps_modifyNode_outside (keepsName_removeProperty a) (fun _ => rfl) h
  | setPrimaryType _ _, h => keeps_modifyNode_outside (fun _ => rfl) (fun _ => rfl) h
  | setMixins _ _, h => keeps_modifyNode_outside (fun _ => rfl) (fun _ => rfl) h
  | save, _ => fun _ hr => ⟨hr.root, hr.root⟩
  | discard, _ => fun _ hr => ⟨hr.saved, hr.saved⟩
  | addMixin path mixin, _ => keeps_addMixin path mixin
  | checkin path, _ => (keeps_checkin path).bind fun _ => keeps_pure _
  | addVersionLabel path version label, _ => keeps_addVersionLabel path version label

theorem runAll_historiesShaped : ∀ (ops : List SessionOp) {r : Repository},
    (∀ op ∈ ops, op.OutsideSystem) → HistoriesShaped r → HistoriesShaped (runAll ops r)
  | [], _, _, hr => hr
  | op :: ops, r, hops, hr => by
    rw [runAll_cons]
    exact runAll_historiesShaped ops (fun o ho => hops o (List.mem_cons_of_mem op ho))
      (keeps_historiesShaped op (hops op List.mem_cons_self) r hr)

/-- Along a session on a new repository that changes nodes only outside the system node, and
adds mixins, checks in, labels, saves and discards as it likes, every version history of the
storage, transient or saved, keeps its shape: its versions are the root version, then `1.0`,
`1.1`, … in child order, each with the one before as its only predecessor and the one after as
its only successor, all with distinct identifiers, and it has one label node, each of whose
properties but the node's own identifier references one of its versions. -/
theorem version_histories_keep_their_shape (issued : Nat) (clock : Time.Timestamp)
    (ops : List SessionOp) (hops : ∀ op ∈ ops, op.OutsideSystem) :
    HistoriesWellFormed (runAll ops (Repository.ofRoot emptyRoot issued clock)).root ∧
      HistoriesWellFormed (runAll ops (Repository.ofRoot emptyRoot issued clock)).saved := by
  have h := runAll_historiesShaped ops hops
    (r := Repository.ofRoot emptyRoot issued clock) ⟨storageShaped_emptyRoot _, storageShaped_emptyRoot _⟩
  exact ⟨h.root.wellFormed, h.saved.wellFormed⟩

/-- A session that makes a node versionable, checks it in twice, labels its first version,
saves, edits and discards. -/
theorem labelled_session_keeps_history_shape :
    (∀ op ∈ [addNode "/" "a" "nt:unstructured", addMixin "/a" Known.mixVersionable,
      checkin "/a", checkin "/a", addVersionLabel "/a" "1.0" "first", save,
      setProperty "/a" (Property.ofString "title" "draft"), discard], op.OutsideSystem) ∧
    HistoriesWellFormed (runAll [addNode "/" "a" "nt:unstructured", addMixin "/a" Known.mixVersionable,
      checkin "/a", checkin "/a", addVersionLabel "/a" "1.0" "first", save,
      setProperty "/a" (Property.ofString "title" "draft"), discard]
        (Repository.ofRoot emptyRoot 0 creationMoment)).root :=
  ⟨by decide, (version_histories_keep_their_shape 0 creationMoment _ (by decide)).1⟩

/-- The label node of the first history of a new repository. -/
def firstLabelsPath : String :=
  "/jcr:system/jcr:versionStorage/00/00/00/00000000-0000-4000-8000-000000000001/jcr:versionLabels"

/-- The label node may hold a property that references no version: adding
`mix:referenceable` to it gives it an identifier of its own. -/
theorem referenceable_labels_gain_identifier :
    ∃ l, (runAll [addNode "/" "a" "nt:unstructured", addMixin "/a" Known.mixVersionable,
        addMixin firstLabelsPath Known.mixReferenceable]
        (Repository.ofRoot emptyRoot 0 creationMoment)).root.descendant? firstLabelsPath = some l ∧
      l.primaryType = Known.ntVersionLabels ∧
      l.properties = [Property.ofString Known.uuid (identifierOf 5)] := by
  -- the session is evaluated by the kernel alone
  have hrun : ((runAll [addNode "/" "a" "nt:unstructured", addMixin "/a" Known.mixVersionable,
      addMixin firstLabelsPath Known.mixReferenceable]
      (Repository.ofRoot emptyRoot 0 creationMoment)).root.descendant? firstLabelsPath).map
        (fun l => decide (l.primaryType = Known.ntVersionLabels ∧
          l.properties = [Property.ofString Known.uuid (identifierOf 5)])) = some true := by
    decide +kernel
  generalize Node.descendant? _ firstLabelsPath = found at hrun ⊢
  cases found with
  | none => cases hrun
  | some l =>
    have h := of_decide_eq_true (Option.some_inj.mp hrun)
    exact ⟨l, rfl, h.1, h.2⟩

end SessionOp

end ContentSync
