import ContentSync.Proofs.HistoryImport

/-!
# Staged histories stay readable

The repository changes its version storage on a staged copy: it creates a history with its
label node and root version (`RepoM.ensureHistory`), adds a version with a frozen copy of the
checked-in node (`RepoM.checkin`), or binds a label (`RepoM.addVersionLabel`), and commits the
copy. This module shows that each of these keeps every history of the storage as a version
document carries it (`Node.HistoryReadable`), when the checked-in node carries only what a
frozen element reads back (`Node.Freezable`), the labels are label names, and the clock counts
whole milliseconds.

Histories stand four names below the storage: three buckets, then the identifier. The
invariant of a staged storage is that every node at that depth is a readable history
(`Node.AtDepth`); buckets and the nodes inside histories are not asked anything.

Main statements: `freeze_carried`, `ensureHistory_readable`, `historyReadable_checkin`,
`historyReadable_label`.
-/
namespace ContentSync

open Node Staged RepoM

/-! ## Frozen copies -/

/-- What a checked-in node carries into its frozen copy: every property of it and of the
nodes below it, but their identifiers, survives the codec and has a name a frozen element
reads back. -/
def Node.Freezable (n : Node) : Prop :=
  n.Everywhere fun m => ∀ q ∈ m.properties, q.name = Known.uuid ∨ q.Carried

namespace Staged

/-- The fields of a staged frozen node as a version document carries them: distinct property
names, each property a record of the frozen node or carried content, and distinct child
names. -/
structure FrozenFields (s : Staged) : Prop where
  names_nodup : (s.properties.map (·.name)).Nodup
  property : ∀ q ∈ s.properties, FrozenRecord q ∨ q.Carried
  children_nodup : (s.children.map (·.name)).Nodup

/-- A staged frozen tree as a version document carries it. -/
inductive FrozenCarried : Staged → Prop
  | intro {s : Staged} : s.primaryType = some Known.ntFrozenNode → s.FrozenFields →
      (∀ c ∈ s.children, FrozenCarried c) → FrozenCarried s

theorem frozenFields_blank (name : String) : (blank name).FrozenFields :=
  ⟨List.nodup_nil, fun _ h => (by cases h), List.nodup_nil⟩

theorem FrozenFields.setProperty {s : Staged} (hs : s.FrozenFields) {q : Property}
    (hq : FrozenRecord q ∨ q.Carried) : (s.setProperty q).FrozenFields where
  names_nodup := nodup_setPropertyIn q hs.names_nodup
  property p hp := (mem_setPropertyIn hp).elim (fun h => h ▸ hq) (hs.property p)
  children_nodup := hs.children_nodup

theorem FrozenFields.foldl_setProperty :
    ∀ (qs : List Property) {s : Staged}, s.FrozenFields → (∀ q ∈ qs, q.Carried) →
      (qs.foldl Staged.setProperty s).FrozenFields
  | [], _, hs, _ => hs
  | q :: qs, _, hs, hqs =>
    FrozenFields.foldl_setProperty qs (hs.setProperty (.inr (hqs q List.mem_cons_self)))
      fun p hp => hqs p (List.mem_cons_of_mem q hp)

theorem FrozenFields.withType {s : Staged} (hs : s.FrozenFields) (t : Option String) :
    ({ s with primaryType := t } : Staged).FrozenFields :=
  ⟨hs.names_nodup, hs.property, hs.children_nodup⟩

/-- Putting a node in place of the child of its name keeps child names distinct. -/
theorem FrozenFields.withChild {s c : Staged} (hs : s.FrozenFields) (hc : c.name = a) :
    (s.withChild a fun _ => (c, ())).1.FrozenFields := by
  refine ⟨hs.names_nodup, hs.property, ?_⟩
  show ((withChild.go a (fun _ => (c, ())) s.children).1.map (·.name)).Nodup
  rw [map_name_withChild_go (fun _ _ => hc)]
  split
  · exact hs.children_nodup
  · rename_i hnone
    refine List.nodup_append.mpr ⟨hs.children_nodup, List.nodup_singleton a, ?_⟩
    rintro x hx y hy rfl
    rw [List.mem_singleton] at hy
    subst hy
    obtain ⟨d, hd, rfl⟩ := List.mem_map.mp hx
    exact hnone (List.any_eq_true.mpr ⟨d, hd, by simp⟩)

theorem FrozenCarried.withChild {s c : Staged} (hs : s.FrozenCarried) (hc : c.FrozenCarried)
    (hname : c.name = a) : (s.withChild a fun _ => (c, ())).1.FrozenCarried := by
  cases hs with
  | intro htype hfields hkids =>
    refine .intro htype (hfields.withChild hname) fun d hd => ?_
    rcases mem_withChild_go hd with hd | ⟨_, -, -, rfl⟩
    · exact hkids d hd
    · exact hc

/-- The child of a name in a frozen copy, or a blank one, is a start for a frozen copy. -/
theorem FrozenCarried.child?_getD {t : Staged} (ht : t.FrozenCarried) (name : String) :
    ((t.child? name).getD (blank name)).FrozenFields ∧
      ∀ c ∈ ((t.child? name).getD (blank name)).children, c.FrozenCarried := by
  cases hc : t.child? name with
  | none => exact ⟨frozenFields_blank name, fun _ h => by cases h⟩
  | some d =>
    cases ht with
    | intro _ _ hkids =>
      cases hkids d (List.mem_of_find?_eq_some hc) with
      | intro _ hfields hds => exact ⟨hfields, hds⟩

/-- A staged frozen tree builds into a tree of readable frozen nodes. -/
theorem FrozenCarried.build {s : Staged} (hs : s.FrozenCarried) :
    s.build.Everywhere Node.FrozenReadable ∧ s.build.primaryType = Known.ntFrozenNode := by
  induction hs with
  | @intro s htype hfields _ ih =>
    have htype' : s.build.primaryType = Known.ntFrozenNode := by
      rw [primaryType_build, htype]
      rfl
    refine ⟨.intro _ ⟨?_, ?_, ?_, ?_⟩ fun c hc => ?_, htype'⟩
    · rw [htype']
      decide
    · rw [properties_build]
      exact hfields.names_nodup
    · rw [properties_build]
      exact hfields.property
    · rw [children_build, List.map_map]
      simpa [Function.comp_def, name_build] using hfields.children_nodup
    · rw [children_build] at hc
      obtain ⟨d, hd, rfl⟩ := List.mem_map.mp hc
      exact (ih d hd).1

/-- Setting properties one after another changes only the properties. -/
theorem foldl_setProperty_eq (ps : List Property) (s : Staged) :
    ps.foldl Staged.setProperty s =
      { s with properties := ps.foldl (fun qs p => setPropertyIn p qs) s.properties } := by
  induction ps generalizing s with
  | nil =>
    cases s
    rfl
  | cons p ps ih =>
    rw [List.foldl_cons, ih, List.foldl_cons]
    rfl

theorem name_child?_getD (t : Staged) (a : String) : ((t.child? a).getD (blank a)).name = a := by
  cases hc : t.child? a with
  | none => rfl
  | some d => exact name_of_child? hc

end Staged

/-! ## Freezing a node -/

/-- The rest of a freeze, once the frozen node has its records: without content it is done,
with content it gets the source's carried properties and then its frozen children. -/
theorem freeze_rest (withContent : Bool) {t : Staged} (htype : t.primaryType = some Known.ntFrozenNode)
    (hfields : t.FrozenFields) (hkids : ∀ c ∈ t.children, c.FrozenCarried) {props : List Property}
    (hprops : withContent = true → ∀ q ∈ props, q.name = Known.uuid ∨ q.Carried) (cs : List Node)
    (r : Repository) (hchildren : withContent = true → ∀ t' : Staged, t'.FrozenCarried →
      ∃ t'' k, freezeChildren t' cs r = .ok t'' { r with issued := k } ∧ r.issued ≤ k ∧
        t''.FrozenCarried ∧ t''.name = t'.name) :
    ∃ t' k, (if !withContent then pure t
        else freezeChildren ((props.filter (·.name ≠ Known.uuid)).foldl Staged.setProperty t) cs)
          r = .ok t' { r with issued := k } ∧ r.issued ≤ k ∧ t'.FrozenCarried ∧ t'.name = t.name := by
  cases withContent with
  | false => exact ⟨t, r.issued, rfl, Nat.le_refl _, .intro htype hfields hkids, rfl⟩
  | true =>
    simp only [Bool.not_true, Bool.false_eq_true, if_false]
    -- the source's properties but its identifier are carried
    have hcarried : ∀ q ∈ props.filter (·.name ≠ Known.uuid), q.Carried := fun q hq => by
      obtain ⟨hq, hne⟩ := List.mem_filter.mp hq
      exact (hprops rfl q hq).resolve_left (by simpa using hne)
    have hfold := foldl_setProperty_eq (props.filter (·.name ≠ Known.uuid)) t
    obtain ⟨t', k, hrun, hk, ht', hname⟩ :=
      hchildren rfl ((props.filter (·.name ≠ Known.uuid)).foldl Staged.setProperty t)
        (.intro (by rw [hfold]; exact htype) (hfields.foldl_setProperty _ hcarried)
          (by rw [hfold]; exact hkids))
    exact ⟨t', k, hrun, hk, ht', by rw [hname, hfold]⟩

mutual
/-- Freezing a node into a start for a frozen copy, with its content only when that content is
carried, makes a frozen copy as a version document carries it, under the start's name. -/
theorem freeze_carried (withContent : Bool) : ∀ (target : Staged) (source : Node) (r : Repository),
    target.FrozenFields → (∀ c ∈ target.children, c.FrozenCarried) →
      (withContent = true → source.Freezable) →
      ∃ t k, freeze withContent target source r = .ok t { r with issued := k } ∧
        r.issued ≤ k ∧ t.FrozenCarried ∧ t.name = target.name
  | target, ⟨nm, ty, ms, props, cs⟩, r, hf, hk, hs => by
    rw [freeze, bind_of_ok (freshIdentifier_run r)]
    dsimp only
    -- the records: its identifier and the source's types, then the source's identifier if any
    have h₃ := (((hf.withType (some Known.ntFrozenNode)).setProperty
      (.inl (.uuid (identifierOf (r.issued + 1))))).setProperty
      (.inl (.frozenPrimaryType ty))).setProperty (.inl (.frozenMixinTypes ms))
    have hchildren := fun hw t' (ht' : t'.FrozenCarried) =>
      freezeChildren_carried t' cs { r with issued := r.issued + 1 } ht' fun c hc => (hs hw).child hc
    cases hid : Node.identifier? ⟨nm, ty, ms, props, cs⟩ with
    | none =>
      obtain ⟨t', k, hrun, hk', ht', hname⟩ :=
        freeze_rest withContent rfl h₃ hk (fun hw => (hs hw).self) cs _ hchildren
      exact ⟨t', k, hrun, Nat.le_of_succ_le hk', ht', hname⟩
    | some sid =>
      obtain ⟨t', k, hrun, hk', ht', hname⟩ :=
        freeze_rest withContent rfl (h₃.setProperty (.inl (.frozenUuid sid))) hk
          (fun hw => (hs hw).self) cs _ hchildren
      exact ⟨t', k, hrun, Nat.le_of_succ_le hk', ht', hname⟩

/-- Freezing each child of the source into the frozen child of its name keeps a frozen copy
as a version document carries it. -/
theorem freezeChildren_carried : ∀ (t : Staged) (cs : List Node) (r : Repository),
    t.FrozenCarried → (∀ c ∈ cs, c.Freezable) →
      ∃ t' k, freezeChildren t cs r = .ok t' { r with issued := k } ∧ r.issued ≤ k ∧
        t'.FrozenCarried ∧ t'.name = t.name
  | t, [], r, ht, _ => ⟨t, r.issued, rfl, Nat.le_refl _, ht, rfl⟩
  | t, c :: cs, r, ht, hcs => by
    rw [freezeChildren]
    obtain ⟨hf, hk⟩ := ht.child?_getD c.name
    obtain ⟨frozen, k, hrun, hk₁, hfr, hname⟩ :=
      freeze_carried true _ c r hf hk fun _ => hcs c List.mem_cons_self
    rw [bind_of_ok hrun]
    dsimp only
    obtain ⟨t', k', hrun', hk₂, ht', hname'⟩ := freezeChildren_carried _ cs _
      (ht.withChild hfr (hname.trans (name_child?_getD t c.name)))
      fun d hd => hcs d (List.mem_cons_of_mem c hd)
    exact ⟨t', k', hrun', Nat.le_trans hk₁ hk₂, ht', hname'⟩
end

/-! ## Histories at their depth -/

/-- Every node `k` names below `n` satisfies `P`. -/
def Node.AtDepth (P : Node → Prop) : Nat → Node → Prop
  | 0, n => P n
  | k + 1, n => ∀ c ∈ n.children, Node.AtDepth P k c

namespace Node

variable {P : Node → Prop}

theorem atDepth_succ (k : Nat) (n : Node) :
    n.AtDepth P (k + 1) ↔ ∀ c ∈ n.children, c.AtDepth P k :=
  Iff.rfl

/-- Below its top, a node is seen through its children only. -/
theorem AtDepth.of_children {n m : Node} {k : Nat} (h : n.AtDepth P (k + 1))
    (hkids : m.children = n.children) : m.AtDepth P (k + 1) :=
  fun c hc => h c (hkids ▸ hc)

theorem atDepth_of_children_nil {n : Node} (h : n.children = []) (k : Nat) :
    n.AtDepth P (k + 1) :=
  fun c hc => by
    rw [h] at hc
    cases hc

theorem AtDepth.descendAlong : ∀ (q : List String) {n m : Node},
    n.AtDepth P q.length → n.descendAlong q = some m → P m
  | [], n, m, hn, hm => by
    cases hm
    exact hn
  | a :: q, n, m, hn, hm => by
    rw [descendAlong_cons] at hm
    cases hc : n.child? a with
    | none => rw [hc] at hm; cases hm
    | some c =>
      rw [hc] at hm
      exact AtDepth.descendAlong q (hn c (mem_of_child? hc)) hm

end Node

namespace Staged

variable {P : Node → Prop}

theorem atDepth_build_succ (s : Staged) (k : Nat) :
    s.build.AtDepth P (k + 1) ↔ ∀ c ∈ s.children, c.build.AtDepth P k := by
  rw [Node.atDepth_succ, children_build, List.forall_mem_map]

/-- Updating one child keeps every node at a depth below the top as it was, but the child's. -/
theorem atDepth_withChild {α : Type} {s : Staged} {k : Nat} {a : String} {f : Staged → Staged × α}
    (hs : s.build.AtDepth P (k + 1))
    (hold : ∀ d ∈ s.children, d.build.AtDepth P k → (f d).1.build.AtDepth P k)
    (hnew : (f (blank a)).1.build.AtDepth P k) : (s.withChild a f).1.build.AtDepth P (k + 1) := by
  rw [atDepth_build_succ] at hs ⊢
  intro c hc
  rw [withChild_fst] at hc
  rcases mem_withChild_go hc with hc | ⟨d, hd | rfl, -, rfl⟩
  · exact hs c hc
  · exact hold d hd (hs d hd)
  · exact hnew

theorem atDepth_putAlong {h : Staged} (hh : P h.build) :
    ∀ (names : List String) {s : Staged}, names ≠ [] → s.build.AtDepth P names.length →
      (s.putAlong names h).build.AtDepth P names.length
  | [], _, hne, _ => absurd rfl hne
  | [_], _, _, hs => atDepth_withChild hs (fun _ _ _ => hh) hh
  | a :: b :: rest, s, _, hs => by
    have hput : s.putAlong (a :: b :: rest) h =
        (s.withChild a fun c => (c.putAlong (b :: rest) h, ())).1 :=
      rfl
    rw [hput]
    -- a missing node on the way is created blank, with nothing below it yet
    have hblank : (blank a).build.AtDepth P (b :: rest).length :=
      Node.atDepth_of_children_nil (by rw [children_build]; rfl) rest.length
    exact atDepth_withChild hs
      (fun _ _ hd => atDepth_putAlong hh (b :: rest) (List.cons_ne_nil _ _) hd)
      (atDepth_putAlong hh (b :: rest) (List.cons_ne_nil _ _) hblank)

theorem atDepth_lookup : ∀ (names : List String) {s h : Staged}, s.build.AtDepth P names.length →
    names.foldl (fun o name => o.bind (·.child? name)) (some s) = some h → P h.build
  | [], s, h, hs, hh => by
    cases hh
    exact hs
  | a :: names, s, h, hs, hh => by
    rw [List.foldl_cons, Option.bind_some] at hh
    cases hc : s.child? a with
    | none => rw [hc, lookup_none] at hh; cases hh
    | some c =>
      rw [hc] at hh
      exact atDepth_lookup names ((atDepth_build_succ s _).mp hs c (List.mem_of_find?_eq_some hc)) hh

/-- The bucket a history's creation descends into: the child of that name, or a new one. -/
theorem atDepth_bucket {s : Staged} {k : Nat} (hs : s.build.AtDepth P (k + 1 + 1)) (b t : String) :
    (((s.child? b).getD (blank b)).typeIfFresh t).build.AtDepth P (k + 1) := by
  rw [atDepth_build_succ, children_typeIfFresh, ← atDepth_build_succ]
  cases hc : s.child? b with
  | none => exact Node.atDepth_of_children_nil (by rw [children_build]; rfl) k
  | some c => exact (atDepth_build_succ s _).mp hs c (List.mem_of_find?_eq_some hc)

theorem Settled.bucket {s : Staged} (hs : s.Settled) (b t : String) :
    (((s.child? b).getD (blank b)).typeIfFresh t).Settled := by
  cases hc : s.child? b with
  | none => exact settled_of_children_nil rfl
  | some c =>
    obtain ⟨hfresh, hset⟩ := hs.child? hc
    rw [Option.getD_some, info_typeIfFresh_of_settled hfresh]
    exact hset

end Staged

/-! ## Versions and histories as the repository stages them -/

@[simp] theorem Property.name_single (a : String) (v : Value) : (Property.single a v).name = a :=
  rfl

@[simp] theorem Property.name_ofString (a u : String) : (Property.ofString a u).name = a :=
  rfl

/-- A version initialized from a blank node: the next identifier, the clock, the given
predecessors and no successor. -/
theorem initVersion_blank (preds : List String) (a : String) (r : Repository) :
    initVersion preds (blank a) r = .ok ⟨a, some Known.ntVersion, [],
      versionProperties (identifierOf (r.issued + 1)) r.clock.throughText preds [], [], true⟩
      { r with issued := r.issued + 1 } :=
  congrArg (EStateM.Result.ok · _)
    (setVersionProperties ⟨a, some Known.ntVersion, [], [], [], true⟩ rfl _ r.clock.throughText
      preds [])

/-- A version initialized from a blank node, holding a frozen copy, is a version as a version
document carries it when the clock counts whole milliseconds. -/
theorem versionReadable_withFrozen (a u : String) {t : Time.Timestamp} (ht : t.Valid)
    (hms : t.nanos % 1000000 = 0) (preds : List String) {fr : Staged} (hfr : fr.FrozenCarried) :
    ((⟨a, some Known.ntVersion, [], versionProperties u t preds [], [], true⟩ : Staged).withChild
      Known.frozenNode fun _ => (fr, ())).1.build.VersionReadable := by
  have hkids : ((⟨a, some Known.ntVersion, [], versionProperties u t preds [], [], true⟩ :
      Staged).withChild Known.frozenNode fun _ => (fr, ())).1.build.children = [fr.build] :=
    rfl
  obtain ⟨hfrozen, htype⟩ := hfr.build
  refine ⟨rfl, rfl, ⟨u, t, preds, [], ht, hms, rfl⟩, fun c hc => ?_, ?_⟩
  · rw [hkids, List.mem_singleton] at hc
    subst hc
    exact ⟨htype, hfrozen⟩
  · rw [hkids]
    exact List.nodup_singleton _

/-- The history a creation stages over a blank node: its own identifier and its node's, the
label node, then the root version. -/
theorem historyReadable_created {L : String → Prop} {X rv : Staged} {hid v : String}
    (hname : X.name ≠ "") (htype : X.primaryType = some Known.ntVersionHistory)
    (hms : X.mixins = []) (hprops : X.properties =
      [Property.ofString Known.uuid hid, Property.ofString Known.versionableUuid v])
    (hkids : X.children = []) (hrv : rv.build.VersionReadable) (hrvn : rv.name = Known.rootVersion) :
    ((X.withChild Known.versionLabels fun l =>
      ({ l with primaryType := some Known.ntVersionLabels }, ())).1.withChild Known.rootVersion
        fun _ => (rv, ())).1.build.HistoryReadable L := by
  have hne : Known.versionLabels ≠ Known.rootVersion := by decide
  have hbuilt : ((X.withChild Known.versionLabels fun l =>
      ({ l with primaryType := some Known.ntVersionLabels }, ())).1.withChild Known.rootVersion
        fun _ => (rv, ())).1.build =
      ⟨X.name, Known.ntVersionHistory, [],
        [Property.ofString Known.uuid hid, Property.ofString Known.versionableUuid v],
        [⟨Known.versionLabels, Known.ntVersionLabels, [], [], []⟩, rv.build]⟩ := by
    obtain ⟨nm, ty, ms, ps, cs, fr⟩ := X
    simp only at htype hms hprops hkids
    subst htype hms hprops hkids
    simp only [withChild_fst, withChild_go_nil, withChild_go_cons, blank, hne, if_false, build,
      buildAll, Option.getD_some]
  -- the two properties have names of their own, none a key the element writes
  have hnames : ∀ a ∈ [Known.uuid, Known.versionableUuid],
      a ≠ "" ∧ a ≠ Known.primaryType ∧ a ≠ Known.nodeNameAttribute := by
    decide
  have hmem : ∀ q ∈ [Property.ofString Known.uuid hid, Property.ofString Known.versionableUuid v],
      q.name ∈ [Known.uuid, Known.versionableUuid] := by
    simp
  rw [hbuilt]
  refine ⟨rfl, hname, ⟨show Known.ntVersionHistory ≠ "" by decide,
    fun q hq => (hnames _ (hmem q hq)).1, ?_, fun q hq => (hnames _ (hmem q hq)).2.1,
    fun q hq => (hnames _ (hmem q hq)).2.2, fun h => absurd rfl h⟩, ⟨v, ?_⟩, fun c hc => ?_, ?_⟩
  · show ([Known.uuid, Known.versionableUuid] : List String).Nodup
    decide
  · have hne' : Known.uuid ≠ Known.versionableUuid := by decide
    simp [Node.property?, findProperty?, hne']
  · simp only [List.mem_cons, List.not_mem_nil, or_false] at hc
    rcases hc with rfl | rfl
    · exact .inl ⟨rfl, rfl, rfl, List.nodup_nil, fun _ h => (by cases h)⟩
    · exact .inr hrv
  · show ([Known.versionLabels, rv.build.name] : List String).Nodup
    rw [name_build, hrvn]
    decide

/-! ## Creating a history -/

variable {L : String → Prop}

/-- Creating the history of `id` below the buckets on the way to it keeps every node at the
depth of the histories readable, when the clock's fields are in range. -/
theorem descend_readable (node : Node) {id : String} (hid : id ≠ "") :
    ∀ (names : List String) (s : Staged) (r : Repository), r.clock.Valid →
      s.build.AtDepth (HistoryReadable L) (names.length + 1) →
        s.Settled → ∃ s' created k, ensureHistory.descend node id names s r =
          .ok (s', created) { r with issued := k } ∧
            s'.build.AtDepth (HistoryReadable L) (names.length + 1)
  | [], s, r, hv, hs, hset => by
    rw [ensureHistory.descend]
    dsimp only
    cases hc : s.child? id with
    | some c =>
      -- the history is there already: nothing changes
      have hfresh := (hset.child? hc).1
      simp only [Option.getD_some, hfresh, Bool.not_false, if_true]
      refine ⟨_, false, r.issued, pure_run _, ?_⟩
      rw [withChild_self hc]
      exact hs
    | none =>
      -- a new history over a blank node: its label node, then its root version, dated by the
      -- clock cut to milliseconds
      have hnow := Time.Timestamp.throughText_valid hv
      have hblank : (blank id).fresh = true := rfl
      simp only [Option.getD_none, hblank, Bool.not_true, Bool.false_eq_true, if_false]
      rw [bind_of_ok (freshIdentifier_run r), bind_of_ok (initVersion_blank [] _ _)]
      obtain ⟨fr, k, hfr, -, hfrc, -⟩ := freeze_carried false (blank Known.frozenNode) node _
        (frozenFields_blank _) (fun _ h => by cases h) (fun h => by cases h)
      rw [bind_of_ok hfr]
      refine ⟨_, true, k, pure_run _, ?_⟩
      have hprops := congrArg Staged.properties (setHistoryProperties (blank id) rfl
        (identifierOf (r.issued + 1)) id)
      refine atDepth_withChild hs (fun _ _ _ => ?_) ?_ <;>
        exact historyReadable_created hid rfl rfl hprops rfl
          (versionReadable_withFrozen _ _ hnow.1 hnow.2 [] hfrc) rfl
  | bucket :: rest, s, r, hv, hs, hset => by
    rw [ensureHistory.descend]
    dsimp only
    obtain ⟨inner, created, k, hrun, hinner⟩ :=
      descend_readable node hid rest _ r hv (atDepth_bucket hs bucket _) (hset.bucket bucket _)
    rw [bind_of_ok hrun]
    exact ⟨_, created, k, pure_run _, atDepth_withChild hs (fun _ _ _ => hinner) hinner⟩

/-- The histories of a storage stand four names below it: three buckets, then the identifier. -/
theorem length_versionHistoryPath {id : String} (hid : 6 ≤ id.length) :
    (Path.versionHistoryPath id).length = 4 := by
  rw [Path.versionHistoryPath, List.length_append, length_versionBuckets hid]
  rfl

theorem ensureHistory_readable (storage : Staged) (node : Node) {id : String}
    (hid : 6 ≤ id.length) (r : Repository) (hv : r.clock.Valid)
    (hs : storage.build.AtDepth (HistoryReadable L) 4) (hset : storage.Settled) :
    ∃ s' created k, ensureHistory storage node id r = .ok (s', created) { r with issued := k } ∧
      s'.build.AtDepth (HistoryReadable L) 4 := by
  have hlen := length_versionBuckets hid
  have hne : id ≠ "" := by
    rintro rfl
    simp at hid
  obtain ⟨s', created, k, hrun, hs'⟩ := descend_readable node hne (Path.versionBuckets id) storage r
    hv (by rw [hlen]; exact hs) hset
  rw [hlen] at hs'
  exact ⟨s', created, k, hrun, hs'⟩

/-! ## Checking in and labelling on a staged history -/

/-- A staged history whose own fields are those of a readable one, with readable children of
distinct names, is readable. -/
theorem historyReadable_of_children {h h' : Staged} (hh : h.build.HistoryReadable L)
    (hname : h'.name = h.name) (htype : h'.primaryType = h.primaryType) (hms : h'.mixins = h.mixins)
    (hprops : h'.properties = h.properties)
    (hchild : ∀ c ∈ h'.children, c.build.LabelsReadable L ∨ c.build.VersionReadable)
    (hnodup : (h'.children.map (·.name)).Nodup) : h'.build.HistoryReadable L := by
  have heq : h'.build = ⟨h.build.name, h.build.primaryType, h.build.mixins, h.build.properties,
      h'.children.map build⟩ := by
    rw [name_build, primaryType_build, mixins_build, properties_build, ← hname, ← htype, ← hms,
      ← hprops]
    cases h'
    rw [build, buildAll_eq_map]
  rw [heq]
  refine ⟨hh.type, name_build h ▸ hh.name_ne, ⟨hh.keys.primaryType_ne, hh.keys.name_ne,
    hh.keys.names_nodup, hh.keys.ne_primaryType, hh.keys.ne_nodeName, hh.keys.ne_mixinTypes⟩,
    hh.versionable, fun c hc => ?_, ?_⟩
  · obtain ⟨d, hd, rfl⟩ := List.mem_map.mp hc
    exact hchild d hd
  · show ((h'.children.map build).map (·.name)).Nodup
    rw [List.map_map]
    simpa only [Function.comp_def, name_build] using hnodup

/-- Giving the last version more successors keeps it a version a version document carries. -/
theorem versionReadable_setSuccessors {v : Staged} (hv : v.build.VersionReadable) (xs : List String) :
    (v.setProperty (Property.references Known.successors xs)).build.VersionReadable := by
  obtain ⟨nm, ty, ms, ps, cs, fr⟩ := v
  obtain ⟨u, t, preds, succs, ht, hms, hprops⟩ := hv.properties
  have hne : Known.uuid ≠ Known.successors ∧ Known.created ≠ Known.successors ∧
      Known.predecessors ≠ Known.successors := by
    decide
  have hset : setPropertyIn (Property.references Known.successors xs) ps =
      versionProperties u t preds xs := by
    rw [show ps = _ from hprops]
    simp [versionProperties, setPropertyIn, hne.1, hne.2.1, hne.2.2]
  exact ⟨hv.type, hv.mixins, ⟨u, t, preds, xs, ht, hms, hset⟩, hv.frozen, hv.children_nodup⟩

/-- A staged version is seen as one when it is built. -/
theorem type_of_build_version {c : Staged} (h : c.build.primaryType = Known.ntVersion) :
    c.primaryType = some Known.ntVersion := by
  rw [primaryType_build] at h
  cases hc : c.primaryType with
  | none =>
    rw [hc] at h
    exact absurd h (by decide)
  | some t =>
    rw [hc] at h
    exact congrArg some h

/-- Checking in on a staged history: the new version `w` goes last, under a name no child has,
and the last version `v`, the first child of its name, takes one more successor. -/
theorem historyReadable_checkin {h₀ v w : Staged} {l₁ l₂ : List Staged} {a x : String}
    (hh : h₀.build.HistoryReadable L) (hsplit : h₀.children = l₁ ++ v :: l₂)
    (hfirst : ∀ d ∈ l₁, d.name ≠ v.name) (hvt : v.primaryType = some Known.ntVersion)
    (hnew : ∀ d ∈ h₀.children, d.name ≠ a) (hw : w.build.VersionReadable) (hwn : w.name = a) :
    ((h₀.withChild a fun _ => (w, ())).1.modifyChild v.name fun p =>
      p.setProperty (Property.references Known.successors
        (((p.property? Known.successors).map Property.valueTexts).getD [] ++ [x]))).build.HistoryReadable
          L := by
  generalize hf : (fun p : Staged => p.setProperty (Property.references Known.successors
    (((p.property? Known.successors).map Property.valueTexts).getD [] ++ [x]))) = f
  have hkids : ((h₀.withChild a fun _ => (w, ())).1.modifyChild v.name f).children =
      l₁ ++ f v :: l₂ ++ [w] := by
    show modifyChild.go v.name f (withChild.go a _ h₀.children).1 = _
    rw [withChild_go_of_forall_ne _ hnew, hsplit, List.append_assoc, List.cons_append,
      modifyChild_go_of_first f hfirst rfl]
    simp
  have hfv : (f v).name = v.name := by rw [← hf]; rfl
  have hold : ∀ d ∈ h₀.children, d.build.LabelsReadable L ∨ d.build.VersionReadable :=
    fun d hd => hh.child d.build (by rw [children_build]; exact List.mem_map_of_mem hd)
  refine historyReadable_of_children hh rfl rfl rfl rfl (fun c hc => ?_) ?_
  · rw [hkids] at hc
    simp only [List.mem_append, List.mem_cons, List.not_mem_nil, or_false] at hc
    rcases hc with (hc | rfl | hc) | rfl
    · exact hold c (by rw [hsplit]; simp [hc])
    · -- the last version is no label node: its type says so
      rcases hold v (by rw [hsplit]; simp) with hl | hv
      · have := hl.type
        rw [primaryType_build, hvt] at this
        exact absurd this (by decide)
      · rw [← hf]
        exact .inr (versionReadable_setSuccessors hv _)
    · exact hold c (by rw [hsplit]; simp [hc])
    · exact .inr hw
  · have hnodup := hh.children_nodup
    rw [children_build, List.map_map, hsplit] at hnodup
    rw [hkids, List.map_append, List.map_append, List.map_cons, hfv, List.map_singleton, hwn]
    refine List.nodup_append.mpr ⟨?_, List.nodup_singleton a, ?_⟩
    · simpa [Function.comp_def, name_build] using hnodup
    · rintro y hy z hz rfl
      rw [List.mem_singleton] at hz
      subst hz
      rw [← List.map_cons, ← List.map_append, ← hsplit] at hy
      obtain ⟨d, hd, rfl⟩ := List.mem_map.mp hy
      exact hnew d hd rfl

/-- A label node takes a label: a single reference under a label name. -/
theorem labelsReadable_setLabel {l : Staged} (hl : l.build.LabelsReadable L) {label u : String}
    (hL : L label) (hkey : LabelKey label) :
    (l.setProperty (Property.single label (.reference u))).build.LabelsReadable L := by
  obtain ⟨nm, ty, ms, ps, cs, fr⟩ := l
  refine ⟨hl.type, hl.mixins, hl.children, nodup_setPropertyIn _ hl.names_nodup, fun q hq => ?_⟩
  rcases mem_setPropertyIn hq with rfl | hq
  · exact ⟨hL, hkey, u, rfl⟩
  · exact hl.label q hq

theorem labelsReadable_typeIfFresh {l : Staged} (hl : l.build.LabelsReadable L) :
    (l.typeIfFresh Known.ntVersionLabels).build.LabelsReadable L := by
  obtain ⟨nm, ty, ms, ps, cs, fr⟩ := l
  unfold typeIfFresh
  split
  · exact ⟨rfl, hl.mixins, hl.children, hl.names_nodup, hl.label⟩
  · exact hl

/-- Binding a label on a staged history: the label node, the first child of its name or a new
one, takes a single reference under a label name. -/
theorem historyReadable_label {h₀ : Staged} {label u : String} (hh : h₀.build.HistoryReadable L)
    (hL : L label) (hkey : LabelKey label)
    (hlabels : ∀ c ∈ h₀.children, c.name = Known.versionLabels → c.primaryType ≠ some Known.ntVersion) :
    (h₀.withChild Known.versionLabels fun l =>
      ((l.typeIfFresh Known.ntVersionLabels).setProperty (Property.single label (.reference u)),
        ())).1.build.HistoryReadable L := by
  have hname : ∀ c : Staged, c.name = Known.versionLabels →
      ((c.typeIfFresh Known.ntVersionLabels).setProperty
        (Property.single label (.reference u))).name = Known.versionLabels := fun c hc => by
    rw [← hc]
    exact name_typeIfFresh c _
  refine historyReadable_of_children hh rfl rfl rfl rfl (fun c hc => ?_) ?_
  · rw [withChild_fst] at hc
    rcases mem_withChild_go hc with hc | ⟨d, hd | rfl, hdn, rfl⟩
    · exact hh.child c.build (by rw [children_build]; exact List.mem_map_of_mem hc)
    · -- the label node of the history, which is no version
      rcases hh.child d.build (by rw [children_build]; exact List.mem_map_of_mem hd) with hl | hv
      · exact .inl (labelsReadable_setLabel (labelsReadable_typeIfFresh hl) hL hkey)
      · exact absurd (type_of_build_version hv.type) (hlabels d hd hdn)
    · exact .inl (labelsReadable_setLabel (l := (blank _).typeIfFresh Known.ntVersionLabels)
        ⟨rfl, rfl, rfl, List.nodup_nil, fun _ h => (by cases h)⟩ hL hkey)
  · show ((withChild.go Known.versionLabels _ h₀.children).1.map (·.name)).Nodup
    have hnodup := hh.children_nodup
    rw [children_build, List.map_map] at hnodup
    replace hnodup : (h₀.children.map (·.name)).Nodup := by
      simpa [Function.comp_def, name_build] using hnodup
    rw [map_name_withChild_go hname]
    split
    · exact hnodup
    · rename_i hnone
      refine List.nodup_append.mpr ⟨hnodup, List.nodup_singleton _, ?_⟩
      rintro y hy z hz rfl
      rw [List.mem_singleton] at hz
      subst hz
      obtain ⟨d, hd, hdn⟩ := List.mem_map.mp hy
      exact hnone (List.any_eq_true.mpr ⟨d, hd, by simp [hdn]⟩)

end ContentSync
