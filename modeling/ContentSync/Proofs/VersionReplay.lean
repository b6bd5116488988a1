import ContentSync.Proofs.StagedOverwrite
import ContentSync.Proofs.VersionRebuild
import ContentSync.Proofs.UpToDateCheck
import ContentSync.Proofs.SparedContent

/-!
# Importing a version document a second time

`importVersions` reads a version document into a staged copy of the version storage and
commits the copy when it differs from the stored storage. Read a second time, the document finds
every history it names in place and copied from the repository, so it draws no identifier and
leaves the histories alone, and it makes at each version, label and frozen node the very writes
the first reading made there (`replay_applyVersionEvents`). Those writes are in place already,
since writing a list of writes a second time changes nothing (`Staged.writeAll_writeAll_self`):
the second reading stages the stored storage itself, which compares equal to itself when it
holds no NaN double, and so the second import reports no change and changes nothing
(`importVersions_again`).

The first reading is followed by `Accounts W S`: `W` lists, path by path, the writes the
versions, labels and frozen nodes read so far made, and every node of the staged storage `S`
holds the writes listed for its path. The second reading stands, at each step, at
`overwriteAt W [] (ofNode T)`: the stored tree `T` with those writes made again.

Two conditions are needed, and each is shown necessary by a document:
* each history token, the name of an `nt:versionHistory` child of the root element, has six
  characters or more, so that its history lies below three bucket nodes, four names deep, and
  versions, labels and frozen nodes five names deep or more. A shorter token puts a history or
  its buckets at the depth of a version: the first reading writes that node as a version and
  then retypes it as it creates the history, the second finds it copied from the repository,
  leaves it as a history, and writes the version again (`version_import_repeats_change`);
* the storage holds no NaN double: a NaN equals nothing, itself included, so such a storage
  never compares equal to its copy, and every import commits it again
  (`nan_storage_repeats_change`).

Main statement: `importVersions_again`.
-/

namespace ContentSync

open Node Staged RepoM

/-! ## The writes of one element -/

section Writes

variable {S S₁ : Staged} {e : Element} {path : List String}

/-- The change one attribute of a frozen element makes is a list of writes. -/
theorem frozenChange_writes {key value : String} {g : Staged → Staged}
    (h : frozenChange key value = .ok g) : ∃ ws : List StagedWrite, g = (·.writeAll ws) := by
  unfold frozenChange at h
  split at h
  · cases h
    exact ⟨[], rfl⟩
  · split at h
    · obtain ⟨ms, -, h⟩ := Except.bind_eq_ok_iff.mp h
      cases h
      exact ⟨[.mixins ms], rfl⟩
    · split at h
      · obtain ⟨v, -, h⟩ := Except.bind_eq_ok_iff.mp h
        cases h
        exact ⟨[.property _], rfl⟩
      · split at h
        · obtain ⟨v, -, h⟩ := Except.bind_eq_ok_iff.mp h
          cases h
          exact ⟨[.property _], rfl⟩
        · split at h
          · obtain ⟨vs, -, h⟩ := Except.bind_eq_ok_iff.mp h
            cases h
            exact ⟨[.property _], rfl⟩
          · obtain ⟨p, -, h⟩ := Except.bind_eq_ok_iff.mp h
            cases h
            exact ⟨[.property p], rfl⟩

/-- The changes of the attributes of a frozen element, made in turn, are one list of writes. -/
theorem frozenChanges_writes (attrs : List (String × String)) :
    ∀ changes : List (Staged → Staged),
      attrs.mapM (fun (k, v) => frozenChange k v) = .ok changes →
        ∃ ws : List StagedWrite, ∀ s, changes.foldl (fun s f => f s) s = s.writeAll ws := by
  induction attrs with
  | nil =>
    intro changes h
    cases h
    exact ⟨[], fun _ => rfl⟩
  | cons kv attrs ih =>
    intro changes h
    rw [List.mapM_cons] at h
    obtain ⟨g, hg, h⟩ := Except.bind_eq_ok_iff.mp h
    obtain ⟨gs, hgs, h⟩ := Except.bind_eq_ok_iff.mp h
    cases h
    obtain ⟨ws, rfl⟩ := frozenChange_writes hg
    obtain ⟨ws', hws'⟩ := ih gs hgs
    exact ⟨ws ++ ws', fun s => by rw [List.foldl_cons, hws', writeAll_append]⟩

/-- A label element read once makes the same writes at the same path of any storage. -/
theorem startLabels_writes {history : List String} (h : startLabels S history e = .ok S₁) :
    ∃ name ws, ∀ storage : Staged,
      startLabels storage history e = .ok (storage.updateAlong (history ++ [name]) (·.writeAll ws)) := by
  unfold startLabels at h ⊢
  obtain ⟨labels, hlabels, -⟩ := Except.bind_eq_ok_iff.mp h
  refine ⟨(e.attribute? Known.nodeNameAttribute).getD Known.versionLabels,
    .type Known.ntVersionLabels :: labels.map .property, fun storage => ?_⟩
  rw [hlabels, Except.ok_bind]
  congr 2
  funext l
  exact foldl_setProperty_eq_writeAll _ labels

/-- A version element read once makes the same writes at the same path of any storage, one
name below its history. -/
theorem startVersion_writes {history : List String}
    (h : startVersion S history e = .ok (S₁, path)) :
    ∃ name ws, path = history ++ [name] ∧ ∀ storage : Staged,
      startVersion storage history e = .ok (storage.updateAlong path (·.writeAll ws), path) := by
  unfold startVersion at h ⊢
  simp only [Except.bind_eq_ok_iff] at h
  obtain ⟨name, hname, _, hid0, id, hid, _, hc0, _, hc1, created, hc, preds, hpreds, succs, hsuccs, h⟩ := h
  cases h
  refine ⟨name, [.type Known.ntVersion, .property (Property.ofString Known.uuid id),
    .property (Property.single Known.created created),
    .property (Property.references Known.predecessors preds),
    .property (Property.references Known.successors succs)], rfl, fun storage => ?_⟩
  simp only [hname, hid0, hid, hc0, hc1, hc, hpreds, hsuccs, Except.ok_bind]
  rfl

/-- A frozen element read once makes the same writes at the same path of any storage, one name
below its parent. -/
theorem startFrozen_writes {parent : List String} {nodeType : String}
    (h : startFrozen S parent e nodeType = .ok (S₁, path)) :
    ∃ name ws, path = parent ++ [name] ∧ ∀ storage : Staged,
      startFrozen storage parent e nodeType = .ok (storage.updateAlong path (·.writeAll ws), path) := by
  unfold startFrozen at h ⊢
  obtain ⟨name, hname, h⟩ := Except.bind_eq_ok_iff.mp h
  obtain ⟨changes, hchanges, h⟩ := Except.bind_eq_ok_iff.mp h
  cases h
  obtain ⟨ws, hws⟩ := frozenChanges_writes e.attributes changes hchanges
  refine ⟨name, .type nodeType :: ws, rfl, fun storage => ?_⟩
  have hfun : (fun s : Staged => changes.foldl (fun s f => f s)
      { s with primaryType := some nodeType }) = (·.writeAll (.type nodeType :: ws)) :=
    funext fun s => hws _
  rw [hname, Except.ok_bind, hchanges, Except.ok_bind]
  dsimp only
  rw [hfun]
  rfl

end Writes

/-! ## Histories -/

theorem length_versionBuckets {token : String} (h : 6 ≤ token.length) :
    (Path.versionBuckets token).length = 3 := by
  unfold Path.versionBuckets
  rw [← String.length_toList] at h
  match hs : token.toList, h with
  | _ :: _ :: _ :: _ :: _ :: _ :: _, _ => rfl

/-- A history element read once: its token, the path of its history below its buckets, and the
change made there after the buckets were created. -/
theorem startHistory_ok {S S₁ : Staged} {e : Element} {path : List String} {r r₁ : Repository}
    (h : startHistory S e r = .ok (S₁, path) r₁) :
    ∃ token, e.require Known.nodeNameAttribute = .ok token ∧ token.isEmpty = false ∧
      path = Path.versionBuckets token ++ [token] ∧ ∃ g, KeepsShape g ∧
        S₁ = (S.typeFreshAlong Known.repVersionStorage (Path.versionBuckets token)).updateAlong
          path g := by
  unfold startHistory at h
  obtain ⟨token, r₀, htoken, hrest⟩ := bind_eq_ok.mp h
  obtain ⟨hreq, rfl⟩ := ofExcept_eq_ok htoken
  have hne : token.isEmpty = false := by
    cases hempty : token.isEmpty
    · rfl
    · dsimp only at hrest
      rw [if_pos hempty] at hrest
      obtain ⟨_, _, hthrow, -⟩ := bind_eq_ok.mp hrest
      cases hthrow
  refine ⟨token, hreq, hne, ?_⟩
  have hkeeps : ∀ versionable hid : String, KeepsShape fun h : Staged =>
      ({ h with primaryType := some Known.ntVersionHistory }.setProperty
        (Property.ofString Known.uuid hid)).setProperty
        (Property.ofString Known.versionableUuid versionable) := fun _ _ _ => ⟨rfl, rfl⟩
  simp only [hne, Bool.false_eq_true, if_false] at hrest
  split_ifs at hrest
  · -- a history found in place is only looked up
    cases hrest
    exact ⟨rfl, id, keepsShape_id, rfl⟩
  · -- a new history gets its type and identifiers, a change that keeps its shape
    cases hv : e.attribute? Known.versionableUuid <;> rw [hv] at hrest <;>
    · obtain ⟨_, _, -, hrest⟩ := bind_eq_ok.mp hrest
      obtain ⟨_, _, -, hrest⟩ := bind_eq_ok.mp hrest
      cases hrest
      exact ⟨rfl, _, hkeeps _ _, rfl⟩

/-- A history element read again over a storage where its history and buckets are in place and
copied from the repository changes nothing and draws no identifier. -/
theorem startHistory_of_settled {R : Staged} {e : Element} {token : String}
    (hreq : e.require Known.nodeNameAttribute = .ok token) (hne : token.isEmpty = false)
    (hset : ∀ q, q <+: Path.versionBuckets token ++ [token] → q ≠ [] →
      ∃ t, R.along? q = some t ∧ t.fresh = false)
    (r : Repository) :
    startHistory R e r = .ok (R, Path.versionBuckets token ++ [token]) r := by
  have hbuckets : R.typeFreshAlong Known.repVersionStorage (Path.versionBuckets token) = R :=
    typeFreshAlong_of_settled _ _ fun q hq hq' => hset q (hq.trans (List.prefix_append _ _)) hq'
  obtain ⟨t, ht, hfresh⟩ := hset _ (List.prefix_refl _) (by simp)
  unfold startHistory
  rw [hreq]
  simp only [RepoM.ofExcept, pure_bind, hne, Bool.false_eq_true, if_false, hbuckets, ht, hfresh,
    Bool.not_false, if_true]
  rw [updateAlong_of_fixes _ ht rfl]
  rfl

/-! ## The writes that account for a staged storage -/

/-- The writes `W` account for the staged storage `S`: each node holds the writes listed for
its path, and writes are listed only for paths that lead somewhere, five names deep or more. -/
structure Accounts (W : List String → List StagedWrite) (S : Staged) : Prop where
  written : WrittenBelow W [] S
  placed : ∀ q, W q ≠ [] → (S.along? q).isSome
  deep : ∀ q, W q ≠ [] → 5 ≤ q.length

namespace Accounts

variable {W : List String → List StagedWrite} {S : Staged}

theorem start (S : Staged) : Accounts (fun _ => []) S :=
  ⟨fun _ t _ => written_nil t, fun _ h => absurd rfl h, fun _ h => absurd rfl h⟩

theorem nil_of_short (h : Accounts W S) {q : List String} (hq : q.length < 5) : W q = [] := by
  by_contra hne
  have := h.deep q hne
  omega

/-- Writes made at a path five names deep or more are accounted for once listed there. -/
theorem write (h : Accounts W S) {p : List String} (hp : 5 ≤ p.length) (ws : List StagedWrite) :
    Accounts (Function.update W p (W p ++ ws)) (S.updateAlong p (·.writeAll ws)) := by
  have hshape := keepsShape_writeAll ws
  refine ⟨?_, fun q hq => ?_, fun q hq => ?_⟩
  · refine h.written.updateAlong hshape p (fun q hq => ?_) (fun t ht => ?_) (fun q hq => ?_)
    · exact Function.update_of_ne (by simpa using hq) _ _
    · simpa using ht.writeAll ws
    · exact h.placed q (by simpa using hq)
  · by_cases hqp : q = p
    · subst hqp
      exact isSome_along?_updateAlong_self hshape q S
    · rw [Function.update_of_ne hqp] at hq
      exact isSome_along?_updateAlong hshape p q (h.placed q hq)
  · by_cases hqp : q = p
    · exact hqp ▸ hp
    · rw [Function.update_of_ne hqp] at hq
      exact h.deep q hq

/-- A history is looked up or created four names deep, below its buckets, where no writes are
listed: what the history element changes needs no accounting. -/
theorem history (h : Accounts W S) (ty : String) {buckets path : List String}
    (hbuckets : buckets.length ≤ 3) (hpath : path.length ≤ 4) {g : Staged → Staged}
    (hg : KeepsShape g) : Accounts W ((S.typeFreshAlong ty buckets).updateAlong path g) := by
  have hempty : W path = [] := h.nil_of_short (by omega)
  refine ⟨?_, fun q hq => ?_, h.deep⟩
  · refine (h.written.typeFreshAlong ty buckets fun q hq => ?_).updateAlong hg path
      (fun _ _ => rfl) (fun t _ => ?_) (fun q hq => ?_)
    · have := h.deep q (by simpa using hq)
      omega
    · simpa [hempty] using written_nil (g t)
    · exact isSome_along?_typeFreshAlong ty buckets q (h.placed q (by simpa using hq))
  · exact isSome_along?_updateAlong hg path q (isSome_along?_typeFreshAlong ty buckets q (h.placed q hq))

/-- A copy of the built storage, its root renamed, holds the writes listed for each of its
paths: making them again changes nothing. -/
theorem overwriteAt_ofNode_build (h : Accounts W S) (a : String) :
    overwriteAt W [] (ofNode { S.build with name := a }) = ofNode { S.build with name := a } := by
  refine overwriteAt_of_fixed fun q t ht => ?_
  cases q with
  | nil =>
    rw [h.nil_of_short (by simp)]
    rfl
  | cons b q =>
    -- below the root, the copy has the built nodes of the staged storage
    have hchildren : (ofNode { S.build with name := a }).children = (ofNode S.build).children := by
      simp [children_ofNode]
    rw [along?_cons_of_children_eq hchildren, along?_ofNode, descendAlong_build] at ht
    obtain ⟨u, hu, rfl⟩ := Option.map_eq_some_iff.mp ht
    obtain ⟨s, hs, rfl⟩ := Option.map_eq_some_iff.mp hu
    exact (by simpa using h.written (b :: q) s hs : Written (W (b :: q)) s).ofNode_build.writeAll_self

end Accounts

/-- Below an overwritten copy of a tree, every node on a path of the tree is there and copied
from the repository. -/
theorem settled_overwriteAt_ofNode {T : Node} {q : List String}
    (W : List String → List StagedWrite) (hq : (T.descendAlong q).isSome) :
    ∃ t, (overwriteAt W [] (ofNode T)).along? q = some t ∧ t.fresh = false := by
  obtain ⟨n, hn⟩ := Option.isSome_iff_exists.mp hq
  exact ⟨_, by rw [along?_overwriteAt, along?_ofNode, hn]; rfl, by simp⟩

theorem overwriteAt_nothing (path : List String) (s : Staged) :
    overwriteAt (fun _ => []) path s = s :=
  overwriteAt_of_fixed fun _ _ _ => rfl

/-- What a version document stages keeps every path that leads somewhere. -/
theorem Staged.Restaged.isSome_along? {s s' : Staged} (h : s.Restaged s') {q : List String}
    (hq : (s.along? q).isSome) : (s'.along? q).isSome := by
  induction h with
  | refl => exact hq
  | typeFreshAlong t names _ ih => exact isSome_along?_typeFreshAlong t names q ih
  | updateAlong names hg _ ih => exact isSome_along?_updateAlong hg names q ih

/-! ## Comparing the stored storage -/

theorem samePropertyLists_self {ps : List Property} (h : ∀ p ∈ ps, p.same p = true) :
    samePropertyLists ps ps = true := by
  induction ps with
  | nil => rfl
  | cons p ps ih =>
    rw [samePropertyLists, h p List.mem_cons_self,
      ih fun q hq => h q (List.mem_cons_of_mem p hq)]
    rfl

theorem Node.same_eq (m n : Node) :
    m.same n = (m.name == n.name && m.primaryType == n.primaryType && m.mixins == n.mixins &&
      samePropertyLists m.properties n.properties && sameForests m.children n.children) := by
  cases m
  cases n
  rw [Node.same]

theorem Node.sameForests_self {cs : List Node} (h : ∀ c ∈ cs, c.same c = true) :
    sameForests cs cs = true := by
  induction cs with
  | nil => rw [sameForests]
  | cons c cs ih =>
    rw [sameForests, h c List.mem_cons_self, ih fun d hd => h d (List.mem_cons_of_mem c hd)]
    rfl

/-- A tree without NaN doubles is the same as itself. -/
theorem Node.same_self {n : Node} (h : Everywhere SelfSame n) : n.same n = true := by
  induction h with
  | intro n hn _ ih =>
    rw [Node.same_eq, samePropertyLists_self hn, Node.sameForests_self ih]
    simp

/-- Among children pairwise the same, the first child of a name is matched by the first child
of that name on the other side. -/
theorem find?_of_sameForests {a : String} :
    ∀ {cs ds : List Node}, sameForests cs ds = true → ∀ d, ds.find? (·.name = a) = some d →
      ∃ c, cs.find? (·.name = a) = some c ∧ c.same d = true := by
  intro cs
  induction cs with
  | nil =>
    intro ds h d hd
    cases ds with
    | nil => cases hd
    | cons _ _ => cases h
  | cons c cs ih =>
    intro ds h d hd
    cases ds with
    | nil => cases h
    | cons d' ds =>
      rw [sameForests, Bool.and_eq_true] at h
      have hname : c.name = d'.name := by
        have := h.1
        simp only [Node.same_eq, Bool.and_eq_true, beq_iff_eq] at this
        exact this.1.1.1.1
      by_cases hd' : d'.name = a
      · rw [List.find?_cons_of_pos (by simpa using hd')] at hd
        cases hd
        exact ⟨c, List.find?_cons_of_pos (by simpa [hname] using hd'), h.1⟩
      · rw [List.find?_cons_of_neg (by simpa using hd')] at hd
        rw [List.find?_cons_of_neg (by simpa [hname] using hd')]
        exact ih h.2 d hd

/-- A tree the same as another has, along every path the other has, a node the same as the
other's. -/
theorem Node.descendAlong_of_same :
    ∀ (q : List String) {m n n' : Node}, m.same n = true → n.descendAlong q = some n' →
      ∃ m', m.descendAlong q = some m' ∧ m'.same n' = true := by
  intro q
  induction q with
  | nil =>
    intro m n n' h hn
    cases hn
    exact ⟨m, rfl, h⟩
  | cons a q ih =>
    intro m n n' h hn
    rw [Node.descendAlong_cons] at hn ⊢
    obtain ⟨d, hd, hq⟩ := Option.bind_eq_some_iff.mp hn
    have hforests : sameForests m.children n.children = true := by
      have := h
      simp only [Node.same_eq, Bool.and_eq_true] at this
      exact this.2
    obtain ⟨c, hc, hcd⟩ := find?_of_sameForests hforests d hd
    obtain ⟨m', hm', hsame⟩ := ih hcd hq
    exact ⟨m', by rw [Node.child?, hc, Option.bind_some]; exact hm', hsame⟩

/-! ## The elements of a document -/

theorem elementEvents_go_acc :
    ∀ (n : Nat) (r : ElementReader) (acc : List ElementEvent),
      (elementEvents.go n r acc).1 = acc.reverse ++ (elementEvents.go n r []).1 := by
  intro n
  induction n with
  | zero => intro r acc; simp [elementEvents.go]
  | succ n ih =>
    intro r acc
    rw [elementEvents.go, elementEvents.go]
    split
    · simp
    · simp
    · rw [ih _ (_ :: acc), ih _ [_]]
      simp

/-- The events read from a reader within `n + 1` steps: its next event, then those of the
reader after it. -/
theorem elementEvents_go_next {r r' : ElementReader} {ev : ElementEvent}
    (h : r.next = .ok (some ev, r')) (n : Nat) :
    (elementEvents.go (n + 1) r []).1 = ev :: (elementEvents.go n r' []).1 := by
  rw [elementEvents.go, h]
  dsimp only
  rw [elementEvents_go_acc]
  rfl

/-- Each element that the importer reads as a version history names a token of six characters
or more: the `nt:versionHistory` elements among `events` that are children of the root element,
with `depth` elements open before `events`. Such elements further down are left aside. -/
def LongHistoryTokensAt : Nat → List ElementEvent → Prop
  | _, [] => True
  | depth, .start e :: events =>
    (depth = 1 → elementType e = .ok Known.ntVersionHistory →
      ∀ tok ∈ e.attribute? Known.nodeNameAttribute, 6 ≤ tok.length) ∧
      LongHistoryTokensAt (depth + 1) events
  | depth, .finish :: events => LongHistoryTokensAt (depth - 1) events

instance LongHistoryTokensAt.decidable :
    ∀ depth events, Decidable (LongHistoryTokensAt depth events)
  | _, [] => isTrue trivial
  | depth, .start _ :: events =>
    have := LongHistoryTokensAt.decidable (depth + 1) events
    inferInstanceAs (Decidable (_ ∧ _))
  | depth, .finish :: events => LongHistoryTokensAt.decidable (depth - 1) events

/-- Each element of a document that the importer reads as a version history names a token of
six characters or more. -/
abbrev LongHistoryTokens (events : List ElementEvent) : Prop :=
  LongHistoryTokensAt 0 events

/-- The frame of the root element lies at the bottom of the stack of open frames, if anywhere:
no element opens it again. -/
def RootAtBottom (stack : List VersionFrame) : Prop :=
  ∀ above below, stack = above ++ .root :: below → below = []

theorem rootAtBottom_nil : RootAtBottom [] := by
  intro above below h
  simp at h

theorem rootAtBottom_root : RootAtBottom [.root] := by
  intro above below h
  cases above with
  | nil => exact (List.cons.inj h).2.symm
  | cons f above => simp at h

/-- An element other than the root opens a frame above the others. -/
theorem RootAtBottom.push {stack : List VersionFrame} (h : RootAtBottom stack) {f : VersionFrame}
    (hf : f ≠ .root) : RootAtBottom (f :: stack) := by
  intro above below heq
  cases above with
  | nil => exact absurd (List.cons.inj heq).1 hf
  | cons g above => exact h above below (List.cons.inj heq).2

/-- An element's end closes its frame. -/
theorem RootAtBottom.pop {f : VersionFrame} {stack : List VersionFrame}
    (h : RootAtBottom (f :: stack)) : RootAtBottom stack :=
  fun above below heq => h (f :: above) below (by rw [heq, List.cons_append])

/-- An element opened in the root element's frame is a child of the root element. -/
theorem RootAtBottom.length_of_root {stack : List VersionFrame}
    (h : RootAtBottom (.root :: stack)) : (VersionFrame.root :: stack).length = 1 := by
  rw [h [] stack rfl]
  rfl

theorem Element.attribute?_of_require {e : Element} {a v : String} (h : e.require a = .ok v) :
    e.attribute? a = some v := by
  unfold Element.require at h
  split at h
  · cases h
    assumption
  · cases h

/-! ## Reading the document again -/

/-- How deep the path of a frame lies below the storage: a history four names, a version five,
frozen content six or more. -/
def VersionFrame.Deep : VersionFrame → Prop
  | .history h => h.length = 4
  | .version v => v.length = 5
  | .frozen p => 6 ≤ p.length
  | _ => True

section Replay

variable {T : Node} {W : List String → List StagedWrite} {S S₁ : Staged}

/-- Writes read again, made at a path of the stored tree, are the writes listed once more. -/
theorem replay_write {p : List String} {ws : List StagedWrite} (hW : Accounts W S)
    (hp : 5 ≤ p.length)
    (hT : ∀ q, ((S.updateAlong p (·.writeAll ws)).along? q).isSome → (T.descendAlong q).isSome) :
    Accounts (Function.update W p (W p ++ ws)) (S.updateAlong p (·.writeAll ws)) ∧
      (overwriteAt W [] (ofNode T)).updateAlong p (·.writeAll ws) =
        overwriteAt (Function.update W p (W p ++ ws)) [] (ofNode T) := by
  refine ⟨hW.write hp ws, ?_⟩
  have hex : ((ofNode T).along? p).isSome := by
    rw [along?_ofNode, Option.isSome_map]
    exact hT p (isSome_along?_updateAlong_self (keepsShape_writeAll ws) p S)
  simpa using updateAlong_overwriteAt ws p [] (ofNode T) W hex

theorem ofExcept_run_of_eq {α : Type} {x : Except Error α} {a : α} (h : x = .ok a)
    (r : Repository) : RepoM.ofExcept x r = .ok a r := by
  rw [h]
  rfl

/-- One element read again: over the stored tree with the writes listed so far, it opens the
same frame, and stages the stored tree with the writes it makes added to the list. -/
theorem replay_openFrame {parent frame : VersionFrame} {e : Element} {r r₁ : Repository}
    (hrun : openFrame S parent e r = .ok (frame, S₁) r₁) (hW : Accounts W S)
    (hparent : parent.Deep)
    (htok : parent = .root → elementType e = .ok Known.ntVersionHistory →
      ∀ tok ∈ e.attribute? Known.nodeNameAttribute, 6 ≤ tok.length)
    (hT : ∀ q, (S₁.along? q).isSome → (T.descendAlong q).isSome) :
    frame.Deep ∧ ∃ W₁, Accounts W₁ S₁ ∧ ∀ r₂ : Repository,
      openFrame (overwriteAt W [] (ofNode T)) parent e r₂ =
        .ok (frame, overwriteAt W₁ [] (ofNode T)) r₂ := by
  unfold openFrame at hrun ⊢
  obtain ⟨nodeType, r₀, hread, hframe⟩ := bind_eq_ok.mp hrun
  obtain ⟨htype, hr₀⟩ := ofExcept_eq_ok hread
  rw [hr₀] at hframe
  -- an element that is skipped stages nothing
  have hskip : ∀ {f : VersionFrame},
      (pure (VersionFrame.ignored, S) : RepoM _) r = .ok (f, S₁) r₁ → f = .ignored ∧ S₁ = S := by
    intro f h
    cases h
    exact ⟨rfl, rfl⟩
  cases parent with
  | root =>
    dsimp only at hframe
    split at hframe
    · -- a history: found in place the second time, so nothing is staged
      rename_i hvh
      obtain ⟨⟨S', path⟩, r', hhist, hret⟩ := bind_eq_ok.mp hframe
      cases hret
      obtain ⟨token, hreq, hne, rfl, g, hg, rfl⟩ := startHistory_ok hhist
      have hlen := length_versionBuckets
        (htok rfl (hvh ▸ htype) token (Element.attribute?_of_require hreq))
      have hself := isSome_along?_updateAlong_self hg (Path.versionBuckets token ++ [token])
        (S.typeFreshAlong Known.repVersionStorage (Path.versionBuckets token))
      have hset : ∀ q, q <+: Path.versionBuckets token ++ [token] → q ≠ [] →
          ∃ t, (overwriteAt W [] (ofNode T)).along? q = some t ∧ t.fresh = false := by
        rintro q ⟨u, hu⟩ -
        refine settled_overwriteAt_ofNode W (hT q (isSome_along?_of_append q u ?_))
        rw [hu]
        exact hself
      refine ⟨by simp [VersionFrame.Deep, hlen], W, hW.history _ (by omega) (by simp [hlen]) hg,
        fun r₂ => ?_⟩
      rw [bind_of_ok (ofExcept_run_of_eq htype r₂)]
      dsimp only
      rw [if_pos hvh, bind_of_ok (startHistory_of_settled hreq hne hset r₂)]
      rfl
    · rename_i hvh
      obtain ⟨rfl, rfl⟩ := hskip hframe
      refine ⟨trivial, W, hW, fun r₂ => ?_⟩
      rw [bind_of_ok (ofExcept_run_of_eq htype r₂)]
      dsimp only
      rw [if_neg hvh]
      rfl
  | history h =>
    dsimp only at hframe
    have hdeep : h.length = 4 := hparent
    split at hframe
    · -- a label node, one name below the history
      rename_i hlabels
      obtain ⟨S', r', hstart, hret⟩ := bind_eq_ok.mp hframe
      cases hret
      obtain ⟨hstart, -⟩ := ofExcept_eq_ok hstart
      obtain ⟨name, ws, hall⟩ := startLabels_writes hstart
      cases (hall S).symm.trans hstart
      obtain ⟨hacc, hover⟩ := replay_write hW (by simp [hdeep]) hT
      refine ⟨trivial, _, hacc, fun r₂ => ?_⟩
      rw [bind_of_ok (ofExcept_run_of_eq htype r₂)]
      dsimp only
      rw [if_pos hlabels, bind_of_ok (ofExcept_run_of_eq (hall _) r₂), hover]
      rfl
    · rename_i hlabels
      split at hframe
      · -- a version, one name below the history
        rename_i hversion
        obtain ⟨⟨S', path⟩, r', hstart, hret⟩ := bind_eq_ok.mp hframe
        cases hret
        obtain ⟨hstart, -⟩ := ofExcept_eq_ok hstart
        obtain ⟨name, ws, rfl, hall⟩ := startVersion_writes hstart
        cases (hall S).symm.trans hstart
        obtain ⟨hacc, hover⟩ := replay_write hW (by simp [hdeep]) hT
        refine ⟨by simp [VersionFrame.Deep, hdeep], _, hacc, fun r₂ => ?_⟩
        rw [bind_of_ok (ofExcept_run_of_eq htype r₂)]
        dsimp only
        rw [if_neg hlabels, if_pos hversion, bind_of_ok (ofExcept_run_of_eq (hall _) r₂), hover]
        rfl
      · rename_i hversion
        obtain ⟨rfl, rfl⟩ := hskip hframe
        refine ⟨trivial, W, hW, fun r₂ => ?_⟩
        rw [bind_of_ok (ofExcept_run_of_eq htype r₂)]
        dsimp only
        rw [if_neg hlabels, if_neg hversion]
        rfl
  | labels =>
    obtain ⟨rfl, rfl⟩ := hskip hframe
    exact ⟨trivial, W, hW, fun r₂ => by rw [bind_of_ok (ofExcept_run_of_eq htype r₂)]; rfl⟩
  | version v =>
    dsimp only at hframe
    have hdeep : v.length = 5 := hparent
    split at hframe
    · -- the frozen node of a version
      rename_i hfrozen
      obtain ⟨⟨S', path⟩, r', hstart, hret⟩ := bind_eq_ok.mp hframe
      cases hret
      obtain ⟨hstart, -⟩ := ofExcept_eq_ok hstart
      obtain ⟨name, ws, rfl, hall⟩ := startFrozen_writes hstart
      cases (hall S).symm.trans hstart
      obtain ⟨hacc, hover⟩ := replay_write hW (by simp [hdeep]) hT
      refine ⟨by simp [VersionFrame.Deep, hdeep], _, hacc, fun r₂ => ?_⟩
      rw [bind_of_ok (ofExcept_run_of_eq htype r₂)]
      dsimp only
      rw [if_pos hfrozen, bind_of_ok (ofExcept_run_of_eq (hall _) r₂), hover]
      rfl
    · rename_i hfrozen
      obtain ⟨rfl, rfl⟩ := hskip hframe
      refine ⟨trivial, W, hW, fun r₂ => ?_⟩
      rw [bind_of_ok (ofExcept_run_of_eq htype r₂)]
      dsimp only
      rw [if_neg hfrozen]
      rfl
  | frozen p =>
    -- frozen content below frozen content
    dsimp only at hframe
    have hdeep : 6 ≤ p.length := hparent
    obtain ⟨⟨S', path⟩, r', hstart, hret⟩ := bind_eq_ok.mp hframe
    cases hret
    obtain ⟨hstart, -⟩ := ofExcept_eq_ok hstart
    obtain ⟨name, ws, rfl, hall⟩ := startFrozen_writes hstart
    cases (hall S).symm.trans hstart
    obtain ⟨hacc, hover⟩ := replay_write hW (by simp; omega) hT
    refine ⟨by simp [VersionFrame.Deep]; omega, _, hacc, fun r₂ => ?_⟩
    rw [bind_of_ok (ofExcept_run_of_eq htype r₂)]
    dsimp only
    rw [bind_of_ok (ofExcept_run_of_eq (hall _) r₂), hover]
    rfl
  | ignored =>
    obtain ⟨rfl, rfl⟩ := hskip hframe
    exact ⟨trivial, W, hW, fun r₂ => by rw [bind_of_ok (ofExcept_run_of_eq htype r₂)]; rfl⟩

/-- The second reading of a document, in lockstep with the first: from the stored tree `T` with
the writes listed so far made again, it reads the same events, opens the same frames, draws no
identifier, and stages the stored tree with the writes of the whole first reading made again. -/
theorem replay_applyVersionEvents (T : Node) (fuel : Nat) :
    ∀ (reader : ElementReader) (stack : List VersionFrame) (seenRoot : Bool) (S F : Staged)
      (W : List String → List StagedWrite) (r r' : Repository),
      applyVersionEvents fuel reader stack seenRoot S r = .ok F r' → Accounts W S →
      (∀ f ∈ stack, f.Deep) → RootAtBottom stack →
      LongHistoryTokensAt stack.length (elementEvents.go fuel reader []).1 →
      (∀ q, (F.along? q).isSome → (T.descendAlong q).isSome) →
      ∃ W', Accounts W' F ∧ ∀ r₂ : Repository,
        applyVersionEvents fuel reader stack seenRoot (overwriteAt W [] (ofNode T)) r₂ =
          .ok (overwriteAt W' [] (ofNode T)) r₂ := by
  induction fuel with
  | zero =>
    intro reader stack seenRoot S F W r r' hrun hW _ _ _ _
    rw [applyVersionEvents] at hrun
    cases hrun
    exact ⟨W, hW, fun r₂ => by rw [applyVersionEvents]; rfl⟩
  | succ fuel ih =>
    intro reader stack seenRoot S F W r r' hrun hW hstack hroot htok hT
    rw [applyVersionEvents] at hrun
    obtain ⟨⟨ev, reader'⟩, r₀, hread, hstep⟩ := bind_eq_ok.mp hrun
    obtain ⟨hnext, hr₀⟩ := ofExcept_eq_ok hread
    rw [hr₀] at hstep
    cases ev with
    | none =>
      -- the end of the document: the storage is kept as it is
      dsimp only at hstep
      split at hstep
      · obtain ⟨_, _, hthrow, -⟩ := bind_eq_ok.mp hstep
        cases hthrow
      · rename_i hseen
        cases hstep
        refine ⟨W, hW, fun r₂ => ?_⟩
        rw [applyVersionEvents, bind_of_ok (ofExcept_run_of_eq hnext r₂)]
        dsimp only
        rw [if_neg hseen]
        rfl
    | some ev =>
      rw [elementEvents_go_next hnext fuel] at htok
      cases ev with
      | start e =>
        cases stack with
        | nil =>
          -- the root element opens the document
          dsimp only at hstep
          split at hstep
          · obtain ⟨_, _, hthrow, -⟩ := bind_eq_ok.mp hstep
            cases hthrow
          · rename_i hseen
            split at hstep
            · obtain ⟨_, _, hthrow, -⟩ := bind_eq_ok.mp hstep
              cases hthrow
            · rename_i htag
              obtain ⟨W', hacc, hrun₂⟩ := ih reader' [.root] true S F W r r' hstep hW
                (by simp [VersionFrame.Deep]) rootAtBottom_root htok.2 hT
              refine ⟨W', hacc, fun r₂ => ?_⟩
              rw [applyVersionEvents, bind_of_ok (ofExcept_run_of_eq hnext r₂)]
              dsimp only
              rw [if_neg hseen, if_neg htag]
              exact hrun₂ r₂
        | cons parent rest =>
          -- an element inside the document: its frame, then the events after it; only a child
          -- of the root element can open a history
          dsimp only at hstep
          obtain ⟨⟨frame, S₁⟩, r₁, hopen, hrest⟩ := bind_eq_ok.mp hstep
          have hS₁ : S₁.Restaged F :=
            Staged.yields_applyVersionEvents fuel reader' _ seenRoot S₁ r₁ F r' hrest
          have hframe := (Staged.yields_openFrame S parent e r _ r₁ hopen).2
          obtain ⟨hdeep, W₁, hacc₁, hopen₂⟩ := replay_openFrame hopen hW
            (hstack parent List.mem_cons_self)
            (fun hp => htok.1 (by subst hp; exact hroot.length_of_root))
            fun q hq => hT q (hS₁.isSome_along? hq)
          obtain ⟨W', hacc, hrun₂⟩ := ih reader' (frame :: parent :: rest) seenRoot S₁ F W₁ r₁ r'
            hrest hacc₁ (fun f hf => by
              rcases List.mem_cons.mp hf with rfl | hf
              · exact hdeep
              · exact hstack f hf) (hroot.push hframe) htok.2 hT
          refine ⟨W', hacc, fun r₂ => ?_⟩
          rw [applyVersionEvents, bind_of_ok (ofExcept_run_of_eq hnext r₂)]
          dsimp only
          rw [bind_of_ok (hopen₂ r₂)]
          exact hrun₂ r₂
      | finish =>
        cases stack with
        | nil =>
          cases hstep
        | cons top rest =>
          -- an element ends: its frame is closed
          obtain ⟨W', hacc, hrun₂⟩ := ih reader' rest seenRoot S F W r r' hstep hW
            (fun f hf => hstack f (List.mem_cons_of_mem top hf)) hroot.pop htok hT
          refine ⟨W', hacc, fun r₂ => ?_⟩
          rw [applyVersionEvents, bind_of_ok (ofExcept_run_of_eq hnext r₂)]
          exact hrun₂ r₂

end Replay

/-! ## Importing a document again -/

/-- Every path of a staged storage leads somewhere in a stored tree the same as its build. -/
theorem paths_of_same_build {T : Node} {F : Staged} (h : T.same F.build = true) (q : List String)
    (hq : (F.along? q).isSome) : (T.descendAlong q).isSome := by
  obtain ⟨s, hs⟩ := Option.isSome_iff_exists.mp hq
  obtain ⟨m, hm, -⟩ := Node.descendAlong_of_same q h (by rw [descendAlong_build, hs]; rfl)
  simp [hm]

/-- Every path of a staged storage leads somewhere in its build, put in place under the
storage's name. -/
theorem paths_of_renamed_build {F : Staged} (a : String) (q : List String)
    (hq : (F.along? q).isSome) : (({ F.build with name := a } : Node).descendAlong q).isSome := by
  cases q with
  | nil => rfl
  | cons b q =>
    rw [descendAlong_rename_cons, descendAlong_build, Option.isSome_map]
    exact hq

/-- A version document imported a second time reports no change and leaves the repository as
it is, when each element the importer reads as a version history, an `nt:versionHistory` child
of the root element, names a token of six characters or more, and the storage the first import
leaves holds no NaN double. In particular a history token
read again keeps its history node and the identifier generated for it. -/
theorem importVersions_again (data : List UInt8) (r r₁ : Repository) (changed : Bool)
    (hrun : importVersions data r = .ok changed r₁)
    (htok : LongHistoryTokens (elementEvents data (2 * data.length + 2)).1)
    (hnan : ∀ st, r₁.root.descendant? Known.versionStoragePath = some st →
      Everywhere SelfSame st) :
    importVersions data r₁ = .ok false r₁ := by
  obtain ⟨S₀, hS₀, -, hstored, -⟩ := versionStorage_staged r
  have hfirst := hrun
  unfold importVersions at hfirst
  rw [bind_of_ok hS₀] at hfirst
  obtain ⟨F, r', happly, hcheck⟩ := bind_eq_ok.mp hfirst
  have htrees := trees_applyVersionEvents (2 * data.length + 2) (ElementReader.ofBytes data) []
    false S₀ r
  rw [happly, final_ok] at htrees
  rw [bind_of_ok get_run] at hcheck
  split at hcheck
  · -- the first import found its storage in place: it read the document without drawing an
    -- identifier, and reading it again does the same
    rename_i hsame
    cases hcheck
    obtain ⟨T, hT, hTF⟩ := (Option.any_eq_true _ _).mp hsame
    obtain rfl := hstored T (htrees.1 ▸ hT)
    obtain ⟨W', -, hrun₂⟩ := replay_applyVersionEvents T _ _ [] false (ofNode T) F (fun _ => []) r
      _ happly (Accounts.start _) (by simp) rootAtBottom_nil htok (paths_of_same_build hTF)
    rw [overwriteAt_nothing] at hrun₂
    cases (hrun₂ r).symm.trans happly
    exact hrun
  · -- the first import committed the build of its staged storage; reading the document again
    -- stages a copy of it with every write made again, which is the copy itself
    rename_i hsame
    obtain ⟨root', hcommit, hput⟩ := commitVersionStorage_run F r'
    rw [bind_of_ok hcommit] at hcheck
    cases hcheck
    obtain ⟨S₁, hS₁, -, hcopy, -⟩ := versionStorage_staged { r' with root := root' }
    rw [hcopy _ hput] at hS₁
    obtain ⟨W', hacc, hrun₂⟩ := replay_applyVersionEvents { F.build with name := Known.versionStorage }
      _ _ [] false S₀ F (fun _ => []) r _ happly (Accounts.start _) (by simp) rootAtBottom_nil
      htok (paths_of_renamed_build _)
    rw [overwriteAt_nothing, hacc.overwriteAt_ofNode_build] at hrun₂
    unfold importVersions
    rw [bind_of_ok hS₁, bind_of_ok (hrun₂ _), bind_of_ok get_run]
    dsimp only
    rw [build_ofNode, hput, if_pos (by simpa using Node.same_self (hnan _ hput))]
    rfl

/-- A version document with the history of the token `abcdef` and one version in it. -/
def oneHistoryDocument : List UInt8 :=
  ("<vlt:versions xmlns:jcr=\"http://www.jcp.org/jcr/1.0\" " ++
    "xmlns:vlt=\"http://www.day.com/jcr/vault/1.0\">" ++
    "<nt:versionHistory jcr:primaryType=\"{Name}nt:versionHistory\" vlt:nodename=\"abcdef\">" ++
    "<nt:version jcr:primaryType=\"{Name}nt:version\" jcr:uuid=\"v1\" " ++
    "jcr:created=\"{Date}2024-01-02T03:04:05.000+00:00\" vlt:nodename=\"1.0\"/>" ++
    "</nt:versionHistory></vlt:versions>").toUTF8.toList

/-- The history of `abcdef` imported into an empty repository, then imported again: the first
reading creates it, the second reports no change. -/
theorem history_import_settles :
    ∃ r₁, importVersions oneHistoryDocument (Repository.ofRoot emptyRoot 0 creationMoment) =
        .ok true r₁ ∧ importVersions oneHistoryDocument r₁ = .ok false r₁ := by
  -- the first run, the storage it leaves and the document's elements are checked by the kernel
  have hcheck : (importVersions oneHistoryDocument
      (Repository.ofRoot emptyRoot 0 creationMoment)).casesOn (motive := fun _ => Bool)
      (fun b r₁ => b && (r₁.root.descendant? Known.versionStoragePath).all fun st =>
        decide (Everywhere SelfSame st))
      (fun _ _ => false) = true := by
    decide +kernel
  have htok : LongHistoryTokens
      (elementEvents oneHistoryDocument (2 * oneHistoryDocument.length + 2)).1 := by
    decide +kernel
  cases hrun : importVersions oneHistoryDocument (Repository.ofRoot emptyRoot 0 creationMoment) with
  | error e r' =>
    rw [hrun] at hcheck
    cases hcheck
  | ok b r₁ =>
    rw [hrun] at hcheck
    obtain ⟨rfl, hstorage⟩ := Bool.and_eq_true_iff.mp hcheck
    exact ⟨r₁, rfl, importVersions_again _ _ _ _ hrun htok fun st hst => by
      simpa [hst] using hstorage⟩

/-- Two imports of a document, read off a check of both runs. -/
theorem importVersions_twice_of_check {data : List UInt8} {r : Repository} {b₁ b₂ : Bool}
    (h : (importVersions data r).casesOn (motive := fun _ => Bool)
      (fun b r₁ => b == b₁ && (importVersions data r₁).casesOn (motive := fun _ => Bool)
        (fun b' _ => b' == b₂) (fun _ _ => false))
      (fun _ _ => false) = true) :
    ∃ r₁ r₂, importVersions data r = .ok b₁ r₁ ∧ importVersions data r₁ = .ok b₂ r₂ := by
  cases hrun : importVersions data r with
  | error e r' =>
    rw [hrun] at h
    cases h
  | ok b r₁ =>
    rw [hrun] at h
    obtain ⟨hb, hsecond⟩ := Bool.and_eq_true_iff.mp h
    cases hrun₂ : importVersions data r₁ with
    | error e r' =>
      rw [hrun₂] at hsecond
      cases hsecond
    | ok b' r₂ =>
      rw [hrun₂] at hsecond
      exact ⟨r₁, r₂, by rw [beq_iff_eq.mp hb], by rw [hrun₂, beq_iff_eq.mp hsecond]⟩

/-- A version document where the token `ab` has the version `abab`, and the token `abab`, two
bucket names below, has its history at the same node. -/
def shortTokenDocument : List UInt8 :=
  ("<vlt:versions xmlns:jcr=\"http://www.jcp.org/jcr/1.0\" " ++
    "xmlns:vlt=\"http://www.day.com/jcr/vault/1.0\">" ++
    "<nt:versionHistory jcr:primaryType=\"{Name}nt:versionHistory\" vlt:nodename=\"ab\">" ++
    "<nt:version jcr:primaryType=\"{Name}nt:version\" jcr:uuid=\"v\" " ++
    "jcr:created=\"{Date}2024-01-02T03:04:05.000+00:00\" vlt:nodename=\"abab\"/>" ++
    "</nt:versionHistory>" ++
    "<nt:versionHistory jcr:primaryType=\"{Name}nt:versionHistory\" vlt:nodename=\"abab\"/>" ++
    "</vlt:versions>").toUTF8.toList

/-- A version document without histories. -/
def emptyVersionsDocument : List UInt8 :=
  "<vlt:versions xmlns:vlt=\"http://www.day.com/jcr/vault/1.0\"/>".toUTF8.toList

/-- An empty repository whose version storage has a NaN double. -/
def nanStorageRoot : Node :=
  { Node.empty "" Known.repRoot with
    children := [{ Node.empty Known.system Known.repSystem with
      children := [{ Node.empty Known.versionStorage Known.repVersionStorage with
        properties := [Property.single "x" (.double (Number.Binary64.nan false))] }] }] }

/-- Without its two conditions a second import reports a change again: when a short token puts
a history at the node of another history's version, and when the storage holds a NaN double,
even for a document without histories. -/
theorem version_import_repeats_change :
    (∃ r₁ r₂, importVersions shortTokenDocument (Repository.ofRoot emptyRoot 0 creationMoment) =
        .ok true r₁ ∧ importVersions shortTokenDocument r₁ = .ok true r₂) ∧
      ∃ r₁ r₂, importVersions emptyVersionsDocument
          (Repository.ofRoot nanStorageRoot 0 creationMoment) = .ok true r₁ ∧
        importVersions emptyVersionsDocument r₁ = .ok true r₂ :=
  ⟨importVersions_twice_of_check (by decide +kernel),
    importVersions_twice_of_check (by decide +kernel)⟩

end ContentSync
