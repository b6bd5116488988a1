import ContentSync.Proofs.ImportFrame
import ContentSync.Proofs.VersionHistories

/-!
# Looking up a version history finds the one that was built

A history is built by walking the version storage name by name: the buckets of the identifier,
then the identifier itself (`RepoM.ensureHistory`). It is looked up (`versionHistoryIn`) by
joining those names with slashes and resolving the text as a path. The two agree when the
joined text splits back into the same names, which it does when the identifier is a valid name
(`Path.segments_intercalate`); with a slash in the identifier the text names other nodes.

Building a history only adds nodes to the staged storage (`Staged.KeepsCopies`), so every node
of the tree keeps its state through the commit that follows (`RepoM.commit_keeps_states`),
the node that was made versionable included. A node that already stands where the history
belongs is taken as the history, whatever its type.

Main statement: `lookup_finds_built_history`.
-/

namespace ContentSync

open Node RepoM

/-! ## The path of a history -/

namespace Path

theorem toList_intercalate_slash (n : String) (ns : List String) :
    ("/".intercalate (n :: ns)).toList = n.toList ++ slashed ns := by
  induction ns generalizing n with
  | nil => simp
  | cons m ms ih =>
    rw [String.intercalate_cons_cons, String.toList_append, String.toList_append, ih,
      slashed_cons]
    simp

/-- Valid names joined by slashes resolve back to those names. -/
theorem segments_intercalate {names : List String} (h : ∀ n ∈ names, ValidName n) :
    segments ("/".intercalate names) = names := by
  cases names with
  | nil => simp
  | cons n ns =>
    rw [segments_eq, toList_intercalate_slash, pieces_name_append_slashed (h n List.mem_cons_self),
      pieces_slashed fun m hm => h m (List.mem_cons_of_mem n hm)]
    simp

/-- A bucket is made of characters of the identifier. -/
theorem toList_subset_of_mem_versionBuckets {id b : String} (hb : b ∈ versionBuckets id) :
    b.toList ⊆ id.toList := by
  intro c hc
  unfold versionBuckets at hb
  split at hb <;> simp only [List.mem_cons, List.not_mem_nil, or_false] at hb
  all_goals
    rename_i heq
    rw [heq]
    rcases hb with rfl | rfl | rfl <;> simp only [String.toList_ofList, List.mem_cons,
      List.not_mem_nil, or_false] at hc <;> rcases hc with rfl | rfl <;> simp

/-- The names leading to the history of a valid name are valid names. -/
theorem validName_of_mem_versionHistoryPath {id b : String} (hid : ValidName id)
    (hb : b ∈ versionHistoryPath id) : ValidName b := by
  rcases List.mem_append.mp hb with hb | hb
  · refine ⟨fun hempty => ?_, fun hslash => hid.2 (toList_subset_of_mem_versionBuckets hb hslash)⟩
    have hlen := length_of_mem_versionBuckets hb
    rw [hempty] at hlen
    cases hlen
  · rw [List.mem_singleton.mp hb]
    exact hid

end Path

/-- The history of a versionable node with a valid identifier is looked up name by name, along
the names it is built on. -/
theorem versionHistoryIn_eq_descendAlong {tree n : Node} {path id : String}
    (hn : tree.descendant? path = some n) (hv : n.isNodeType Known.mixVersionable = true)
    (hid : n.identifier? = some id) (hvalid : Path.ValidName id) :
    versionHistoryIn tree path =
      .ok ((tree.descendant? Known.versionStoragePath).bind
        (·.descendAlong (Path.versionHistoryPath id))) := by
  have hseg : Path.segments ("/".intercalate (Path.versionHistoryPath id)) =
      Path.versionHistoryPath id :=
    Path.segments_intercalate fun b hb => Path.validName_of_mem_versionHistoryPath hvalid hb
  unfold versionHistoryIn nodeAt
  rw [hn]
  simp only [bind, Except.bind, hv, Bool.not_true, hid, Node.descendant?, hseg]
  rfl

/-! ## Staged trees, node by node -/

namespace Staged

variable {α : Type}

@[simp] theorem along?_nil (s : Staged) : s.along? [] = some s := rfl

@[simp] theorem along?_cons (s : Staged) (a : String) (rest : List String) :
    s.along? (a :: rest) = (s.child? a).bind (·.along? rest) := rfl

theorem child?_build (s : Staged) (a : String) : s.build.child? a = (s.child? a).map build := by
  simp only [Node.child?, Staged.child?, children_build, List.find?_map, Function.comp_def,
    name_build]

/-- Below a built tree stand the built nodes of the staged tree. -/
theorem descendAlong_build (s : Staged) (names : List String) :
    s.build.descendAlong names = (s.along? names).map build := by
  induction names generalizing s with
  | nil => rfl
  | cons a rest ih =>
    rw [Node.descendAlong_cons, child?_build, along?_cons]
    cases s.child? a with
    | none => rfl
    | some c => exact ih c

theorem child?_ofNode (n : Node) (a : String) :
    (ofNode n).child? a = (n.child? a).map ofNode := by
  simp only [Node.child?, Staged.child?, children_ofNode, List.find?_map, Function.comp_def,
    name_ofNode]

/-- Below a staged copy stand the copies of the nodes of the tree. -/
theorem along?_ofNode (n : Node) (names : List String) :
    (ofNode n).along? names = (n.descendAlong names).map ofNode := by
  induction names generalizing n with
  | nil => rfl
  | cons a rest ih =>
    rw [along?_cons, child?_ofNode, Node.descendAlong_cons]
    cases n.child? a with
    | none => rfl
    | some c => exact ih c

theorem along?_of_children_nil {s : Staged} (h : s.children = []) (a : String)
    (rest : List String) : s.along? (a :: rest) = none := by
  rw [along?_cons, child?, h]
  rfl

@[simp] theorem fresh_ofNode (n : Node) : (ofNode n).fresh = false := by
  cases n
  rfl

@[simp] theorem primaryType_ofNode (n : Node) : (ofNode n).primaryType = some n.primaryType := by
  cases n
  rfl

@[simp] theorem mixins_ofNode (n : Node) : (ofNode n).mixins = n.mixins := by
  cases n
  rfl

@[simp] theorem properties_ofNode (n : Node) : (ofNode n).properties = n.properties := by
  cases n
  rfl

@[simp] theorem primaryType_build (s : Staged) :
    s.build.primaryType = s.primaryType.getD Known.ntUnstructured := by
  cases s
  rfl

@[simp] theorem mixins_build (s : Staged) : s.build.mixins = s.mixins := by
  cases s
  rfl

@[simp] theorem properties_build (s : Staged) : s.build.properties = s.properties := by
  cases s
  rfl

/-! ### The child of a name after an update -/

theorem child?_withChild_of_first {f : Staged → Staged × α} {s c : Staged} {name : String}
    (hc : s.child? name = some c) (hname : (f c).1.name = name) :
    (s.withChild name f).1.child? name = some (f c).1 := by
  obtain ⟨hcn, l₁, l₂, hsplit, hfirst⟩ := List.find?_eq_some_iff_append.mp hc
  have hfirst' : ∀ d ∈ l₁, d.name ≠ name := fun d hd hdn => by simpa [hdn] using hfirst d hd
  rw [withChild_fst, child?]
  dsimp only
  rw [hsplit, withChild_go_of_first f hfirst' (by simpa using hcn)]
  exact find?_eq_some_of_first hfirst' hname

theorem child?_withChild_of_none {f : Staged → Staged × α} {s : Staged} {name : String}
    (hnone : s.child? name = none) (hname : (f (blank name)).1.name = name) :
    (s.withChild name f).1.child? name = some (f (blank name)).1 := by
  have hne : ∀ d ∈ s.children, d.name ≠ name := fun d hd hdn => by
    simpa [hdn] using List.find?_eq_none.mp hnone d hd
  rw [withChild_fst, child?]
  dsimp only
  have hnone' : s.children.find? (·.name = name) = none := hnone
  rw [withChild_go_of_forall_ne f hne, List.find?_append, hnone']
  simp [hname]

theorem child?_withChild_of_ne {f : Staged → Staged × α} {s d : Staged} {name a : String}
    (ha : a ≠ name) (hname : ∀ c, s.child? name = some c → (f c).1.name = name)
    (hd : s.child? a = some d) : (s.withChild name f).1.child? a = some d := by
  rw [withChild_fst, child?]
  dsimp only
  rcases exists_first_or_forall_ne Staged.name name s.children with
    ⟨l₁, c, l₂, hsplit, hfirst, hc⟩ | hne
  · have hcc : s.child? name = some c := by
      rw [child?, hsplit]
      exact find?_eq_some_of_first hfirst hc
    rw [child?, hsplit] at hd
    rw [hsplit, withChild_go_of_first f hfirst hc]
    simpa [List.find?_append, List.find?_cons, hc, hname c hcc, Ne.symm ha] using hd
  · rw [withChild_go_of_forall_ne f hne, List.find?_append]
    rw [child?] at hd
    rw [hd]
    rfl

/-- Updating the child of a name by a function that keeps it changes nothing. -/
theorem withChild_of_fixes {f : Staged → Staged × Unit} {s c : Staged} {name : String}
    (hc : s.child? name = some c) (hf : (f c).1 = c) : (s.withChild name f).1 = s := by
  obtain ⟨hcn, l₁, l₂, hsplit, hfirst⟩ := List.find?_eq_some_iff_append.mp hc
  have hfirst' : ∀ d ∈ l₁, d.name ≠ name := fun d hd hdn => by simpa [hdn] using hfirst d hd
  rw [withChild_fst]
  have hgo : (withChild.go name f s.children).1 = s.children := by
    rw [hsplit, withChild_go_of_first _ hfirst' (by simpa using hcn), hf]
  rw [hgo]
  cases s
  rfl

/-- Putting the child of a name back as it is changes nothing. -/
theorem withChild_const_self {s c : Staged} {name : String} (hc : s.child? name = some c) :
    (s.withChild name fun _ => (c, ())).1 = s :=
  withChild_of_fixes hc rfl

theorem withChild_self {s c : Staged} {name : String} (hc : s.child? name = some c) :
    (s.withChild name fun c => (c, ())).1 = s :=
  withChild_of_fixes hc rfl

/-! ### Adding nodes to a staged tree -/

/-- Every node of `s` copied from the repository is still in `s'` at its place, copied, with
its own type, mixins and properties: `s'` has at most added to `s`, and typed what it added. -/
def KeepsCopies (s s' : Staged) : Prop :=
  ∀ u c, s.along? u = some c → c.fresh = false →
    ∃ c', s'.along? u = some c' ∧ c'.fresh = false ∧ c'.primaryType = c.primaryType ∧
      c'.mixins = c.mixins ∧ c'.properties = c.properties

theorem KeepsCopies.refl (s : Staged) : KeepsCopies s s :=
  fun _ c hc hf => ⟨c, hc, hf, rfl, rfl, rfl⟩

/-- Updating the child of a name keeps the copies if the update keeps those of the child. -/
theorem KeepsCopies.withChild {f : Staged → Staged × α} {s : Staged} {name : String}
    (hname : ∀ c, s.child? name = some c → (f c).1.name = name)
    (hkeep : ∀ c, s.child? name = some c → KeepsCopies c (f c).1) :
    KeepsCopies s (s.withChild name f).1 := by
  intro u c hc hfresh
  cases u with
  | nil =>
    cases hc
    exact ⟨_, rfl, hfresh, rfl, rfl, rfl⟩
  | cons a rest =>
    rw [along?_cons] at hc
    obtain ⟨d, hd, hrest⟩ := Option.bind_eq_some_iff.mp hc
    by_cases ha : a = name
    · subst ha
      obtain ⟨c', hc', hsame⟩ := hkeep d hd rest c hrest hfresh
      refine ⟨c', ?_, hsame⟩
      rw [along?_cons, child?_withChild_of_first hd (hname d hd), Option.bind_some]
      exact hc'
    · refine ⟨c, ?_, hfresh, rfl, rfl, rfl⟩
      rw [along?_cons, child?_withChild_of_ne ha hname hd, Option.bind_some]
      exact hrest

/-- Creating the history of `id` along `names` below `s` built `s'`: the copies of `s` are
kept, and at the end of the names stands a history named `id`, a new one of type
`nt:versionHistory` if it was created; if it was not, nothing changed. -/
structure BuildsHistory (s : Staged) (names : List String) (id : String) (s' : Staged)
    (created : Bool) : Prop where
  name : s'.name = s.name
  copies : KeepsCopies s s'
  history : ∃ h, s'.along? (names ++ [id]) = some h ∧ h.name = id ∧
    (created = true → h.primaryType = some Known.ntVersionHistory)
  unchanged : created = false → s' = s

end Staged

/-! ## Building a history -/

namespace RepoM

open Staged

/-- The bucket a history's creation descends into: the child of that name, settled, or a new
blank one. -/
theorem bucket_settled {s : Staged} (hset : s.Settled) (b : String) :
    (((s.child? b).getD (blank b)).typeIfFresh Known.repVersionStorage).Settled ∧
      (((s.child? b).getD (blank b)).typeIfFresh Known.repVersionStorage).name = b ∧
      (∀ d, s.child? b = some d →
        ((s.child? b).getD (blank b)).typeIfFresh Known.repVersionStorage = d) ∧
      (s.child? b = none →
        (((s.child? b).getD (blank b)).typeIfFresh Known.repVersionStorage).children = []) := by
  cases hc : s.child? b with
  | none =>
    exact ⟨settled_of_children_nil rfl, rfl, fun _ h => (by cases h), fun _ => rfl⟩
  | some d =>
    obtain ⟨hfresh, hdset⟩ := hset.child? hc
    rw [Option.getD_some, info_typeIfFresh_of_settled hfresh]
    exact ⟨hdset, Staged.name_of_child? hc, fun _ h => Option.some_inj.mp h, fun h => (by cases h)⟩

theorem yields_buildsHistory_descend (node : Node) (id : String) :
    ∀ (names : List String) (s : Staged), s.Settled →
      Yields (fun p : Staged × Bool => BuildsHistory s names id p.1 p.2)
        (ensureHistory.descend node id names s)
  | [], s, hset => by
    rw [ensureHistory.descend]
    dsimp only
    split
    · -- the history is there: it is kept as it is
      rename_i hthere
      obtain ⟨c, hc⟩ : ∃ c, s.child? id = some c := by
        cases hc : s.child? id with
        | none =>
          rw [hc] at hthere
          simp [Staged.blank] at hthere
        | some c => exact ⟨c, rfl⟩
      have hcn : c.name = id := Staged.name_of_child? hc
      refine yields_pure ⟨rfl, KeepsCopies.withChild (fun c' hc' => Staged.name_of_child? hc')
        fun c' _ => KeepsCopies.refl c', ⟨c, ?_, hcn, fun h => (by cases h)⟩, fun _ => ?_⟩
      · rw [List.nil_append, along?_cons, child?_withChild_of_first hc hcn]
        rfl
      · -- the child found is put back as it is
        exact withChild_self hc
    · -- a new history is appended
      rename_i hnew
      have hnone : s.child? id = none := by
        cases hc : s.child? id with
        | none => rfl
        | some c =>
          rw [hc] at hnew
          exact absurd (hset.child? hc).1 (by simpa using hnew)
      refine Yields.bind fun _ => Yields.bind fun _ => Yields.bind fun _ => yields_pure ?_
      rw [hnone, Option.getD_none]
      refine ⟨rfl, KeepsCopies.withChild (fun c hc => by rw [hnone] at hc; cases hc)
        (fun c hc => by rw [hnone] at hc; cases hc), ?_, fun h => (by cases h)⟩
      rw [List.nil_append, along?_cons, child?_withChild_of_none hnone rfl, Option.bind_some,
        along?_nil]
      exact ⟨_, rfl, rfl, fun _ => rfl⟩
  | bucket :: rest, s, hset => by
    rw [ensureHistory.descend]
    dsimp only
    obtain ⟨hbset, hbname, hbold, hbnew⟩ := bucket_settled hset bucket
    refine Yields.bind_of (yields_buildsHistory_descend node id rest _ hbset) fun p hp => ?_
    -- the bucket below `s` is the one the rest was built in
    have hbucket : (s.withChild bucket fun _ => (p.1, ())).1.child? bucket = some p.1 := by
      cases hc : s.child? bucket with
      | none => exact child?_withChild_of_none hc (hp.name.trans hbname)
      | some d => exact child?_withChild_of_first hc (hp.name.trans hbname)
    refine yields_pure ⟨rfl, KeepsCopies.withChild (fun _ _ => hp.name.trans hbname)
      fun d hd => hbold d hd ▸ hp.copies, ?_, fun hf => ?_⟩
    · obtain ⟨h, hh, hname, hcreated⟩ := hp.history
      refine ⟨h, ?_, hname, hcreated⟩
      rw [List.cons_append, along?_cons, hbucket, Option.bind_some]
      exact hh
    · -- nothing was created below: the bucket is put back as it was
      cases hc : s.child? bucket with
      | none =>
        -- a new bucket holds nothing, so the history below it was created
        obtain ⟨h, hh, -, -⟩ := hp.history
        obtain ⟨x, xs, hxs⟩ : ∃ x xs, rest ++ [id] = x :: xs := by
          cases rest with
          | nil => exact ⟨id, [], rfl⟩
          | cons x xs => exact ⟨x, xs ++ [id], rfl⟩
        rw [hp.unchanged hf, hxs, along?_of_children_nil (hbnew hc)] at hh
        cases hh
      | some d =>
        show (s.withChild bucket fun _ => (p.1, ())).1 = s
        rw [hp.unchanged hf, hbold d hc]
        exact withChild_const_self hc

theorem yields_buildsHistory (node : Node) (id : String) {storage : Staged}
    (hset : storage.Settled) :
    Yields (fun p : Staged × Bool => BuildsHistory storage (Path.versionBuckets id) id p.1 p.2)
      (ensureHistory storage node id) := by
  unfold ensureHistory
  exact yields_buildsHistory_descend node id _ storage hset


end RepoM

/-! ## Committing a storage that keeps the copies -/

namespace Node

/-- Replacing a node by `y` under its own name replaces it by `y`. -/
theorem updateAlong_const_eq {root n y : Node} {t : List String}
    (hn : root.descendAlong t = some n) (hname : y.name = n.name) :
    root.updateAlong (fun _ => y) t = root.updateAlong (renamedTo y) t := by
  refine updateAlong_congr fun m hm => ?_
  rw [hn] at hm
  cases hm
  cases y
  cases hname
  rfl

theorem descendAlong_updateAlong_const {root n y : Node} {t : List String}
    (hn : root.descendAlong t = some n) (hname : y.name = n.name) :
    (root.updateAlong (fun _ => y) t).descendAlong t = some y := by
  rw [updateAlong_const_eq hn hname, descendAlong_updateAlong_self (keepsName_renamedTo y), hn]
  cases y
  cases hname
  rfl

/-- Replacing a node by one with its name and children leaves every path where it was: a node
stands at a path after the change exactly when one stood there before. -/
theorem isSome_descendAlong_updateAlong_const {root n y : Node} {t : List String}
    (hn : root.descendAlong t = some n) (hname : y.name = n.name) (hkids : y.children = n.children)
    (q : List String) :
    ((root.updateAlong (fun _ => y) t).descendAlong q).isSome = (root.descendAlong q).isSome := by
  have hchild : ∀ m b, root.descendAlong t = some m → t ++ [b] <+: q →
      (renamedTo y m).child? b = m.child? b := by
    intro m b hm _
    rw [hn] at hm
    cases hm
    unfold Node.child?
    rw [show (renamedTo y n).children = y.children from rfl, hkids]
  rw [updateAlong_const_eq hn hname]
  rcases descendAlong_updateAlong_cases (keepsName_renamedTo y) root t q hchild with
    heq | ⟨-, heq⟩ | ⟨b, v, -, heq⟩ <;> rw [heq] <;> cases root.descendAlong q <;> rfl

/-- Below a renamed node stand the nodes below it. -/
theorem descendAlong_rename_cons (n : Node) (a b : String) (rest : List String) :
    ({ n with name := a } : Node).descendAlong (b :: rest) = n.descendAlong (b :: rest) :=
  descendAlong_cons_of_children rfl b rest

/-- Replacing the storage below the system node keeps every node of the tree in its state, when
the new storage keeps the state of every node of the old one. -/
theorem putStorage_keeps_states {root sys built : Node}
    (hsys : root.child? Known.system = some sys) (hb : built.name = Known.versionStorage)
    (hkeep : ∀ st, sys.child? Known.versionStorage = some st → ∀ u m,
      st.descendAlong u = some m → ∃ m', built.descendAlong u = some m' ∧ m'.SameState m) :
    ∀ q m, root.descendAlong q = some m →
      ∃ m', (root.updateAlong (·.putChild built) [Known.system]).descendAlong q = some m' ∧
        m'.SameState m := by
  have hput : KeepsName (·.putChild built) := fun _ => rfl
  intro q m hm
  cases q with
  | nil =>
    cases hm
    exact ⟨_, rfl, sameState_updateAlong_cons root Known.system []⟩
  | cons a rest =>
    by_cases ha : a = Known.system
    · -- below the system node only the storage is replaced
      subst ha
      rw [descendAlong_cons, hsys, Option.bind_some] at hm
      have hsys' : root.descendAlong [Known.system] = some sys := by simp [hsys]
      rw [show Known.system :: rest = [Known.system] ++ rest from rfl,
        descendAlong_updateAlong_append hput, hsys', Option.bind_some]
      cases rest with
      | nil =>
        cases hm
        exact ⟨_, rfl, ⟨rfl, rfl, rfl⟩⟩
      | cons b u =>
        rw [descendAlong_cons] at hm ⊢
        by_cases hbv : b = Known.versionStorage
        · subst hbv
          obtain ⟨st, hst, hu⟩ := Option.bind_eq_some_iff.mp hm
          rw [← hb, RepoM.child?_putChild_self, Option.bind_some]
          exact hkeep st hst u m hu
        · rw [child?_putChild_of_ne (by rw [hb]; exact Ne.symm hbv) sys]
          exact ⟨m, hm, SameState.refl m⟩
    · -- away from the system node nothing changes
      have hst : ¬ [Known.system] <+: a :: rest := fun h => ha (List.cons_prefix_cons.mp h).1.symm
      have hts : ¬ a :: rest <+: [Known.system] := fun h => ha (List.cons_prefix_cons.mp h).1
      rw [descendAlong_updateAlong_away hput hst hts]
      exact ⟨m, hm, SameState.refl m⟩

end Node

namespace RepoM

open Staged

/-- The built storage keeps the state of each node the staged storage keeps a copy of. -/
theorem built_keeps_states {st : Node} {s : Staged} (h : KeepsCopies (ofNode st) s) :
    ∀ u m, st.descendAlong u = some m → ∃ m',
      ({ s.build with name := Known.versionStorage } : Node).descendAlong u = some m' ∧
        m'.SameState m := by
  intro u m hm
  obtain ⟨c, hc, -, htype, hmixins, hprops⟩ :=
    h u (ofNode m) (by rw [along?_ofNode, hm]; rfl) (fresh_ofNode m)
  have hstate : c.build.SameState m := by
    refine ⟨?_, ?_, ?_⟩
    · rw [primaryType_build, htype, primaryType_ofNode]
      rfl
    · rw [mixins_build, hmixins, mixins_ofNode]
    · rw [properties_build, hprops, properties_ofNode]
  cases u with
  | nil =>
    cases hc
    exact ⟨_, rfl, hstate⟩
  | cons a rest =>
    rw [descendAlong_rename_cons, descendAlong_build, hc]
    exact ⟨_, rfl, hstate⟩

/-- A commit of a staged storage that keeps the copies of the stored one keeps every node of the
tree in its state. -/
theorem commit_keeps_states {s : Staged} {r r' : Repository}
    (hkeep : ∀ st, r.root.descendant? Known.versionStoragePath = some st → KeepsCopies (ofNode st) s)
    (hrun : commitVersionStorage s r = .ok () r') :
    ∀ q m, r.root.descendAlong q = some m →
      ∃ m', r'.root.descendAlong q = some m' ∧ m'.SameState m := by
  unfold commitVersionStorage at hrun
  rw [bind_of_ok get_run] at hrun
  dsimp only at hrun
  intro q m hm
  split at hrun
  · -- no system node yet: one is added, with nothing below it
    rename_i hnone
    rw [bind_of_ok (set_run _)] at hrun
    have hchild : r.root.child? Known.system = none :=
      (child?_eq_none_iff _ _).mpr (by simpa using hnone)
    have hsys : ({ r.root with children := r.root.children ++
        [Node.empty Known.system Known.repSystem] } : Node).child? Known.system =
          some (Node.empty Known.system Known.repSystem) := by
      unfold Node.child? at hchild ⊢
      simp [List.find?_append, hchild, Node.empty]
    have hsys' : ({ r.root with children := r.root.children ++
        [Node.empty Known.system Known.repSystem] } : Node).descendAlong [Known.system] =
          some (Node.empty Known.system Known.repSystem) := by
      simp [hsys]
    rw [modifyNode_run segments_systemPath hsys'] at hrun
    cases hrun
    -- the node at `q` is the one of the tree before the system node was added
    obtain ⟨m₀, hm₀, hsame₀⟩ : ∃ m₀, ({ r.root with children := r.root.children ++
        [Node.empty Known.system Known.repSystem] } : Node).descendAlong q = some m₀ ∧
          m₀.SameState m := by
      cases q with
      | nil =>
        cases hm
        exact ⟨_, rfl, ⟨rfl, rfl, rfl⟩⟩
      | cons a rest =>
        rw [descendAlong_cons] at hm
        obtain ⟨c, hc, hrest⟩ := Option.bind_eq_some_iff.mp hm
        refine ⟨m, ?_, SameState.refl m⟩
        have hc₀ : ({ r.root with children := r.root.children ++
            [Node.empty Known.system Known.repSystem] } : Node).child? a = some c := by
          unfold Node.child? at hc ⊢
          simp [List.find?_append, hc]
        rw [descendAlong_cons, hc₀, Option.bind_some]
        exact hrest
    obtain ⟨m', hm', hsame'⟩ := putStorage_keeps_states hsys
      (show ({ s.build with name := Known.versionStorage } : Node).name = Known.versionStorage
        from rfl)
      (fun st hst => by simp [Node.empty, Node.child?] at hst) q m₀ hm₀
    exact ⟨m', hm', hsame'.trans hsame₀⟩
  · rename_i hsome
    obtain ⟨sys, hsys⟩ := exists_child?_of_hasChild (by simpa using hsome)
    have hsys' : r.root.descendAlong [Known.system] = some sys := by simp [hsys]
    rw [modifyNode_run segments_systemPath hsys'] at hrun
    cases hrun
    refine putStorage_keeps_states hsys rfl (fun st hst => built_keeps_states (hkeep st ?_)) q m hm
    unfold Node.descendant?
    rw [segments_versionStoragePath]
    simp [hsys, hst]

/-- The staged storage is a copy of the stored one, or an empty one when there is none. -/
theorem versionStorage_staged (r : Repository) :
    ∃ s, versionStorage r = .ok s r ∧ s.Settled ∧
      (∀ st, r.root.descendant? Known.versionStoragePath = some st → s = ofNode st) ∧
      (r.root.descendant? Known.versionStoragePath = none → s.children = []) := by
  unfold versionStorage
  rw [bind_of_ok get_run]
  cases hd : r.root.descendant? Known.versionStoragePath with
  | some st =>
    exact ⟨_, pure_run _, settled_ofNode st, fun _ h => by cases h; rfl, fun h => (by cases h)⟩
  | none => exact ⟨_, pure_run _, settled_of_children_nil rfl, fun _ h => (by cases h), fun _ => rfl⟩

theorem exists_cons_versionHistoryPath (id : String) :
    ∃ x xs, Path.versionHistoryPath id = x :: xs := by
  unfold Path.versionHistoryPath
  cases Path.versionBuckets id with
  | nil => exact ⟨id, [], rfl⟩
  | cons b bs => exact ⟨b, bs ++ [id], rfl⟩

/-- Building the history of `n` under `id`, once the node is written back: every node of the
tree keeps its state, and the history of `id` stands in the storage, new and of type
`nt:versionHistory` if no node stood there before. -/
theorem buildHistory_run {r r' : Repository} {n : Node} {id : String}
    (hrun : (do
      let storage ← versionStorage
      let (storage, created) ← ensureHistory storage n id
      if created then commitVersionStorage storage : RepoM Unit) r = .ok () r') :
    (∀ q m, r.root.descendAlong q = some m →
      ∃ m', r'.root.descendAlong q = some m' ∧ m'.SameState m) ∧
    ∃ h, (r'.root.descendant? Known.versionStoragePath).bind
        (·.descendAlong (Path.versionHistoryPath id)) = some h ∧ h.name = id ∧
      ((r.root.descendant? Known.versionStoragePath).bind
        (·.descendAlong (Path.versionHistoryPath id)) = none →
          h.primaryType = Known.ntVersionHistory) := by
  obtain ⟨s, hvs, hset, hcopy, hempty⟩ := versionStorage_staged r
  rw [bind_of_ok hvs] at hrun
  obtain ⟨⟨s', created⟩, r₁, hens, hrest⟩ := bind_eq_ok.mp hrun
  have hbuilt := yields_buildsHistory n id hset r _ r₁ hens
  -- creating the history only draws identifiers
  have hroot : r₁.root = r.root := by
    have := keeps_ensureHistory
      (show Keeps (fun x : Repository => x.root = r.root) freshNumber from fun _ h => h) s n id r rfl
    rwa [hens, final_ok] at this
  obtain ⟨h, hh, hname, hnew⟩ := hbuilt.history
  obtain ⟨x, xs, hpath⟩ := exists_cons_versionHistoryPath id
  cases created with
  | false =>
    -- the history was there: nothing is committed
    cases hrest
    refine ⟨fun q m hm => ⟨m, hroot ▸ hm, SameState.refl m⟩, ?_⟩
    have hfound := hh
    rw [hbuilt.unchanged rfl] at hfound
    cases hst : r.root.descendant? Known.versionStoragePath with
    | none =>
      rw [show Path.versionBuckets id ++ [id] = x :: xs from hpath,
        along?_of_children_nil (hempty hst)] at hfound
      cases hfound
    | some st =>
      rw [hcopy st hst, show Path.versionBuckets id ++ [id] = Path.versionHistoryPath id from rfl,
        along?_ofNode] at hfound
      obtain ⟨h₀, hh₀, rfl⟩ := Option.map_eq_some_iff.mp hfound
      refine ⟨h₀, ?_, by rw [← name_ofNode]; exact hname, fun hnone => ?_⟩
      · rw [hroot, hst, Option.bind_some, hh₀]
      · rw [Option.bind_some, hh₀] at hnone
        cases hnone
  | true =>
    -- one commit of the storage holding the new history
    dsimp only at hrest
    rw [if_pos rfl] at hrest
    refine ⟨fun q m hm => commit_keeps_states (fun st hst => ?_) hrest q m (hroot ▸ hm), ?_⟩
    · rw [hroot] at hst
      exact hcopy st hst ▸ hbuilt.copies
    · obtain ⟨root', hcommit, hroot'⟩ := commitVersionStorage_run s' r₁
      rw [hcommit] at hrest
      cases hrest
      refine ⟨h.build, ?_, by rw [name_build]; exact hname, fun _ => ?_⟩
      · rw [hroot', Option.bind_some, hpath, descendAlong_rename_cons, ← hpath,
          descendAlong_build, show Path.versionHistoryPath id = Path.versionBuckets id ++ [id]
            from rfl, hh]
        rfl
      · rw [primaryType_build, hnew rfl]
        rfl

/-- What a successful `addMixin` of `mix:versionable` did: it wrote the node at the path back,
with its name and children, the mixin and an identifier, and then built its history. -/
theorem addMixin_versionable_run {r r' : Repository} {path : String}
    (hrun : addMixin path Known.mixVersionable r = .ok () r') :
    ∃ n y id r₁, r.root.descendAlong (Path.segments path) = some n ∧ y.name = n.name ∧
      y.children = n.children ∧ y.isNodeType Known.mixVersionable = true ∧
      y.identifier? = some id ∧
      r₁.root = r.root.updateAlong (fun _ => y) (Path.segments path) ∧
      (do
        let storage ← versionStorage
        let (storage, created) ← ensureHistory storage y id
        if created then commitVersionStorage storage : RepoM Unit) r₁ = .ok () r' := by
  unfold addMixin at hrun
  obtain ⟨n, r₀, hreq, hrest⟩ := bind_eq_ok.mp hrun
  clear hrun
  obtain ⟨hn, rfl⟩ := (requireNode_eq_ok rfl).mp hreq
  -- with the mixin the node keeps its name and children
  obtain ⟨n₁, hn₁, hname₁, hkids₁, hv₁⟩ : ∃ n₁, (if n.mixins.contains Known.mixVersionable then n
      else { n with mixins := n.mixins ++ [Known.mixVersionable] }) = n₁ ∧ n₁.name = n.name ∧
        n₁.children = n.children ∧ n₁.isNodeType Known.mixVersionable = true :=
    ⟨_, rfl, by split <;> rfl, by split <;> rfl, by split <;> simp_all [Node.isNodeType]⟩
  simp only [hn₁] at hrest
  -- it is written back with an identifier drawn for it, or with the one it has
  split at hrest
  on_goal 1 =>
    obtain ⟨k, r₃, hk, hrest⟩ := bind_eq_ok.mp hrest
    rw [freshIdentifier_run] at hk
    cases hk
    rw [bind_of_ok (pure_run _)] at hrest
    generalize hy : n₁.setProperty (Property.ofString Known.uuid (identifierOf (r₀.issued + 1))) = y
      at hrest
  on_goal 2 =>
    rw [bind_of_ok (pure_run _)] at hrest
    generalize hy : n₁ = y at hrest
  -- either way the node keeps its name, children and types, and its history is built
  all_goals
    obtain ⟨_, r₃, hmod, hrest⟩ := bind_eq_ok.mp hrest
    obtain ⟨-, rfl⟩ := (modifyNode_eq_ok rfl).mp hmod
    rw [if_neg (not_not.mpr rfl)] at hrest
    cases hyid : y.identifier? with
    | none =>
      rw [hyid] at hrest
      obtain ⟨_, _, hthrow, _⟩ := bind_eq_ok.mp hrest
      cases hthrow
    | some id =>
      rw [hyid] at hrest
      obtain ⟨_, _, hpure, hrest⟩ := bind_eq_ok.mp hrest
      cases hpure
      exact ⟨n, y, id, _, hn, by subst hy; exact hname₁, by subst hy; exact hkids₁,
        by subst hy; exact hv₁, hyid, rfl, hrest⟩

/-- After `addMixin` makes a node versionable, looking up its history finds the history built
for its identifier, when that is a valid name: a new one of type `nt:versionHistory`, unless a
node already stood at its place. -/
theorem addMixin_finds_history {r r' : Repository} {path id : String}
    (hrun : addMixin path Known.mixVersionable r = .ok () r')
    (hid : (r'.root.descendant? path).bind Node.identifier? = some id)
    (hvalid : Path.ValidName id) :
    ∃ h, versionHistoryIn r'.root path = .ok (some h) ∧ h.name = id ∧
      ((r.root.descendant? Known.versionStoragePath).bind
        (·.descendAlong (Path.versionHistoryPath id)) = none →
          h.primaryType = Known.ntVersionHistory) := by
  obtain ⟨n, y, id₀, r₁, hn, hname, hkids, hv, hid₀, hroot₁, htail⟩ := addMixin_versionable_run hrun
  obtain ⟨hstates, h, hh, hhname, hnew⟩ := buildHistory_run htail
  -- the node written back keeps its state through the creation of its history
  have hy : r₁.root.descendAlong (Path.segments path) = some y := by
    rw [hroot₁]
    exact descendAlong_updateAlong_const hn hname
  obtain ⟨y', hy', hsame⟩ := hstates _ y hy
  have hidy' : y'.identifier? = some id₀ := by
    unfold Node.identifier? Node.property?
    rw [hsame.2.2]
    exact hid₀
  have hid_eq : id₀ = id := by
    unfold Node.descendant? at hid
    rw [hy', Option.bind_some, hidy'] at hid
    exact Option.some_inj.mp hid
  subst hid_eq
  have hvy' : y'.isNodeType Known.mixVersionable = true := by
    unfold Node.isNodeType
    rw [hsame.1, hsame.2.1]
    exact hv
  refine ⟨h, ?_, hhname, fun hnone => hnew ?_⟩
  · rw [versionHistoryIn_eq_descendAlong hy' hvy' hidy' hvalid, hh]
  · -- no node stood at the history's place before the node was written back either
    unfold Node.descendant? at hnone ⊢
    rw [← descendAlong_append] at hnone ⊢
    rw [hroot₁, ← Option.not_isSome_iff_eq_none,
      isSome_descendAlong_updateAlong_const hn hname hkids, Option.not_isSome_iff_eq_none]
    exact hnone

end RepoM

/-! ## Looking up a history -/

/-- Looking up the history of a versionable node finds the one built for it. For a node whose
identifier is a valid name, the lookup resolves the names the history is built along: the
buckets of the identifier below the version storage, then the identifier itself. After
`addMixin` makes a node versionable, the lookup finds a history named after the identifier: a
new one of type `nt:versionHistory`, unless a node already stood at its place. -/
theorem lookup_finds_built_history :
    (∀ (tree n : Node) (path id : String), tree.descendant? path = some n →
      n.isNodeType Known.mixVersionable = true → n.identifier? = some id → Path.ValidName id →
        versionHistoryIn tree path = .ok ((tree.descendant? Known.versionStoragePath).bind
          (·.descendAlong (Path.versionHistoryPath id)))) ∧
    ∀ (r r' : Repository) (path id : String), addMixin path Known.mixVersionable r = .ok () r' →
      (r'.root.descendant? path).bind Node.identifier? = some id → Path.ValidName id →
        ∃ h, versionHistoryIn r'.root path = .ok (some h) ∧ h.name = id ∧
          ((r.root.descendant? Known.versionStoragePath).bind
            (·.descendAlong (Path.versionHistoryPath id)) = none →
              h.primaryType = Known.ntVersionHistory) :=
  ⟨fun _ _ _ _ hn hv hid hvalid => versionHistoryIn_eq_descendAlong hn hv hid hvalid,
    fun _ _ _ _ hrun hid hvalid => addMixin_finds_history hrun hid hvalid⟩

/-- A repository holding one plain node, `/a`. -/
def plainNodeRepository : Repository :=
  Repository.ofRoot { emptyRoot with
    children := emptyRoot.children ++ [Node.empty "a" Known.ntUnstructured] } 0 creationMoment

/-- Making `/a` versionable builds a new history for its first identifier, and the lookup finds
it. -/
theorem versionable_node_finds_new_history :
    ∃ r' h, addMixin "/a" Known.mixVersionable plainNodeRepository = .ok () r' ∧
      versionHistoryIn r'.root "/a" = .ok (some h) ∧ h.name = identifierOf 1 ∧
      h.primaryType = Known.ntVersionHistory := by
  -- the run is evaluated by the kernel alone
  have hcheck : (addMixin "/a" Known.mixVersionable plainNodeRepository).casesOn
      (motive := fun _ => Bool)
      (fun _ r' => (r'.root.descendant? "/a").bind Node.identifier? == some (identifierOf 1))
      (fun _ _ => false) = true := by
    decide +kernel
  have hvalid : Path.ValidName (identifierOf 1) := by decide
  cases hrun : addMixin "/a" Known.mixVersionable plainNodeRepository with
  | error e r' =>
    simp only [hrun] at hcheck
    cases hcheck
  | ok u r' =>
    simp only [hrun, beq_iff_eq] at hcheck
    obtain ⟨h, hh, hname, htype⟩ :=
      lookup_finds_built_history.2 plainNodeRepository r' "/a" (identifierOf 1) hrun hcheck hvalid
    exact ⟨r', h, rfl, hh, hname, htype rfl⟩

/-- A repository where a plain node stands where the history of `/a` belongs. -/
def occupiedHistoryRepository : Repository :=
  Repository.ofRoot ⟨"", Known.repRoot, [], [], [
    ⟨Known.system, Known.repSystem, [], [], [
      ⟨Known.versionStorage, Known.repVersionStorage, [], [], [
        ⟨"ab", Known.repVersionStorage, [], [], [
          ⟨"cd", Known.repVersionStorage, [], [], [
            ⟨"ef", Known.repVersionStorage, [], [],
              [Node.empty "abcdef" Known.ntUnstructured]⟩]⟩]⟩]⟩]⟩,
    ⟨"a", Known.ntUnstructured, [], [Property.ofString Known.uuid "abcdef"], []⟩]⟩ 0
    creationMoment

/-- A node standing where a history belongs is taken as the history, and keeps its type: after
`addMixin`, the lookup finds a node that is no `nt:versionHistory`. -/
theorem occupied_history_place_keeps_its_type :
    ∃ r' h, addMixin "/a" Known.mixVersionable occupiedHistoryRepository = .ok () r' ∧
      versionHistoryIn r'.root "/a" = .ok (some h) ∧ h.name = "abcdef" ∧
      h.primaryType = Known.ntUnstructured := by
  -- the run is evaluated by the kernel alone
  have hcheck : (addMixin "/a" Known.mixVersionable occupiedHistoryRepository).casesOn
      (motive := fun _ => Bool)
      (fun _ r' => (versionHistoryIn r'.root "/a").toOption.join.any fun h =>
        h.name == "abcdef" && h.primaryType == Known.ntUnstructured)
      (fun _ _ => false) = true := by
    decide +kernel
  cases hrun : addMixin "/a" Known.mixVersionable occupiedHistoryRepository with
  | error e r' =>
    simp only [hrun] at hcheck
    cases hcheck
  | ok u r' =>
    simp only [hrun] at hcheck
    cases hh : versionHistoryIn r'.root "/a" with
    | error e =>
      simp only [hh] at hcheck
      cases hcheck
    | ok found =>
      cases found with
      | none =>
        simp only [hh] at hcheck
        cases hcheck
      | some h =>
        rw [hh] at hcheck
        change (h.name == "abcdef" && h.primaryType == Known.ntUnstructured) = true at hcheck
        simp only [Bool.and_eq_true, beq_iff_eq] at hcheck
        exact ⟨r', h, rfl, hh, hcheck.1, hcheck.2⟩

end ContentSync
