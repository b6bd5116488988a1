import ContentSync.Proofs.AggregatePartition
import ContentSync.Proofs.FileNames
import ContentSync.Proofs.HistoryLookup

/-!
# The files of an aggregate have distinct paths

An aggregate is written as a directory named after the aggregate node, a content document
`.content.xml`, a hint `….hint` for each descendant of an ignored type, and a version history
document `.versions.xml` or `_jcr_content.versions.xml`. The directory and the hints are placed
relative to the parent of the aggregate node, the documents relative to the node itself, and an
artifact set refuses two files with one path.

The hints of an aggregate are paths joined from its own path (`JoinedFrom`), so their paths
relative to the parent are the aggregate's name followed by the names joined
(`segments_relativeToParent_eq`), and their file paths are those names' file names joined by
`/`, with `.hint` after. Two hints thus have distinct file paths because file names tell names
apart, a hint's file path ends in `.hint` unlike the documents', and it holds a `/` or the
directory is empty. What is left is the directory itself: its file name is that of the node,
which may be the file name of a document. A node named `.content.xml`, `.versions.xml` or
`jcr:content.versions.xml` has a directory that clashes with its own document
(`content_named_node_clashes`); every other aggregate of a well-named tree gets its files
(`collected_artifacts_distinct`).

Main statement: `AggregatorManager.collected_artifacts_distinct`.
-/

namespace ContentSync

open Node
open scoped List

namespace Path

/-! ## Paths joined name by name -/

/-- What a joined name is written after: nothing for an empty path or the root, else the
path without its trailing slashes. -/
def joinBase (p : String) : List Char :=
  if p.isEmpty = true ∨ p = "/" then [] else dropTrailingSlashes p.toList

theorem toList_join (p : String) {n : String} (hn : n ≠ "") :
    (join p n).toList = joinBase p ++ '/' :: n.toList := by
  have hne : n.isEmpty = false := String.isEmpty_eq_false_iff.mpr hn
  unfold join joinBase
  rw [if_neg (by simp [hne])]
  split <;> simp [String.toList_append]

/-- Text that ends with no slash keeps its end. -/
theorem dropTrailingSlashes_of_getLast? {cs : List Char} (h : ∀ c, cs.getLast? = some c → c ≠ '/') :
    dropTrailingSlashes cs = cs := by
  rcases List.eq_nil_or_concat cs with rfl | ⟨xs, c, rfl⟩
  · rfl
  · have hc : c ≠ '/' := h c (by simp)
    simp [dropTrailingSlashes, hc]

/-- A path with a valid name joined ends in that name, so a further name follows it directly. -/
theorem joinBase_join (p : String) {n : String} (hn : ValidName n) :
    joinBase (join p n) = (join p n).toList := by
  have ht := toList_join p hn.1
  have hn' : n.toList ≠ [] := by simpa using hn.1
  unfold joinBase
  rw [if_neg]
  · apply dropTrailingSlashes_of_getLast?
    intro c hc
    rw [ht, List.getLast?_append_of_ne_nil _ (List.cons_ne_nil _ _),
      List.getLast?_cons_of_ne_nil hn'] at hc
    exact fun e => hn.2 (e ▸ List.mem_of_getLast? hc)
  · rintro (he | he)
    · have := congrArg List.length (String.isEmpty_iff.mp he ▸ ht)
      simp at this
    · have hlen : (joinBase p ++ '/' :: n.toList).length = 1 := by
        rw [← ht, he]
        rfl
      have := List.length_pos_of_ne_nil hn'
      simp at hlen
      omega

/-- The text of a path joined with valid names: the base, then a slash before each name. -/
theorem toList_foldl_join (p : String) {ns : List String} (hne : ns ≠ [])
    (hv : ∀ n ∈ ns, ValidName n) : (ns.foldl join p).toList = joinBase p ++ slashed ns := by
  induction ns generalizing p with
  | nil => exact absurd rfl hne
  | cons n rest ih =>
    have hn := hv n List.mem_cons_self
    rw [List.foldl_cons]
    by_cases hr : rest = []
    · subst hr
      rw [List.foldl_nil, toList_join p hn.1, slashed_cons, slashed_nil, List.append_nil]
    · rw [ih (join p n) hr (fun m hm => hv m (List.mem_cons_of_mem n hm)), joinBase_join p hn,
        toList_join p hn.1, slashed_cons]
      simp

theorem segments_foldl_join (p : String) {ns : List String} (hv : ∀ n ∈ ns, ValidName n) :
    segments (ns.foldl join p) = segments p ++ ns := by
  induction ns generalizing p with
  | nil => simp
  | cons n rest ih =>
    rw [List.foldl_cons, ih (join p n) (fun m hm => hv m (List.mem_cons_of_mem n hm)),
      segments_join_validName p (hv n List.mem_cons_self)]
    simp

/-- Slashes in front name nothing. -/
theorem pieces_slashes_append {t : List Char} (h : ∀ c ∈ t, c = '/') (d : List Char) :
    pieces (t ++ d) = pieces d := by
  induction t with
  | nil => rfl
  | cons c t ih =>
    rw [h c List.mem_cons_self, List.cons_append, ← List.nil_append ('/' :: (t ++ d)),
      pieces_append_slash, pieces_nil, List.nil_append]
    exact ih fun x hx => h x (List.mem_cons_of_mem c hx)

theorem pieces_dropWhile_slash (cs : List Char) : pieces (cs.dropWhile (· = '/')) = pieces cs := by
  have hsplit := List.takeWhile_append_dropWhile (p := fun c => decide (c = '/')) (l := cs)
  conv => rhs; rw [← hsplit]
  rw [pieces_slashes_append]
  intro c hc
  simpa using List.all_eq_true.mp List.all_takeWhile c hc

/-- The parent of a path is the root, or the text before the last slash of the path without
its trailing slashes. -/
theorem parent_cases (p : String) :
    parent p = "/" ∨ ∃ i, lastSlash (dropTrailingSlashes p.toList) = some i ∧ 0 < i ∧
      parent p = String.ofList ((dropTrailingSlashes p.toList).take i) := by
  unfold parent
  simp only
  split
  · exact Or.inl rfl
  · exact Or.inl rfl
  · rename_i i h0 hi
    exact Or.inr ⟨i, hi, Nat.pos_of_ne_zero h0, rfl⟩

end Path

namespace Aggregate

open Path

/-- A descendant path of an aggregate splits into the parent of the aggregate node and the path
relative to that parent. -/
theorem segments_relativeToParent (a : Aggregate) {ns : List String} (hne : ns ≠ [])
    (hv : ∀ n ∈ ns, ValidName n) :
    segments (ns.foldl join a.path) =
      segments (parent a.path) ++ segments (a.relativeToParent (ns.foldl join a.path)) := by
  generalize hh : ns.foldl join a.path = h
  have hrel : segments (a.relativeToParent h) = (pieces
      (if (parent a.path).toList.isPrefixOf h.toList then h.toList.drop (parent a.path).toList.length
        else h.toList)).map String.ofList := by
    rw [relativeToParent, segments_eq, String.toList_ofList, pieces_dropWhile_slash]
  rw [hrel]
  rcases parent_cases a.path with hroot | ⟨i, hi, hpos, hpar⟩
  · -- below the root every path is relative to it
    rw [hroot, segments_root, List.nil_append, segments_eq]
    split
    · rename_i hpre
      obtain ⟨t, ht⟩ := List.isPrefixOf_iff_prefix.mp hpre
      have hslash : ("/" : String).toList = [] ++ ['/'] := by simp
      rw [← ht, List.drop_left, hslash, List.append_assoc, List.singleton_append,
        pieces_append_slash, pieces_nil, List.nil_append]
    · rfl
  · -- the path is the parent, a slash, the aggregate's name and the names joined
    obtain ⟨hsplit, hfree⟩ := lastSlash_eq_some hi
    set T := dropTrailingSlashes a.path.toList with hT
    have hTne : T ≠ [] := fun e => by rw [e] at hsplit; simp at hsplit
    have hbase : joinBase a.path = T := by
      unfold joinBase
      rw [if_neg]
      rintro (he | he)
      · exact hTne (by rw [hT, String.isEmpty_iff.mp he]; rfl)
      · exact hTne (by rw [hT, he]; rfl)
    have htext : h.toList = T.take i ++ '/' :: (T.drop (i + 1) ++ slashed ns) := by
      rw [← hh, toList_foldl_join a.path hne hv, hbase]
      conv => lhs; rw [hsplit]
      simp
    have hlen : (T.take i).length = i := by
      have : i < T.length := by
        have := congrArg List.length hsplit
        simp at this
        omega
      simp; omega
    rw [hpar, String.toList_ofList, htext, if_pos (List.isPrefixOf_iff_prefix.mpr
      (List.prefix_append _ _)), List.drop_left, segments_eq, segments_eq, String.toList_ofList,
      htext, pieces_append_slash, List.map_append]
    rw [← List.nil_append ('/' :: (T.drop (i + 1) ++ slashed ns)), pieces_append_slash, pieces_nil,
      List.nil_append]

/-- The path of a descendant relative to the parent of the aggregate node: the aggregate's own
name, unless it is the root, then the names joined. -/
theorem segments_relativeToParent_eq (a : Aggregate) {ns : List String} (hne : ns ≠ [])
    (hv : ∀ n ∈ ns, ValidName n) :
    segments (a.relativeToParent (ns.foldl join a.path)) = (segments a.path).getLast?.toList ++ ns := by
  have h := a.segments_relativeToParent hne hv
  rw [segments_foldl_join a.path hv, segments_parent] at h
  rcases List.eq_nil_or_concat (segments a.path) with hnil | ⟨s, x, hs⟩
  · rw [hnil] at h ⊢
    simpa using h.symm
  · rw [List.concat_eq_append] at hs
    rw [hs, List.dropLast_concat, List.append_assoc] at h
    rw [hs, ← List.append_cancel_left h]
    simp

end Aggregate

/-! ## File paths of artifacts -/

namespace Artifact

open Path Name

/-- The file path of a path given by its names: their file names joined by `/`. -/
def filePath (names : List String) : String := "/".intercalate (names.map toPlatformName)

theorem platformPath_eq (a : Artifact) :
    a.platformPath = filePath (segments a.relativePath) ++ a.extension := rfl

theorem segments_filePath {names : List String} (hv : ∀ n ∈ names, ValidName n) :
    segments (filePath names) = names.map toPlatformName := by
  apply segments_intercalate
  intro n hn
  obtain ⟨x, hx, rfl⟩ := List.mem_map.mp hn
  exact validName_toPlatformName (hv x hx)

/-- File paths tell paths of valid names apart. -/
theorem filePath_inj {ms ns : List String} (hm : ∀ n ∈ ms, ValidName n)
    (hn : ∀ n ∈ ns, ValidName n) (h : filePath ms = filePath ns) : ms = ns := by
  have hseg := congrArg segments h
  rw [segments_filePath hm, segments_filePath hn] at hseg
  exact List.map_injective_iff.mpr (fun _ _ => toPlatformName_injective) hseg

/-- The file path of a directory, of one name at most, is not that of a hint below it. -/
theorem filePath_ne_hintPath {L ns : List String} (hL : L.length ≤ 1) (hne : ns ≠ []) :
    filePath L ≠ filePath (L ++ ns) ++ dotHint := by
  intro he
  have htext := congrArg String.toList he
  rw [String.toList_append] at htext
  rcases L with _ | ⟨x, _ | ⟨y, L⟩⟩
  · have := congrArg List.length htext
    simp [filePath, dotHint] at this
  · -- one file name holds no slash, and a slash stands before the first name joined
    obtain ⟨n, rest, rfl⟩ := List.exists_cons_of_ne_nil hne
    have hslash : '/' ∈ (filePath ([x] ++ n :: rest)).toList := by
      rw [filePath, List.singleton_append, List.map_cons, toList_intercalate_slash,
        List.map_cons, slashed_cons]
      simp
    have hleft : '/' ∈ (filePath [x]).toList := by
      rw [htext]
      exact List.mem_append_left _ hslash
    exact slash_not_mem_toPlatformName x (by simpa [filePath] using hleft)
  · simp at hL

/-- A file path that does not end in `.hint` is no hint's. -/
theorem ne_append_dotHint {p : String} (h : ¬dotHint.toList <:+ p.toList) (t : String) :
    p ≠ t ++ dotHint := by
  intro he
  apply h
  rw [he, String.toList_append]
  exact List.suffix_append _ _

end Artifact

/-! ## The names of an aggregate -/

namespace Aggregate

open Path Name Artifact

/-- The names of an aggregate's name: its last name, or none at the root. -/
theorem segments_name (a : Aggregate) : segments a.name = (segments a.path).getLast?.toList := by
  rw [name, name_eq_getLastD]
  rcases List.eq_nil_or_concat (segments a.path) with hnil | ⟨s, x, hs⟩
  · rw [hnil]
    simp
  · have hx : ValidName x := validName_of_mem_segments (by rw [hs]; simp)
    rw [hs]
    simpa using segments_of_validName hx

/-- The file path of a directory is a node name's file path only for that node's name. -/
theorem name_eq_of_filePath {a : Aggregate} {p : String}
    (h : filePath (segments a.path).getLast?.toList = p) (hp : p ≠ "") :
    a.name = fromPlatformName p := by
  cases hl : (segments a.path).getLast? with
  | none =>
    rw [hl] at h
    exact absurd h.symm hp
  | some x =>
    rw [hl] at h
    have hname : a.name = x := by
      rw [name, name_eq_getLastD, List.getLastD_eq_getLast?, hl]
      rfl
    rw [hname, ← h]
    exact (fromPlatformName_toPlatformName x).symm

end Aggregate

/-! ## Adding artifacts -/

namespace ArtifactSet

/-- An artifact with a new file path, and not a second directory or version history, is added
at the end. -/
theorem add_eq_ok {s : ArtifactSet} {a : Artifact}
    (hpath : a.platformPath ∉ s.artifacts.map (·.platformPath))
    (htype : a.type = .directory ∨ a.type = .versions → ∀ x ∈ s.artifacts, x.type ≠ a.type) :
    s.add a = .ok ⟨s.artifacts ++ [a]⟩ := by
  have hnew : ¬(s.artifacts.any fun x => x.platformPath = a.platformPath) = true := by
    rw [List.any_eq_true]
    rintro ⟨x, hx, he⟩
    exact hpath (List.mem_map.mpr ⟨x, hx, of_decide_eq_true he⟩)
  have hfirst : ¬((a.type = .directory || a.type = .versions) && (s.first? a.type).isSome) = true := by
    intro h
    simp only [Bool.and_eq_true, Bool.or_eq_true, decide_eq_true_eq] at h
    obtain ⟨hdv, hsome⟩ := h
    obtain ⟨x, hx⟩ := Option.isSome_iff_exists.mp hsome
    rw [first?] at hx
    have hsame := List.find?_some hx
    simp only [decide_eq_true_eq] at hsame
    exact htype hdv x (List.mem_of_find?_eq_some hx) hsame
  unfold add
  simp only [hnew, hfirst, Bool.false_eq_true, if_false]

/-- Artifacts with distinct file paths, and at most one directory and one version history among
them and the set, are all added in order. -/
theorem addAll_eq_ok {s : ArtifactSet} {as : List Artifact}
    (hpaths : ((s.artifacts ++ as).map (·.platformPath)).Nodup)
    (htypes : ∀ t, t = .directory ∨ t = .versions →
      (s.artifacts ++ as).countP (·.type = t) ≤ 1) :
    s.addAll as = .ok ⟨s.artifacts ++ as⟩ := by
  induction as generalizing s with
  | nil => simp [addAll]
  | cons a rest ih =>
    have hadd : s.add a = .ok ⟨s.artifacts ++ [a]⟩ := by
      apply add_eq_ok
      · rw [List.map_append, List.nodup_append] at hpaths
        exact fun hx => hpaths.2.2 _ hx _ List.mem_cons_self rfl
      · -- the artifact itself counts once, so none before it has its type
        intro hdv
        have hcount := htypes a.type hdv
        rw [List.countP_append, List.countP_cons, if_pos (decide_eq_true rfl)] at hcount
        have hzero : s.artifacts.countP (·.type = a.type) = 0 := by omega
        exact fun x hx he => List.countP_eq_zero.mp hzero x hx (decide_eq_true he)
    rw [addAll, hadd]
    show addAll ⟨s.artifacts ++ [a]⟩ rest = _
    rw [ih (by simpa using hpaths) (by simpa using htypes)]
    simp

end ArtifactSet

/-! ## Where the aggregates of a collection start -/

/-- The path `h` is `p` with valid names, at least one, joined in turn. -/
def JoinedFrom (p h : String) : Prop :=
  ∃ ns : List String, ns ≠ [] ∧ (∀ n ∈ ns, Path.ValidName n) ∧ h = ns.foldl Path.join p

theorem JoinedFrom.single (p : String) {n : String} (hn : Path.ValidName n) :
    JoinedFrom p (Path.join p n) :=
  ⟨[n], List.cons_ne_nil _ _, by simpa using hn, rfl⟩

theorem JoinedFrom.cons {p n h : String} (hn : Path.ValidName n)
    (hh : JoinedFrom (Path.join p n) h) : JoinedFrom p h := by
  obtain ⟨ns, _, hv, rfl⟩ := hh
  exact ⟨n :: ns, List.cons_ne_nil _ _, List.forall_mem_cons.mpr ⟨hn, hv⟩, rfl⟩

namespace AggregatorManager

variable (m : AggregatorManager)

/-- The aggregate `b` starts at a well-named node of `tree`, found at its path. -/
def StartsIn (tree : Node) (b : Aggregate) : Prop :=
  ∃ k, tree.descendant? b.path = some k ∧ Everywhere SiblingsWellNamed k ∧ m.StartsAt k b.path b

mutual
/-- Every aggregate collected from a well-named subtree of `tree` starts in `tree`. -/
theorem startsIn_of_collectFrom (tree : Node) :
    (path : String) → (n : Node) → Everywhere SiblingsWellNamed n →
      tree.descendant? path = some n → ∀ aggs, m.collectFrom path n = .ok aggs →
      ∀ b ∈ aggs, m.StartsIn tree b
  | path, ⟨name, t, mx, ps, children⟩, hW, hn, aggs, h => by
    obtain ⟨n, hnode⟩ : ∃ n : Node, n = ⟨name, t, mx, ps, children⟩ := ⟨_, rfl⟩
    have hkids : n.children = children := by rw [hnode]
    rw [← hnode] at hW hn h
    obtain ⟨b, rest, rfl, hb, hrest⟩ := m.collectFrom_eq_ok h
    intro x hx
    rcases List.mem_cons.mp hx with rfl | hx
    · refine ⟨n, ?_, hW, ?_⟩ <;> rw [hb.atPath]
      · exact hn
      · exact hb
    · cases hF : b.aggregator.fullCoverage
      · exact startsIn_of_collectAmong tree hb.types hF path children
          (fun c hc => ⟨hW.child (hkids ▸ hc), descendant?_join hn hW.self (hkids ▸ hc)⟩)
          rest (hkids ▸ hrest) x hx
      · rw [m.collectAmong_of_full hb.types hF] at hrest
        cases hrest
        cases hx

/-- Every aggregate collected below an aggregate without full coverage, from children found in
`tree` and well named, starts in `tree`. -/
theorem startsIn_of_collectAmong (tree : Node) {b : Aggregate}
    (hT : b.ignoredTypes = m.ignoredTypes) (hF : b.aggregator.fullCoverage = false) :
    (path : String) → (cs : List Node) →
      (∀ c ∈ cs, Everywhere SiblingsWellNamed c ∧ tree.descendant? (Path.join path c.name) = some c) →
      ∀ aggs, m.collectAmong b path cs = .ok aggs → ∀ x ∈ aggs, m.StartsIn tree x
  | path, [], _, aggs, h => by
    rw [collectAmong] at h
    cases h
    intro x hx
    cases hx
  | path, c :: cs, hcs, aggs, h => by
    obtain ⟨here, rest, rfl, hhere, hrest⟩ := m.collectAmong_cons_eq_ok hT hF h
    intro x hx
    rcases List.mem_append.mp hx with hx | hx
    · by_cases hc : m.isIgnored c
      · rw [if_pos hc] at hhere
        subst hhere
        cases hx
      · rw [if_neg hc] at hhere
        have hc' := hcs c List.mem_cons_self
        exact startsIn_of_collectFrom tree (Path.join path c.name) c hc'.1 hc'.2 here hhere x hx
    · exact startsIn_of_collectAmong tree hT hF path cs
        (fun d hd => hcs d (List.mem_cons_of_mem c hd)) rest hrest x hx
end

/-- Every aggregate of a successful collection on a well-named tree starts in it. -/
theorem startsIn_of_collect {tree : Node} {r : String} {aggs : List Aggregate}
    (hnames : Everywhere SiblingsWellNamed tree) (h : m.collect tree r = .ok aggs) :
    ∀ b ∈ aggs, m.StartsIn tree b := by
  rw [collect_eq] at h
  cases hr : tree.descendant? r with
  | none =>
    rw [nodeAt, hr] at h
    cases h
  | some n =>
    rw [nodeAt, hr] at h
    exact m.startsIn_of_collectFrom tree r n (hnames.descendAlong hr) hr aggs h

/-! ## The hints of an aggregate -/

mutual
/-- A hidden path below a well-named node is joined from the node's path. -/
theorem joinedFrom_of_mem_hiddenPaths :
    (path : String) → (n : Node) → Everywhere SiblingsWellNamed n →
      ∀ x ∈ m.hiddenPaths path n, JoinedFrom path x
  | path, ⟨_, _, _, _, children⟩, hW, x, hx => by
    rw [hiddenPaths] at hx
    exact joinedFrom_of_mem_hiddenAmong path children (wellNamedAmong_children hW) x hx

theorem joinedFrom_of_mem_hiddenAmong :
    (path : String) → (cs : List Node) → WellNamedAmong cs →
      ∀ x ∈ m.hiddenAmong path cs, JoinedFrom path x
  | path, [], _, x, hx => by
    rw [hiddenAmong] at hx
    cases hx
  | path, c :: cs, hcs, x, hx => by
    have hc := hcs.2 c List.mem_cons_self
    rw [hiddenAmong_cons, List.mem_append] at hx
    rcases hx with hx | hx
    · by_cases hi : m.isIgnored c
      · rw [if_pos hi, List.mem_singleton] at hx
        exact hx ▸ JoinedFrom.single path hc.1
      · rw [if_neg hi] at hx
        exact (joinedFrom_of_mem_hiddenPaths (Path.join path c.name) c hc.2 x hx).cons hc.1
    · exact joinedFrom_of_mem_hiddenAmong path cs hcs.tail x hx
end

/-- The hints of an aggregate starting at a well-named node are joined from its path. -/
theorem hints_joinedFrom {k : Node} {path : String} {b : Aggregate} (hs : m.StartsAt k path b)
    (hW : Everywhere SiblingsWellNamed k) : ∀ h ∈ b.hints, JoinedFrom b.path h := by
  intro h hh
  rw [hs.hints] at hh
  rw [hs.atPath]
  split at hh
  · exact m.joinedFrom_of_mem_hiddenPaths path k hW h hh
  · obtain ⟨d, hd, rfl⟩ := List.mem_map.mp hh
    exact JoinedFrom.single path (hW.self.2 d (List.mem_filter.mp hd).1)

/-- The children of an ignored type are among the hidden paths, in order. -/
theorem ignoredJoins_sublist (path : String) (cs : List Node) :
    (cs.filter m.isIgnored).map (fun c => Path.join path c.name) <+ m.hiddenAmong path cs := by
  induction cs with
  | nil =>
    rw [hiddenAmong]
    exact List.Sublist.slnil
  | cons c cs ih =>
    rw [hiddenAmong_cons]
    by_cases hc : m.isIgnored c
    · rw [List.filter_cons_of_pos hc, List.map_cons, if_pos hc, List.singleton_append]
      exact ih.cons_cons _
    · rw [List.filter_cons_of_neg hc, if_neg hc]
      exact ih.trans (List.sublist_append_right _ _)

/-- An aggregate starting at a well-named node has no hint twice. -/
theorem nodup_hints {k : Node} {path : String} {b : Aggregate} (hs : m.StartsAt k path b)
    (hW : Everywhere SiblingsWellNamed k) : b.hints.Nodup := by
  have hhidden : (m.hiddenPaths path k).Nodup := (m.nodup_pieces path k hW).of_append_right
  rw [hs.hints]
  split
  · exact hhidden
  · rw [hiddenPaths_eq] at hhidden
    exact hhidden.sublist (m.ignoredJoins_sublist path k.children)

end AggregatorManager

/-! ## The file paths of an aggregate's artifacts -/

namespace Aggregate

open Path Name Artifact

/-- The file paths of the documents of a node: its content and its two version histories. -/
def documentPaths : List String := [".content.xml", ".versions.xml", "_jcr_content.versions.xml"]

/-- A document's file path is not empty, does not end in `.hint`, and is the file name of one of
three node names. -/
theorem documentPaths_facts : ∀ p ∈ documentPaths, p ≠ "" ∧ ¬dotHint.toList <:+ p.toList ∧
    fromPlatformName p ∈ [dotContentXml, dotVersionsXml, Known.content ++ dotVersionsXml] := by
  decide

/-- The file path of a version history document. -/
theorem versionsPath_mem {x : Artifact} {v : Provenance} (hrel : x.relativePath = v.relativePath)
    (hext : x.extension = dotVersionsXml) :
    x.platformPath ∈ documentPaths ∧ x.platformPath ≠ dotContentXml := by
  rw [platformPath_eq, hrel, hext]
  cases v <;> decide

theorem validName_of_mem_last {p n : String} (h : n ∈ (segments p).getLast?.toList) :
    ValidName n :=
  validName_of_mem_segments (List.mem_of_getLast? (Option.mem_toList.mp h))

theorem platformPath_directory (a : Aggregate) :
    (directory a.name).platformPath = filePath (segments a.path).getLast?.toList := by
  rw [platformPath_eq]
  dsimp only [directory]
  rw [segments_name, String.append_empty]

/-- The directory of an aggregate not named like a document has another file path than the
documents. -/
theorem directoryPath_ne_document {a : Aggregate}
    (hname : a.name ∉ [dotContentXml, dotVersionsXml, Known.content ++ dotVersionsXml])
    {p : String} (hp : p ∈ documentPaths) : (directory a.name).platformPath ≠ p := by
  intro h
  rw [platformPath_directory] at h
  have hfacts := documentPaths_facts p hp
  exact hname (name_eq_of_filePath h hfacts.1 ▸ hfacts.2.2)

/-- The file path of a hint: the file names of the aggregate's name and of the names joined. -/
theorem hintPath_eq {a : Aggregate} {h : String} (hj : JoinedFrom a.path h) :
    ∃ ns, ns ≠ [] ∧ (∀ n ∈ ns, ValidName n) ∧ h = ns.foldl join a.path ∧
      (hint (a.relativeToParent h)).platformPath =
        filePath ((segments a.path).getLast?.toList ++ ns) ++ dotHint := by
  obtain ⟨ns, hne, hv, rfl⟩ := hj
  refine ⟨ns, hne, hv, rfl, ?_⟩
  rw [platformPath_eq]
  dsimp only [hint]
  rw [a.segments_relativeToParent_eq hne hv]

/-- Two hints of an aggregate with one file path are the same. -/
theorem hintPath_inj {a : Aggregate} {h₁ h₂ : String} (hj₁ : JoinedFrom a.path h₁)
    (hj₂ : JoinedFrom a.path h₂)
    (he : (hint (a.relativeToParent h₁)).platformPath = (hint (a.relativeToParent h₂)).platformPath) :
    h₁ = h₂ := by
  obtain ⟨ns₁, _, hv₁, rfl, hp₁⟩ := hintPath_eq hj₁
  obtain ⟨ns₂, _, hv₂, rfl, hp₂⟩ := hintPath_eq hj₂
  rw [hp₁, hp₂] at he
  have htext := congrArg String.toList he
  rw [String.toList_append, String.toList_append] at htext
  have hvalid {ns : List String} (hv : ∀ n ∈ ns, ValidName n) :
      ∀ n ∈ (segments a.path).getLast?.toList ++ ns, ValidName n := by
    intro n hn
    rcases List.mem_append.mp hn with hn | hn
    · exact validName_of_mem_last hn
    · exact hv n hn
  have hnames := filePath_inj (hvalid hv₁) (hvalid hv₂)
    (String.toList_inj.mp (List.append_cancel_right htext))
  rw [List.append_cancel_left hnames]

/-- The directory, at most one content document and the hints of an aggregate have distinct
file paths, when the hints are distinct and joined from the aggregate's path and the aggregate
is not named like a document. -/
theorem nodup_baseFilePaths {a : Aggregate} {primary : List Artifact}
    (hj : ∀ h ∈ a.hints, JoinedFrom a.path h) (hnd : a.hints.Nodup)
    (hname : a.name ∉ [dotContentXml, dotVersionsXml, Known.content ++ dotVersionsXml])
    (hprimary : primary.map (·.platformPath) <+ [dotContentXml]) :
    ((directory a.name :: primary ++ a.hints.map fun h => hint (a.relativeToParent h)).map
      (·.platformPath)).Nodup := by
  have hcontent : ∀ p ∈ primary.map (·.platformPath), p = dotContentXml := fun p hp =>
    List.mem_singleton.mp (hprimary.subset hp)
  rw [List.cons_append, List.map_cons, List.nodup_cons, List.map_append, List.nodup_append,
    List.map_map]
  refine ⟨?_, hprimary.nodup (List.nodup_singleton _), ?_, ?_⟩
  · -- the directory is neither the content document nor a hint
    rw [List.mem_append]
    rintro (hp | hh)
    · have hdoc : dotContentXml ∈ documentPaths := by decide
      exact directoryPath_ne_document hname hdoc (hcontent _ hp)
    · obtain ⟨h, hh, he⟩ := List.mem_map.mp hh
      obtain ⟨ns, hne, _, _, hpath⟩ := hintPath_eq (hj h hh)
      have hlen : ((segments a.path).getLast?.toList).length ≤ 1 := by
        cases (segments a.path).getLast? <;> simp
      rw [Function.comp_apply, hpath, platformPath_directory] at he
      exact filePath_ne_hintPath hlen hne he.symm
  · apply hnd.map_on
    intro x hx y hy he
    simp only [Function.comp_apply] at he
    exact hintPath_inj (hj x hx) (hj y hy) he
  · -- a hint's file path ends in `.hint`, the content document's does not
    intro p hp q hq hpq
    obtain ⟨h, hh, rfl⟩ := List.mem_map.mp hq
    obtain ⟨ns, _, _, _, hpath⟩ := hintPath_eq (hj h hh)
    rw [hcontent p hp, Function.comp_apply, hpath] at hpq
    exact ne_append_dotHint (documentPaths_facts _ (by decide)).2.1 _ hpq

/-- A version history document has a file path of its own beside the directory, the content
document and the hints. -/
theorem versionsPath_not_mem_base {a : Aggregate} {primary : List Artifact} {x : Artifact}
    {v : Provenance} (hj : ∀ h ∈ a.hints, JoinedFrom a.path h)
    (hname : a.name ∉ [dotContentXml, dotVersionsXml, Known.content ++ dotVersionsXml])
    (hprimary : primary.map (·.platformPath) <+ [dotContentXml])
    (hrel : x.relativePath = v.relativePath) (hext : x.extension = dotVersionsXml) :
    x.platformPath ∉ (directory a.name :: primary ++
      a.hints.map fun h => hint (a.relativeToParent h)).map (·.platformPath) := by
  obtain ⟨hdoc, hx⟩ := versionsPath_mem hrel hext
  rw [List.cons_append, List.map_cons, List.mem_cons, List.map_append, List.mem_append,
    List.map_map]
  rintro (hd | hp | hh)
  · exact directoryPath_ne_document hname hdoc hd.symm
  · exact hx (List.mem_singleton.mp (hprimary.subset hp))
  · obtain ⟨h, hh, he⟩ := List.mem_map.mp hh
    obtain ⟨ns, _, _, _, hpath⟩ := hintPath_eq (hj h hh)
    rw [Function.comp_apply, hpath] at he
    exact ne_append_dotHint (documentPaths_facts _ hdoc).2.1 _ he.symm

end Aggregate

/-! ## The artifacts of a collected aggregate -/

namespace AggregatorManager

open Aggregate

/-- Every aggregate that a collection returns from a tree whose siblings have distinct valid
names gets its artifacts, with pairwise distinct file paths, unless the aggregate node is named
like one of its own documents. -/
theorem collected_artifacts_distinct (c : ExportConfig) {tree : Node} {r : String}
    {aggs : List Aggregate} {b : Aggregate} (hnames : Everywhere SiblingsWellNamed tree)
    (h : (ofConfig c).collect tree r = .ok aggs) (hb : b ∈ aggs)
    (hname : b.name ∉ [dotContentXml, dotVersionsXml, Known.content ++ dotVersionsXml]) :
    ∃ s, b.artifacts tree = .ok s ∧ (s.artifacts.map (·.platformPath)).Nodup := by
  obtain ⟨k, hk, hW, hs⟩ := (ofConfig c).startsIn_of_collect hnames h b hb
  have hj := (ofConfig c).hints_joinedFrom hs hW
  have hnode : nodeAt tree b.path = .ok k := by
    rw [nodeAt, hk]
  -- the directory, the content document unless the node is a plain folder, and the hints
  set primary : List Artifact := if b.aggregator.isPlainFolder k then [] else
    [{ relativePath := "", extension := dotContentXml, type := .primary,
       serialization := .docView, source := .docView b }] with hprimary
  have hcontent : primary.map (·.platformPath) <+ [dotContentXml] := by
    rw [hprimary]
    split
    · exact List.nil_sublist _
    · exact List.Sublist.refl _
  set base := Artifact.directory b.name :: primary ++
    b.hints.map fun h => Artifact.hint (b.relativeToParent h) with hbase
  have hpaths : (base.map (·.platformPath)).Nodup :=
    nodup_baseFilePaths hj ((ofConfig c).nodup_hints hs hW) hname hcontent
  have hkinds : ∀ x ∈ base.tail, x.type = .primary ∨ x.type = .hint := by
    intro x hx
    rcases List.mem_append.mp hx with hx | hx
    · left
      rw [hprimary] at hx
      split at hx
      · cases hx
      · rw [List.mem_singleton.mp hx]
    · right
      obtain ⟨h, _, rfl⟩ := List.mem_map.mp hx
      rfl
  -- only the first artifact is a directory, and none is a version history
  have htypes : ∀ t, t = .directory ∨ t = .versions →
      (ArtifactSet.empty.artifacts ++ base).countP (·.type = t) ≤ 1 := by
    intro t ht
    have hzero : base.tail.countP (·.type = t) = 0 := by
      rw [List.countP_eq_zero]
      intro x hx hxt
      have hxt' := of_decide_eq_true hxt
      rcases hkinds x hx with hx' | hx' <;> rcases ht with rfl | rfl <;> rw [hx'] at hxt' <;>
        cases hxt'
    show (Artifact.directory b.name :: base.tail).countP _ ≤ 1
    rw [List.countP_cons, hzero]
    split <;> omega
  have hset : ArtifactSet.empty.addAll base = .ok ⟨base⟩ :=
    ArtifactSet.addAll_eq_ok
      (by rwa [show ArtifactSet.empty.artifacts = [] from rfl, List.nil_append]) htypes
  rw [hbase, hprimary] at hset
  unfold Aggregate.artifacts
  rw [Except.bind_of_ok hnode]
  dsimp only
  rw [Except.bind_of_ok hset, ← hprimary, ← hbase]
  cases b.includeVersions
  · exact ⟨_, rfl, hpaths⟩
  cases versionProvenance? k with
  | none => exact ⟨_, rfl, hpaths⟩
  | some v =>
    -- the version history comes last, with a file path of its own
    simp only [Bool.not_true, Bool.false_eq_true, if_false]
    refine ⟨_, ArtifactSet.add_eq_ok ?_ ?_, ?_⟩
    · exact versionsPath_not_mem_base hj hname hcontent rfl rfl
    · intro _ x hx
      rcases List.mem_cons.mp hx with rfl | hx
      · exact ArtifactType.noConfusion
      · rcases hkinds x hx with hx' | hx' <;> rw [hx'] <;> exact ArtifactType.noConfusion
    · rw [List.map_append, List.nodup_append]
      refine ⟨hpaths, List.nodup_singleton _, fun p hp q hq hpq => ?_⟩
      rw [hpq, List.mem_singleton.mp hq] at hp
      exact absurd hp (versionsPath_not_mem_base hj hname hcontent rfl rfl)

/-- Every aggregate of the content folder of `siteTree` gets its files. -/
theorem site_artifacts_distinct :
    ∃ aggs, (ofConfig ExportConfig.default).collect siteTree "/content" = .ok aggs ∧
      ∀ b ∈ aggs, ∃ s, b.artifacts siteTree = .ok s ∧ (s.artifacts.map (·.platformPath)).Nodup := by
  have h : (ofConfig ExportConfig.default).collect siteTree "/content" = .ok _ := rfl
  refine ⟨_, h, fun b hb => collected_artifacts_distinct ExportConfig.default (by decide) h hb ?_⟩
  revert b
  decide

/-- A node named `.content.xml` below the root. -/
def contentNamedTree : Node :=
  ⟨"", "rep:root", [], [], [Node.empty ".content.xml" Known.ntUnstructured]⟩

/-- Distinct sibling names do not suffice: the directory of a node named `.content.xml` and its
content document have one file path, and its artifact set refuses the second. -/
theorem content_named_node_clashes :
    Everywhere SiblingsWellNamed contentNamedTree ∧
      ∃ b, (ofConfig ExportConfig.default).collect contentNamedTree "/.content.xml" = .ok [b] ∧
        b.artifacts contentNamedTree = .error (.malformed "duplicate artifact '.content.xml'") :=
  ⟨by decide, _, rfl, rfl⟩

end AggregatorManager

end ContentSync
