import ContentSync.Path

/-!
# Paths as lists of names

A path text names a node by the non-empty pieces between its slashes, which is how the
repository resolves it. This module relates the text operations of `ContentSync.Path` to
those pieces: joining a name appends it, the parent drops the last name, and `Path.name` is
the last name, whatever slashes the text repeats or ends with.

Paths written in the canonical form `Path.render` (a slash before each name, `/` for the
root) are told apart by their names, joining a valid name keeps the form, and one lies below
another exactly when its names extend the other's.

Main statements: `Path.segments_join`, `Path.segments_parent`, `Path.name_eq_getLastD`,
`Path.segments_render`, `Path.join_render`, `Path.isDescendantOrSelf_render`.
-/

namespace ContentSync.Path

/-- A name a node can carry: not empty and without a slash. -/
def ValidName (n : String) : Prop := n ≠ "" ∧ '/' ∉ n.toList

instance (n : String) : Decidable (ValidName n) :=
  inferInstanceAs (Decidable (_ ∧ _))

/-- The non-empty pieces between the slashes of `cs`. -/
def pieces (cs : List Char) : List (List Char) :=
  (splitAtSlash cs).filter (· ≠ [])

/-- The canonical text of the path through `names`: `/` for the root, otherwise a slash
before each name. -/
def render (names : List String) : String :=
  match names with
  | [] => "/"
  | _ => String.ofList (names.flatMap fun n => '/' :: n.toList)

/-! ## Splitting at slashes -/

-- Tagging the splitter here has Lean state its equations once, before the proofs below,
-- checked side by side, all ask for them at the same moment.
attribute [local simp] splitAtSlash

theorem splitAtSlash_ne_nil (cs : List Char) : splitAtSlash cs ≠ [] := by
  cases cs with
  | nil => simp [splitAtSlash]
  | cons c cs =>
    rw [splitAtSlash]
    split
    · simp
    · cases h : splitAtSlash cs with
      | nil => exact absurd h (splitAtSlash_ne_nil cs)
      | cons p ps => simp

/-- A slash ends the pieces of what stands before it. -/
theorem splitAtSlash_append_slash (a b : List Char) :
    splitAtSlash (a ++ '/' :: b) = splitAtSlash a ++ splitAtSlash b := by
  induction a with
  | nil => simp [splitAtSlash]
  | cons c a ih =>
    rw [List.cons_append, splitAtSlash, splitAtSlash, ih]
    split
    · rfl
    · obtain ⟨p, ps, hp⟩ := List.exists_cons_of_ne_nil (splitAtSlash_ne_nil a)
      rw [hp]
      rfl

theorem splitAtSlash_of_slash_free {a : List Char} (h : '/' ∉ a) : splitAtSlash a = [a] := by
  induction a with
  | nil => rfl
  | cons c a ih =>
    have hc : c ≠ '/' := fun hc => h (hc ▸ List.mem_cons_self)
    have ha : '/' ∉ a := fun ha => h (List.mem_cons_of_mem c ha)
    rw [splitAtSlash, if_neg hc, ih ha]
    rfl

theorem pieces_append_slash (a b : List Char) :
    pieces (a ++ '/' :: b) = pieces a ++ pieces b := by
  rw [pieces, splitAtSlash_append_slash, List.filter_append]
  rfl

theorem pieces_of_slash_free {a : List Char} (h : '/' ∉ a) (hne : a ≠ []) : pieces a = [a] := by
  rw [pieces, splitAtSlash_of_slash_free h]
  simp [hne]

@[simp] theorem pieces_nil : pieces [] = [] := by
  simp [pieces, splitAtSlash]

/-- Slashes alone hold no piece. -/
theorem pieces_of_all_slash {t : List Char} (h : ∀ c ∈ t, c = '/') : pieces t = [] := by
  induction t with
  | nil => exact pieces_nil
  | cons c t ih =>
    have hc : c = '/' := h c List.mem_cons_self
    subst hc
    have := pieces_append_slash [] t
    rw [List.nil_append] at this
    rw [this, pieces_nil, ih fun d hd => h d (List.mem_cons_of_mem _ hd)]
    rfl

/-- Slashes at the end add no piece. -/
theorem pieces_append_all_slash (a : List Char) {t : List Char} (h : ∀ c ∈ t, c = '/') :
    pieces (a ++ t) = pieces a := by
  cases t with
  | nil => rw [List.append_nil]
  | cons c t =>
    have hc : c = '/' := h c List.mem_cons_self
    subst hc
    rw [pieces_append_slash, pieces_of_all_slash fun d hd => h d (List.mem_cons_of_mem _ hd),
      List.append_nil]

theorem pieces_dropTrailingSlashes (cs : List Char) :
    pieces (dropTrailingSlashes cs) = pieces cs := by
  have hsplit : cs = dropTrailingSlashes cs ++ (cs.reverse.takeWhile (· = '/')).reverse := by
    rw [dropTrailingSlashes, ← List.reverse_append, List.takeWhile_append_dropWhile,
      List.reverse_reverse]
  conv => rhs; rw [hsplit]
  refine (pieces_append_all_slash _ fun c hc => ?_).symm
  have hall := List.all_eq_true.mp (List.all_takeWhile (l := cs.reverse) (p := (· = '/')))
  simpa using hall c (List.mem_reverse.mp hc)

theorem mem_of_mem_pieces {cs p : List Char} (hp : p ∈ pieces cs) : p ≠ [] := by
  simp only [pieces, List.mem_filter, decide_eq_true_eq] at hp
  exact hp.2

/-! ## The last slash and trailing slashes -/

/-- `lastSlash` finds the last slash: what follows it holds none. -/
theorem lastSlash_eq_some {cs : List Char} {i : Nat} (h : lastSlash cs = some i) :
    cs = cs.take i ++ '/' :: cs.drop (i + 1) ∧ '/' ∉ cs.drop (i + 1) := by
  unfold lastSlash at h
  split at h
  · rename_i k hk
    cases h
    obtain ⟨hk_lt, hk_slash, hk_before⟩ := List.findIdx?_eq_some_iff_getElem.mp hk
    rw [List.length_reverse] at hk_lt
    have hi : cs.length - 1 - k < cs.length := by omega
    have hslash : cs[cs.length - 1 - k] = '/' := by
      rw [List.getElem_reverse] at hk_slash
      simpa using hk_slash
    refine ⟨?_, fun hmem => ?_⟩
    · conv => lhs; rw [← List.take_append_drop (cs.length - 1 - k) cs]
      rw [List.drop_eq_getElem_cons hi, hslash]
    · obtain ⟨j, hj, hjb⟩ := List.getElem_of_mem hmem
      rw [List.getElem_drop, List.length_drop] at *
      have hlt : k - 1 - j < k := by omega
      have := hk_before (k - 1 - j) hlt
      rw [List.getElem_reverse] at this
      have hidx : cs.length - 1 - (k - 1 - j) = cs.length - 1 - k + 1 + j := by omega
      simp only [hidx, hjb, decide_true, not_true_eq_false] at this
  · cases h

theorem lastSlash_eq_none {cs : List Char} (h : lastSlash cs = none) : '/' ∉ cs := by
  unfold lastSlash at h
  split at h
  · cases h
  · rename_i hk
    intro hmem
    have := List.findIdx?_eq_none_iff.mp hk '/' (List.mem_reverse.mpr hmem)
    simp at this

/-- Trimmed characters do not end with a slash. -/
theorem dropTrailingSlashes_ne_append_slash (cs a : List Char) :
    dropTrailingSlashes cs ≠ a ++ ['/'] := by
  intro h
  have hrev := congrArg List.reverse h
  rw [dropTrailingSlashes, List.reverse_reverse, List.reverse_append] at hrev
  have hne : cs.reverse.dropWhile (· = '/') ≠ [] := by
    rw [hrev]; simp
  have := List.head_dropWhile_not (fun c => decide (c = '/')) hne
  simp only [hrev] at this
  simp at this

/-- The characters of a trimmed path split at a slash: the part after it is a piece. -/
theorem trimmed_split {cs a b : List Char} (h : dropTrailingSlashes cs = a ++ '/' :: b)
    (hb : '/' ∉ b) : b ≠ [] := by
  rintro rfl
  exact dropTrailingSlashes_ne_append_slash cs a h

/-! ## Names of joined, parent and last paths -/

theorem segments_eq (path : String) : segments path = (pieces path.toList).map String.ofList :=
  rfl

@[simp] theorem segments_root : segments "/" = [] := by
  rw [segments_eq]
  have : ("/" : String).toList = [] ++ '/' :: [] := rfl
  rw [this, pieces_append_slash]
  simp

@[simp] theorem segments_empty : segments "" = [] := by
  rw [segments_eq]
  simp

/-- Segments are never empty. -/
theorem ne_empty_of_mem_segments {path a : String} (h : a ∈ segments path) : a ≠ "" := by
  rw [segments_eq, List.mem_map] at h
  obtain ⟨p, hp, rfl⟩ := h
  intro he
  have hnil := congrArg String.toList he
  rw [String.toList_ofList] at hnil
  exact mem_of_mem_pieces hp hnil

theorem pieces_toList_of_validName {n : String} (h : ValidName n) : pieces n.toList = [n.toList] :=
  pieces_of_slash_free h.2 (by simpa using h.1)

theorem segments_of_validName {n : String} (h : ValidName n) : segments n = [n] := by
  rw [segments_eq, pieces_toList_of_validName h]
  simp

/-- Joining a name appends its pieces to those of the parent. -/
theorem segments_join (p n : String) (hn : n ≠ "") :
    segments (join p n) = segments p ++ segments n := by
  have hne : n.isEmpty = false := String.isEmpty_eq_false_iff.mpr hn
  unfold join
  rw [if_neg (by simp [hne])]
  split
  · rename_i hp
    have hp' : segments p = [] := by
      rcases hp with hp | hp
      · rw [String.isEmpty_iff.mp hp]; exact segments_empty
      · rw [hp]; exact segments_root
    rw [hp', List.nil_append, segments_eq, segments_eq, String.toList_append]
    have : ("/" : String).toList ++ n.toList = [] ++ '/' :: n.toList := rfl
    rw [this, pieces_append_slash, pieces_nil, List.nil_append]
  · rw [segments_eq, segments_eq p, segments_eq n, String.toList_append, String.toList_append,
      String.toList_ofList, List.append_assoc]
    have : ("/" : String).toList ++ n.toList = '/' :: n.toList := rfl
    rw [this, pieces_append_slash, pieces_dropTrailingSlashes, List.map_append]

/-- A valid name joined to a path adds exactly that name. -/
theorem segments_join_validName (p : String) {n : String} (hn : ValidName n) :
    segments (join p n) = segments p ++ [n] := by
  rw [segments_join p n hn.1, segments_of_validName hn]

/-- The parent of a path has all its names but the last. -/
theorem segments_parent (p : String) : segments (parent p) = (segments p).dropLast := by
  have hp : segments p = (pieces (dropTrailingSlashes p.toList)).map String.ofList := by
    rw [segments_eq, pieces_dropTrailingSlashes]
  unfold parent
  simp only
  split
  · rename_i hnone
    have hfree := lastSlash_eq_none hnone
    rw [segments_root, hp]
    by_cases he : dropTrailingSlashes p.toList = []
    · rw [he]; simp
    · rw [pieces_of_slash_free hfree he]; simp
  · rename_i h0
    obtain ⟨hsplit, hfree⟩ := lastSlash_eq_some h0
    rw [segments_root, hp, hsplit, pieces_append_slash]
    rw [pieces_of_slash_free hfree (trimmed_split hsplit hfree)]
    simp
  · rename_i i h0 hi
    obtain ⟨hsplit, hfree⟩ := lastSlash_eq_some hi
    have key : pieces (dropTrailingSlashes p.toList) =
        pieces ((dropTrailingSlashes p.toList).take i) ++
          [(dropTrailingSlashes p.toList).drop (i + 1)] := by
      conv => lhs; rw [hsplit]
      rw [pieces_append_slash, pieces_of_slash_free hfree (trimmed_split hsplit hfree)]
    rw [segments_eq, String.toList_ofList, hp, key]
    simp

/-- The name of a path is its last name, or empty for the root. -/
theorem name_eq_getLastD (p : String) : name p = (segments p).getLastD "" := by
  have hp : segments p = (pieces (dropTrailingSlashes p.toList)).map String.ofList := by
    rw [segments_eq, pieces_dropTrailingSlashes]
  unfold name
  simp only
  split
  · rename_i hnone
    have hfree := lastSlash_eq_none hnone
    rw [hp]
    by_cases he : dropTrailingSlashes p.toList = []
    · rw [he]; simp
    · rw [pieces_of_slash_free hfree he]; simp
  · rename_i i hi
    obtain ⟨hsplit, hfree⟩ := lastSlash_eq_some hi
    rw [hp]
    conv => rhs; rw [hsplit]
    rw [pieces_append_slash, pieces_of_slash_free hfree (trimmed_split hsplit hfree)]
    simp

/-- No piece between slashes holds a slash. -/
theorem slash_not_mem_of_mem_splitAtSlash {cs p : List Char} (h : p ∈ splitAtSlash cs) :
    '/' ∉ p := by
  induction cs generalizing p with
  | nil =>
    rw [splitAtSlash, List.mem_singleton] at h
    rw [h]
    simp
  | cons c cs ih =>
    rw [splitAtSlash] at h
    split at h
    · rcases List.mem_cons.mp h with rfl | h
      · simp
      · exact ih h
    · rename_i hc
      obtain ⟨d, ds, hd⟩ := List.exists_cons_of_ne_nil (splitAtSlash_ne_nil cs)
      rw [hd, List.modifyHead_cons] at h
      rcases List.mem_cons.mp h with rfl | h
      · -- the first piece gains the character `c`, which is no slash
        intro hmem
        rcases List.mem_cons.mp hmem with heq | hmem
        · exact hc heq.symm
        · exact ih (hd ▸ List.mem_cons_self) hmem
      · exact ih (hd ▸ List.mem_cons_of_mem d h)

/-- Every segment of a path is a valid name. -/
theorem validName_of_mem_segments {path a : String} (h : a ∈ segments path) : ValidName a := by
  refine ⟨ne_empty_of_mem_segments h, ?_⟩
  rw [segments_eq, List.mem_map] at h
  obtain ⟨p, hp, rfl⟩ := h
  rw [pieces, List.mem_filter] at hp
  rw [String.toList_ofList]
  exact slash_not_mem_of_mem_splitAtSlash hp.1

/-- A path with a last name is its parent's path with that name added. -/
theorem segments_eq_parent_name {p : String} (h : name p ≠ "") :
    segments p = segments (parent p) ++ [name p] := by
  rcases List.eq_nil_or_concat (segments p) with hnil | ⟨s, a, hs⟩
  · rw [name_eq_getLastD, hnil] at h
    exact absurd rfl h
  · rw [List.concat_eq_append] at hs
    rw [segments_parent, name_eq_getLastD, hs, List.dropLast_concat, List.getLastD_concat]

/-- A path's last name, when it has one, is a valid name. -/
theorem validName_name {p : String} (h : name p ≠ "") : ValidName (name p) := by
  have hmem : name p ∈ segments p := by
    rw [segments_eq_parent_name h]
    exact List.mem_append_right _ (List.mem_singleton_self _)
  exact validName_of_mem_segments hmem

/-- The segments of a joined path begin with those of the parent. -/
theorem segments_prefix_join (p n : String) : segments p <+: segments (join p n) := by
  by_cases hn : n = ""
  · subst hn
    have hj : join p "" = p := if_pos rfl
    exact hj ▸ List.prefix_refl _
  · rw [segments_join p n hn]
    exact List.prefix_append _ _

/-! ## Canonical paths -/

/-- The characters of a canonical path: a slash before each name. -/
def slashed (names : List String) : List Char :=
  names.flatMap fun n => '/' :: n.toList

@[simp] theorem slashed_nil : slashed [] = [] := rfl

theorem slashed_cons (n : String) (ns : List String) :
    slashed (n :: ns) = '/' :: (n.toList ++ slashed ns) := rfl

theorem slashed_append (a b : List String) : slashed (a ++ b) = slashed a ++ slashed b := by
  simp [slashed]

theorem toList_render (names : List String) :
    (render names).toList = if names = [] then ['/'] else slashed names := by
  cases names with
  | nil => rfl
  | cons n ns => simp [render, slashed]

/-- After a valid name, the rest of a canonical path starts a new piece. -/
theorem pieces_name_append_slashed {n : String} (hn : ValidName n) (ns : List String) :
    pieces (n.toList ++ slashed ns) = n.toList :: pieces (slashed ns) := by
  cases ns with
  | nil => rw [slashed_nil, List.append_nil, pieces_toList_of_validName hn, pieces_nil]
  | cons m ms =>
    rw [slashed_cons, pieces_append_slash, pieces_toList_of_validName hn]
    have := pieces_append_slash [] (m.toList ++ slashed ms)
    rw [List.nil_append, pieces_nil, List.nil_append] at this
    rw [this]
    rfl

theorem pieces_slashed {names : List String} (h : ∀ n ∈ names, ValidName n) :
    pieces (slashed names) = names.map String.toList := by
  induction names with
  | nil => rfl
  | cons n ns ih =>
    have hn : ValidName n := h n List.mem_cons_self
    have := pieces_append_slash [] (n.toList ++ slashed ns)
    rw [List.nil_append, pieces_nil, List.nil_append] at this
    rw [slashed_cons, this, pieces_name_append_slashed hn,
      ih fun m hm => h m (List.mem_cons_of_mem n hm)]
    rfl

/-- A canonical path of valid names resolves to those names. -/
theorem segments_render {names : List String} (h : ∀ n ∈ names, ValidName n) :
    segments (render names) = names := by
  rw [segments_eq, toList_render]
  split
  · rename_i hnil
    subst hnil
    exact segments_root
  · rw [pieces_slashed h, List.map_map]
    simp

theorem render_injective {a b : List String} (ha : ∀ n ∈ a, ValidName n)
    (hb : ∀ n ∈ b, ValidName n) (h : render a = render b) : a = b := by
  rw [← segments_render ha, ← segments_render hb, h]

theorem toList_render_of_ne_nil {names : List String} (h : names ≠ []) :
    (render names).toList = slashed names := by
  rw [toList_render, if_neg h]

theorem two_le_length_slashed {names : List String} (h : ∀ n ∈ names, ValidName n)
    (hne : names ≠ []) : 2 ≤ (slashed names).length := by
  obtain ⟨m, ms, rfl⟩ := List.exists_cons_of_ne_nil hne
  have hm : m.toList ≠ [] := by simpa using (h m List.mem_cons_self).1
  obtain ⟨c, cs, hc⟩ := List.exists_cons_of_ne_nil hm
  rw [slashed_cons, List.length_cons, List.length_append, hc, List.length_cons]
  omega

/-- A canonical path of valid names does not end with a slash, unless it is the root. -/
theorem dropTrailingSlashes_slashed {names : List String} (h : ∀ n ∈ names, ValidName n) :
    dropTrailingSlashes (slashed names) = slashed names := by
  rcases List.eq_nil_or_concat names with hnil | ⟨ns, n, rfl⟩
  · subst hnil; rfl
  · have hn : ValidName n := h n (by simp)
    obtain ⟨c, cs, hc⟩ := List.exists_cons_of_ne_nil
      (show n.toList.reverse ≠ [] by simpa using hn.1)
    have hcs : c ≠ '/' := fun hcs =>
      hn.2 (List.mem_reverse.mp (hc ▸ hcs ▸ List.mem_cons_self))
    have hrev : (slashed (ns.concat n)).reverse = c :: (cs ++ '/' :: (slashed ns).reverse) := by
      rw [List.concat_eq_append, slashed_append]
      simp [slashed, hc]
    rw [dropTrailingSlashes, hrev, List.dropWhile_cons_of_neg (by simpa using hcs), ← hrev,
      List.reverse_reverse]

/-- Joining a valid name to a canonical path gives the canonical path one name longer. -/
theorem join_render {names : List String} (h : ∀ n ∈ names, ValidName n) {n : String}
    (hn : ValidName n) : join (render names) n = render (names ++ [n]) := by
  have hne : n.isEmpty = false := String.isEmpty_eq_false_iff.mpr hn.1
  apply String.toList_injective
  rw [toList_render_of_ne_nil (by simp), slashed_append]
  unfold join
  rw [if_neg (by simp [hne])]
  by_cases hnil : names = []
  · subst hnil
    have hroot : render [] = "/" := rfl
    rw [hroot, if_pos (Or.inr rfl), String.toList_append, slashed_nil, List.nil_append,
      slashed_cons, slashed_nil, List.append_nil]
    rfl
  · have hp : ¬((render names).isEmpty = true ∨ render names = "/") := by
      rintro (hp | hp)
      · have := congrArg List.length (congrArg String.toList (String.isEmpty_iff.mp hp))
        rw [toList_render_of_ne_nil hnil] at this
        have := two_le_length_slashed h hnil
        simp_all
      · have := segments_render h
        rw [hp, segments_root] at this
        exact hnil this.symm
    rw [if_neg hp, String.toList_append, String.toList_append, String.toList_ofList,
      toList_render_of_ne_nil hnil, dropTrailingSlashes_slashed h]
    simp [slashed]

/-- A name that is valid, or empty: joined to a path it adds itself or nothing. -/
def NameOrEmpty (n : String) : Prop := n = "" ∨ ValidName n

/-- The text `p` is the canonical path of its names, each of them valid. -/
def Canonical (p : String) : Prop := ∃ names, (∀ n ∈ names, ValidName n) ∧ p = render names

/-- Joining a valid name or nothing to a canonical path keeps it canonical. -/
theorem Canonical.join {p n : String} (hp : Canonical p) (hn : NameOrEmpty n) :
    Canonical (join p n) := by
  obtain ⟨names, hnames, rfl⟩ := hp
  rcases hn with rfl | hn
  · exact ⟨names, hnames, if_pos rfl⟩
  · refine ⟨names ++ [n], fun m hm => ?_, join_render hnames hn⟩
    rcases List.mem_append.mp hm with hm | hm
    · exact hnames m hm
    · rw [List.mem_singleton.mp hm]
      exact hn

/-- One canonical path lies below another exactly when its names extend the other's. -/
theorem isDescendantOrSelf_render {a b : List String} (ha : ∀ n ∈ a, ValidName n)
    (hb : ∀ n ∈ b, ValidName n) : isDescendantOrSelf (render a) (render b) = true ↔ a <+: b := by
  unfold isDescendantOrSelf
  by_cases hroot : render a = "/"
  · have hnil : a = [] := by
      have := segments_render ha
      rwa [hroot, segments_root, eq_comm] at this
    subst hnil
    rw [if_pos hroot]
    simp only [List.nil_prefix, iff_true, decide_eq_true_eq]
    rcases b with _ | ⟨m, ms⟩
    · rfl
    · rw [toList_render_of_ne_nil (by simp), slashed_cons]
      rfl
  · have hnil : a ≠ [] := by
      rintro rfl; exact hroot rfl
    rw [if_neg hroot]
    simp only [decide_eq_true_eq, List.isPrefixOf_iff_prefix]
    constructor
    · rintro (heq | ⟨⟨t, ht⟩, hslash⟩)
      · obtain rfl := render_injective hb ha heq
        exact List.prefix_refl _
      · rw [toList_render_of_ne_nil hnil] at ht hslash
        have hb' : b ≠ [] := by
          rintro rfl
          have hlen := congrArg List.length ht
          rw [toList_render, if_pos rfl, List.length_append] at hlen
          have := two_le_length_slashed ha hnil
          simp at hlen
          omega
        rw [toList_render_of_ne_nil hb'] at ht hslash
        rw [← ht, List.drop_left] at hslash
        obtain ⟨rest, rfl⟩ : ∃ rest, t = '/' :: rest := by
          cases t with
          | nil => simp at hslash
          | cons c cs =>
            simp only [List.head?_cons, Option.some.injEq] at hslash
            exact ⟨cs, by rw [hslash]⟩
        have hsegs := segments_render hb
        rw [segments_eq, toList_render_of_ne_nil hb', ← ht, pieces_append_slash,
          pieces_slashed ha, List.map_append, List.map_map] at hsegs
        rw [← hsegs]
        simp
    · rintro ⟨c, rfl⟩
      by_cases hc : c = []
      · subst hc
        exact Or.inl (by rw [List.append_nil])
      · right
        have hbne : a ++ c ≠ [] := by simp [hnil]
        rw [toList_render_of_ne_nil hnil, toList_render_of_ne_nil hbne, slashed_append]
        refine ⟨List.prefix_append _ _, ?_⟩
        rw [List.drop_left]
        obtain ⟨m, ms, rfl⟩ := List.exists_cons_of_ne_nil hc
        rfl

/-! ## Taking a joined path apart -/

/-- The last slash of a text is the one before its slash-free tail. -/
theorem lastSlash_append_slash (a : List Char) {b : List Char} (hb : '/' ∉ b) :
    lastSlash (a ++ '/' :: b) = some a.length := by
  have hfree : ∀ c ∈ b.reverse, decide (c = '/') = false :=
    fun c hc => decide_eq_false fun h => hb (h ▸ List.mem_reverse.mp hc)
  have hidx : (a ++ '/' :: b).reverse.findIdx? (· = '/') = some b.length := by
    rw [List.reverse_append, List.reverse_cons, List.append_assoc, List.singleton_append,
      List.findIdx?_append, List.findIdx?_eq_none_iff.mpr hfree, List.findIdx?_cons]
    simp
  rw [lastSlash, hidx]
  simp only [List.length_append, List.length_cons, Option.some.injEq]
  omega

theorem validName_append {names : List String} (h : ∀ m ∈ names, ValidName m) {n : String}
    (hn : ValidName n) : ∀ m ∈ names ++ [n], ValidName m := by
  rw [List.forall_mem_append, List.forall_mem_singleton]
  exact ⟨h, hn⟩

/-- The parent of a canonical path with a last name is the canonical path of the other names. -/
theorem parent_render_append {names : List String} (h : ∀ m ∈ names, ValidName m) {n : String}
    (hn : ValidName n) : parent (render (names ++ [n])) = render names := by
  have hall := validName_append h hn
  have htrim : dropTrailingSlashes (render (names ++ [n])).toList =
      slashed names ++ '/' :: n.toList := by
    rw [toList_render_of_ne_nil (by simp), dropTrailingSlashes_slashed hall, slashed_append]
    simp [slashed]
  unfold parent
  dsimp only
  rw [htrim, lastSlash_append_slash _ hn.2]
  by_cases hnil : names = []
  · subst hnil
    rfl
  · -- the slash before the last name is not the first character
    obtain ⟨k, hk⟩ : ∃ k, (slashed names).length = k + 1 :=
      ⟨(slashed names).length - 1, by have := two_le_length_slashed h hnil; omega⟩
    simp only [hk]
    rw [← hk, List.take_left, ← toList_render_of_ne_nil hnil, String.ofList_toList]

/-- The last name of a canonical path is the name joined last. -/
theorem name_render_append {names : List String} (h : ∀ m ∈ names, ValidName m) {n : String}
    (hn : ValidName n) : name (render (names ++ [n])) = n := by
  have hall := validName_append h hn
  rw [name_eq_getLastD, segments_render hall, List.getLastD_concat]

/-- On canonical paths the text helpers follow the names: the parent and the last name of a
path with a valid name joined are that path and that name, and one path lies below another
exactly when its names begin with the other's. -/
theorem canonical_path_helpers_follow_names {p n a b : String} (hp : Canonical p)
    (hn : ValidName n) (ha : Canonical a) (hb : Canonical b) :
    parent (join p n) = p ∧ name (join p n) = n ∧
      (isDescendantOrSelf a b = true ↔ segments a <+: segments b) := by
  obtain ⟨names, hnames, rfl⟩ := hp
  obtain ⟨as, has, rfl⟩ := ha
  obtain ⟨bs, hbs, rfl⟩ := hb
  rw [join_render hnames hn, parent_render_append hnames hn, name_render_append hnames hn,
    segments_render has, segments_render hbs]
  exact ⟨rfl, rfl, isDescendantOrSelf_render has hbs⟩

/-- `/content/site` comes apart into `/content` and `site`, and `/a` is no ancestor of `/ab`. -/
theorem content_site_helpers_follow_names :
    Canonical "/content" ∧ ValidName "site" ∧ Canonical "/a" ∧ Canonical "/ab" ∧
      parent (join "/content" "site") = "/content" ∧ name (join "/content" "site") = "site" ∧
      (isDescendantOrSelf "/a" "/ab" = true ↔ segments "/a" <+: segments "/ab") := by
  have hcontent : Canonical "/content" := ⟨["content"], by decide, rfl⟩
  have hsite : ValidName "site" := by decide
  have ha : Canonical "/a" := ⟨["a"], by decide, rfl⟩
  have hab : Canonical "/ab" := ⟨["ab"], by decide, rfl⟩
  exact ⟨hcontent, hsite, ha, hab, canonical_path_helpers_follow_names hcontent hsite ha hab⟩

end ContentSync.Path
