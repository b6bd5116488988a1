import ContentSync.Name.Platform
import ContentSync.Proofs.PathSegments

/-!
# File names read back

A node name becomes a file name by percent-escaping the characters file systems refuse, by
writing a namespaced name `prefix:local` as `_prefix_local`, and by putting one more `_` before
a name that starts with `_`. Reading the file name undoes all three
(`fromPlatformName_toPlatformName`): percent escapes never write an `_`, and the first character
they write is the name's own or a `%`, so a namespaced name, a name that starts with `_` and any
other name keep forms that reading tells apart. Hence distinct names have distinct file names
(`toPlatformName_injective`), and a valid name has a valid file name: neither is empty, and
neither holds a `/` (`validName_toPlatformName`).

Main statements: `fromPlatformName_toPlatformName`, `toPlatformName_injective`.
-/

namespace ContentSync.Name

/-! ## Percent escapes -/

/-- What reading needs of the two digits of an escaped byte, for each byte below 128. -/
theorem hex2_facts : ∀ n < 128,
    (∀ d ∈ hex2 n, d.toNat < 128 ∧ d ≠ '_' ∧ d ≠ '/' ∧ d ≠ '%') ∧
      (Number.readNatural 16 255 (String.ofList (hex2 n))).toOption = some n := by
  -- decided digit by digit over the list, not over every character
  have hcheck : ∀ n < 128, ((hex2 n).all fun d =>
      decide (d.toNat < 128 ∧ d ≠ '_' ∧ d ≠ '/' ∧ d ≠ '%')) = true ∧
      (Number.readNatural 16 255 (String.ofList (hex2 n))).toOption = some n := by
    decide +kernel
  intro n hn
  obtain ⟨hall, hread⟩ := hcheck n hn
  exact ⟨fun d hd => of_decide_eq_true (List.all_eq_true.mp hall d hd), hread⟩

theorem toNat_lt_of_illegal {c : Char} (h : isIllegalFileChar c = true) : c.toNat < 128 := by
  simp only [isIllegalFileChar, List.mem_cons, List.not_mem_nil, or_false, Bool.or_eq_true,
    decide_eq_true_eq] at h
  rcases h with h | h
  · rcases h with rfl | rfl | rfl | rfl | rfl | rfl | rfl | rfl | rfl | rfl <;> decide
  · omega

theorem illegal_percent : isIllegalFileChar '%' = true := by decide

theorem illegal_slash : isIllegalFileChar '/' = true := by decide

theorem legal_underscore : isIllegalFileChar '_' = false := by decide

theorem percentEscape_cons (c : Char) (cs : List Char) :
    percentEscape (c :: cs) =
      (if isIllegalFileChar c then '%' :: hex2 c.toNat else [c]) ++ percentEscape cs := by
  rw [percentEscape, List.flatMap_cons, ← percentEscape]

theorem percentUnescape_cons {c : Char} (h : c ≠ '%') (rest : List Char) :
    percentUnescape (c :: rest) = c :: percentUnescape rest := by
  rw [percentUnescape]
  intro a b rest' hc
  exact absurd hc h

theorem percentUnescape_escape {c : Char} (h : isIllegalFileChar c = true) (rest : List Char) :
    percentUnescape ('%' :: hex2 c.toNat ++ rest) = c :: percentUnescape rest := by
  obtain ⟨hdig, hread⟩ := hex2_facts c.toNat (toNat_lt_of_illegal h)
  have hval : Number.readNatural 16 255 (String.ofList (hex2 c.toNat)) = .ok c.toNat := by
    revert hread
    cases Number.readNatural 16 255 (String.ofList (hex2 c.toNat)) <;> simp [Except.toOption]
  -- the escape is `%` and two digits, which read as the byte
  obtain ⟨a, b, hab⟩ : ∃ a b, hex2 c.toNat = [a, b] := ⟨_, _, rfl⟩
  rw [hab] at hdig hval
  rw [hab, List.cons_append, List.cons_append, List.cons_append, List.nil_append, percentUnescape,
    if_pos ⟨(hdig a (by simp)).1, (hdig b (by simp)).1⟩, hval]
  show Char.ofNat c.toNat :: percentUnescape rest = _
  rw [Char.ofNat_toNat]

theorem percentUnescape_percentEscape (cs : List Char) : percentUnescape (percentEscape cs) = cs := by
  induction cs with
  | nil => rfl
  | cons c cs ih =>
    rw [percentEscape_cons]
    by_cases hc : isIllegalFileChar c
    · rw [if_pos hc, percentUnescape_escape hc, ih]
    · have hne : c ≠ '%' := fun e => hc (e ▸ illegal_percent)
      rw [if_neg hc, List.singleton_append, percentUnescape_cons hne, ih]

/-- A character of an escaped text is a `%`, a digit of an escape, or a character of the text
that needs no escape. -/
theorem mem_percentEscape {cs : List Char} {d : Char} (hd : d ∈ percentEscape cs) :
    d = '%' ∨ (d ∈ cs ∧ isIllegalFileChar d = false) ∨ (d ≠ '_' ∧ d ≠ '/' ∧ d ≠ '%') := by
  rw [percentEscape, List.mem_flatMap] at hd
  obtain ⟨c, hc, hd⟩ := hd
  by_cases hi : isIllegalFileChar c
  · rw [if_pos hi, List.mem_cons] at hd
    rcases hd with hd | hd
    · exact Or.inl hd
    · exact Or.inr (Or.inr ((hex2_facts c.toNat (toNat_lt_of_illegal hi)).1 d hd).2)
  · rw [if_neg hi, List.mem_singleton] at hd
    subst hd
    exact Or.inr (Or.inl ⟨hc, by simpa using hi⟩)

theorem underscore_mem_percentEscape {cs : List Char} (h : '_' ∈ percentEscape cs) : '_' ∈ cs := by
  rcases mem_percentEscape h with h | h | h
  · cases h
  · exact h.1
  · exact absurd rfl h.1

theorem slash_not_mem_percentEscape (cs : List Char) : '/' ∉ percentEscape cs := by
  intro h
  rcases mem_percentEscape h with h | h | h
  · cases h
  · rw [illegal_slash] at h
    cases h.2
  · exact h.2.1 rfl

theorem head?_percentEscape (c : Char) (cs : List Char) :
    (percentEscape (c :: cs)).head? = some (if isIllegalFileChar c then '%' else c) := by
  rw [percentEscape_cons]
  split <;> rfl

theorem percentEscape_ne_nil {cs : List Char} (h : cs ≠ []) : percentEscape cs ≠ [] := by
  obtain ⟨c, rest, rfl⟩ := List.exists_cons_of_ne_nil h
  intro he
  have := head?_percentEscape c rest
  rw [he] at this
  cases this

/-- An escaped text starts with `_` only where the text does. -/
theorem head?_percentEscape_underscore {cs : List Char}
    (h : (percentEscape cs).head? = some '_') : cs.head? = some '_' := by
  cases cs with
  | nil => cases h
  | cons c rest =>
    rw [head?_percentEscape] at h
    by_cases hc : isIllegalFileChar c
    · rw [if_pos hc] at h
      cases h
    · rw [if_neg hc] at h
      exact h

/-! ## Splitting at the first separator -/

theorem splitOnce_eq_some {sep : Char} {cs pre post : List Char}
    (h : splitOnce sep cs = some (pre, post)) : cs = pre ++ sep :: post ∧ sep ∉ pre := by
  unfold splitOnce at h
  split at h
  · rename_i i hi
    cases h
    obtain ⟨hlt, hsep, hbefore⟩ := List.findIdx?_eq_some_iff_getElem.mp hi
    refine ⟨?_, fun hm => ?_⟩
    · have hget : cs[i] = sep := by simpa using hsep
      have hsplit : cs = cs.take i ++ cs.drop i := (List.take_append_drop i cs).symm
      rw [List.drop_eq_getElem_cons hlt, hget] at hsplit
      exact hsplit
    · obtain ⟨j, hj, hjs⟩ := List.getElem_of_mem hm
      rw [List.length_take] at hj
      have hne := hbefore j (by omega)
      rw [List.getElem_take] at hjs
      exact hne (by simpa using hjs)
  · cases h

theorem splitOnce_append {sep : Char} {pre : List Char} (h : sep ∉ pre) (post : List Char) :
    splitOnce sep (pre ++ sep :: post) = some (pre, post) := by
  have hnone : pre.findIdx? (· = sep) = none := by
    rw [List.findIdx?_eq_none_iff]
    intro d hd
    simp only [decide_eq_false_iff_not]
    rintro rfl
    exact h hd
  unfold splitOnce
  simp [List.findIdx?_append, hnone, List.findIdx?_cons]

/-! ## File names -/

/-- A file name that starts with `__` is a name that starts with `_`. -/
theorem fromPlatformName_of_doubled {name : String} {r : List Char}
    (h : name.toList = '_' :: '_' :: r) :
    fromPlatformName name = String.ofList (percentUnescape ('_' :: r)) := by
  unfold fromPlatformName
  rw [h]
  rfl

/-- A file name `_prefix_local` with a non-empty prefix is a namespaced name. -/
theorem fromPlatformName_of_namespaced {name : String} {rest pre post : List Char}
    (h : name.toList = '_' :: rest) (hr : rest.head? ≠ some '_')
    (hs : splitOnce '_' rest = some (pre, post)) (hp : pre ≠ []) :
    fromPlatformName name = String.ofList (percentUnescape pre ++ ':' :: percentUnescape post) := by
  unfold fromPlatformName
  rw [h]
  split
  next rest' heq =>
    obtain rfl : rest = '_' :: rest' := (List.cons.inj heq).2
    exact absurd rfl hr
  next rest' _ heq =>
    obtain rfl : rest = rest' := (List.cons.inj heq).2
    rw [hs]
    simp [List.isEmpty_iff, hp]
  next _ _ h2 => exact absurd rfl (h2 rest)

/-- Any other file name is only escaped. -/
theorem fromPlatformName_of_plain {name : String} (h : name.toList.head? ≠ some '_') :
    fromPlatformName name = String.ofList (percentUnescape name.toList) := by
  unfold fromPlatformName
  split
  next rest heq => rw [heq] at h; exact absurd rfl h
  next rest _ heq => rw [heq] at h; exact absurd rfl h
  next => rfl

/-- Reading the file name of a name gives the name back. -/
theorem fromPlatformName_toPlatformName (name : String) :
    fromPlatformName (toPlatformName name) = name := by
  rw [← String.ofList_toList (s := name)]
  generalize name.toList = cs
  -- the file name of a name that starts with `_`, and of any other
  have hother : fromPlatformName (String.ofList
      (if cs.head? = some '_' then '_' :: percentEscape cs else percentEscape cs)) =
        String.ofList cs := by
    split
    next hh =>
      obtain ⟨rest, rfl⟩ : ∃ rest, cs = '_' :: rest := by
        cases cs with
        | nil => cases hh
        | cons c rest => cases hh; exact ⟨rest, rfl⟩
      rw [fromPlatformName_of_doubled (r := percentEscape rest)]
      · rw [percentUnescape_cons (by decide), percentUnescape_percentEscape]
      · rw [String.toList_ofList, percentEscape_cons, if_neg (by rw [legal_underscore]; decide)]
        rfl
    next hh =>
      rw [fromPlatformName_of_plain, String.toList_ofList, percentUnescape_percentEscape]
      rw [String.toList_ofList]
      exact fun e => hh (head?_percentEscape_underscore e)
  rw [toPlatformName, String.toList_ofList]
  split
  next pre post hs =>
    split
    next hcond =>
      obtain ⟨rfl, -⟩ := splitOnce_eq_some hs
      have hpre : pre ≠ [] := by simpa using hcond.1
      have hu : '_' ∉ pre := by simpa using hcond.2
      have hpe : percentEscape pre ≠ [] := percentEscape_ne_nil hpre
      -- the escaped prefix starts with no `_` and holds none
      have hhead : (percentEscape pre ++ '_' :: percentEscape post).head? ≠ some '_' := by
        intro e
        obtain ⟨d, ds, hd⟩ := List.exists_cons_of_ne_nil hpe
        rw [hd, List.cons_append, List.head?_cons] at e
        exact hu (List.mem_of_head? (head?_percentEscape_underscore (by rw [hd]; exact e)))
      rw [List.cons_append, fromPlatformName_of_namespaced String.toList_ofList hhead
        (splitOnce_append (fun h => hu (underscore_mem_percentEscape h)) _) hpe,
        percentUnescape_percentEscape, percentUnescape_percentEscape]
    next => exact hother
  next => exact hother

theorem slash_not_mem_toPlatformName (name : String) : '/' ∉ (toPlatformName name).toList := by
  rw [toPlatformName, String.toList_ofList]
  split
  · split
    · simp [slash_not_mem_percentEscape]
    · split <;> simp [slash_not_mem_percentEscape]
  · split <;> simp [slash_not_mem_percentEscape]

/-- A valid name has a valid file name. -/
theorem validName_toPlatformName {name : String} (h : Path.ValidName name) :
    Path.ValidName (toPlatformName name) := by
  refine ⟨fun e => h.1 ?_, slash_not_mem_toPlatformName name⟩
  rw [← fromPlatformName_toPlatformName name, e]
  decide

theorem toPlatformName_injective {a b : String} (h : toPlatformName a = toPlatformName b) :
    a = b := by
  rw [← fromPlatformName_toPlatformName a, h, fromPlatformName_toPlatformName]

/-- The dot names are the only names whose file names are `.` or `..`: each of the two is its
own file name, and no other name shares a file name with it. -/
theorem toPlatformName_ne_dots {name : String} (h : name ≠ "." ∧ name ≠ "..") :
    toPlatformName name ≠ "." ∧ toPlatformName name ≠ ".." := by
  have hdot : toPlatformName "." = "." := by decide
  have hdots : toPlatformName ".." = ".." := by decide
  exact ⟨fun e => h.1 (toPlatformName_injective (e.trans hdot.symm)),
    fun e => h.2 (toPlatformName_injective (e.trans hdots.symm))⟩

/-- The directories of a path below the package root: one plain file name for each name of the
path (neither empty, nor holding a `/`, nor a dot name) when the path names no `.` or `..`, and
paths with distinct names have distinct directories. -/
theorem toPlatformPath_plain {p : String}
    (h : ∀ n ∈ Path.segments p, n ≠ "." ∧ n ≠ "..") :
    (toPlatformPath p).length = (Path.segments p).length ∧
      ∀ f ∈ toPlatformPath p, Path.ValidName f ∧ f ≠ "." ∧ f ≠ ".." := by
  refine ⟨List.length_map _, fun f hf => ?_⟩
  obtain ⟨n, hn, rfl⟩ := List.mem_map.mp hf
  exact ⟨validName_toPlatformName (Path.validName_of_mem_segments hn),
    toPlatformName_ne_dots (h n hn)⟩

theorem segments_eq_of_toPlatformPath {p q : String} (h : toPlatformPath p = toPlatformPath q) :
    Path.segments p = Path.segments q :=
  (List.map_inj_right fun _ _ => toPlatformName_injective).mp h

/-- File names of nodes are read back exactly: reading undoes the escaping of every name, so
no two names share a file name. -/
theorem platform_escaping_inverted :
    Function.LeftInverse fromPlatformName toPlatformName ∧ Function.Injective toPlatformName :=
  ⟨fromPlatformName_toPlatformName, fun _ _ => toPlatformName_injective⟩

end ContentSync.Name
