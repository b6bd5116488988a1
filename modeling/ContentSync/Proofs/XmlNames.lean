import ContentSync.Name.Iso9075
import ContentSync.Proofs.PlainText

/-!
# Names as XML names, read back

ISO 9075 escaping writes a name as an XML name: each character that may not stand at its place,
and each `_` followed by `x`, becomes `_xHHHH_`, its code point in upper-case hex padded to four
digits. Decoding scans for `_x` from the left and reads four to six hex digits and a closing `_`.

The escaping is exactly inverted (`iso9075Decode_iso9075Encode`): an escape is read back as its
character because its digits hold no `_` and number at most six, below U+110000; a character
written as it is is read back as itself because the only `_x` the escaping leaves in its output
starts an escape: an `_` is kept only when the next character is no `x`, and the output for that
next character starts with the character itself or with the `_` of its escape. What the escaping
writes is an XML name (`iso9075Encode_isName`): every escape is made of name characters, and the
first character is kept only when it may start a name.

Main statement: `iso9075_escaping_inverted`.
-/

namespace ContentSync.Name

/-! ## The digits of an escape -/

/-- The upper-case hex digit of a number below sixteen. -/
def upperHexDigit (k : Nat) : Char := (Nat.digitChar k).toUpper

/-- The digits of the escape of `c`: its code point in upper-case hex, padded to four. -/
def escapeDigits (c : Char) : List Char :=
  List.replicate (4 - (Nat.toDigits 16 c.toNat).length) '0' ++
    (Nat.toDigits 16 c.toNat).map Char.toUpper

theorem hexEscape_eq (c : Char) : hexEscape c = '_' :: 'x' :: (escapeDigits c ++ ['_']) := by
  simp [hexEscape, escapeDigits]

/-- What decoding and the name rules need of one digit, for each of the sixteen. -/
theorem upperHexDigit_facts : ∀ k < 16,
    isHexDigit (upperHexDigit k) = true ∧ upperHexDigit k ≠ '_' ∧
      isNameChar (upperHexDigit k) = true ∧ Text.IsVisibleAscii (upperHexDigit k) ∧
      Number.digitValue 16 (upperHexDigit k).toNat.toUInt8 = some k ∧
      (upperHexDigit k).toNat.toUInt8 ≠ 43 ∧ (upperHexDigit k).toNat.toUInt8 ≠ 45 := by
  decide +kernel

theorem escape_marks : isNameStart '_' = true ∧ isNameChar '_' = true ∧ isNameChar 'x' = true := by
  decide +kernel

/-- Each hex digit of a number is the digit of some value below sixteen. -/
theorem mem_toDigits_hex {n : Nat} {d : Char} (h : d ∈ Nat.toDigits 16 n) :
    ∃ k < 16, d = Nat.digitChar k := by
  induction n using Nat.base_induction 16 (by decide) generalizing d with
  | single m hm =>
    rw [Nat.toDigits_of_lt_base hm, List.mem_singleton] at h
    exact ⟨m, hm, h⟩
  | digit m k hk hm ih =>
    rw [← Nat.toDigits_append_toDigits (by decide) hm hk, Nat.toDigits_of_lt_base hk,
      List.mem_append, List.mem_singleton] at h
    rcases h with h | h
    · exact ih h
    · exact ⟨k, hk, h⟩

theorem mem_escapeDigits {c d : Char} (h : d ∈ escapeDigits c) : ∃ k < 16, d = upperHexDigit k := by
  rw [escapeDigits, List.mem_append, List.mem_map] at h
  rcases h with h | ⟨e, he, rfl⟩
  · exact ⟨0, by decide, (List.eq_of_mem_replicate h).trans (by decide)⟩
  · obtain ⟨k, hk, rfl⟩ := mem_toDigits_hex he
    exact ⟨k, hk, rfl⟩

/-- A code point has at most six hex digits. -/
theorem length_toDigits_hex_le (c : Char) : (Nat.toDigits 16 c.toNat).length ≤ 6 := by
  have hc : c.toNat < 16 ^ 6 := by
    have := c.valid
    simp only [UInt32.isValidChar, Nat.isValidChar] at this
    simp only [Char.toNat]
    omega
  exact (Nat.length_toDigits_le_iff (by decide) (by decide)).mpr hc

theorem length_escapeDigits (c : Char) :
    4 ≤ (escapeDigits c).length ∧ (escapeDigits c).length ≤ 6 := by
  have := length_toDigits_hex_le c
  simp only [escapeDigits, List.length_append, List.length_replicate, List.length_map]
  omega

/-! ## Reading the digits of an escape -/

theorem accumulateUp_append (radix bound acc : Nat) (l₁ l₂ : List UInt8) :
    Number.accumulateUp radix bound acc (l₁ ++ l₂) =
      Number.accumulateUp radix bound acc l₁ >>= fun v => Number.accumulateUp radix bound v l₂ := by
  induction l₁ generalizing acc with
  | nil => rfl
  | cons b rest ih =>
    rw [List.cons_append, Number.accumulateUp, Number.accumulateUp]
    split
    · rfl
    · dsimp only
      split
      · exact ih _
      · rfl

/-- The bytes of characters. -/
def charBytes (cs : List Char) : List UInt8 := cs.map (·.toNat.toUInt8)

/-- The hex digits of `n`, read from the left, give `n` back while it stays within the bound. -/
theorem accumulateUp_toDigits_hex {bound : Nat} {n : Nat} (hn : n ≤ bound) :
    Number.accumulateUp 16 bound 0 (charBytes ((Nat.toDigits 16 n).map Char.toUpper)) = .ok n := by
  induction n using Nat.base_induction 16 (by decide) with
  | single m hm =>
    have hd := (upperHexDigit_facts m hm).2.2.2.2.1
    rw [Nat.toDigits_of_lt_base hm]
    simp only [charBytes, List.map_cons, List.map_nil, Number.accumulateUp]
    rw [show (Nat.digitChar m).toUpper = upperHexDigit m from rfl, hd]
    simp only [Nat.zero_mul, Nat.zero_add, if_pos hn]
  | digit m k hk hm ih =>
    have hd := (upperHexDigit_facts k hk).2.2.2.2.1
    rw [← Nat.toDigits_append_toDigits (by decide) hm hk, Nat.toDigits_of_lt_base hk,
      charBytes, List.map_append, List.map_append, accumulateUp_append, ← charBytes,
      ih (by omega)]
    show Number.accumulateUp 16 bound m [(upperHexDigit k).toNat.toUInt8] = .ok (16 * m + k)
    rw [Number.accumulateUp, hd]
    simp only [show m * 16 + k = 16 * m + k by omega, if_pos hn]
    rfl

/-- Leading zeros read as nothing. -/
theorem accumulateUp_zeros (bound z : Nat) (l : List UInt8) :
    Number.accumulateUp 16 bound 0 (charBytes (List.replicate z '0') ++ l) =
      Number.accumulateUp 16 bound 0 l := by
  induction z with
  | zero => rfl
  | succ z ih =>
    rw [List.replicate_succ, charBytes, List.map_cons, List.cons_append, Number.accumulateUp]
    simp only [show Number.digitValue 16 ('0'.toNat.toUInt8) = some 0 by decide,
      Nat.zero_mul, Nat.zero_add, if_pos (Nat.zero_le bound)]
    exact ih

/-- An unsigned reading of bytes that start with no sign accumulates them all. -/
theorem readIntegerBytes_unsigned {b : UInt8} (h43 : b ≠ 43) (h45 : b ≠ 45) (rest : List UInt8)
    (radix lo hi : Nat) :
    Number.readIntegerBytes radix false lo hi (b :: rest) =
      (Number.accumulateUp radix hi 0 (b :: rest)).map Int.ofNat := by
  unfold Number.readIntegerBytes
  split
  case h_1 heq => cases heq
  case h_2 heq => exact absurd (List.cons.inj heq).1 h43
  case h_3 heq => exact absurd (List.cons.inj heq).1 h45
  case h_4 heq => exact absurd (List.cons.inj heq).1 h43
  case h_5 heq => exact absurd (List.cons.inj heq).1 h45
  case h_6 => rfl

/-- The digits of an escape read as the code point. -/
theorem readNatural_escapeDigits (c : Char) :
    Number.readNatural 16 0xFFFFFFFF (String.ofList (escapeDigits c)) = .ok c.toNat := by
  have hvis : ∀ d ∈ escapeDigits c, Text.IsVisibleAscii d := fun d hd => by
    obtain ⟨k, hk, rfl⟩ := mem_escapeDigits hd
    exact (upperHexDigit_facts k hk).2.2.2.1
  have hle : c.toNat ≤ 0xFFFFFFFF := by
    have := length_toDigits_hex_le c
    have := c.valid
    simp only [UInt32.isValidChar, Nat.isValidChar] at this
    simp only [Char.toNat]
    omega
  -- the first byte is a digit, so no sign is read
  obtain ⟨d, rest, hdr⟩ : ∃ d rest, escapeDigits c = d :: rest := by
    cases h : escapeDigits c with
    | nil => have := (length_escapeDigits c).1; rw [h] at this; simp at this
    | cons d rest => exact ⟨d, rest, rfl⟩
  obtain ⟨k, hk, hd⟩ := mem_escapeDigits (hdr ▸ List.mem_cons_self : d ∈ escapeDigits c)
  have hsign := upperHexDigit_facts k hk
  have hbytes : Text.utf8Bytes (String.ofList (escapeDigits c)) = charBytes (escapeDigits c) := by
    rw [Text.utf8Bytes, String.toList_ofList, Text.utf8OfChars_of_visible hvis]
    rfl
  have hcb : charBytes (escapeDigits c) = (upperHexDigit k).toNat.toUInt8 :: charBytes rest := by
    rw [hdr, hd]
    rfl
  have hacc : Number.accumulateUp 16 0xFFFFFFFF 0 (charBytes (escapeDigits c)) = .ok c.toNat := by
    rw [escapeDigits, charBytes, List.map_append, ← charBytes, ← charBytes, accumulateUp_zeros,
      accumulateUp_toDigits_hex hle]
  rw [Number.readNatural, hbytes, hcb,
    readIntegerBytes_unsigned hsign.2.2.2.2.2.1 hsign.2.2.2.2.2.2, ← hcb, hacc]
  rfl

/-! ## Decoding -/

/-- The body of an escape, followed by anything, is read as the character. -/
theorem escapeBody_escapeDigits (c : Char) (t : List Char) :
    escapeBody (escapeDigits c ++ '_' :: t) = some (c, (escapeDigits c).length) := by
  have hnone : (escapeDigits c).findIdx? (· = '_') = none := by
    rw [List.findIdx?_eq_none_iff]
    intro d hd
    obtain ⟨k, hk, rfl⟩ := mem_escapeDigits hd
    simpa using (upperHexDigit_facts k hk).2.1
  have hhex : (escapeDigits c).all isHexDigit = true := by
    rw [List.all_eq_true]
    intro d hd
    obtain ⟨k, hk, rfl⟩ := mem_escapeDigits hd
    exact (upperHexDigit_facts k hk).1
  have hlen := length_escapeDigits c
  have hfind : (escapeDigits c ++ '_' :: t).findIdx? (· = '_') = some (escapeDigits c).length := by
    simp [List.findIdx?_append, hnone, List.findIdx?_cons]
  unfold escapeBody
  rw [hfind]
  simp only [List.take_left', hhex, hlen.1, hlen.2, and_self, if_true,
    readNatural_escapeDigits]
  rw [if_pos (show c.toNat.isValidChar from c.valid), Char.ofNat_toNat]

theorem decodeChars_hexEscape (acc : List Char) (c : Char) (t : List Char) :
    decodeChars acc (hexEscape c ++ t) = decodeChars (c :: acc) t := by
  rw [hexEscape_eq, List.cons_append, List.cons_append, decodeChars, List.append_assoc,
    List.singleton_append, escapeBody_escapeDigits]
  simp [List.drop_append, List.drop_eq_nil_of_le (Nat.le_succ _)]

/-- A character that starts no `_x` is read as itself. -/
theorem decodeChars_plain {c : Char} {t : List Char} (h : ¬(c = '_' ∧ t.head? = some 'x'))
    (acc : List Char) : decodeChars acc (c :: t) = decodeChars (c :: acc) t := by
  rw [decodeChars]
  rintro rest rfl rfl
  exact h ⟨rfl, rfl⟩

/-! ## Encoding -/

/-- Whether the character `c`, the first of the name when `first`, followed by `rest`, is
written as it is: it may stand at its place, and it is no `_` before an `x`. -/
def Kept (first : Bool) (c : Char) (rest : List Char) : Prop :=
  (if first then isNameStart c else isNameChar c) = true ∧ ¬(c = '_' ∧ rest.head? = some 'x')

instance (first : Bool) (c : Char) (rest : List Char) : Decidable (Kept first c rest) :=
  inferInstanceAs (Decidable (_ ∧ _))

theorem encodeChars_cons (first : Bool) (c : Char) (rest : List Char) :
    encodeChars first (c :: rest) =
      (if Kept first c rest then [c] else hexEscape c) ++ encodeChars false rest := by
  simp [encodeChars, Kept, ← not_and_or]

theorem isNameChar_of_kept {first : Bool} {c : Char} {rest : List Char}
    (h : Kept first c rest) : isNameChar c = true := by
  cases first
  · simpa using h.1
  · simp [isNameChar, show isNameStart c = true by simpa using h.1]

/-- The escaped form of a list starts with an `x` only where the list does. -/
theorem head_encodeChars {first : Bool} {cs : List Char}
    (h : (encodeChars first cs).head? = some 'x') : cs.head? = some 'x' := by
  cases cs with
  | nil => simp [encodeChars] at h
  | cons c rest =>
    rw [encodeChars_cons] at h
    by_cases hk : Kept first c rest
    · simpa [hk] using h
    · simp [hk, hexEscape] at h

/-- Decoding the escaped form of a list gives the list back, after what was decoded before. -/
theorem decodeChars_encodeChars (first : Bool) (cs acc : List Char) :
    decodeChars acc (encodeChars first cs) = acc.reverse ++ cs := by
  induction cs generalizing first acc with
  | nil => simp [encodeChars, decodeChars]
  | cons c rest ih =>
    rw [encodeChars_cons]
    by_cases hk : Kept first c rest
    · -- a kept `_` is followed by no `x`, and so is its output
      have hplain : ¬(c = '_' ∧ (encodeChars false rest).head? = some 'x') :=
        fun h => hk.2 ⟨h.1, head_encodeChars h.2⟩
      rw [if_pos hk, List.singleton_append, decodeChars_plain hplain, ih]
      simp
    · rw [if_neg hk, decodeChars_hexEscape, ih]
      simp

theorem iso9075Decode_iso9075Encode (s : String) : iso9075Decode (iso9075Encode s) = s := by
  rw [iso9075Decode, iso9075Encode, String.toList_ofList, decodeChars_encodeChars]
  simp

/-! ## The escaped form is an XML name -/

theorem isNameChar_of_mem_hexEscape {c d : Char} (h : d ∈ hexEscape c) : isNameChar d = true := by
  rw [hexEscape_eq] at h
  simp only [List.mem_cons, List.mem_append, List.not_mem_nil, or_false] at h
  rcases h with rfl | rfl | h | rfl
  · exact escape_marks.2.1
  · exact escape_marks.2.2
  · obtain ⟨k, hk, rfl⟩ := mem_escapeDigits h
    exact (upperHexDigit_facts k hk).2.2.1
  · exact escape_marks.2.1

theorem isNameChar_of_mem_encodeChars {first : Bool} {cs : List Char} {d : Char}
    (h : d ∈ encodeChars first cs) : isNameChar d = true := by
  induction cs generalizing first with
  | nil => simp [encodeChars] at h
  | cons c rest ih =>
    rw [encodeChars_cons, List.mem_append] at h
    rcases h with h | h
    · by_cases hk : Kept first c rest
      · rw [if_pos hk, List.mem_singleton] at h
        exact h ▸ isNameChar_of_kept hk
      · rw [if_neg hk] at h
        exact isNameChar_of_mem_hexEscape h
    · exact ih h

/-- The escaped form of a non-empty name starts with a character that may start a name. -/
theorem head_encodeChars_true (c : Char) (rest : List Char) :
    ∃ d tail, encodeChars true (c :: rest) = d :: tail ∧ isNameStart d = true := by
  rw [encodeChars_cons]
  by_cases hk : Kept true c rest
  · exact ⟨c, _, by rw [if_pos hk]; rfl, by simpa using hk.1⟩
  · exact ⟨'_', _, by rw [if_neg hk, hexEscape_eq]; rfl, escape_marks.1⟩

theorem iso9075Encode_isName {s : String} (hs : s ≠ "") :
    (∃ c rest, (iso9075Encode s).toList = c :: rest ∧ isNameStart c = true) ∧
      ∀ d ∈ (iso9075Encode s).toList, isNameChar d = true := by
  rw [iso9075Encode, String.toList_ofList]
  refine ⟨?_, fun d hd => isNameChar_of_mem_encodeChars hd⟩
  cases h : s.toList with
  | nil => exact absurd (String.toList_eq_nil_iff.mp h) hs
  | cons c rest => exact head_encodeChars_true c rest

/-- ISO 9075 escaping is exactly inverted by decoding, and what it writes for a non-empty name
starts with a name-start character and holds only name characters. -/
theorem iso9075_escaping_inverted (s : String) :
    iso9075Decode (iso9075Encode s) = s ∧
      (s ≠ "" →
        (∃ c rest, (iso9075Encode s).toList = c :: rest ∧ isNameStart c = true) ∧
          ∀ d ∈ (iso9075Encode s).toList, isNameChar d = true) :=
  ⟨iso9075Decode_iso9075Encode s, iso9075Encode_isName⟩

/-- A name that starts with a digit and holds a space, a literal `_x` and a character beyond
U+FFFF, whose escape has five digits. -/
theorem digit_led_name_inverted :
    "1 _x😀" ≠ "" ∧ iso9075Decode (iso9075Encode "1 _x😀") = "1 _x😀" ∧
      ((∃ c rest, (iso9075Encode "1 _x😀").toList = c :: rest ∧ isNameStart c = true) ∧
        ∀ d ∈ (iso9075Encode "1 _x😀").toList, isNameChar d = true) :=
  ⟨by decide, (iso9075_escaping_inverted _).1, (iso9075_escaping_inverted _).2 (by decide)⟩

example : iso9075Encode "1 _x😀" = "_x0031__x0020__x005F_x_x1F600_" := by decide +kernel

end ContentSync.Name
