import ContentSync.Text.Utf8

/-!
# UTF-8 bytes read back

Decoding reads back what encoding writes (`decodeUtf8_utf8OfChars`): each character is written
in the shortest form for its code point, so its first byte names the length of the form, the
bytes after it are continuation bytes, and a three-byte form after `0xED` stays below the
surrogates because the character is no surrogate. Hence the text of the UTF-8 bytes of a text
is that text (`stringOfUtf8_utf8Bytes`).

The bytes of a character outside ASCII are all at least `0x80`
(`encodeChar_of_ascii`, `le_of_mem_encodeChar`), so a reader that looks for ASCII delimiters
passes over them.
-/

namespace ContentSync.Text

@[simp] theorem utf8OfChars_nil : utf8OfChars [] = [] := rfl

@[simp] theorem utf8OfChars_cons (c : Char) (cs : List Char) :
    utf8OfChars (c :: cs) = encodeChar c ++ utf8OfChars cs := rfl

@[simp] theorem utf8OfChars_append (cs ds : List Char) :
    utf8OfChars (cs ++ ds) = utf8OfChars cs ++ utf8OfChars ds := by
  simp [utf8OfChars]

@[simp] theorem utf8Bytes_append (s t : String) : utf8Bytes (s ++ t) = utf8Bytes s ++ utf8Bytes t := by
  simp [utf8Bytes, String.toList_append]

/-- The byte of a number below 256 has that number as its value. -/
theorem toNat_toUInt8_of_lt {k : Nat} (h : k < 256) : k.toUInt8.toNat = k := by
  simp [Nat.mod_eq_of_lt h]

theorem code_lt (c : Char) : c.toNat < 0x110000 := by
  have := (show c.toNat.isValidChar from c.valid)
  omega

/-- An ASCII character is written as its own byte. -/
theorem encodeChar_of_ascii {c : Char} (h : c.toNat < 0x80) : encodeChar c = [c.toNat.toUInt8] := by
  simp [encodeChar, h]

/-- Every byte of a character outside ASCII is at least `0x80`. -/
theorem le_of_mem_encodeChar {c : Char} (h : 0x80 ≤ c.toNat) {b : UInt8} (hb : b ∈ encodeChar c) :
    0x80 ≤ b.toNat := by
  have hc := code_lt c
  simp only [encodeChar, if_neg (show ¬c.toNat < 0x80 by omega)] at hb
  split at hb
  · simp only [List.mem_cons, List.not_mem_nil, or_false] at hb
    rcases hb with rfl | rfl <;> simp <;> omega
  · split at hb
    · simp only [List.mem_cons, List.not_mem_nil, or_false] at hb
      rcases hb with rfl | rfl | rfl <;> simp <;> omega
    · simp only [List.mem_cons, List.not_mem_nil, or_false] at hb
      rcases hb with rfl | rfl | rfl | rfl <;> simp <;> omega


/-! ## Decoding one form -/

section Forms

variable {index : Nat} {b0 b1 b2 b3 : UInt8} {rest : List UInt8}

theorem decodeUtf8From_one (h0 : b0.toNat < 0x80) :
    decodeUtf8From index (b0 :: rest) =
      (decodeUtf8From (index + 1) rest).map (Char.ofNat b0.toNat :: ·) := by
  rw [decodeUtf8From.eq_def]
  dsimp only
  rw [if_pos (UInt8.lt_iff_toNat_lt.mpr h0)]

theorem decodeUtf8From_two (h0 : 0xC2 ≤ b0.toNat ∧ b0.toNat ≤ 0xDF)
    (h1 : isContinuation b1 = true) :
    decodeUtf8From index (b0 :: b1 :: rest) =
      (decodeUtf8From (index + 2) rest).map
        (Char.ofNat ((b0.toNat % 32) * 64 + payload b1) :: ·) := by
  rw [decodeUtf8From.eq_def]
  dsimp only
  rw [if_neg (by rw [UInt8.lt_iff_toNat_lt]; simp; omega),
    if_pos (by simp only [UInt8.le_iff_toNat_le]; simp; omega), if_pos h1]

theorem decodeUtf8From_three (h0 : 0xE0 ≤ b0.toNat ∧ b0.toNat ≤ 0xEF)
    (h1 : threeByteStart b0 b1 = true) (h2 : isContinuation b2 = true) :
    decodeUtf8From index (b0 :: b1 :: b2 :: rest) =
      (decodeUtf8From (index + 3) rest).map
        (Char.ofNat ((b0.toNat % 16) * 4096 + payload b1 * 64 + payload b2) :: ·) := by
  rw [decodeUtf8From.eq_def]
  dsimp only
  rw [if_neg (by rw [UInt8.lt_iff_toNat_lt]; simp; omega),
    if_neg (by simp only [UInt8.le_iff_toNat_le]; simp; omega),
    if_pos (by simp only [UInt8.le_iff_toNat_le]; simp; omega), if_pos h1, if_pos h2]

theorem decodeUtf8From_four (h0 : 0xF0 ≤ b0.toNat ∧ b0.toNat ≤ 0xF4)
    (h1 : fourByteStart b0 b1 = true) (h2 : isContinuation b2 = true)
    (h3 : isContinuation b3 = true) :
    decodeUtf8From index (b0 :: b1 :: b2 :: b3 :: rest) =
      (decodeUtf8From (index + 4) rest).map
        (Char.ofNat ((b0.toNat % 8) * 262144 + payload b1 * 4096 + payload b2 * 64 +
          payload b3) :: ·) := by
  rw [decodeUtf8From.eq_def]
  dsimp only
  rw [if_neg (by rw [UInt8.lt_iff_toNat_lt]; simp; omega),
    if_neg (by simp only [UInt8.le_iff_toNat_le]; simp; omega),
    if_neg (by simp only [UInt8.le_iff_toNat_le]; simp; omega),
    if_pos (by simp only [UInt8.le_iff_toNat_le]; simp; omega), if_pos h1, if_pos h2, if_pos h3]

end Forms

/-- A continuation byte carries the six bits put in it. -/
theorem continuation_mod (k : Nat) : (0x80 + k % 64) % 64 = k % 64 := by
  omega

/-- Decoding reads a character's own form back and goes on after it. -/
theorem decodeUtf8From_encodeChar (index : Nat) (c : Char) (rest : List UInt8) :
    decodeUtf8From index (encodeChar c ++ rest) =
      (decodeUtf8From (index + (encodeChar c).length) rest).map (c :: ·) := by
  have hc := code_lt c
  have hv : c.toNat.isValidChar := c.valid
  by_cases h1 : c.toNat < 0x80
  · have hb0 := toNat_toUInt8_of_lt (show c.toNat < 256 by omega)
    rw [encodeChar_of_ascii h1, List.singleton_append, decodeUtf8From_one (by rw [hb0]; exact h1),
      hb0, Char.ofNat_toNat]
    rfl
  by_cases h2 : c.toNat < 0x800
  · have hb0 := toNat_toUInt8_of_lt (show 0xC0 + c.toNat / 64 < 256 by omega)
    have hb1 := toNat_toUInt8_of_lt (show 0x80 + c.toNat % 64 < 256 by omega)
    simp only [encodeChar, if_neg h1, if_pos h2, List.cons_append, List.nil_append]
    rw [decodeUtf8From_two (by rw [hb0]; omega)
      (by simp [isContinuation, UInt8.le_iff_toNat_le]; omega), payload, hb0, hb1]
    have hcode : (0xC0 + c.toNat / 64) % 32 * 64 + (0x80 + c.toNat % 64) % 64 = c.toNat := by
      omega
    rw [hcode, Char.ofNat_toNat]
    rfl
  by_cases h3 : c.toNat < 0x10000
  · have hb0 := toNat_toUInt8_of_lt (show 0xE0 + c.toNat / 4096 < 256 by omega)
    have hb1 := toNat_toUInt8_of_lt (show 0x80 + c.toNat / 64 % 64 < 256 by omega)
    have hb2 := toNat_toUInt8_of_lt (show 0x80 + c.toNat % 64 < 256 by omega)
    simp only [encodeChar, if_neg h1, if_neg h2, if_pos h3, List.cons_append, List.nil_append]
    -- below `0xED` the second byte may be any continuation, after it it stays below the surrogates
    rw [decodeUtf8From_three (by rw [hb0]; omega)
      (by simp [threeByteStart, isContinuation, UInt8.le_iff_toNat_le, ← UInt8.toNat_inj]; omega)
      (by simp [isContinuation, UInt8.le_iff_toNat_le]; omega), payload, payload, hb0, hb1, hb2,
      continuation_mod, continuation_mod]
    have hcode : (0xE0 + c.toNat / 4096) % 16 * 4096 + c.toNat / 64 % 64 * 64 + c.toNat % 64 =
        c.toNat := by
      omega
    rw [hcode, Char.ofNat_toNat]
    rfl
  · have hb0 := toNat_toUInt8_of_lt (show 0xF0 + c.toNat / 262144 < 256 by omega)
    have hb1 := toNat_toUInt8_of_lt (show 0x80 + c.toNat / 4096 % 64 < 256 by omega)
    have hb2 := toNat_toUInt8_of_lt (show 0x80 + c.toNat / 64 % 64 < 256 by omega)
    have hb3 := toNat_toUInt8_of_lt (show 0x80 + c.toNat % 64 < 256 by omega)
    simp only [encodeChar, if_neg h1, if_neg h2, if_neg h3, List.cons_append, List.nil_append]
    rw [decodeUtf8From_four (by rw [hb0]; omega)
      (by simp [fourByteStart, isContinuation, UInt8.le_iff_toNat_le, ← UInt8.toNat_inj]; omega)
      (by simp [isContinuation, UInt8.le_iff_toNat_le]; omega)
      (by simp [isContinuation, UInt8.le_iff_toNat_le]; omega), payload, payload, payload,
      hb0, hb1, hb2, hb3, continuation_mod, continuation_mod, continuation_mod]
    have hcode : (0xF0 + c.toNat / 262144) % 8 * 262144 + c.toNat / 4096 % 64 * 4096 +
        c.toNat / 64 % 64 * 64 + c.toNat % 64 = c.toNat := by
      omega
    rw [hcode, Char.ofNat_toNat]
    rfl

/-- Decoding reads the bytes of characters back as those characters. -/
theorem decodeUtf8From_utf8OfChars (index : Nat) (cs : List Char) :
    decodeUtf8From index (utf8OfChars cs) = .ok cs := by
  induction cs generalizing index with
  | nil =>
    rw [utf8OfChars_nil, decodeUtf8From.eq_def]
  | cons c cs ih =>
    rw [utf8OfChars_cons, decodeUtf8From_encodeChar, ih]
    rfl

theorem decodeUtf8_utf8OfChars (cs : List Char) : decodeUtf8 (utf8OfChars cs) = .ok cs :=
  decodeUtf8From_utf8OfChars 0 cs

/-- The text of the UTF-8 bytes of a text is that text. -/
theorem stringOfUtf8_utf8Bytes (s : String) : stringOfUtf8? (utf8Bytes s) = some s := by
  rw [stringOfUtf8?, utf8Bytes, decodeUtf8_utf8OfChars]
  exact congrArg some String.ofList_toList

end ContentSync.Text
