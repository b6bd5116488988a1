import ContentSync.Json.Decode
import ContentSync.Proofs.Utf8Text
import ContentSync.Proofs.ExceptRun
import ContentSync.Proofs.IntegerText

/-!
# Pretty JSON read back

Reading the pretty text of a JSON value gives the value back (`readDocument_pretty`), for every
value whose numbers are unsigned integers below `2 ^ 64` and whose containers nest less deeply
than the reader allows (`Json.readableWithin`). The text is read byte by byte: blanks are line
breaks and the indent of two spaces per level, a string is read back escape by escape and its
bytes decoded as UTF-8, a number digit by digit. Arrays and objects are read item by item; the
text that follows the opening bracket (`itemsTail`, `membersTail`) is each item on a line of its
own, after a comma unless it is the first, and the closing bracket on a line of its own.

The reader spends one unit of fuel on every value, item and member it goes on to read. The
proof is an induction on the fuel (`readsBack`): a text reads back with any fuel at least its
length in bytes, and a document is read with twice as much.
-/

namespace ContentSync.JsonText

open Text

/-! ## Bytes of text -/

theorem utf8Bytes_indent (level : Nat) : utf8Bytes (indent level) = List.replicate (2 * level) 32 := by
  rw [indent, utf8Bytes, String.toList_ofList]
  induction 2 * level with
  | zero => rfl
  | succ k ih => rw [List.replicate_succ, utf8OfChars_cons, ih]; rfl

/-! ## Blanks -/

theorem skipBlanksFrom_append {bs : List UInt8} (h : ∀ b ∈ bs, isBlank b = true)
    (rest : List UInt8) (index : Nat) :
    skipBlanksFrom (bs ++ rest) index = skipBlanksFrom rest (index + bs.length) := by
  induction bs generalizing index with
  | nil => rfl
  | cons b bs ih =>
    rw [List.cons_append, skipBlanksFrom, if_pos (h b List.mem_cons_self),
      ih (fun x hx => h x (List.mem_cons_of_mem b hx))]
    simp only [List.length_cons]
    congr 1
    omega

theorem skipBlanksFrom_of_not_blank {b : UInt8} (h : isBlank b = false) (rest : List UInt8)
    (index : Nat) : skipBlanksFrom (b :: rest) index = ⟨b :: rest, index⟩ := by
  rw [skipBlanksFrom, if_neg (by rw [h]; exact Bool.false_ne_true)]

/-- A line break and an indent are blanks. -/
theorem blank_break (level : Nat) : ∀ b ∈ utf8Bytes ("\n" ++ indent level), isBlank b = true := by
  intro b hb
  rw [utf8Bytes_append, utf8Bytes_indent] at hb
  rcases List.mem_append.mp hb with hb | hb
  · rw [show utf8Bytes "\n" = [10] from rfl, List.mem_singleton] at hb
    rw [hb]
    rfl
  · rw [List.eq_of_mem_replicate hb]
    rfl

theorem skipBlanksFrom_break (level : Nat) (rest : List UInt8) (index : Nat) :
    skipBlanksFrom (utf8Bytes ("\n" ++ indent level) ++ rest) index =
      skipBlanksFrom rest (index + (utf8Bytes ("\n" ++ indent level)).length) :=
  skipBlanksFrom_append (blank_break level) rest index

/-! ## Strings -/

/-- The bytes of characters in their escaped form, as a string literal holds them. -/
def escapedBytes (cs : List Char) : List UInt8 :=
  utf8OfChars (cs.flatMap escapeChar)

theorem escapedBytes_cons (c : Char) (cs : List Char) :
    escapedBytes (c :: cs) = utf8OfChars (escapeChar c) ++ escapedBytes cs := by
  simp [escapedBytes]

theorem utf8Bytes_quote (s : String) :
    utf8Bytes (quote s) = 34 :: (escapedBytes s.toList ++ [34]) := by
  rw [quote, utf8Bytes, String.toList_ofList, List.cons_append, utf8OfChars_cons,
    utf8OfChars_append, escapedBytes]
  rfl

/-- Bytes that are neither a quote nor a backslash nor a control are taken as they are. -/
theorem readStringBody_plain {bs : List UInt8}
    (h : ∀ b ∈ bs, b ≠ 34 ∧ b ≠ 92 ∧ 0x20 ≤ b.toNat) (fuel : Nat) (acc rest : List UInt8)
    (index : Nat) :
    readStringBody (fuel + bs.length) acc ⟨bs ++ rest, index⟩ =
      readStringBody fuel (bs.reverse ++ acc) ⟨rest, index + bs.length⟩ := by
  induction bs generalizing acc index with
  | nil => rfl
  | cons b bs ih =>
    obtain ⟨h34, h92, hctl⟩ := h b List.mem_cons_self
    rw [List.length_cons, ← Nat.add_assoc, List.cons_append, readStringBody]
    dsimp only
    rw [if_neg (show ¬b = byteOf '"' from h34), if_neg (show ¬b = byteOf '\\' from h92),
      if_neg (by rw [UInt8.lt_iff_toNat_lt]; simp; omega)]
    rw [show Cursor.advance ⟨b :: (bs ++ rest), index⟩ = ⟨bs ++ rest, index + 1⟩ from rfl,
      ih (fun x hx => h x (List.mem_cons_of_mem b hx))]
    simp only [List.reverse_cons, List.append_assoc, List.singleton_append]
    congr 2
    omega

/-- The hex digit of a value below 16 in a `\u` escape. -/
def lowerHexDigit (k : Nat) : Char :=
  if k < 10 then Char.ofNat (48 + k) else Char.ofNat (87 + k)

theorem lowerHexDigit_facts : ∀ k < 16,
    (lowerHexDigit k).toNat < 0x80 ∧ hexValue (lowerHexDigit k).toNat.toUInt8 = some k := by
  decide

theorem readUnicodeEscape_basic {a b d e : UInt8} {n : Nat} (hq : hexQuad a b d e = some n)
    (hn : n < 0xD800) (more : List UInt8) (index : Nat) :
    readUnicodeEscape ⟨a :: b :: d :: e :: more, index⟩ =
      .ok (encodeChar (Char.ofNat n), ⟨more, index + 4⟩) := by
  unfold readUnicodeEscape readHexQuad
  simp only [hq, ContentSync.Except.ok_bind]
  rw [if_neg (by omega), if_pos (Or.inl hn)]
  rfl

/-- A `\u` escape of a character below the surrogates is read as the character's bytes. -/
theorem readStringBody_unicode {a b d e : UInt8} {n : Nat} (hq : hexQuad a b d e = some n)
    (hn : n < 0xD800) (fuel : Nat) (acc rest : List UInt8) (index : Nat) :
    readStringBody (fuel + 1) acc ⟨92 :: 117 :: a :: b :: d :: e :: rest, index⟩ =
      readStringBody fuel ((encodeChar (Char.ofNat n)).reverse ++ acc) ⟨rest, index + 6⟩ := by
  rw [readStringBody]
  dsimp only [Cursor.advance]
  rw [if_neg (by decide), if_pos (show (92 : UInt8) = byteOf '\\' from rfl),
    if_pos (show (117 : UInt8) = byteOf 'u' from rfl), readUnicodeEscape_basic hq hn]

/-- The bytes of a character outside the escapes are taken as they are. -/
theorem plain_bytes {c : Char} (h34 : c ≠ '"') (h92 : c ≠ '\\') (hctl : 0x20 ≤ c.toNat) :
    ∀ b ∈ encodeChar c, b ≠ 34 ∧ b ≠ 92 ∧ 0x20 ≤ b.toNat := by
  intro b hb
  have hne {k : UInt8} (hk : b.toNat ≠ k.toNat) : b ≠ k := fun e => hk (by rw [e])
  by_cases hascii : c.toNat < 0x80
  · rw [encodeChar_of_ascii hascii, List.mem_singleton] at hb
    have hval : b.toNat = c.toNat := by rw [hb]; exact toNat_toUInt8_of_lt (by omega)
    have h34' : c.toNat ≠ 34 := fun e => h34 (by rw [← Char.ofNat_toNat c, e])
    have h92' : c.toNat ≠ 92 := fun e => h92 (by rw [← Char.ofNat_toNat c, e])
    exact ⟨hne (by simp; omega), hne (by simp; omega), by omega⟩
  · have := le_of_mem_encodeChar (by omega) hb
    exact ⟨hne (by simp; omega), hne (by simp; omega), by omega⟩

/-- Reading the escaped form of a character gives the character's bytes, in at most as many
steps as the form has bytes. -/
theorem readStringBody_escapeChar (c : Char) :
    ∃ k ≤ (utf8OfChars (escapeChar c)).length, ∀ (fuel : Nat) (acc rest : List UInt8) (index : Nat),
      readStringBody (fuel + k) acc ⟨utf8OfChars (escapeChar c) ++ rest, index⟩ =
        readStringBody fuel ((encodeChar c).reverse ++ acc)
          ⟨rest, index + (utf8OfChars (escapeChar c)).length⟩ := by
  unfold escapeChar
  split
  · exact ⟨1, by decide, fun _ _ _ _ => rfl⟩
  · exact ⟨1, by decide, fun _ _ _ _ => rfl⟩
  · exact ⟨1, by decide, fun _ _ _ _ => rfl⟩
  · exact ⟨1, by decide, fun _ _ _ _ => rfl⟩
  · exact ⟨1, by decide, fun _ _ _ _ => rfl⟩
  · next h34 h92 _ _ _ =>
    by_cases h8 : c.toNat = 8
    · rw [if_pos h8]
      rw [show c = Char.ofNat 8 by rw [← h8, Char.ofNat_toNat]]
      exact ⟨1, by decide, fun _ _ _ _ => rfl⟩
    rw [if_neg h8]
    by_cases h12 : c.toNat = 12
    · rw [if_pos h12]
      rw [show c = Char.ofNat 12 by rw [← h12, Char.ofNat_toNat]]
      exact ⟨1, by decide, fun _ _ _ _ => rfl⟩
    rw [if_neg h12]
    by_cases hctl : c.toNat < 0x20
    · -- the `\u00XY` escape, read back as the character's code
      rw [if_pos hctl]
      obtain ⟨hd1, hv1⟩ := lowerHexDigit_facts (c.toNat / 16) (by omega)
      obtain ⟨hd2, hv2⟩ := lowerHexDigit_facts (c.toNat % 16) (by omega)
      have hbytes : utf8OfChars ['\\', 'u', '0', '0', lowerHexDigit (c.toNat / 16),
          lowerHexDigit (c.toNat % 16)] = 92 :: 117 :: 48 :: 48 ::
            (lowerHexDigit (c.toNat / 16)).toNat.toUInt8 ::
              [(lowerHexDigit (c.toNat % 16)).toNat.toUInt8] := by
        simp only [utf8OfChars_cons, utf8OfChars_nil, encodeChar_of_ascii hd1,
          encodeChar_of_ascii hd2]
        rfl
      have hq : hexQuad 48 48 (lowerHexDigit (c.toNat / 16)).toNat.toUInt8
          (lowerHexDigit (c.toNat % 16)).toNat.toUInt8 = some c.toNat := by
        simp only [hexQuad, hv1, hv2]
        show some (((0 * 16 + 0) * 16 + c.toNat / 16) * 16 + c.toNat % 16) = some c.toNat
        congr 1
        omega
      dsimp only
      have hdigit : ∀ k, (if k < 10 then Char.ofNat (48 + k) else Char.ofNat (87 + k)) =
          lowerHexDigit k := fun _ => rfl
      rw [hdigit, hdigit, hbytes]
      refine ⟨1, by simp, fun fuel acc rest index => ?_⟩
      rw [List.cons_append, List.cons_append, List.cons_append, List.cons_append, List.cons_append,
        List.singleton_append, readStringBody_unicode hq (by omega), Char.ofNat_toNat]
      rfl
    · rw [if_neg hctl, utf8OfChars_cons, utf8OfChars_nil, List.append_nil]
      refine ⟨(encodeChar c).length, Nat.le_refl _, fun fuel acc rest index => ?_⟩
      rw [readStringBody_plain (plain_bytes (fun e => h34 e) (fun e => ‹c = '\\' → False› e)
        (by omega))]

/-- Reading the escaped form of characters up to the closing quote gives their bytes, when the
fuel exceeds the bytes left. -/
theorem readStringBody_escaped (cs : List Char) :
    ∀ (fuel : Nat) (acc rest : List UInt8) (index : Nat), (escapedBytes cs).length < fuel →
      readStringBody fuel acc ⟨escapedBytes cs ++ 34 :: rest, index⟩ =
        .ok (acc.reverse ++ utf8OfChars cs, ⟨rest, index + (escapedBytes cs).length + 1⟩) := by
  induction cs with
  | nil =>
    intro fuel acc rest index hfuel
    obtain ⟨fuel, rfl⟩ : ∃ f, fuel = f + 1 := ⟨fuel - 1, by simp [escapedBytes] at hfuel; omega⟩
    simp [escapedBytes, readStringBody, Cursor.advance, byteOf]
  | cons c cs ih =>
    intro fuel acc rest index hfuel
    rw [escapedBytes_cons, List.length_append] at hfuel
    obtain ⟨k, hk, hstep⟩ := readStringBody_escapeChar c
    have hread := hstep (fuel - k) acc (escapedBytes cs ++ 34 :: rest) index
    rw [Nat.sub_add_cancel (by omega)] at hread
    rw [escapedBytes_cons, List.append_assoc, hread, ih (fuel - k) _ rest _ (by omega)]
    simp only [List.reverse_append, List.reverse_reverse, utf8OfChars_cons, List.append_assoc,
      List.length_append]
    congr 3
    omega

/-- Reading a string literal gives the string back. -/
theorem readString_quote (s : String) (rest : List UInt8) (index : Nat) :
    readString ⟨utf8Bytes (quote s) ++ rest, index⟩ =
      .ok (s, ⟨rest, index + (utf8Bytes (quote s)).length⟩) := by
  rw [readString, utf8Bytes_quote]
  simp only [List.cons_append, List.append_assoc, List.nil_append, Cursor.advance]
  rw [readStringBody_escaped s.toList _ [] rest (index + 1) (by simp; omega)]
  rw [ContentSync.Except.ok_bind]
  simp only [List.reverse_nil, List.nil_append]
  rw [← utf8Bytes, stringOfUtf8_utf8Bytes]
  simp only [List.length_cons, List.length_append, List.length_nil]
  congr 3
  omega

/-! ## Numbers -/

/-- The bytes that may follow a value in pretty text: a comma, a line break, or nothing. -/
def Follows (rest : List UInt8) : Prop :=
  ∀ b ∈ rest.head?, b = 44 ∨ b = 10

theorem isDigitByte_of_follows {rest : List UInt8} (h : Follows rest) :
    ∀ b ∈ rest.head?, isDigitByte b = false ∧ b ≠ byteOf '.' ∧ b ≠ byteOf 'e' ∧ b ≠ byteOf 'E' := by
  intro b hb
  rcases h b hb with rfl | rfl <;> decide

/-- The leading digit of a positive number is not zero. -/
theorem toDigits_head_ne_zero : ∀ n, 0 < n → ∃ c cs, Nat.toDigits 10 n = c :: cs ∧ c ≠ '0' := by
  intro n
  induction n using Nat.strong_induction_on with
  | _ n ih =>
    intro hn
    by_cases hsmall : n < 10
    · refine ⟨Nat.digitChar n, [], Nat.toDigits_of_lt_base hsmall, ?_⟩
      interval_cases n <;> decide
    · -- the digits of `n` are those of `n / 10` followed by the last one
      obtain ⟨c, cs, hcs, hc⟩ := ih (n / 10) (by omega) (by omega)
      have hsplit := Nat.toDigits_append_toDigits (b := 10) (n := n / 10) (d := n % 10)
        (by decide) (by omega) (Nat.mod_lt _ (by decide))
      rw [Nat.div_add_mod, hcs, List.cons_append] at hsplit
      exact ⟨c, _, hsplit.symm, hc⟩

theorem isDigitByte_of_isDigit {c : Char} (hc : c.isDigit = true) :
    isDigitByte c.toNat.toUInt8 = true ∧ c.toNat.toUInt8.toNat = c.toNat := by
  have ⟨h₁, h₂⟩ := Number.digit_bounds hc
  have hb : c.toNat.toUInt8.toNat = c.toNat := toNat_toUInt8_of_lt (by omega)
  refine ⟨?_, hb⟩
  simp only [isDigitByte, Bool.and_eq_true, decide_eq_true_eq, UInt8.le_iff_toNat_le, hb]
  exact ⟨h₁, h₂⟩

/-- Taking digits reads their decimal value and stops at the first byte that is not one. -/
theorem takeDigits_digits {rest : List UInt8} (hrest : ∀ b ∈ rest.head?, isDigitByte b = false) :
    ∀ (ds : List Char), (∀ c ∈ ds, c.isDigit = true) → ∀ (index value count : Nat),
      takeDigits (ds.map (·.toNat.toUInt8) ++ rest) index value count =
        (Nat.ofDigitChars 10 ds value, count + ds.length, ⟨rest, index + ds.length⟩)
  | [], _, index, value, count => by
    cases rest with
    | nil => rfl
    | cons b more =>
      rw [List.map_nil, List.nil_append, takeDigits, if_neg (by rw [hrest b rfl]; decide)]
      rfl
  | c :: ds, hds, index, value, count => by
    obtain ⟨hdig, hval⟩ := isDigitByte_of_isDigit (hds c List.mem_cons_self)
    rw [List.map_cons, List.cons_append, takeDigits, if_pos hdig,
      takeDigits_digits hrest ds (fun d hd => hds d (List.mem_cons_of_mem c hd)), hval,
      Nat.ofDigitChars_cons]
    rw [List.length_cons, show '0'.toNat = 48 from rfl, Nat.mul_comm 10 value,
      show count + 1 + ds.length = count + (ds.length + 1) by omega,
      show index + 1 + ds.length = index + (ds.length + 1) by omega]

/-- A number led by a digit other than zero is read as far as its digits go. -/
theorem readNumber_digits {b : UInt8} {more : List UInt8} {index : Nat}
    (hd : isDigitByte b = true) (h0 : b ≠ byteOf '0') {whole count : Nat} {rest : List UInt8}
    {i : Nat} (ht : takeDigits (b :: more) index 0 0 = (whole, count, ⟨rest, i⟩))
    (hafter : ∀ x ∈ rest.head?, x ≠ byteOf '.' ∧ x ≠ byteOf 'e' ∧ x ≠ byteOf 'E') :
    readNumber ⟨b :: more, index⟩ = .ok (integerNumber false whole, ⟨rest, i⟩) := by
  have hsign : (some b = some (byteOf '-')) = False := by
    apply propext
    constructor
    · intro h
      cases h
      exact absurd hd (by decide)
    · exact False.elim
  cases rest with
  | nil =>
    simp [readNumber, Cursor.peek?, hsign, hd, h0, ht]
    rfl
  | cons x xs =>
    obtain ⟨hdot, he, hE⟩ := hafter x rfl
    simp [readNumber, Cursor.peek?, hsign, hd, h0, ht, hdot, he, hE]
    rfl

/-- A number that is a lone zero is read as zero. -/
theorem readNumber_zero {more : List UInt8} {index : Nat}
    (hmore : ∀ x ∈ more.head?,
      isDigitByte x = false ∧ x ≠ byteOf '.' ∧ x ≠ byteOf 'e' ∧ x ≠ byteOf 'E') :
    readNumber ⟨48 :: more, index⟩ = .ok (integerNumber false 0, ⟨more, index + 1⟩) := by
  cases more with
  | nil =>
    simp [readNumber, Cursor.peek?, Cursor.advance]
    rfl
  | cons x xs =>
    obtain ⟨hx, hdot, he, hE⟩ := hmore x rfl
    have hsign : (48 : UInt8) ≠ byteOf '-' := by decide
    have hzero : (48 : UInt8) = byteOf '0' := rfl
    simp [readNumber, Cursor.peek?, Cursor.advance, hsign, ← hzero, hx, hdot, he, hE]
    rfl

theorem integerNumber_natural {n : Nat} (hn : n < 2 ^ 64) : integerNumber false n = .natural n := by
  rw [integerNumber, if_neg Bool.false_ne_true, if_pos (show n < Nat.pow 2 64 from hn)]

/-- Reading the decimal text of an unsigned integer below `2 ^ 64` gives it back. -/
theorem readNumber_natural {n : Nat} (hn : n < 2 ^ 64) {rest : List UInt8} (hrest : Follows rest)
    (index : Nat) :
    readNumber ⟨utf8Bytes (toString n) ++ rest, index⟩ =
      .ok (.natural n, ⟨rest, index + (utf8Bytes (toString n)).length⟩) := by
  have hstop := isDigitByte_of_follows hrest
  rw [show toString n = Nat.repr n from rfl, Number.utf8Bytes_repr, ← integerNumber_natural hn]
  rcases Nat.eq_zero_or_pos n with rfl | hpos
  · exact readNumber_zero hstop
  · have hdigits : ∀ d ∈ Nat.toDigits 10 n, d.isDigit = true := fun d hd =>
      Nat.isDigit_of_mem_toDigits (by decide) (by decide) hd
    have ht := takeDigits_digits (fun b hb => (hstop b hb).1) _ hdigits index 0 0
    rw [Nat.ofDigitChars_ten_toDigits] at ht
    obtain ⟨c, cs, hcs, hc⟩ := toDigits_head_ne_zero n hpos
    obtain ⟨hdig, hval⟩ := isDigitByte_of_isDigit (hdigits c (by rw [hcs]; exact List.mem_cons_self))
    have h0 : c.toNat.toUInt8 ≠ byteOf '0' := fun e =>
      hc (by rw [← Char.ofNat_toNat c, ← hval, e]; rfl)
    rw [hcs, List.map_cons, List.cons_append] at ht ⊢
    rw [readNumber_digits hdig h0 ht (fun x hx => (hstop x hx).2), List.length_cons, List.length_cons,
      List.length_map]

/-! ## Pretty text as items and members -/

/-- The text of array items after the opening bracket, up to and with the closing one: each item
on a line of its own at `level + 1`, after a comma unless it is the first. -/
def itemsTail (level : Nat) : Bool → List Json → String
  | _, [] => "\n" ++ indent level ++ "]"
  | first, j :: js =>
    (if first then "" else ",") ++ "\n" ++ indent (level + 1) ++ j.prettyAt (level + 1) ++
      itemsTail level false js

/-- The text of object members after the opening brace, up to and with the closing one. -/
def membersTail (level : Nat) : Bool → List (String × Json) → String
  | _, [] => "\n" ++ indent level ++ "\x7d"
  | first, (k, v) :: ms =>
    (if first then "" else ",") ++ "\n" ++ indent (level + 1) ++ quote k ++ ": " ++
      v.prettyAt (level + 1) ++ membersTail level false ms

theorem prettyItems_append_close (level : Nat) (j : Json) (js : List Json) :
    prettyItems (level + 1) (j :: js) ++ ("\n" ++ (indent level ++ "]")) =
      indent (level + 1) ++ j.prettyAt (level + 1) ++ itemsTail level false js := by
  induction js generalizing j with
  | nil => simp only [prettyItems, itemsTail, String.append_assoc]
  | cons j' js ih =>
    rw [prettyItems.eq_3 _ j (j' :: js) (List.cons_ne_nil j' js), String.append_assoc, ih, itemsTail]
    simp only [String.append_assoc, if_false, Bool.false_eq_true]
    rfl

theorem prettyAt_array_cons (level : Nat) (j : Json) (js : List Json) :
    (Json.array (j :: js)).prettyAt level = "[" ++ itemsTail level true (j :: js) := by
  rw [Json.prettyAt.eq_3 _ _ (List.cons_ne_nil j js), String.append_assoc, String.append_assoc,
    String.append_assoc, prettyItems_append_close, itemsTail]
  simp only [String.append_assoc, if_true]
  rfl

theorem prettyMembers_append_close (level : Nat) (k : String) (v : Json)
    (ms : List (String × Json)) :
    prettyMembers (level + 1) ((k, v) :: ms) ++ ("\n" ++ (indent level ++ "\x7d")) =
      indent (level + 1) ++ quote k ++ ": " ++ v.prettyAt (level + 1) ++ membersTail level false ms := by
  induction ms generalizing k v with
  | nil => simp only [prettyMembers, membersTail, String.append_assoc]
  | cons m ms ih =>
    obtain ⟨k', v'⟩ := m
    rw [prettyMembers.eq_3 _ k v ((k', v') :: ms) (List.cons_ne_nil _ ms), String.append_assoc, ih, membersTail]
    simp only [String.append_assoc, if_false, Bool.false_eq_true]
    rfl

theorem prettyAt_object_cons (level : Nat) (m : String × Json) (ms : List (String × Json)) :
    (Json.object (m :: ms)).prettyAt level = "\x7b" ++ membersTail level true (m :: ms) := by
  obtain ⟨k, v⟩ := m
  rw [Json.prettyAt.eq_4 _ _ (List.cons_ne_nil _ ms), String.append_assoc, String.append_assoc,
    String.append_assoc, prettyMembers_append_close, membersTail]
  simp only [String.append_assoc, if_true]
  rfl
mutual
/-- Whether a value reads back from its text when the reader allows `depth` levels of nesting:
its containers nest less deeply, and its numbers are unsigned integers below `2 ^ 64`. -/
def Json.readableWithin : Nat → Json → Bool
  | _, .number (.natural n) => decide (n < 2 ^ 64)
  | _, .number _ => false
  | depth, .array items => decide (1 < depth) && itemsReadableWithin (depth - 1) items
  | depth, .object members => decide (1 < depth) && membersReadableWithin (depth - 1) members
  | _, _ => true

/-- Whether array items read back within `depth` levels of nesting. -/
def itemsReadableWithin (depth : Nat) : List Json → Bool
  | [] => true
  | j :: js => j.readableWithin depth && itemsReadableWithin depth js

/-- Whether object member values read back within `depth` levels of nesting. -/
def membersReadableWithin (depth : Nat) : List (String × Json) → Bool
  | [] => true
  | (_, v) :: ms => v.readableWithin depth && membersReadableWithin depth ms
end

/-! ## Reading starts where blanks end -/

theorem readValue_congr {fuel depth : Nat} {c d : Cursor} (h : c.skipBlanks = d.skipBlanks) :
    readValue (fuel + 1) depth c = readValue (fuel + 1) depth d := by
  rw [readValue.eq_2, readValue.eq_2, h]

theorem readItems_congr {fuel depth : Nat} {first : Bool} {c d : Cursor}
    (h : c.skipBlanks = d.skipBlanks) :
    readItems (fuel + 1) depth first c = readItems (fuel + 1) depth first d := by
  rw [readItems.eq_2, readItems.eq_2, h]

theorem readMembers_congr {fuel depth : Nat} {first : Bool} {c d : Cursor}
    (h : c.skipBlanks = d.skipBlanks) :
    readMembers (fuel + 1) depth first c = readMembers (fuel + 1) depth first d := by
  rw [readMembers.eq_2, readMembers.eq_2, h]

theorem skipBlanks_of_not_blank {b : UInt8} (h : isBlank b = false) (more : List UInt8)
    (index : Nat) : Cursor.skipBlanks ⟨b :: more, index⟩ = ⟨b :: more, index⟩ :=
  skipBlanksFrom_of_not_blank h more index

theorem digit_not_blank {b : UInt8} (h : isDigitByte b = true) :
    isBlank b = false ∧ b ≠ 93 ∧ b ≠ 44 ∧ b ≠ byteOf 'n' ∧ b ≠ byteOf 't' ∧ b ≠ byteOf 'f' := by
  rw [show byteOf 'n' = 110 from rfl, show byteOf 't' = 116 from rfl, show byteOf 'f' = 102 from rfl]
  simp only [isDigitByte, Bool.and_eq_true, decide_eq_true_eq, UInt8.le_iff_toNat_le] at h
  simp only [isBlank, Bool.or_eq_false_iff, decide_eq_false_iff_not, ne_eq, UInt8.ext_iff]
  simp only [UInt8.toNat_ofNat] at h ⊢
  omega

/-- The text of a readable value starts with a byte that is no blank, no comma and no closing
bracket. -/
theorem prettyAt_head {depth level : Nat} {j : Json} (hj : j.readableWithin depth = true) :
    ∃ b more, utf8Bytes (j.prettyAt level) = b :: more ∧ isBlank b = false ∧ b ≠ 93 ∧ b ≠ 44 := by
  cases j with
  | null =>
    rw [show Json.null.prettyAt level = "null" from rfl]
    exact ⟨110, [117, 108, 108], rfl, by decide⟩
  | bool b =>
    cases b with
    | false =>
      rw [show (Json.bool false).prettyAt level = "false" from rfl]
      exact ⟨102, [97, 108, 115, 101], rfl, by decide⟩
    | true =>
      rw [show (Json.bool true).prettyAt level = "true" from rfl]
      exact ⟨116, [114, 117, 101], rfl, by decide⟩
  | number n =>
    cases n with
    | natural n =>
      obtain ⟨c, cs, hcs⟩ := List.exists_cons_of_ne_nil (Nat.toDigits_ne_nil (n := n) (b := 10))
      have hmem : c ∈ Nat.toDigits 10 n := by rw [hcs]; exact List.mem_cons_self
      have hc : c.isDigit = true := Nat.isDigit_of_mem_toDigits (by decide) (by decide) hmem
      rw [show (Json.number (.natural n)).prettyAt level = Nat.repr n from rfl,
        Number.utf8Bytes_repr, hcs, List.map_cons]
      obtain ⟨hblank, h93, h44, -⟩ := digit_not_blank (isDigitByte_of_isDigit hc).1
      exact ⟨_, _, rfl, hblank, h93, h44⟩
    | negative _ => simp [Json.readableWithin] at hj
    | float _ => simp [Json.readableWithin] at hj
  | string s =>
    rw [show (Json.string s).prettyAt level = quote s from rfl, utf8Bytes_quote]
    refine ⟨_, _, rfl, ?_⟩; decide
  | array items =>
    cases items with
    | nil =>
      rw [show (Json.array []).prettyAt level = "[]" from rfl]
      exact ⟨91, [93], rfl, by decide⟩
    | cons j js =>
      rw [prettyAt_array_cons, utf8Bytes_append]
      refine ⟨_, _, rfl, ?_⟩; decide
  | object members =>
    cases members with
    | nil =>
      rw [show (Json.object []).prettyAt level = "\x7b\x7d" from rfl]
      exact ⟨123, [125], rfl, by decide⟩
    | cons m ms =>
      rw [prettyAt_object_cons, utf8Bytes_append]
      refine ⟨_, _, rfl, ?_⟩; decide

/-! ## Scalars -/

@[simp] theorem prettyAt_null (level : Nat) : Json.null.prettyAt level = "null" := rfl

@[simp] theorem prettyAt_bool (level : Nat) (b : Bool) :
    (Json.bool b).prettyAt level = if b then "true" else "false" := rfl

@[simp] theorem prettyAt_number (level : Nat) (n : JsonNumber) :
    (Json.number n).prettyAt level = n.text := rfl

@[simp] theorem prettyAt_string (level : Nat) (s : String) :
    (Json.string s).prettyAt level = quote s := rfl

theorem readValue_null (fuel depth : Nat) (rest : List UInt8) (index : Nat) :
    readValue (fuel + 1) depth ⟨utf8Bytes "null" ++ rest, index⟩ =
      (.null index (index + 4), ⟨rest, index + 4⟩) :=
  rfl

theorem readValue_bool (fuel depth : Nat) (b : Bool) (rest : List UInt8) (index : Nat) :
    readValue (fuel + 1) depth ⟨utf8Bytes (if b then "true" else "false") ++ rest, index⟩ =
      (.bool b index (index + (utf8Bytes (if b then "true" else "false")).length),
        ⟨rest, index + (utf8Bytes (if b then "true" else "false")).length⟩) := by
  cases b <;> rfl

theorem readValue_natural (fuel depth : Nat) {n : Nat} (hn : n < 2 ^ 64) {rest : List UInt8}
    (hrest : Follows rest) (index : Nat) :
    readValue (fuel + 1) depth ⟨utf8Bytes (toString n) ++ rest, index⟩ =
      (.number (.natural n) index (index + (utf8Bytes (toString n)).length),
        ⟨rest, index + (utf8Bytes (toString n)).length⟩) := by
  obtain ⟨c, cs, hcs⟩ := List.exists_cons_of_ne_nil (Nat.toDigits_ne_nil (n := n) (b := 10))
  have hmem : c ∈ Nat.toDigits 10 n := by rw [hcs]; exact List.mem_cons_self
  obtain ⟨hdig, hval⟩ := isDigitByte_of_isDigit (Nat.isDigit_of_mem_toDigits (by decide) (by decide) hmem)
  have hbytes : utf8Bytes (toString n) = c.toNat.toUInt8 :: cs.map (·.toNat.toUInt8) := by
    rw [show toString n = Nat.repr n from rfl, Number.utf8Bytes_repr, hcs, List.map_cons]
  have hread := readNumber_natural hn hrest index
  rw [hbytes] at hread ⊢
  obtain ⟨hblank, -, -, hn', ht', hf'⟩ := digit_not_blank hdig
  rw [List.cons_append, readValue.eq_2, skipBlanks_of_not_blank hblank]
  rw [List.cons_append] at hread
  simp only [Cursor.peek?, List.head?_cons, if_neg hn', if_neg ht', if_neg hf', hdig, or_true,
    if_true, hread]

theorem readValue_string (fuel depth : Nat) (s : String) (rest : List UInt8) (index : Nat) :
    readValue (fuel + 1) depth ⟨utf8Bytes (quote s) ++ rest, index⟩ =
      (.string s index (index + (utf8Bytes (quote s)).length),
        ⟨rest, index + (utf8Bytes (quote s)).length⟩) := by
  have hskip : Cursor.skipBlanks ⟨utf8Bytes (quote s) ++ rest, index⟩ =
      ⟨utf8Bytes (quote s) ++ rest, index⟩ := by
    rw [utf8Bytes_quote]
    exact skipBlanks_of_not_blank rfl _ _
  have hpeek : Cursor.peek? ⟨utf8Bytes (quote s) ++ rest, index⟩ = some 34 := by
    rw [utf8Bytes_quote]
    rfl
  rw [readValue.eq_2, hskip, hpeek]
  simp only [if_neg (show ¬(34 : UInt8) = byteOf 'n' by decide),
    if_neg (show ¬(34 : UInt8) = byteOf 't' by decide),
    if_neg (show ¬(34 : UInt8) = byteOf 'f' by decide),
    if_neg (show ¬((34 : UInt8) = byteOf '-' ∨ isDigitByte 34 = true) by decide),
    if_pos (show (34 : UInt8) = byteOf '"' from rfl), readString_quote]

/-! ## Containers -/

theorem readValue_array {fuel depth : Nat} (hdepth : 1 < depth) {more : List UInt8} {index : Nat}
    {items : List (Located × Nat)} {after : Cursor}
    (h : readItems fuel (depth - 1) true ⟨more, index + 1⟩ = (items, true, after)) :
    readValue (fuel + 1) depth ⟨91 :: more, index⟩ = (.array items index after.index, after) := by
  rw [readValue.eq_2, skipBlanks_of_not_blank rfl]
  simp only [Cursor.peek?, List.head?_cons, Cursor.advance,
    if_neg (show ¬(91 : UInt8) = byteOf 'n' by decide),
    if_neg (show ¬(91 : UInt8) = byteOf 't' by decide),
    if_neg (show ¬(91 : UInt8) = byteOf 'f' by decide),
    if_neg (show ¬((91 : UInt8) = byteOf '-' ∨ isDigitByte 91 = true) by decide),
    if_neg (show ¬(91 : UInt8) = byteOf '"' by decide),
    if_pos (show (91 : UInt8) = byteOf '[' from rfl), if_neg (show ¬depth ≤ 1 by omega), h,
    if_true]

theorem readValue_object {fuel depth : Nat} (hdepth : 1 < depth) {more : List UInt8} {index : Nat}
    {members : List (String × Nat × Nat × Located × Nat)} {after : Cursor}
    (h : readMembers fuel (depth - 1) true ⟨more, index + 1⟩ = (members, true, after)) :
    readValue (fuel + 1) depth ⟨123 :: more, index⟩ = (.object members index after.index, after) := by
  rw [readValue.eq_2, skipBlanks_of_not_blank rfl]
  simp only [Cursor.peek?, List.head?_cons, Cursor.advance,
    if_neg (show ¬(123 : UInt8) = byteOf 'n' by decide),
    if_neg (show ¬(123 : UInt8) = byteOf 't' by decide),
    if_neg (show ¬(123 : UInt8) = byteOf 'f' by decide),
    if_neg (show ¬((123 : UInt8) = byteOf '-' ∨ isDigitByte 123 = true) by decide),
    if_neg (show ¬(123 : UInt8) = byteOf '"' by decide),
    if_neg (show ¬(123 : UInt8) = byteOf '[' by decide),
    if_pos (show (123 : UInt8) = byteOf '\x7b' from rfl), if_neg (show ¬depth ≤ 1 by omega), h,
    if_true]

theorem utf8Bytes_itemsTail_cons (level : Nat) (first : Bool) (j : Json) (js : List Json) :
    utf8Bytes (itemsTail level first (j :: js)) =
      (if first then [] else [44]) ++ utf8Bytes ("\n" ++ indent (level + 1)) ++
        utf8Bytes (j.prettyAt (level + 1)) ++ utf8Bytes (itemsTail level false js) := by
  cases first <;> simp [itemsTail, show utf8Bytes ",\n" = 44 :: utf8Bytes "\n" from rfl]

theorem readItems_close (fuel depth : Nat) (first : Bool) {pre : List UInt8}
    (hpre : ∀ b ∈ pre, isBlank b = true) (rest : List UInt8) (index : Nat) :
    readItems (fuel + 1) depth first ⟨pre ++ 93 :: rest, index⟩ =
      ([], true, ⟨rest, index + pre.length + 1⟩) := by
  rw [readItems.eq_2, Cursor.skipBlanks]
  dsimp only
  rw [skipBlanksFrom_append hpre, skipBlanksFrom_of_not_blank rfl]
  rfl

/-- After a comma and blanks, the next item is read as a first one would be. -/
theorem readItems_comma (fuel depth : Nat) {pre : List UInt8} (hpre : ∀ b ∈ pre, isBlank b = true)
    {b : UInt8} (hb : isBlank b = false ∧ b ≠ 93) (more : List UInt8) (index : Nat) :
    readItems (fuel + 1) depth false ⟨44 :: (pre ++ b :: more), index⟩ =
      readItems (fuel + 1) depth true ⟨b :: more, index + 1 + pre.length⟩ := by
  rw [readItems.eq_2, readItems.eq_2, skipBlanks_of_not_blank rfl, skipBlanks_of_not_blank hb.1]
  simp only [Cursor.peek?, List.head?_cons, Cursor.advance, Cursor.skipBlanks,
    skipBlanksFrom_append hpre, skipBlanksFrom_of_not_blank hb.1,
    if_neg (show ¬(44 : UInt8) = byteOf ']' by decide), if_neg (show ¬b = byteOf ']' from hb.2),
    if_pos (show (44 : UInt8) = byteOf ',' ∧ (!false) = true from ⟨rfl, rfl⟩),
    Bool.not_true, Bool.false_eq_true, and_false, if_false, if_true]

/-- An item that reads without faults is followed by the items after it. -/
theorem readItems_item {fuel depth : Nat} {b : UInt8} {more : List UInt8} {index : Nat}
    (hb : isBlank b = false ∧ b ≠ 93) {L : Located} {after : Cursor}
    (hv : readValue fuel depth ⟨b :: more, index⟩ = (L, after)) (hL : L.firstFault = none) :
    readItems (fuel + 1) depth true ⟨b :: more, index⟩ =
      ((L, itemEnd after.skipBlanks) :: (readItems fuel depth false after).1,
        (readItems fuel depth false after).2) := by
  rw [readItems.eq_2, skipBlanks_of_not_blank hb.1]
  simp only [Cursor.peek?, List.head?_cons, if_neg (show ¬b = byteOf ']' from hb.2),
    Bool.not_true, Bool.false_eq_true, and_false, if_false, if_true, hv]
  split
  · next f after' heq =>
    cases (Prod.mk.inj heq).1
    cases hL
  · next item after' _ heq =>
    obtain ⟨rfl, rfl⟩ := Prod.mk.inj heq
    rfl

/-- After a comma and blanks, the next member is read as a first one would be. -/
theorem readMembers_comma (fuel depth : Nat) {pre : List UInt8}
    (hpre : ∀ b ∈ pre, isBlank b = true) {more : List UInt8} {index : Nat} {key : String}
    {afterKey : Cursor} (hs : readString ⟨34 :: more, index + 1 + pre.length⟩ = .ok (key, afterKey)) :
    readMembers (fuel + 1) depth false ⟨44 :: (pre ++ 34 :: more), index⟩ =
      readMembers (fuel + 1) depth true ⟨34 :: more, index + 1 + pre.length⟩ := by
  rw [readMembers.eq_2, readMembers.eq_2, skipBlanks_of_not_blank rfl, skipBlanks_of_not_blank rfl]
  simp only [Cursor.peek?, List.head?_cons, Cursor.advance, Cursor.skipBlanks,
    skipBlanksFrom_append hpre, skipBlanksFrom_of_not_blank (show isBlank 34 = false from rfl),
    if_neg (show ¬(44 : UInt8) = byteOf '\x7d' by decide),
    if_neg (show ¬(34 : UInt8) = byteOf '\x7d' by decide),
    if_pos (show (44 : UInt8) = byteOf ',' ∧ (!false) = true from ⟨rfl, rfl⟩),
    if_neg (show ¬((34 : UInt8) = byteOf ',' ∧ (!true) = true) by decide),
    if_pos (show (34 : UInt8) = byteOf '"' from rfl), if_true, hs]

/-- A member whose value reads without faults is followed by the members after it. -/
theorem readMembers_member {fuel depth : Nat} (k : String) {more : List UInt8} {index : Nat}
    {L : Located} {after : Cursor}
    (hv : readValue fuel depth ⟨32 :: more, index + (utf8Bytes (quote k)).length + 1⟩ = (L, after))
    (hL : L.firstFault = none) :
    ∃ endAt, readMembers (fuel + 1) depth true ⟨utf8Bytes (quote k) ++ 58 :: 32 :: more, index⟩ =
      ((k, index + (utf8Bytes (quote k)).length, index + (utf8Bytes (quote k)).length, L, endAt) ::
          (readMembers fuel depth false after).1, (readMembers fuel depth false after).2) := by
  have hskip : Cursor.skipBlanks ⟨utf8Bytes (quote k) ++ 58 :: 32 :: more, index⟩ =
      ⟨utf8Bytes (quote k) ++ 58 :: 32 :: more, index⟩ := by
    rw [utf8Bytes_quote]
    exact skipBlanks_of_not_blank rfl _ _
  have hpeek : Cursor.peek? ⟨utf8Bytes (quote k) ++ 58 :: 32 :: more, index⟩ = some 34 := by
    rw [utf8Bytes_quote]
    rfl
  rw [readMembers.eq_2, hskip, hpeek]
  simp only [if_neg (show ¬(34 : UInt8) = byteOf '\x7d' by decide),
    if_neg (show ¬((34 : UInt8) = byteOf ',' ∧ (!true) = true) by decide),
    if_pos (show (34 : UInt8) = byteOf '"' from rfl), if_true, readString_quote,
    skipBlanks_of_not_blank (show isBlank 58 = false from rfl), Cursor.peek?, List.head?_cons,
    if_neg (show ¬(58 : UInt8) ≠ byteOf ':' by decide), Cursor.advance, hv]
  split
  · next f after' heq =>
    cases (Prod.mk.inj heq).1
    cases hL
  · next item after' _ heq =>
    obtain ⟨rfl, rfl⟩ := Prod.mk.inj heq
    exact ⟨_, rfl⟩

theorem utf8Bytes_membersTail_cons (level : Nat) (first : Bool) (k : String) (v : Json)
    (ms : List (String × Json)) :
    utf8Bytes (membersTail level first ((k, v) :: ms)) =
      (if first then [] else [44]) ++ utf8Bytes ("\n" ++ indent (level + 1)) ++
        (utf8Bytes (quote k) ++ 58 :: 32 ::
          (utf8Bytes (v.prettyAt (level + 1)) ++ utf8Bytes (membersTail level false ms))) := by
  cases first <;> simp [membersTail, show utf8Bytes ",\n" = 44 :: utf8Bytes "\n" from rfl] <;> rfl

theorem readMembers_close (fuel depth : Nat) (first : Bool) {pre : List UInt8}
    (hpre : ∀ b ∈ pre, isBlank b = true) (rest : List UInt8) (index : Nat) :
    readMembers (fuel + 1) depth first ⟨pre ++ 125 :: rest, index⟩ =
      ([], true, ⟨rest, index + pre.length + 1⟩) := by
  rw [readMembers.eq_2, Cursor.skipBlanks]
  dsimp only
  rw [skipBlanksFrom_append hpre, skipBlanksFrom_of_not_blank rfl]
  rfl

/-- What follows an item or a member that is not the first is a comma or a line break. -/
theorem follows_itemsTail (level : Nat) (js : List Json) (rest : List UInt8) :
    Follows (utf8Bytes (itemsTail level false js) ++ rest) := by
  intro b hb
  cases js with
  | nil =>
    simp only [itemsTail, utf8Bytes_append, List.append_assoc,
      show utf8Bytes "\n" = [10] from rfl, List.singleton_append] at hb
    exact .inr (Option.some.inj hb).symm
  | cons j js =>
    rw [utf8Bytes_itemsTail_cons] at hb
    exact .inl (Option.some.inj hb).symm

theorem follows_membersTail (level : Nat) (ms : List (String × Json)) (rest : List UInt8) :
    Follows (utf8Bytes (membersTail level false ms) ++ rest) := by
  intro b hb
  cases ms with
  | nil =>
    simp only [membersTail, utf8Bytes_append, List.append_assoc,
      show utf8Bytes "\n" = [10] from rfl, List.singleton_append] at hb
    exact .inr (Option.some.inj hb).symm
  | cons m ms =>
    rw [utf8Bytes_membersTail_cons] at hb
    exact .inl (Option.some.inj hb).symm

/-- The items of an array are read back one by one: an item on its own line after the
separator, then the items after it. -/
theorem readItems_tail_cons {level fuel depth : Nat} {first : Bool} {j : Json} {js : List Json}
    {rest : List UInt8} {index : Nat}
    (hhead : ∃ b more, utf8Bytes (j.prettyAt (level + 1)) = b :: more ∧ isBlank b = false ∧
      b ≠ 93 ∧ b ≠ 44)
    (hj : (utf8Bytes (j.prettyAt (level + 1))).length ≤ fuel - 1 → ∀ i, ∃ L : Located,
      readValue (fuel - 1) depth
          ⟨utf8Bytes (j.prettyAt (level + 1)) ++ (utf8Bytes (itemsTail level false js) ++ rest), i⟩ =
        (L, ⟨utf8Bytes (itemsTail level false js) ++ rest,
          i + (utf8Bytes (j.prettyAt (level + 1))).length⟩) ∧
      L.toJson = j ∧ L.firstFault = none)
    (hjs : (utf8Bytes (itemsTail level false js)).length ≤ fuel - 1 → ∀ i, ∃ Ls,
      readItems (fuel - 1) depth false ⟨utf8Bytes (itemsTail level false js) ++ rest, i⟩ =
        (Ls, true, ⟨rest, i + (utf8Bytes (itemsTail level false js)).length⟩) ∧
      itemsToJson Ls = js ∧ Located.firstFault.itemsFault Ls = none)
    (hfuel : (utf8Bytes (itemsTail level first (j :: js))).length ≤ fuel) :
    ∃ Ls, readItems fuel depth first ⟨utf8Bytes (itemsTail level first (j :: js)) ++ rest, index⟩ =
        (Ls, true, ⟨rest, index + (utf8Bytes (itemsTail level first (j :: js))).length⟩) ∧
      itemsToJson Ls = j :: js ∧ Located.firstFault.itemsFault Ls = none := by
  obtain ⟨b, more, hV, hb, h93, -⟩ := hhead
  rw [utf8Bytes_itemsTail_cons] at hfuel ⊢
  set V := utf8Bytes (j.prettyAt (level + 1))
  set R := utf8Bytes (itemsTail level false js)
  set P := (if first then [] else [44]) ++ utf8Bytes ("\n" ++ indent (level + 1)) with hP
  clear_value V R P
  have hPlen : 0 < P.length := by
    simp only [hP, utf8Bytes_append, List.length_append, show utf8Bytes "\n" = [10] from rfl,
      List.length_singleton]
    omega
  simp only [List.length_append] at hfuel
  obtain ⟨f, rfl⟩ : ∃ f, fuel = f + 1 := ⟨fuel - 1, by omega⟩
  rw [Nat.add_sub_cancel] at hj hjs
  -- reading passes the separator and the line break and stands at the item
  have hstart : readItems (f + 1) depth first ⟨P ++ V ++ R ++ rest, index⟩ =
      readItems (f + 1) depth true ⟨b :: (more ++ (R ++ rest)), index + P.length⟩ := by
    rw [List.append_assoc, List.append_assoc, hV, List.cons_append]
    cases first
    · rw [hP, if_neg Bool.false_ne_true, List.singleton_append, List.cons_append,
        readItems_comma f depth (blank_break (level + 1)) ⟨hb, h93⟩, Nat.add_assoc index 1,
        Nat.add_comm 1, List.length_cons]
    · apply readItems_congr
      rw [hP, if_pos rfl, List.nil_append, Cursor.skipBlanks, Cursor.skipBlanks]
      dsimp only
      rw [skipBlanksFrom_break]
  obtain ⟨L, hv, hLj, hLf⟩ := hj (by omega) (index + P.length)
  obtain ⟨Ls, hr, hLs, hLsf⟩ := hjs (by omega) (index + P.length + V.length)
  rw [hV, List.cons_append] at hv
  rw [hstart, readItems_item ⟨hb, h93⟩ (hV ▸ hv) hLf, hr]
  refine ⟨(L, itemEnd (Cursor.skipBlanks ⟨R ++ rest, index + P.length + V.length⟩)) :: Ls,
    ?_, ?_, ?_⟩
  · rw [List.length_append, List.length_append, Nat.add_assoc, Nat.add_assoc]
  · rw [itemsToJson, hLj, hLs]
  · rw [Located.firstFault.itemsFault, hLf, hLsf]

theorem readValue_space (fuel depth : Nat) (more : List UInt8) (index : Nat) :
    readValue (fuel + 1) depth ⟨32 :: more, index⟩ = readValue (fuel + 1) depth ⟨more, index + 1⟩ :=
  readValue_congr rfl

/-- The members of an object are read back one by one: a key and its value on a line of their
own after the separator, then the members after them. -/
theorem readMembers_tail_cons {level fuel depth : Nat} {first : Bool} {k : String} {v : Json}
    {ms : List (String × Json)} {rest : List UInt8} {index : Nat}
    (hhead : ∃ b more, utf8Bytes (v.prettyAt (level + 1)) = b :: more)
    (hv : (utf8Bytes (v.prettyAt (level + 1))).length ≤ fuel - 1 → ∀ i, ∃ L : Located,
      readValue (fuel - 1) depth
          ⟨utf8Bytes (v.prettyAt (level + 1)) ++ (utf8Bytes (membersTail level false ms) ++ rest), i⟩ =
        (L, ⟨utf8Bytes (membersTail level false ms) ++ rest,
          i + (utf8Bytes (v.prettyAt (level + 1))).length⟩) ∧
      L.toJson = v ∧ L.firstFault = none)
    (hms : (utf8Bytes (membersTail level false ms)).length ≤ fuel - 1 → ∀ i, ∃ Ls,
      readMembers (fuel - 1) depth false ⟨utf8Bytes (membersTail level false ms) ++ rest, i⟩ =
        (Ls, true, ⟨rest, i + (utf8Bytes (membersTail level false ms)).length⟩) ∧
      membersToJson Ls = ms ∧ Located.firstFault.membersFault Ls = none)
    (hfuel : (utf8Bytes (membersTail level first ((k, v) :: ms))).length ≤ fuel) :
    ∃ Ls, readMembers fuel depth first
          ⟨utf8Bytes (membersTail level first ((k, v) :: ms)) ++ rest, index⟩ =
        (Ls, true, ⟨rest, index + (utf8Bytes (membersTail level first ((k, v) :: ms))).length⟩) ∧
      membersToJson Ls = (k, v) :: ms ∧ Located.firstFault.membersFault Ls = none := by
  obtain ⟨b, more, hV⟩ := hhead
  rw [utf8Bytes_membersTail_cons] at hfuel ⊢
  set V := utf8Bytes (v.prettyAt (level + 1))
  set R := utf8Bytes (membersTail level false ms)
  set P := (if first then [] else [44]) ++ utf8Bytes ("\n" ++ indent (level + 1)) with hP
  clear_value V R P
  have hVlen : 0 < V.length := by rw [hV]; exact Nat.zero_lt_succ _
  simp only [List.length_append, List.length_cons] at hfuel
  obtain ⟨f, rfl⟩ : ∃ f, fuel = f + 2 := ⟨fuel - 2, by omega⟩
  rw [show f + 2 - 1 = f + 1 from rfl] at hv hms
  -- reading passes the separator and the line break and stands at the key
  have hstart : readMembers (f + 2) depth first
        ⟨P ++ (utf8Bytes (quote k) ++ 58 :: 32 :: (V ++ R)) ++ rest, index⟩ =
      readMembers (f + 2) depth true
        ⟨utf8Bytes (quote k) ++ 58 :: 32 :: (V ++ (R ++ rest)), index + P.length⟩ := by
    simp only [List.append_assoc, List.cons_append]
    cases first
    · rw [hP, if_neg Bool.false_ne_true, List.singleton_append, List.cons_append]
      have hs := readString_quote k (58 :: 32 :: (V ++ (R ++ rest)))
        (index + 1 + (utf8Bytes ("\n" ++ indent (level + 1))).length)
      rw [utf8Bytes_quote, List.cons_append] at hs ⊢
      rw [readMembers_comma (f + 1) depth (blank_break (level + 1)) hs, List.length_cons,
        Nat.add_assoc index 1, Nat.add_comm 1]
    · apply readMembers_congr
      rw [hP, if_pos rfl, List.nil_append, Cursor.skipBlanks, Cursor.skipBlanks]
      dsimp only
      rw [skipBlanksFrom_append (blank_break (level + 1))]
  -- the value is read after the colon and the space
  obtain ⟨L, hread, hLv, hLf⟩ := hv (by omega)
    (index + P.length + (utf8Bytes (quote k)).length + 1 + 1)
  have hspace : readValue (f + 1) depth
      ⟨32 :: (V ++ (R ++ rest)), index + P.length + (utf8Bytes (quote k)).length + 1⟩ =
        (L, ⟨R ++ rest, index + P.length + (utf8Bytes (quote k)).length + 1 + 1 + V.length⟩) := by
    rw [readValue_space, hread]
  obtain ⟨endAt, hm⟩ := readMembers_member k hspace hLf
  obtain ⟨Ls, hr, hLs, hLsf⟩ := hms (by omega)
    (index + P.length + (utf8Bytes (quote k)).length + 1 + 1 + V.length)
  rw [hstart, hm, hr]
  refine ⟨(k, index + P.length + (utf8Bytes (quote k)).length,
      index + P.length + (utf8Bytes (quote k)).length, L, endAt) :: Ls, ?_, ?_, ?_⟩
  · refine Prod.ext rfl (Prod.ext rfl ?_)
    simp only [Cursor.mk.injEq, List.length_append, List.length_cons, true_and]
    omega
  · rw [membersToJson, hLv, hLs]
  · rw [Located.firstFault.membersFault, hLf, hLsf]

theorem utf8Bytes_itemsTail_nil (level : Nat) (first : Bool) :
    utf8Bytes (itemsTail level first []) = utf8Bytes ("\n" ++ indent level) ++ [93] := by
  rw [itemsTail, utf8Bytes_append]
  rfl

theorem utf8Bytes_membersTail_nil (level : Nat) (first : Bool) :
    utf8Bytes (membersTail level first []) = utf8Bytes ("\n" ++ indent level) ++ [125] := by
  rw [membersTail, utf8Bytes_append]
  rfl

/-- The closing bracket on a line of its own ends the items. -/
theorem readItems_tail_nil {level fuel depth : Nat} {first : Bool} {rest : List UInt8} {index : Nat}
    (hfuel : (utf8Bytes (itemsTail level first [])).length ≤ fuel) :
    ∃ Ls, readItems fuel depth first ⟨utf8Bytes (itemsTail level first []) ++ rest, index⟩ =
        (Ls, true, ⟨rest, index + (utf8Bytes (itemsTail level first [])).length⟩) ∧
      itemsToJson Ls = [] ∧ Located.firstFault.itemsFault Ls = none := by
  rw [utf8Bytes_itemsTail_nil] at hfuel ⊢
  obtain ⟨f, rfl⟩ : ∃ f, fuel = f + 1 := ⟨fuel - 1, by simp at hfuel; omega⟩
  refine ⟨[], ?_, rfl, rfl⟩
  rw [List.append_assoc, List.singleton_append, readItems_close f depth first (blank_break level),
    List.length_append, List.length_singleton, Nat.add_assoc]

/-- The closing brace on a line of its own ends the members. -/
theorem readMembers_tail_nil {level fuel depth : Nat} {first : Bool} {rest : List UInt8}
    {index : Nat} (hfuel : (utf8Bytes (membersTail level first [])).length ≤ fuel) :
    ∃ Ls, readMembers fuel depth first ⟨utf8Bytes (membersTail level first []) ++ rest, index⟩ =
        (Ls, true, ⟨rest, index + (utf8Bytes (membersTail level first [])).length⟩) ∧
      membersToJson Ls = [] ∧ Located.firstFault.membersFault Ls = none := by
  rw [utf8Bytes_membersTail_nil] at hfuel ⊢
  obtain ⟨f, rfl⟩ : ∃ f, fuel = f + 1 := ⟨fuel - 1, by simp at hfuel; omega⟩
  refine ⟨[], ?_, rfl, rfl⟩
  rw [List.append_assoc, List.singleton_append, readMembers_close f depth first (blank_break level),
    List.length_append, List.length_singleton, Nat.add_assoc]

/-- An array is read back from its text when its items are, after the opening bracket. -/
theorem readValue_array_text {level fuel depth : Nat} (hdepth : 1 < depth) {items : List Json}
    {rest : List UInt8} {index : Nat}
    (hitems : (utf8Bytes (itemsTail level true items)).length ≤ fuel - 1 → ∃ Ls,
      readItems (fuel - 1) (depth - 1) true
          ⟨utf8Bytes (itemsTail level true items) ++ rest, index + 1⟩ =
        (Ls, true, ⟨rest, index + 1 + (utf8Bytes (itemsTail level true items)).length⟩) ∧
      itemsToJson Ls = items ∧ Located.firstFault.itemsFault Ls = none)
    (hfuel : (utf8Bytes ((Json.array items).prettyAt level)).length ≤ fuel) :
    ∃ L : Located,
      readValue fuel depth ⟨utf8Bytes ((Json.array items).prettyAt level) ++ rest, index⟩ =
        (L, ⟨rest, index + (utf8Bytes ((Json.array items).prettyAt level)).length⟩) ∧
      L.toJson = .array items ∧ L.firstFault = none := by
  cases items with
  | nil =>
    rw [show (Json.array []).prettyAt level = "[]" from rfl] at hfuel ⊢
    obtain ⟨f, rfl⟩ : ∃ f, fuel = f + 2 :=
      ⟨fuel - 2, by rw [show (utf8Bytes "[]").length = 2 from rfl] at hfuel; omega⟩
    have hclose := @readItems_close f (depth - 1) true [] (fun _ h => by cases h) rest
      (index + 1)
    exact ⟨.array [] index (index + 2), readValue_array hdepth hclose, rfl, rfl⟩
  | cons j js =>
    rw [prettyAt_array_cons, utf8Bytes_append, show utf8Bytes "[" = [91] from rfl,
      List.singleton_append, List.length_cons] at hfuel ⊢
    obtain ⟨f, rfl⟩ : ∃ f, fuel = f + 1 := ⟨fuel - 1, by omega⟩
    rw [Nat.add_sub_cancel] at hitems
    obtain ⟨Ls, hread, hLs, hfault⟩ := hitems (by omega)
    refine ⟨.array Ls index (index + 1 + (utf8Bytes (itemsTail level true (j :: js))).length), ?_,
      by rw [Located.toJson, hLs], hfault⟩
    rw [List.cons_append, readValue_array hdepth hread, Nat.add_assoc, Nat.add_comm 1]

/-- An object is read back from its text when its members are, after the opening brace. -/
theorem readValue_object_text {level fuel depth : Nat} (hdepth : 1 < depth)
    {members : List (String × Json)} {rest : List UInt8} {index : Nat}
    (hmembers : (utf8Bytes (membersTail level true members)).length ≤ fuel - 1 → ∃ Ls,
      readMembers (fuel - 1) (depth - 1) true
          ⟨utf8Bytes (membersTail level true members) ++ rest, index + 1⟩ =
        (Ls, true, ⟨rest, index + 1 + (utf8Bytes (membersTail level true members)).length⟩) ∧
      membersToJson Ls = members ∧ Located.firstFault.membersFault Ls = none)
    (hfuel : (utf8Bytes ((Json.object members).prettyAt level)).length ≤ fuel) :
    ∃ L : Located,
      readValue fuel depth ⟨utf8Bytes ((Json.object members).prettyAt level) ++ rest, index⟩ =
        (L, ⟨rest, index + (utf8Bytes ((Json.object members).prettyAt level)).length⟩) ∧
      L.toJson = .object members ∧ L.firstFault = none := by
  cases members with
  | nil =>
    rw [show (Json.object []).prettyAt level = "\x7b\x7d" from rfl] at hfuel ⊢
    obtain ⟨f, rfl⟩ : ∃ f, fuel = f + 2 :=
      ⟨fuel - 2, by rw [show (utf8Bytes "\x7b\x7d").length = 2 from rfl] at hfuel; omega⟩
    have hclose := @readMembers_close f (depth - 1) true [] (fun _ h => by cases h) rest
      (index + 1)
    exact ⟨.object [] index (index + 2), readValue_object hdepth hclose, rfl, rfl⟩
  | cons m ms =>
    rw [prettyAt_object_cons, utf8Bytes_append, show utf8Bytes "\x7b" = [123] from rfl,
      List.singleton_append, List.length_cons] at hfuel ⊢
    obtain ⟨f, rfl⟩ : ∃ f, fuel = f + 1 := ⟨fuel - 1, by omega⟩
    rw [Nat.add_sub_cancel] at hmembers
    obtain ⟨Ls, hread, hLs, hfault⟩ := hmembers (by omega)
    refine ⟨.object Ls index (index + 1 + (utf8Bytes (membersTail level true (m :: ms))).length),
      ?_, by rw [Located.toJson, hLs], hfault⟩
    rw [List.cons_append, readValue_object hdepth hread, Nat.add_assoc, Nat.add_comm 1]

/-! ## Values read back

Reading is proved by induction on the fuel: each read of a value, an item or a member that
continues past its first byte does so with one unit less. -/

/-- Reading the pretty text of a readable value with `fuel` takes exactly the text and gives back
a value without faults that stands for it, when the text is no longer than the fuel. -/
def ValueReadsBack (fuel : Nat) : Prop :=
  ∀ (j : Json) (level depth : Nat) (rest : List UInt8) (index : Nat), Follows rest →
    j.readableWithin depth = true → (utf8Bytes (j.prettyAt level)).length ≤ fuel →
    ∃ L : Located, readValue fuel depth ⟨utf8Bytes (j.prettyAt level) ++ rest, index⟩ =
        (L, ⟨rest, index + (utf8Bytes (j.prettyAt level)).length⟩) ∧
      L.toJson = j ∧ L.firstFault = none

/-- Reading the text of array items after the opening bracket with `fuel` gives them back. -/
def ItemsReadBack (fuel : Nat) : Prop :=
  ∀ (js : List Json) (level depth : Nat) (first : Bool) (rest : List UInt8) (index : Nat),
    itemsReadableWithin depth js = true → (utf8Bytes (itemsTail level first js)).length ≤ fuel →
    ∃ Ls, readItems fuel depth first ⟨utf8Bytes (itemsTail level first js) ++ rest, index⟩ =
        (Ls, true, ⟨rest, index + (utf8Bytes (itemsTail level first js)).length⟩) ∧
      itemsToJson Ls = js ∧ Located.firstFault.itemsFault Ls = none

/-- Reading the text of object members after the opening brace with `fuel` gives them back. -/
def MembersReadBack (fuel : Nat) : Prop :=
  ∀ (ms : List (String × Json)) (level depth : Nat) (first : Bool) (rest : List UInt8)
    (index : Nat), membersReadableWithin depth ms = true →
    (utf8Bytes (membersTail level first ms)).length ≤ fuel →
    ∃ Ls, readMembers fuel depth first ⟨utf8Bytes (membersTail level first ms) ++ rest, index⟩ =
        (Ls, true, ⟨rest, index + (utf8Bytes (membersTail level first ms)).length⟩) ∧
      membersToJson Ls = ms ∧ Located.firstFault.membersFault Ls = none

section Step

variable {f : Nat} (hitems : ItemsReadBack f) (hmembers : MembersReadBack f)
  (hvalue : ValueReadsBack f)

include hitems hmembers in
theorem valueReadsBack_succ : ValueReadsBack (f + 1) := by
  intro j level depth rest index hrest hj hfuel
  cases j with
  | null =>
    rw [prettyAt_null]
    exact ⟨_, readValue_null f depth rest index, rfl, rfl⟩
  | bool b =>
    rw [prettyAt_bool]
    exact ⟨_, readValue_bool f depth b rest index, rfl, rfl⟩
  | number n =>
    cases n with
    | natural n =>
      have hn : n < 2 ^ 64 := by simpa [Json.readableWithin] using hj
      rw [prettyAt_number, JsonNumber.text]
      exact ⟨_, readValue_natural f depth hn hrest index, rfl, rfl⟩
    | negative _ => simp [Json.readableWithin] at hj
    | float _ => simp [Json.readableWithin] at hj
  | string s =>
    rw [prettyAt_string]
    exact ⟨_, readValue_string f depth s rest index, rfl, rfl⟩
  | array items =>
    simp only [Json.readableWithin, Bool.and_eq_true, decide_eq_true_eq] at hj
    exact readValue_array_text hj.1
      (fun hlen => hitems items level (depth - 1) true rest (index + 1) hj.2 hlen) hfuel
  | object members =>
    simp only [Json.readableWithin, Bool.and_eq_true, decide_eq_true_eq] at hj
    exact readValue_object_text hj.1
      (fun hlen => hmembers members level (depth - 1) true rest (index + 1) hj.2 hlen) hfuel

include hvalue hitems in
theorem itemsReadBack_succ : ItemsReadBack (f + 1) := by
  intro js level depth first rest index hjs hfuel
  cases js with
  | nil => exact readItems_tail_nil hfuel
  | cons j js =>
    simp only [itemsReadableWithin, Bool.and_eq_true] at hjs
    exact readItems_tail_cons (prettyAt_head hjs.1)
      (fun hlen i => hvalue j (level + 1) depth _ i (follows_itemsTail level js rest) hjs.1 hlen)
      (fun hlen i => hitems js level depth false rest i hjs.2 hlen) hfuel

include hvalue hmembers in
theorem membersReadBack_succ : MembersReadBack (f + 1) := by
  intro ms level depth first rest index hms hfuel
  cases ms with
  | nil => exact readMembers_tail_nil hfuel
  | cons m ms =>
    obtain ⟨k, v⟩ := m
    simp only [membersReadableWithin, Bool.and_eq_true] at hms
    obtain ⟨b, more, hV, -⟩ := @prettyAt_head _ (level + 1) _ hms.1
    exact readMembers_tail_cons ⟨b, more, hV⟩
      (fun hlen i => hvalue v (level + 1) depth _ i (follows_membersTail level ms rest) hms.1 hlen)
      (fun hlen i => hmembers ms level depth false rest i hms.2 hlen) hfuel

end Step

theorem itemsTail_length_pos (level : Nat) (first : Bool) (js : List Json) :
    0 < (utf8Bytes (itemsTail level first js)).length := by
  cases js with
  | nil => simp [utf8Bytes_itemsTail_nil]
  | cons j js => simp [utf8Bytes_itemsTail_cons, show utf8Bytes "\n" = [10] from rfl]

theorem membersTail_length_pos (level : Nat) (first : Bool) (ms : List (String × Json)) :
    0 < (utf8Bytes (membersTail level first ms)).length := by
  cases ms with
  | nil => simp [utf8Bytes_membersTail_nil]
  | cons m ms =>
    obtain ⟨k, v⟩ := m
    simp [utf8Bytes_membersTail_cons, show utf8Bytes "\n" = [10] from rfl]

/-- Pretty text reads back with any fuel at least its length. -/
theorem readsBack (fuel : Nat) : ValueReadsBack fuel ∧ ItemsReadBack fuel ∧ MembersReadBack fuel := by
  induction fuel with
  | zero =>
    -- no text is empty, so no text fits in no fuel
    refine ⟨fun j level depth _ _ _ hj hfuel => ?_, fun js level _ first _ _ _ hfuel => ?_,
      fun ms level _ first _ _ _ hfuel => ?_⟩
    · obtain ⟨b, more, hV, -⟩ := @prettyAt_head _ level _ hj
      rw [hV, List.length_cons] at hfuel
      omega
    · exact absurd hfuel (Nat.not_le_of_lt (itemsTail_length_pos level first js))
    · exact absurd hfuel (Nat.not_le_of_lt (membersTail_length_pos level first ms))
  | succ f ih =>
    obtain ⟨hvalue, hitems, hmembers⟩ := ih
    exact ⟨valueReadsBack_succ hitems hmembers, itemsReadBack_succ hitems hvalue,
      membersReadBack_succ hmembers hvalue⟩

/-- Reading the pretty text of a value whose containers nest less deeply than the reader allows
and whose numbers are unsigned integers below `2 ^ 64` gives the value back, with no fault and
nothing after it. -/
theorem readDocument_pretty {j : Json} (hj : j.readableWithin nestingLimit = true) :
    ∃ L : Located, readDocument (utf8Bytes j.pretty) = (L, none) ∧ L.toJson = j ∧
      L.firstFault = none := by
  obtain ⟨L, hread, hLj, hLf⟩ := (readsBack (2 * (utf8Bytes j.pretty).length + 4)).1 j 0
    nestingLimit [] 0 (fun _ h => by cases h) hj (by rw [Json.pretty]; omega)
  rw [← Json.pretty, List.append_nil, Nat.zero_add] at hread
  refine ⟨L, ?_, hLj, hLf⟩
  rw [readDocument]
  simp only [hread]
  split
  · rfl
  · next hne =>
    cases L with
    | broken f => cases hLf
    | _ => rfl

end ContentSync.JsonText
