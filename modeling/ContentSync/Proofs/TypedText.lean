import ContentSync.Codec
import Mathlib.Tactic.SplitIfs

/-!
# Typed text reads back

Writing a property escapes each value so that reading can undo it: a backslash before every
character the reader treats specially, `\uXXXX` for control characters, `\0` for an empty
element of a multi value. This module proves that the reader undoes exactly that, value by
value and across the commas of a multi value, and that the brace prefix names the type back.
-/

namespace ContentSync

/-! ## Escaped characters -/

section Escapes

-- Tagging the reader here has Lean state its equations once, before the proofs below, which
-- are checked side by side, all ask for them at the same moment.
attribute [local simp] unescapeLoop

/-- The hex escape of a control character has four digits and reads back as that character. -/
theorem hex4_of_control {c : Char} (hc : c.toNat < 0x20) :
    (hex4 c.toNat).length = 4 ∧ hexEscapeChar (hex4 c.toNat) = some c := by
  -- thirty-two characters, each checked once
  have all : ∀ n < 0x20, (hex4 n).length = 4 ∧ hexEscapeChar (hex4 n) = some (Char.ofNat n) := by
    decide +kernel
  simpa only [Char.ofNat_toNat] using all c.toNat hc

/-- Reading the escape of one character puts that character on the value being built. -/
theorem unescapeLoop_escapeChar (w : String) (multi first : Bool) (c : Char) (rest cur : List Char)
    (done : List String) :
    unescapeLoop w multi (escapeChar multi first c ++ rest) cur done =
      unescapeLoop w multi rest (c :: cur) done := by
  unfold escapeChar
  by_cases hbs : c = '\\'
  · subst hbs
    exact unescapeLoop.eq_5 _ _ _ _ _ _ (by decide) (by decide)
  by_cases hcomma : c = ',' ∧ multi = true
  · obtain ⟨rfl, rfl⟩ := hcomma
    exact unescapeLoop.eq_5 _ _ _ _ _ _ (by decide) (by decide)
  by_cases hbracket : (c = '[' ∨ c = '{') ∧ first = true ∧ (!multi) = true
  · rw [if_neg hbs, if_neg hcomma, if_pos hbracket, List.cons_append, List.cons_append,
      List.nil_append]
    obtain ⟨hc, -⟩ := hbracket
    exact unescapeLoop.eq_5 _ _ _ _ _ _ (by rcases hc with rfl | rfl <;> decide)
      (by rcases hc with rfl | rfl <;> decide)
  by_cases hctl : c.toNat < 0x20
  · rw [if_neg hbs, if_neg hcomma, if_neg hbracket, if_pos hctl, List.cons_append,
      List.cons_append, unescapeLoop.eq_4]
    obtain ⟨hlen, hchar⟩ := hex4_of_control hctl
    rw [List.take_left' hlen, hchar, List.drop_left' hlen]
  · rw [if_neg hbs, if_neg hcomma, if_neg hbracket, if_neg hctl, List.singleton_append,
      unescapeLoop.eq_6 _ _ _ _ _ _ hbs, if_neg]
    rintro ⟨rfl, rfl⟩
    exact hcomma ⟨rfl, rfl⟩

/-- Reading escaped characters after the first puts them on the value being built. -/
theorem unescapeLoop_flatMap_escapeChar (w : String) (multi : Bool) (cs rest cur : List Char)
    (done : List String) :
    unescapeLoop w multi (cs.flatMap (escapeChar multi false) ++ rest) cur done =
      unescapeLoop w multi rest (cs.reverse ++ cur) done := by
  induction cs generalizing cur with
  | nil => rfl
  | cons c cs ih =>
    rw [List.flatMap_cons, List.append_assoc, unescapeLoop_escapeChar, ih, List.reverse_cons,
      List.append_assoc, List.singleton_append]

/-- Reading the escaped text of a value puts the whole value on the value being built. -/
theorem unescapeLoop_escapeValue (w : String) (multi : Bool) (s : String) (rest cur : List Char)
    (done : List String) :
    unescapeLoop w multi (escapeValue multi s ++ rest) cur done =
      unescapeLoop w multi rest (s.toList.reverse ++ cur) done := by
  unfold escapeValue
  by_cases hempty : multi = true ∧ s.isEmpty = true
  · rw [if_pos hempty, List.cons_append, List.cons_append, List.nil_append, unescapeLoop.eq_3]
    rw [String.isEmpty_iff.mp hempty.2]
    rfl
  · rw [if_neg hempty]
    cases hs : s.toList with
    | nil => rfl
    | cons c cs =>
      rw [List.append_assoc, unescapeLoop_escapeChar, unescapeLoop_flatMap_escapeChar,
        List.reverse_cons, List.append_assoc, List.singleton_append]

/-- In a multi value an unescaped comma ends the value being built. -/
theorem unescapeLoop_comma (w : String) (rest cur : List Char) (done : List String) :
    unescapeLoop w true (',' :: rest) cur done =
      unescapeLoop w true rest [] (String.ofList cur.reverse :: done) := by
  rw [unescapeLoop.eq_6 _ _ _ _ _ _ (by decide), if_pos ⟨rfl, rfl⟩]

/-- The escaped values of a multi value, joined by commas, read back as those values. -/
theorem unescapeLoop_intercalate (w : String) (ts : List String) (hts : ts ≠ [])
    (done : List String) :
    unescapeLoop w true (List.intercalate [','] (ts.map (escapeValue true))) [] done =
      .ok (done.reverse ++ ts) := by
  induction ts generalizing done with
  | nil => exact absurd rfl hts
  | cons t ts ih =>
    cases ts with
    | nil =>
      have h := unescapeLoop_escapeValue w true t [] [] done
      rw [List.append_nil, List.append_nil] at h
      rw [List.map_singleton, List.intercalate_singleton, h, unescapeLoop.eq_1,
        List.reverse_reverse, String.ofList_toList]
    | cons t' ts =>
      rw [List.map_cons, List.map_cons, List.intercalate_cons_cons, List.append_assoc,
        unescapeLoop_escapeValue, List.append_nil, List.singleton_append, unescapeLoop_comma,
        List.reverse_reverse, String.ofList_toList, ← List.map_cons, ih (by simp),
        List.reverse_cons, List.append_assoc, List.singleton_append]

end Escapes

/-! ## The brace prefix -/

/-- No type name holds a closing brace. -/
theorem findIdx?_close_typeName (t : PropertyType) :
    t.typeName.toList.findIdx? (· = '}') = none := by
  cases t <;> decide

/-- Every type is found again under its name. -/
theorem ofName?_typeName (t : PropertyType) : PropertyType.ofName? t.typeName = some t := by
  cases t <;> decide

/-- The brace prefix written for a type: none for `String`. -/
def typePrefix (t : PropertyType) : List Char :=
  if t = .string then [] else '{' :: t.typeName.toList ++ ['}']

/-- The prefix of `t` before a body that does not start with a brace splits off as `t`. -/
theorem splitTypePrefix_typePrefix (t : PropertyType) {body : List Char}
    (hbody : body.head? ≠ some '{') :
    splitTypePrefix (typePrefix t ++ body) = (t, body) := by
  by_cases ht : t = .string
  · subst ht
    rw [typePrefix, if_pos rfl, List.nil_append]
    unfold splitTypePrefix
    split
    · simp at hbody
    · rfl
  · have hsplit : typePrefix t ++ body = '{' :: (t.typeName.toList ++ '}' :: body) := by
      simp [typePrefix, ht]
    have hidx : (t.typeName.toList ++ '}' :: body).findIdx? (· = '}') =
        some t.typeName.toList.length := by
      rw [List.findIdx?_append, findIdx?_close_typeName, List.findIdx?_cons]
      simp
    rw [hsplit]
    simp only [splitTypePrefix, hidx, List.take_left, String.ofList_toList, ofName?_typeName]
    rw [List.drop_append, List.drop_eq_nil_of_le (by omega), List.nil_append,
      Nat.add_sub_cancel_left]
    rfl

/-- The escaped text of a single value starts with neither a bracket nor a brace. -/
theorem head?_escapeValue_single (s : String) :
    (escapeValue false s).head? ≠ some '{' ∧ (escapeValue false s).head? ≠ some '[' := by
  unfold escapeValue
  rw [if_neg (by simp)]
  split
  · simp
  · rename_i c cs _
    rw [List.head?_append]
    unfold escapeChar
    by_cases hbs : c = '\\'
    · simp [hbs]
    by_cases hbr : c = '[' ∨ c = '{'
    · simp [hbs, hbr]
    by_cases hctl : c.toNat < 0x20
    · simp [hbs, hbr, hctl]
    · simp only [hbs, hbr, hctl]
      simp only [not_or] at hbr
      simp [hbr.1, hbr.2]

/-- The escape of a character is never empty. -/
theorem escapeChar_ne_nil (multi first : Bool) (c : Char) : escapeChar multi first c ≠ [] := by
  unfold escapeChar
  split_ifs <;> simp

/-- An element of a multi value is never written as nothing: the empty one is `\0`. -/
theorem escapeValue_multi_ne_nil (s : String) : escapeValue true s ≠ [] := by
  unfold escapeValue
  by_cases hs : s.isEmpty = true
  · rw [if_pos ⟨rfl, hs⟩]
    simp
  · rw [if_neg (fun h => hs h.2)]
    split
    · rename_i hnil
      exact absurd (String.isEmpty_iff.mpr (String.toList_eq_nil_iff.mp hnil)) hs
    · exact List.append_ne_nil_of_left_ne_nil (escapeChar_ne_nil _ _ _) _

/-! ## Reading typed text -/

/-- A multi value written with the prefix of its type reads back as its values. -/
theorem decodeTyped_multi (t : PropertyType) (ts : List String) :
    decodeTyped (String.ofList (typePrefix t ++
        ('[' :: List.intercalate [','] (ts.map (escapeValue true)) ++ [']']))) =
      .ok { type := t, multi := true, values := ts } := by
  unfold decodeTyped
  rw [String.toList_ofList, splitTypePrefix_typePrefix t (by simp)]
  simp only [List.cons_append, List.getLast?_concat, List.dropLast_concat]
  cases ts with
  | nil => rfl
  | cons t' ts =>
    have hne : List.intercalate [','] ((t' :: ts).map (escapeValue true)) ≠ [] := by
      rw [List.map_cons]
      cases ts with
      | nil =>
        rw [List.map_nil, List.intercalate_singleton]
        exact escapeValue_multi_ne_nil t'
      | cons t'' ts =>
        rw [List.map_cons, List.intercalate_cons_cons]
        simp
    have hinner : (String.ofList (List.intercalate [','] ((t' :: ts).map
        (escapeValue true)))).isEmpty = false := by
      rw [Bool.eq_false_iff, ne_eq, String.isEmpty_iff, ← String.toList_inj,
        String.toList_ofList]
      exact hne
    simp only [hinner, Bool.false_eq_true, if_false, unescapeText, String.toList_ofList,
      unescapeLoop_intercalate _ _ (List.cons_ne_nil _ _), List.reverse_nil, List.nil_append]
    rfl

/-- A single value written with the prefix of its type reads back as that value. -/
theorem decodeTyped_single (t : PropertyType) (s : String) :
    decodeTyped (String.ofList (typePrefix t ++ escapeValue false s)) =
      .ok { type := t, multi := false, values := [s] } := by
  obtain ⟨hbrace, hbracket⟩ := head?_escapeValue_single s
  unfold decodeTyped
  rw [String.toList_ofList, splitTypePrefix_typePrefix t hbrace]
  dsimp only
  have hread : unescapeText (String.ofList (escapeValue false s)) false = .ok [s] := by
    have h := unescapeLoop_escapeValue (String.ofList (escapeValue false s)) false s [] [] []
    rw [List.append_nil, List.append_nil] at h
    rw [unescapeText, String.toList_ofList, h, unescapeLoop.eq_1, List.reverse_reverse,
      String.ofList_toList]
    rfl
  split
  · rename_i body hb
    rw [hb] at hbracket
    simp at hbracket
  · simp only [hread]
    rfl

/-- A property whose single value, if it is single-valued, is its only value reads back as its
type, its multiplicity and the texts of its values. -/
theorem decodeTyped_formatProperty (p : Property) (hsingle : p.multi = false → p.values.length = 1) :
    decodeTyped (formatProperty p) =
      .ok { type := p.type, multi := p.multi, values := p.valueTexts } := by
  cases hm : p.multi with
  | true =>
    have h : formatProperty p = String.ofList (typePrefix p.type ++
        ('[' :: List.intercalate [','] (p.valueTexts.map (escapeValue true)) ++ [']'])) := by
      simp only [formatProperty, hm, if_true, Property.valueTexts, List.map_map]
      rfl
    rw [h, decodeTyped_multi]
  | false =>
    obtain ⟨v, hv⟩ := List.length_eq_one_iff.mp (hsingle hm)
    have h : formatProperty p = String.ofList (typePrefix p.type ++ escapeValue false v.text) := by
      simp only [formatProperty, hm, hv, Bool.false_eq_true, if_false]
      rfl
    rw [h, decodeTyped_single, Property.valueTexts, hv]
    rfl

end ContentSync
