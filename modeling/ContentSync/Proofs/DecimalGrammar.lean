import ContentSync.Number.Decimal
import ContentSync.Value

/-!
# Decimal numerals as a grammar

`isDecimalNumeral` takes a text apart by successive splits: one leading sign, the first
exponent mark, the first point, with an emptiness and a digit condition on each part. This
module states the numerals it accepts as the grammar

  `[+-]?(D+(\.D*)?|\.D+)([eE][+-]?D+)?`, with `D` an ASCII digit,

and proves that the splits accept exactly its words. A DECIMAL value is therefore read from a
text exactly when the trimmed text is such a numeral, and it keeps that trimmed text.

Main statements: `isDecimalNumeral_iff`, `read_decimal_eq_ok_iff`.
-/

namespace ContentSync.Number

/-! ## The grammar -/

/-- Every character is an ASCII digit (`D*`). -/
def AsciiDigits (cs : List Char) : Prop := ∀ c ∈ cs, '0' ≤ c ∧ c ≤ '9'

/-- At most one sign (`[+-]?`). -/
def OptionalSign (s : List Char) : Prop := s = [] ∨ s = ['+'] ∨ s = ['-']

/-- The mantissa `D+(\.D*)?|\.D+`: digits with an optional point and fraction after them, or a
point and digits. -/
inductive Mantissa : List Char → Prop
  | whole {w : List Char} : w ≠ [] → AsciiDigits w → Mantissa w
  | pointed {w f : List Char} : w ≠ [] → AsciiDigits w → AsciiDigits f → Mantissa (w ++ '.' :: f)
  | fraction {f : List Char} : f ≠ [] → AsciiDigits f → Mantissa ('.' :: f)

/-- The optional exponent `([eE][+-]?D+)?`. -/
inductive ExponentPart : List Char → Prop
  | absent : ExponentPart []
  | present {m : Char} {s d : List Char} : (m = 'e' ∨ m = 'E') → OptionalSign s → d ≠ [] →
      AsciiDigits d → ExponentPart (m :: (s ++ d))

/-- A decimal numeral: a sign, a mantissa and an exponent, each as the grammar says. -/
def DecimalShape (cs : List Char) : Prop :=
  ∃ s m e, cs = s ++ m ++ e ∧ OptionalSign s ∧ Mantissa m ∧ ExponentPart e

/-! ## The checks of `isDecimalNumeral`, one part at a time -/

/-- The character that starts the exponent. -/
@[reducible] def isExponentMark (c : Char) : Bool := c = 'e' || c = 'E'

/-- The mantissa check: split at the first point, digits on both sides, not both empty. -/
def mantissaOk (m : List Char) : Bool :=
  let parts := splitAtFirst (· = '.') m
  let frac := parts.2.getD []
  !(parts.1.isEmpty && frac.isEmpty) && allAsciiDigits parts.1 && allAsciiDigits frac

/-- The exponent check: no exponent, or one sign at most and at least one digit. -/
def exponentOk (exponent : Option (List Char)) : Bool :=
  exponent.all fun e => !(dropSign e).isEmpty && allAsciiDigits (dropSign e)

/-- The numeral check is the mantissa check and the exponent check on the two sides of the
first exponent mark, once a sign is dropped. -/
theorem isDecimalNumeral_eq (s : String) :
    isDecimalNumeral s =
      (mantissaOk (splitAtFirst isExponentMark (dropSign s.toList)).1 &&
        exponentOk (splitAtFirst isExponentMark (dropSign s.toList)).2) := by
  unfold isDecimalNumeral
  dsimp only
  rcases splitAtFirst isExponentMark (dropSign s.toList) with ⟨mantissa, _ | e⟩ <;> rfl

@[simp] theorem asciiDigits_nil : AsciiDigits [] := fun _ h => absurd h List.not_mem_nil

@[simp] theorem allAsciiDigits_iff (cs : List Char) :
    allAsciiDigits cs = true ↔ AsciiDigits cs := by
  simp [allAsciiDigits, AsciiDigits]

/-! ## Characters of the grammar -/

/-- A digit is none of the other characters the grammar names. -/
theorem ne_of_asciiDigit {c : Char} (h : '0' ≤ c ∧ c ≤ '9') :
    c ≠ '.' ∧ c ≠ 'e' ∧ c ≠ 'E' ∧ c ≠ '+' ∧ c ≠ '-' := by
  obtain ⟨h0, h9⟩ := h
  refine ⟨?_, ?_, ?_, ?_, ?_⟩ <;> rintro rfl <;> revert h0 h9 <;> decide

/-- A mantissa holds digits and points only. -/
theorem Mantissa.mem {m : List Char} (hm : Mantissa m) :
    ∀ c ∈ m, ('0' ≤ c ∧ c ≤ '9') ∨ c = '.' := by
  intro c hc
  cases hm with
  | whole _ hw => exact .inl (hw c hc)
  | pointed _ hw hf =>
    rcases List.mem_append.mp hc with hc | hc
    · exact .inl (hw c hc)
    · rcases List.mem_cons.mp hc with rfl | hc
      · exact .inr rfl
      · exact .inl (hf c hc)
  | fraction _ hf =>
    rcases List.mem_cons.mp hc with rfl | hc
    · exact .inr rfl
    · exact .inl (hf c hc)

theorem Mantissa.ne_nil {m : List Char} (hm : Mantissa m) : m ≠ [] := by
  cases hm with
  | whole hw _ => exact hw
  | pointed => simp
  | fraction => simp

/-- No exponent mark stands in a mantissa. -/
theorem Mantissa.not_exponentMark {m : List Char} (hm : Mantissa m) :
    ∀ c ∈ m, isExponentMark c = false := by
  intro c hc
  rcases hm.mem c hc with hd | rfl
  · obtain ⟨-, he, hE, -, -⟩ := ne_of_asciiDigit hd
    simp [isExponentMark, he, hE]
  · decide

/-! ## Splitting at the first match -/

/-- A text with no match is not split. -/
theorem splitAtFirst_of_forall {p : Char → Bool} {cs : List Char}
    (h : ∀ c ∈ cs, p c = false) : splitAtFirst p cs = (cs, none) := by
  simp [splitAtFirst, List.findIdx?_eq_none_iff.mpr h]

/-- A text is split at its first match. -/
theorem splitAtFirst_append_cons {p : Char → Bool} {a b : List Char} {c : Char}
    (ha : ∀ x ∈ a, p x = false) (hc : p c = true) : splitAtFirst p (a ++ c :: b) = (a, some b) := by
  have hidx : (a ++ c :: b).findIdx? p = some a.length := by
    rw [List.findIdx?_append, List.findIdx?_eq_none_iff.mpr ha, List.findIdx?_cons, if_pos hc]
    simp
  simp [splitAtFirst, hidx]

theorem splitAtFirst_of_find?_none {p : Char → Bool} {cs : List Char}
    (h : cs.find? p = none) : splitAtFirst p cs = (cs, none) :=
  splitAtFirst_of_forall fun c hc => by simpa using List.find?_eq_none.mp h c hc

/-! ## Signs -/

/-- Dropping the sign takes off at most one `+` or `-`. -/
theorem dropSign_spec (cs : List Char) : ∃ s, OptionalSign s ∧ cs = s ++ dropSign cs := by
  unfold dropSign
  split
  · exact ⟨['+'], .inr (.inl rfl), rfl⟩
  · exact ⟨['-'], .inr (.inr rfl), rfl⟩
  · exact ⟨[], .inl rfl, rfl⟩

/-- After an optional sign, a text that starts with neither sign is what remains. -/
theorem dropSign_append {s rest : List Char} (hs : OptionalSign s)
    (hr : ∀ c ∈ rest.head?, c ≠ '+' ∧ c ≠ '-') : dropSign (s ++ rest) = rest := by
  rcases hs with rfl | rfl | rfl
  · cases rest with
    | nil => rfl
    | cons c cs =>
      obtain ⟨hp, hm⟩ := hr c rfl
      unfold dropSign
      split <;> simp_all
  · rfl
  · rfl

/-- Digits after a sign survive `dropSign`. -/
theorem dropSign_append_digits {s d : List Char} (hs : OptionalSign s) (hd : AsciiDigits d) :
    dropSign (s ++ d) = d :=
  dropSign_append hs fun c hc =>
    have hdig := ne_of_asciiDigit (hd c (List.mem_of_mem_head? hc))
    ⟨hdig.2.2.2.1, hdig.2.2.2.2⟩

/-! ## Each check against its part of the grammar -/

/-- The mantissa check accepts exactly the mantissas of the grammar. -/
theorem mantissaOk_iff (m : List Char) : mantissaOk m = true ↔ Mantissa m := by
  constructor
  · intro h
    cases hfind : m.find? (· = '.') with
    | none =>
      rw [mantissaOk, splitAtFirst_of_find?_none hfind] at h
      simp only [Option.getD_none, List.isEmpty_nil, Bool.and_true, Bool.and_eq_true,
        Bool.not_eq_eq_eq_not, Bool.not_true, List.isEmpty_eq_false_iff, allAsciiDigits_iff] at h
      exact .whole h.1.1 h.1.2
    | some c =>
      obtain ⟨hc, w, f, rfl, hw⟩ := List.find?_eq_some_iff_append.mp hfind
      obtain rfl : c = '.' := by simpa using hc
      rw [mantissaOk, splitAtFirst_append_cons (fun x hx => by simpa using hw x hx) hc] at h
      simp only [Option.getD_some, Bool.and_eq_true, Bool.not_eq_eq_eq_not, Bool.not_true,
        allAsciiDigits_iff] at h
      obtain ⟨⟨hne, hdw⟩, hdf⟩ := h
      by_cases hnil : w = []
      · subst hnil
        exact .fraction (by simpa using hne) hdf
      · exact .pointed hnil hdw hdf
  · intro hm
    have hpoint : ∀ {w : List Char}, AsciiDigits w → ∀ x ∈ w, decide (x = '.') = false :=
      fun hw x hx => decide_eq_false (ne_of_asciiDigit (hw x hx)).1
    cases hm with
    | whole hne hw =>
      rw [mantissaOk, splitAtFirst_of_forall (hpoint hw)]
      simpa [hne] using hw
    | pointed hne hw hf =>
      rw [mantissaOk, splitAtFirst_append_cons (hpoint hw) (decide_eq_true rfl)]
      simpa [hne] using ⟨hw, hf⟩
    | fraction hne hf =>
      rw [mantissaOk, ← List.nil_append ('.' :: _),
        splitAtFirst_append_cons (fun _ h => absurd h List.not_mem_nil) (decide_eq_true rfl)]
      simpa [hne] using hf

/-- After an exponent mark, the exponent check accepts exactly the exponents of the grammar. -/
theorem exponentOk_some_iff {c : Char} (hc : isExponentMark c = true) (e : List Char) :
    exponentOk (some e) = true ↔ ExponentPart (c :: e) := by
  have hmark : c = 'e' ∨ c = 'E' := by simpa [isExponentMark] using hc
  simp only [exponentOk, Option.all_some, Bool.and_eq_true, Bool.not_eq_eq_eq_not, Bool.not_true,
    List.isEmpty_eq_false_iff, allAsciiDigits_iff]
  constructor
  · rintro ⟨hne, hd⟩
    obtain ⟨s, hs, he⟩ := dropSign_spec e
    rw [he]
    exact .present hmark hs hne hd
  · intro h
    cases h with
    | present _ hs hne hd => rw [dropSign_append_digits hs hd]; exact ⟨hne, hd⟩

/-! ## The whole numeral -/

/-- The numeral check accepts exactly the words of the grammar. -/
theorem isDecimalNumeral_iff (s : String) : isDecimalNumeral s = true ↔ DecimalShape s.toList := by
  rw [isDecimalNumeral_eq, Bool.and_eq_true]
  constructor
  · rintro ⟨hm, he⟩
    obtain ⟨sg, hsg, hcs⟩ := dropSign_spec s.toList
    cases hfind : (dropSign s.toList).find? isExponentMark with
    | none =>
      rw [splitAtFirst_of_find?_none hfind] at hm
      exact ⟨sg, dropSign s.toList, [], by rw [List.append_nil]; exact hcs, hsg,
        (mantissaOk_iff _).mp hm, .absent⟩
    | some c =>
      obtain ⟨hc, a, b, hab, ha⟩ := List.find?_eq_some_iff_append.mp hfind
      have hsplit := splitAtFirst_append_cons (b := b) (fun x hx => by simpa using ha x hx) hc
      rw [hab, hsplit] at hm he
      refine ⟨sg, a, c :: b, by rw [hcs, hab, List.append_assoc], hsg, (mantissaOk_iff a).mp hm,
        (exponentOk_some_iff hc b).mp he⟩
  · rintro ⟨sg, m, e, hcs, hsg, hm, he⟩
    -- a mantissa starts with a digit or a point, so the sign check leaves it alone
    have hhead : ∀ c ∈ (m ++ e).head?, c ≠ '+' ∧ c ≠ '-' := by
      intro c hc
      obtain ⟨x, xs, hx⟩ := List.exists_cons_of_ne_nil hm.ne_nil
      rw [hx, List.cons_append, List.head?_cons, Option.mem_some_iff] at hc
      subst hc
      rcases hm.mem x (hx ▸ List.mem_cons_self) with hd | rfl
      · exact ⟨(ne_of_asciiDigit hd).2.2.2.1, (ne_of_asciiDigit hd).2.2.2.2⟩
      · decide
    rw [hcs, List.append_assoc, dropSign_append hsg hhead]
    cases he with
    | absent =>
      rw [List.append_nil, splitAtFirst_of_forall hm.not_exponentMark]
      exact ⟨(mantissaOk_iff m).mpr hm, rfl⟩
    | @present mark _ _ hmark hs hne hd =>
      have hc : isExponentMark mark = true := by rcases hmark with rfl | rfl <;> rfl
      rw [splitAtFirst_append_cons hm.not_exponentMark hc]
      exact ⟨(mantissaOk_iff m).mpr hm, (exponentOk_some_iff hc _).mpr (.present hmark hs hne hd)⟩

example : ¬ DecimalShape "+.e1".toList := by
  rw [← isDecimalNumeral_iff]
  decide

end ContentSync.Number

namespace ContentSync.Value

/-- A DECIMAL value is read exactly from a text whose trimmed form is a decimal numeral, and
it keeps that trimmed text as written. -/
theorem read_decimal_eq_ok_iff {t : String} {v : Value} :
    read .decimal t = .ok v ↔
      Number.DecimalShape (Text.trimWhiteSpace t).toList ∧ v = .decimal (Text.trimWhiteSpace t) := by
  rw [← Number.isDecimalNumeral_iff]
  simp only [read]
  split
  · rename_i h
    simp only [Except.ok.injEq, h, true_and]
    exact eq_comm
  · rename_i h
    simp [h]

end ContentSync.Value

namespace ContentSync

/-- The DECIMAL check accepts exactly the numerals of the grammar; a DECIMAL value is read
exactly from a text that is such a numeral once trimmed, and keeps the trimmed text. -/
theorem decimal_values_are_numerals (s t : String) (v : Value) :
    (Number.isDecimalNumeral s = true ↔ Number.DecimalShape s.toList) ∧
      (Value.read .decimal t = .ok v ↔
        Number.DecimalShape (Text.trimWhiteSpace t).toList ∧
          v = .decimal (Text.trimWhiteSpace t)) :=
  ⟨Number.isDecimalNumeral_iff s, Value.read_decimal_eq_ok_iff⟩

end ContentSync
