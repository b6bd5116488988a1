import ContentSync.Proofs.NearestDouble

/-!
# The text of a double reads back

A double is written positionally from its shortest digits (`Binary64.toPositional`): the
digits with a point inside, or after `0.` and zeros, or followed by zeros, and a minus sign
when negative; the specials are `NaN`, `inf` and `-inf`, a zero `0` or `-0`.

Main statement: `readBinary64_toPositional`, reading that text gives the double back, every NaN
as the quiet NaN without sign. The numeral read has the value of the shortest digits
(`readUnsignedNumeral_positional`), which lies in the double's rounding interval, and reading
rounds to the nearest double.
-/

namespace ContentSync.Number

/-- The value of digits read from the left is the core library's. -/
theorem digitsValue_eq (acc : ℕ) (cs : List Char) : digitsValue acc cs = Nat.ofDigitChars 10 cs acc := by
  induction cs generalizing acc with
  | nil => rw [digitsValue, List.foldl_nil, Nat.ofDigitChars_nil]
  | cons c cs ih =>
    have h : acc * 10 + (c.toNat - 48) = 10 * acc + (c.toNat - '0'.toNat) := by
      rw [show '0'.toNat = 48 from rfl]
      omega
    rw [digitsValue, List.foldl_cons, ← digitsValue, ih, Nat.ofDigitChars_cons, h]

/-- The decimal digits of a number are ASCII digits. -/
theorem isAsciiDigit_of_mem_toDigits {n : ℕ} {c : Char} (hc : c ∈ Nat.toDigits 10 n) :
    isAsciiDigit c = true := by
  have := Nat.isDigit_of_mem_toDigits (by norm_num) (by norm_num) hc
  simp only [Char.isDigit, Bool.and_eq_true, decide_eq_true_eq] at this
  simp only [isAsciiDigit, decide_eq_true_eq, Char.le_def]
  exact ⟨this.1, this.2⟩

/-- A run of digits followed by what is no digit is split off whole. -/
theorem whileDigits_append {ds : List Char} (rest : List Char)
    (hds : ∀ c ∈ ds, isAsciiDigit c = true) (hrest : ∀ c ∈ rest.head?, isAsciiDigit c = false) :
    (ds ++ rest).takeWhile isAsciiDigit = ds ∧ (ds ++ rest).dropWhile isAsciiDigit = rest := by
  induction ds with
  | nil =>
    cases rest with
    | nil => exact ⟨rfl, rfl⟩
    | cons c rest =>
      have hc := hrest c rfl
      simp [hc]
  | cons c ds ih =>
    have hc := hds c List.mem_cons_self
    obtain ⟨h1, h2⟩ := ih (fun c hc => hds c (List.mem_cons_of_mem _ hc))
    simp [hc, h1, h2]

/-- A numeral with a point: the digits on both sides make the mantissa, those after the point
the negative scale. -/
theorem readUnsignedNumeral_point {whole frac : List Char}
    (hw : ∀ c ∈ whole, isAsciiDigit c = true) (hf : ∀ c ∈ frac, isAsciiDigit c = true)
    (hne : whole ≠ []) :
    readUnsignedNumeral (whole ++ '.' :: frac) =
      some (Nat.ofDigitChars 10 (whole ++ frac) 0, -(frac.length : ℤ)) := by
  obtain ⟨w1, w2⟩ := whileDigits_append ('.' :: frac) hw (by simp; rfl)
  obtain ⟨f1, f2⟩ := whileDigits_append [] hf (by simp)
  rw [List.append_nil] at f1 f2
  unfold readUnsignedNumeral
  simp only [w1, w2, f1, f2, digitsValue_eq]
  have : whole.isEmpty = false := List.isEmpty_eq_false_iff.mpr hne
  simp [this]

/-- A numeral without a point: all its digits make the mantissa, at scale zero. -/
theorem readUnsignedNumeral_whole {whole : List Char}
    (hw : ∀ c ∈ whole, isAsciiDigit c = true) (hne : whole ≠ []) :
    readUnsignedNumeral whole = some (Nat.ofDigitChars 10 whole 0, 0) := by
  obtain ⟨w1, w2⟩ := whileDigits_append [] hw (by simp)
  rw [List.append_nil] at w1 w2
  unfold readUnsignedNumeral
  simp only [w1, w2, digitsValue_eq]
  have : whole.isEmpty = false := List.isEmpty_eq_false_iff.mpr hne
  simp [this]

/-- The positional text of `d * 10 ^ e` reads back as a numeral of that value. -/
theorem readUnsignedNumeral_positional (d : ℕ) (e : ℤ) :
    ∃ mantissa scale, readUnsignedNumeral (positional d e).toList = some (mantissa, scale) ∧
      (mantissa : ℚ) * 10 ^ scale = d * 10 ^ e ∧ (0 < d → 0 < mantissa) := by
  have hdig : ∀ c ∈ Nat.toDigits 10 d, isAsciiDigit c = true :=
    fun c hc => isAsciiDigit_of_mem_toDigits hc
  have hval : Nat.ofDigitChars 10 (Nat.toDigits 10 d) 0 = d := Nat.ofDigitChars_ten_toDigits
  have hne : Nat.toDigits 10 d ≠ [] := Nat.toDigits_ne_nil
  generalize hs : Nat.toDigits 10 d = s at hdig hval hne
  unfold positional
  simp only [hs]
  split_ifs with h1 h2 <;> rw [String.toList_ofList]
  · -- a zero, the point, zeros, then all the digits
    refine ⟨d, e, ?_, rfl, id⟩
    have hk : ((-((s.length : ℤ) + e)).toNat : ℤ) = -((s.length : ℤ) + e) := by omega
    generalize (-((s.length : ℤ) + e)).toNat = k at hk
    have hw : ∀ c ∈ ['0'], isAsciiDigit c = true := by simp [isAsciiDigit]
    have hf : ∀ c ∈ List.replicate k '0' ++ s, isAsciiDigit c = true := by
      intro c hc
      rcases List.mem_append.mp hc with hc | hc
      · rw [List.eq_of_mem_replicate hc]; rfl
      · exact hdig c hc
    rw [show '0' :: '.' :: List.replicate k '0' ++ s =
        ['0'] ++ '.' :: (List.replicate k '0' ++ s) from rfl,
      readUnsignedNumeral_point hw hf (List.cons_ne_nil _ _), List.length_append,
      List.length_replicate, ← List.append_assoc, Nat.ofDigitChars_append,
      show ['0'] ++ List.replicate k '0' = List.replicate (k + 1) '0' from rfl,
      Nat.ofDigitChars_replicate_zero, Nat.mul_zero, hval]
    congr 2
    omega
  · -- the point inside the digits
    refine ⟨d, e, ?_, rfl, id⟩
    have hw : ∀ c ∈ s.take ((s.length : ℤ) + e).toNat, isAsciiDigit c = true :=
      fun c hc => hdig c (List.mem_of_mem_take hc)
    have hf : ∀ c ∈ s.drop ((s.length : ℤ) + e).toNat, isAsciiDigit c = true :=
      fun c hc => hdig c (List.mem_of_mem_drop hc)
    have hne' : s.take ((s.length : ℤ) + e).toNat ≠ [] := by
      simp only [ne_eq, List.take_eq_nil_iff, not_or]
      exact ⟨by omega, hne⟩
    rw [readUnsignedNumeral_point hw hf hne', List.take_append_drop, hval, List.length_drop]
    congr 2
    omega
  · -- all the digits, then zeros
    have hw : ∀ c ∈ s ++ List.replicate e.toNat '0', isAsciiDigit c = true := by
      intro c hc
      rcases List.mem_append.mp hc with hc | hc
      · exact hdig c hc
      · rw [List.eq_of_mem_replicate hc]; rfl
    refine ⟨d * 10 ^ e.toNat, 0, ?_, ?_, fun hd => Nat.mul_pos hd (Nat.pow_pos (by norm_num))⟩
    · rw [readUnsignedNumeral_whole hw (by simp [hne]), Nat.ofDigitChars_append,
        Nat.ofDigitChars_replicate_zero, hval, Nat.mul_comm]
    · have he : e = (e.toNat : ℤ) := by omega
      rw [zpow_zero, mul_one, he, zpow_natCast, Int.toNat_natCast]
      push_cast
      ring

/-- Positional text starts with a digit. -/
theorem positional_head (d : ℕ) (e : ℤ) :
    ∃ c rest, (positional d e).toList = c :: rest ∧ isAsciiDigit c = true := by
  have hdig : ∀ c ∈ Nat.toDigits 10 d, isAsciiDigit c = true :=
    fun c hc => isAsciiDigit_of_mem_toDigits hc
  obtain ⟨c, s, hs⟩ := List.exists_cons_of_ne_nil (Nat.toDigits_ne_nil (n := d) (b := 10))
  have hc : isAsciiDigit c = true := hdig c (hs ▸ List.mem_cons_self)
  unfold positional
  simp only [hs]
  split_ifs with h1 h2 <;> rw [String.toList_ofList]
  · exact ⟨'0', _, rfl, rfl⟩
  · simp only [List.length_cons] at h1 h2 ⊢
    rw [show (((s.length + 1 : ℕ) : ℤ) + e).toNat = (((s.length + 1 : ℕ) : ℤ) + e).toNat - 1 + 1
      by omega, List.take_succ_cons]
    exact ⟨c, _, rfl, hc⟩
  · exact ⟨c, _, rfl, hc⟩

/-- A numeral that starts with a digit, with or without a minus sign before it, reads as the
double nearest its value. -/
theorem readBinary64_numeral (neg : Bool) {c : Char} {rest : List Char} (hc : isAsciiDigit c = true)
    {mantissa : ℕ} {scale : ℤ} (h : readUnsignedNumeral (c :: rest) = some (mantissa, scale)) :
    readBinary64 (String.ofList ((if neg then ['-'] else []) ++ c :: rest)) =
      .ok (Binary64.ofDecimal neg mantissa scale) := by
  have hplus : c ≠ '+' := by rintro rfl; exact absurd hc (by decide)
  have hminus : c ≠ '-' := by rintro rfl; exact absurd hc (by decide)
  unfold readBinary64
  cases neg
  · simp [hplus, hminus, h]
  · simp [h]

/-- A sign written before a text, as characters. -/
theorem sign_append (neg : Bool) (t : String) :
    (if neg then "-" else "") ++ t = String.ofList ((if neg then ['-'] else []) ++ t.toList) := by
  apply String.toList_injective
  cases neg <;> simp

namespace Binary64

/-- An infinity is the infinity of its sign. -/
theorem eq_infinity {x : Binary64} (h : x.isInfinite = true) : x = infinity x.negative := by
  simp only [isInfinite, decide_eq_true_eq] at h
  conv_lhs => rw [← assemble_fields x, h.1, h.2]
  rfl

/-- A zero is the zero of its sign. -/
theorem eq_zero {x : Binary64} (h : x.isZero = true) : x = zero x.negative := by
  simp only [isZero, decide_eq_true_eq] at h
  conv_lhs => rw [← assemble_fields x, h.1, h.2]
  rfl

end Binary64

/-- Reading the positional text of a double gives the double back, except that every NaN
comes back as the quiet NaN without sign: the text of a NaN carries neither. -/
theorem readBinary64_toPositional (x : Binary64) :
    readBinary64 x.toPositional = .ok (if x.isNaN then Binary64.nan false else x) := by
  unfold Binary64.toPositional
  by_cases hnan : x.isNaN = true
  · rw [if_pos hnan, if_pos hnan]
    rfl
  rw [if_neg hnan, if_neg hnan]
  dsimp only
  by_cases hinf : x.isInfinite = true
  · rw [if_pos hinf]
    conv_rhs => rw [Binary64.eq_infinity hinf]
    cases x.negative <;> rfl
  rw [if_neg hinf]
  by_cases hzero : x.isZero = true
  · rw [if_pos hzero]
    conv_rhs => rw [Binary64.eq_zero hzero]
    rw [sign_append, show "0".toList = ['0'] from rfl,
      @readBinary64_numeral _ '0' [] rfl 0 0 rfl]
    rfl
  rw [if_neg hzero]
  have hx : x.IsFiniteNonzero := by
    simp only [Bool.not_eq_true] at hnan hinf hzero
    exact ⟨hnan, hinf, hzero⟩
  have hmem := shortestDigits_mem hx
  rcases hsd : shortestDigits x with ⟨d, e⟩
  rw [hsd] at hmem
  dsimp only at hmem ⊢
  obtain ⟨mantissa, scale, hread, hval, hpos⟩ := readUnsignedNumeral_positional d e
  obtain ⟨c, rest, hcs, hc⟩ := positional_head d e
  have hd : 0 < d := by
    have := (Binary64.inRoundingInterval_range hx hmem).1
    by_contra h0
    rw [Nat.eq_zero_of_not_pos h0, Nat.cast_zero, zero_mul] at this
    exact absurd this (not_lt.mpr (by positivity))
  have hmem' : InRoundingInterval x.significand.1 x.significand.2 x.lowerTight
      (mantissa * 10 ^ scale) := by
    rw [hval]
    exact hmem
  rw [hcs] at hread
  rw [sign_append, hcs, readBinary64_numeral _ hc hread,
    Binary64.ofDecimal_of_mem hx (hpos hd) hmem']

end ContentSync.Number
