import ContentSync.Proofs.ShortestDigits

/-!
# Reading a decimal rounds to the nearest double

`Binary64.ofRatio` scales a positive ratio by a power of two into the binade `[2 ^ 52, 2 ^ 53)`,
rounds it to the nearest natural (a tie to the even one) and assembles the fields of the
double, with a subnormal branch below the normal range and an infinity above it.
`Binary64.ofDecimal` feeds it `digits * 10 ^ exp10` as a ratio of naturals, after cutting off
what is surely infinite or zero.

Main statements: `Binary64.ofRatio_of_mem` and `Binary64.ofDecimal_of_mem`, a value in the
rounding interval of a finite non-zero double reads as that double. The scaling is the one
power that puts the ratio into the binade (`binadeExponent_fits`, `binade_unique`), and
rounding inverts the interval (`roundRatio_eq`).
-/

namespace ContentSync.Number

namespace Binary64

/-- The pair `scaleRatio` returns is the ratio times `2 ^ k`. -/
theorem scaleRatio_div (num den : ℕ) (k : ℤ) :
    ((scaleRatio num den k).1 : ℚ) / (scaleRatio num den k).2 = num / den * 2 ^ k := by
  unfold Binary64.scaleRatio
  split
  · rename_i hk
    rw [Nat.cast_mul, pow_toNat_cast hk, Nat.cast_ofNat]
    ring
  · rename_i hk
    rw [Nat.cast_mul, pow_toNat_cast (by omega), Nat.cast_ofNat, zpow_neg, div_mul_eq_div_div,
      div_inv_eq_mul]

/-- The denominator `scaleRatio` returns stays positive. -/
theorem scaleRatio_snd_pos {num den : ℕ} (hden : 0 < den) (k : ℤ) :
    0 < (scaleRatio num den k).2 := by
  unfold Binary64.scaleRatio
  split
  · exact hden
  · exact Nat.mul_pos hden (Nat.pow_pos (by norm_num))

/-- Whether `num / den * 2 ^ k` lies in `[2 ^ 52, 2 ^ 53)`: the test `ofRatio` makes. -/
def binadeFits (num den : ℕ) (k : ℤ) : Bool :=
  let (a, b) := scaleRatio num den k
  Nat.pow 2 52 * b ≤ a ∧ a < Nat.pow 2 53 * b

/-- The power of two `ofRatio` scales by: from the binary sizes, checked, one step up if not. -/
def binadeExponent (num den : ℕ) : ℤ :=
  let k0 : Int := 52 - ((bitLength num : Int) - bitLength den)
  if binadeFits num den k0 then k0 else if binadeFits num den (k0 + 1) then k0 + 1 else k0 - 1

/-- The double `ofRatio` builds once the scaling `k` is chosen. -/
def ofRatioAt (neg : Bool) (num den : ℕ) (k : ℤ) : Binary64 :=
  if -k < -1074 then
    let (a, b) := scaleRatio num den 1074
    let m := roundRatio a b
    if m ≥ Nat.pow 2 52 then assemble neg 1 (m - Nat.pow 2 52) else assemble neg 0 m
  else
    let (a, b) := scaleRatio num den k
    let m := roundRatio a b
    let (m, q) := if m = Nat.pow 2 53 then (Nat.pow 2 52, -k + 1) else (m, -k)
    let field := q + 1075
    if field ≥ 2047 then infinity neg
    else assemble neg field.toNat (m - Nat.pow 2 52)

/-- `ofRatio` as the choice of the scaling and the rounding at it. -/
theorem ofRatio_eq (neg : Bool) (num den : ℕ) :
    ofRatio neg num den =
      if num = 0 then zero neg else ofRatioAt neg num den (binadeExponent num den) := by
  unfold ofRatio ofRatioAt binadeExponent binadeFits
  rfl

/-- The binade test holds exactly when the scaled ratio lies in `[2 ^ 52, 2 ^ 53)`. -/
theorem binadeFits_iff {num den : ℕ} (hden : 0 < den) (k : ℤ) :
    binadeFits num den k = true ↔
      2 ^ 52 ≤ (num / den : ℚ) * 2 ^ k ∧ (num / den : ℚ) * 2 ^ k < 2 ^ 53 := by
  have hdiv := scaleRatio_div num den k
  have hpos : (0 : ℚ) < (scaleRatio num den k).2 := by exact_mod_cast scaleRatio_snd_pos hden k
  unfold binadeFits
  generalize scaleRatio num den k = p at hdiv hpos ⊢
  obtain ⟨a, b⟩ := p
  dsimp only at hdiv hpos ⊢
  rw [← hdiv, le_div_iff₀ hpos, div_lt_iff₀ hpos, decide_eq_true_iff, Nat.pow_eq, Nat.pow_eq]
  exact_mod_cast Iff.rfl

/-- At most one power of two scales a ratio into `[2 ^ 52, 2 ^ 53)`. -/
theorem binade_unique {R : ℚ} {k k' : ℤ} (h : 2 ^ 52 ≤ R * 2 ^ k ∧ R * 2 ^ k < 2 ^ 53)
    (h' : 2 ^ 52 ≤ R * 2 ^ k' ∧ R * 2 ^ k' < 2 ^ 53) : k = k' := by
  -- one power more doubles the scaled ratio, past the binade
  have step : ∀ {i j : ℤ}, 2 ^ 52 ≤ R * 2 ^ i → R * 2 ^ j < 2 ^ 53 → j ≤ i := by
    intro i j hi hj
    by_contra hlt
    have hR : 0 < R := by
      by_contra hR
      have : R * 2 ^ i ≤ 0 := mul_nonpos_of_nonpos_of_nonneg (not_lt.mp hR) (by positivity)
      linarith
    have hpow : (2 : ℚ) ^ (i + 1) ≤ 2 ^ j := zpow_le_zpow_right₀ (by norm_num) (by omega)
    rw [zpow_add_one₀ (by norm_num)] at hpow
    nlinarith
  exact le_antisymm (step h'.1 h.2) (step h.1 h'.2)

/-- The power `ofRatio` scales by puts a positive ratio into `[2 ^ 52, 2 ^ 53)`: the binary
sizes place it in `(2 ^ 51, 2 ^ 53)`, and one step up lifts what falls short. -/
theorem binadeExponent_fits {num den : ℕ} (hnum : 0 < num) (hden : 0 < den) :
    binadeFits num den (binadeExponent num den) = true := by
  have hlen : ∀ n : ℕ, 0 < n → (bitLength n : ℤ) = n.log2 + 1 := by
    intro n hn
    simp [bitLength, hn.ne']
  -- the sizes bound the ratio by powers of two
  have hnum1 : (2 : ℚ) ^ num.log2 ≤ num := by exact_mod_cast Nat.log2_self_le hnum.ne'
  have hnum2 : (num : ℚ) < 2 ^ (num.log2 + 1) := by exact_mod_cast Nat.lt_log2_self
  have hden1 : (2 : ℚ) ^ den.log2 ≤ den := by exact_mod_cast Nat.log2_self_le hden.ne'
  have hden2 : (den : ℚ) < 2 ^ (den.log2 + 1) := by exact_mod_cast Nat.lt_log2_self
  have hk0 : (52 : ℤ) - ((bitLength num : ℤ) - bitLength den) = 52 + den.log2 - num.log2 := by
    rw [hlen num hnum, hlen den hden]
    ring
  have hscale : (num / den : ℚ) * 2 ^ ((52 : ℤ) + den.log2 - num.log2) =
      2 ^ 52 * (num * 2 ^ den.log2) / (den * 2 ^ num.log2) := by
    rw [zpow_sub₀ (by norm_num), zpow_add₀ (by norm_num), zpow_natCast, zpow_natCast,
      zpow_ofNat]
    field_simp
  have hden' : (0 : ℚ) < den * 2 ^ num.log2 := by positivity
  have hlow : 2 ^ 51 < (num / den : ℚ) * 2 ^ ((52 : ℤ) + den.log2 - num.log2) := by
    rw [hscale, lt_div_iff₀ hden']
    have : (den : ℚ) * 2 ^ num.log2 < 2 * (num * 2 ^ den.log2) := by
      calc (den : ℚ) * 2 ^ num.log2 < 2 ^ (den.log2 + 1) * 2 ^ num.log2 := by gcongr
        _ = 2 * (2 ^ num.log2 * 2 ^ den.log2) := by ring
        _ ≤ 2 * (num * 2 ^ den.log2) := by gcongr
    linarith
  have hhigh : (num / den : ℚ) * 2 ^ ((52 : ℤ) + den.log2 - num.log2) < 2 ^ 53 := by
    rw [hscale, div_lt_iff₀ hden']
    have : (num : ℚ) * 2 ^ den.log2 < 2 * (den * 2 ^ num.log2) := by
      calc (num : ℚ) * 2 ^ den.log2 < 2 ^ (num.log2 + 1) * 2 ^ den.log2 := by gcongr
        _ = 2 * (2 ^ den.log2 * 2 ^ num.log2) := by ring
        _ ≤ 2 * (den * 2 ^ num.log2) := by gcongr
    linarith
  unfold binadeExponent
  dsimp only
  rw [hk0]
  split_ifs with h0 h1
  · exact h0
  · exact h1
  · -- short of the binade at `k0`, so one step up is inside it
    exfalso
    apply h1
    rw [binadeFits_iff hden, zpow_add_one₀ (by norm_num)]
    have : ¬ (2 ^ 52 ≤ (num / den : ℚ) * 2 ^ ((52 : ℤ) + den.log2 - num.log2)) := by
      intro hge
      exact h0 ((binadeFits_iff hden _).mpr ⟨hge, hhigh⟩)
    constructor <;> nlinarith

/-- Rounding a ratio to the nearest natural, a tie to the even one, in the terms of its
bounds: within half of `n`, and strictly so when `n` is odd. -/
theorem roundRatio_of_bounds {a b n : ℕ} (hb : 0 < b) (hlo : 2 * (n * b) ≤ 2 * a + b)
    (hhi : 2 * a ≤ 2 * (n * b) + b)
    (hodd : n % 2 = 1 → 2 * (n * b) < 2 * a + b ∧ 2 * a < 2 * (n * b) + b) :
    roundRatio a b = n := by
  have hdm : b * (a / b) + a % b = a := Nat.div_add_mod a b
  have hr := Nat.mod_lt a hb
  unfold roundRatio
  dsimp only
  generalize a / b = qq at hdm ⊢
  generalize a % b = r at hdm hr ⊢
  rw [Nat.mul_comm] at hdm
  -- the quotient is `n` or one below it
  have hqn : qq ≤ n := by
    have : qq * b < (n + 1) * b := by rw [Nat.add_mul, Nat.one_mul]; omega
    exact Nat.le_of_lt_succ (Nat.lt_of_mul_lt_mul_right this)
  have hnq : n ≤ qq + 1 := by
    have : n * b < (qq + 2) * b := by rw [Nat.add_mul]; omega
    exact Nat.le_of_lt_succ (Nat.lt_of_mul_lt_mul_right this)
  rcases Nat.eq_or_lt_of_le hqn with rfl | hlt
  · -- the quotient is `n`: the remainder is at most half
    split_ifs <;> omega
  · -- the quotient is `n - 1`: the remainder is at least half
    obtain rfl : n = qq + 1 := by omega
    rw [Nat.add_mul, Nat.one_mul] at hlo hhi hodd
    split_ifs <;> omega

/-- Rounding a ratio that lies in the rounding interval of `n` (as a significand with power
`0`) gives `n`. -/
theorem roundRatio_eq {a b n : ℕ} (hb : 0 < b) (h : InRoundingInterval n 0 false (a / b)) :
    roundRatio a b = n := by
  have hbq : (0 : ℚ) < b := by exact_mod_cast hb
  unfold InRoundingInterval at h
  simp only [Bool.false_eq_true, if_false, zpow_zero, mul_one] at h
  have cast_le : ∀ {u v : ℕ}, (u : ℚ) ≤ v → u ≤ v := fun h => by exact_mod_cast h
  have cast_lt : ∀ {u v : ℕ}, (u : ℚ) < v → u < v := fun h => by exact_mod_cast h
  split at h
  · rename_i heven
    obtain ⟨h1, h2⟩ := h
    rw [le_div_iff₀ hbq] at h1
    rw [div_le_iff₀ hbq] at h2
    refine roundRatio_of_bounds hb (cast_le ?_) (cast_le ?_) (fun hodd => by omega)
    · push_cast; linarith
    · push_cast; linarith
  · obtain ⟨h1, h2⟩ := h
    rw [lt_div_iff₀ hbq] at h1
    rw [div_lt_iff₀ hbq] at h2
    have hs1 : 2 * (n * b) < 2 * a + b := cast_lt (by push_cast; linarith)
    have hs2 : 2 * a < 2 * (n * b) + b := cast_lt (by push_cast; linarith)
    exact roundRatio_of_bounds hb hs1.le hs2.le (fun _ => ⟨hs1, hs2⟩)

/-- Rounding the scaled ratio gives the significand whose interval (at power `0`) holds it. -/
theorem roundRatio_scaleRatio {num den n : ℕ} (hden : 0 < den) {k : ℤ}
    (h : InRoundingInterval n 0 false ((num / den : ℚ) * 2 ^ k)) :
    roundRatio (scaleRatio num den k).1 (scaleRatio num den k).2 = n := by
  apply roundRatio_eq (scaleRatio_snd_pos hden k)
  rw [scaleRatio_div]
  exact h

/-- A power that scales the ratio into the binade is above any that leaves it below. -/
theorem lt_of_binade {R : ℚ} {j k : ℤ} (hk : 2 ^ 52 ≤ R * 2 ^ k) (hj : R * 2 ^ j < 2 ^ 52) :
    j < k := by
  by_contra hle
  have hR : 0 < R := by
    by_contra hR
    have : R * 2 ^ k ≤ 0 := mul_nonpos_of_nonpos_of_nonneg (not_lt.mp hR) (by positivity)
    linarith
  have : R * 2 ^ k ≤ R * 2 ^ j :=
    mul_le_mul_of_nonneg_left (zpow_le_zpow_right₀ (by norm_num) (not_lt.mp hle)) hR.le
  linarith

/-- The normal branch of `ofRatio` without a carry. -/
theorem ofRatioAt_of_round {neg : Bool} {num den n : ℕ} {k : ℤ} (hk : k ≤ 1074)
    (hround : roundRatio (scaleRatio num den k).1 (scaleRatio num den k).2 = n)
    (hn : n ≠ 2 ^ 53) (hfield : -k + 1075 < 2047) :
    ofRatioAt neg num den k = assemble neg (-k + 1075).toNat (n - 2 ^ 52) := by
  unfold ofRatioAt
  rw [if_neg (by omega)]
  generalize scaleRatio num den k = p at hround ⊢
  obtain ⟨a, b⟩ := p
  dsimp only at hround ⊢
  have hn' : n ≠ Nat.pow 2 53 := by simpa using hn
  rw [hround, if_neg hn']
  dsimp only
  rw [if_neg (by omega)]
  rfl

/-- The normal branch of `ofRatio` when rounding carries into the next binade. -/
theorem ofRatioAt_of_carry {neg : Bool} {num den : ℕ} {k : ℤ} (hk : k ≤ 1074)
    (hround : roundRatio (scaleRatio num den k).1 (scaleRatio num den k).2 = 2 ^ 53)
    (hfield : -k + 1 + 1075 < 2047) :
    ofRatioAt neg num den k = assemble neg (-k + 1 + 1075).toNat 0 := by
  unfold ofRatioAt
  rw [if_neg (by omega)]
  generalize scaleRatio num den k = p at hround ⊢
  obtain ⟨a, b⟩ := p
  dsimp only at hround ⊢
  rw [hround, if_pos (show 2 ^ 53 = Nat.pow 2 53 from rfl)]
  dsimp only
  rw [if_neg (by omega)]

/-- The subnormal branch of `ofRatio`, taken when the ratio is below the normal range. -/
theorem ofRatioAt_of_subnormal {neg : Bool} {num den n : ℕ} {k : ℤ} (hk : 1074 < k)
    (hround : roundRatio (scaleRatio num den 1074).1 (scaleRatio num den 1074).2 = n) :
    ofRatioAt neg num den k =
      if n ≥ 2 ^ 52 then assemble neg 1 (n - 2 ^ 52) else assemble neg 0 n := by
  unfold ofRatioAt
  rw [if_pos (by omega)]
  generalize scaleRatio num den 1074 = p at hround ⊢
  obtain ⟨a, b⟩ := p
  dsimp only at hround ⊢
  rw [hround]
  rfl

/-- A subnormal double: the ratio lies below the normal range and rounds to the fraction field
at the fixed power `-1074`. -/
theorem ofRatioAt_of_subnormal_mem {x : Binary64} (hE0 : x.exponentField = 0) {num den : ℕ}
    (hden : 0 < den) {k : ℤ} (hk : 2 ^ 52 ≤ (num / den : ℚ) * 2 ^ k)
    (h : InRoundingInterval x.fractionField (-1074) false (num / den)) :
    ofRatioAt x.negative num den k = x := by
  have hF := fractionField_lt x
  have hy : InRoundingInterval x.fractionField 0 false ((num / den : ℚ) * 2 ^ (1074 : ℤ)) := by
    have := inRoundingInterval_scale.mp h
    rwa [neg_neg] at this
  obtain ⟨-, hyhi⟩ := InRoundingInterval.bounds hy
  have hsmall : (num / den : ℚ) * 2 ^ (1074 : ℤ) < 2 ^ 52 := by
    have : (x.fractionField : ℚ) + 1 ≤ 2 ^ 52 := by exact_mod_cast hF
    simp only [zpow_zero, mul_one] at hyhi
    linarith
  rw [ofRatioAt_of_subnormal (lt_of_binade hk hsmall) (roundRatio_scaleRatio hden hy),
    if_neg (by omega)]
  conv_rhs => rw [← assemble_fields x]
  rw [hE0]

/-- A normal double: inside its binade the scaling is the double's own and rounding gives the
significand back; just below it (only for the bottom significand) rounding carries up into it,
or, in the first binade, the subnormal branch rounds up to it. -/
theorem ofRatioAt_of_normal_mem {x : Binary64} (hE0 : x.exponentField ≠ 0)
    (hE : x.exponentField ≤ 2046) {num den : ℕ} (hden : 0 < den) {k : ℤ}
    (hk : 2 ^ 52 ≤ (num / den : ℚ) * 2 ^ k ∧ (num / den : ℚ) * 2 ^ k < 2 ^ 53)
    (h : InRoundingInterval (x.fractionField + 2 ^ 52) ((x.exponentField : ℤ) - 1075)
      x.lowerTight (num / den)) :
    ofRatioAt x.negative num den k = x := by
  have hF := fractionField_lt x
  have hy : InRoundingInterval (x.fractionField + 2 ^ 52) 0 x.lowerTight
      ((num / den : ℚ) * 2 ^ (1075 - (x.exponentField : ℤ))) := by
    have := inRoundingInterval_scale.mp h
    rwa [neg_sub] at this
  obtain ⟨hylo, hyhi⟩ := InRoundingInterval.bounds hy
  simp only [zpow_zero, mul_one] at hylo hyhi
  push_cast at hylo hyhi
  by_cases hy52 : (2 : ℚ) ^ 52 ≤ (num / den : ℚ) * 2 ^ (1075 - (x.exponentField : ℤ))
  · -- inside the binade of `x`
    have hkq : k = 1075 - (x.exponentField : ℤ) := by
      refine binade_unique hk ⟨hy52, ?_⟩
      have : (x.fractionField : ℚ) + 1 ≤ 2 ^ 52 := by exact_mod_cast hF
      linarith
    subst hkq
    rw [ofRatioAt_of_round (by omega) (roundRatio_scaleRatio hden (InRoundingInterval.untight hy))
      (by omega) (by omega)]
    conv_rhs => rw [← assemble_fields x]
    rw [show (-(1075 - (x.exponentField : ℤ)) + 1075).toNat = x.exponentField by omega,
      Nat.add_sub_cancel]
  · -- below the binade: only the bottom significand reaches there
    have hF0 : x.fractionField = 0 := by
      by_contra hF0
      have : (1 : ℚ) ≤ x.fractionField := by exact_mod_cast Nat.pos_of_ne_zero hF0
      split at hylo <;> linarith
    cases hlt : x.lowerTight with
    | true =>
      -- above the first binade: one step up, and rounding carries
      have hE1 : 1 < x.exponentField := by
        simp only [lowerTight, decide_eq_true_eq] at hlt
        exact hlt.2
      rw [hlt, if_pos rfl, hF0, Nat.cast_zero, zero_add] at hylo
      have hscale : (num / den : ℚ) * 2 ^ (1075 - (x.exponentField : ℤ) + 1) =
          2 * ((num / den : ℚ) * 2 ^ (1075 - (x.exponentField : ℤ))) := by
        rw [zpow_add_one₀ (by norm_num)]; ring
      have hk1 : k = 1075 - (x.exponentField : ℤ) + 1 := by
        refine binade_unique hk ⟨?_, ?_⟩ <;> rw [hscale] <;> linarith
      subst hk1
      have hmem : InRoundingInterval (2 ^ 53) 0 false
          ((num / den : ℚ) * 2 ^ (1075 - (x.exponentField : ℤ) + 1)) := by
        apply inRoundingInterval_of_even (by norm_num) <;>
          rw [hscale, zpow_zero, mul_one] <;> push_cast <;> linarith
      rw [ofRatioAt_of_carry (by omega) (roundRatio_scaleRatio hden hmem) (by omega)]
      conv_rhs => rw [← assemble_fields x]
      rw [hF0, show (-(1075 - (x.exponentField : ℤ) + 1) + 1 + 1075).toNat = x.exponentField by
        omega]
    | false =>
      -- the first binade: the ratio falls to the subnormal range and rounds up to it
      have hE1 : x.exponentField = 1 := by
        simp only [lowerTight, decide_eq_false_iff_not, not_and, not_lt] at hlt
        have := hlt hF0
        omega
      rw [hlt] at hy
      have hsub : InRoundingInterval (2 ^ 52) 0 false ((num / den : ℚ) * 2 ^ (1074 : ℤ)) := by
        have e : (1075 : ℤ) - x.exponentField = 1074 := by omega
        rw [hF0, zero_add, e] at hy
        exact hy
      have hbelow : (num / den : ℚ) * 2 ^ (1074 : ℤ) < 2 ^ 52 := by
        have e : (1075 : ℤ) - x.exponentField = 1074 := by omega
        rw [e] at hy52
        exact lt_of_not_ge hy52
      rw [ofRatioAt_of_subnormal (lt_of_binade hk.1 hbelow) (roundRatio_scaleRatio hden hsub),
        if_pos (le_refl _)]
      conv_rhs => rw [← assemble_fields x]
      rw [hE1, hF0, Nat.sub_self]

/-- Reading a ratio in the rounding interval of a finite non-zero double gives that double:
`ofRatio` rounds to the nearest double, a tie to the even significand. -/
theorem ofRatio_of_mem {x : Binary64} (hx : x.IsFiniteNonzero) {num den : ℕ} (hden : 0 < den)
    (h : InRoundingInterval x.significand.1 x.significand.2 x.lowerTight (num / den)) :
    ofRatio x.negative num den = x := by
  obtain ⟨hm, -, -, -, -⟩ := hx.significand
  obtain ⟨hE, -⟩ := hx.fields
  have hnum : num ≠ 0 := by
    rintro rfl
    obtain ⟨hlo, -⟩ := InRoundingInterval.bounds h
    have hm1 : (1 : ℚ) ≤ x.significand.1 := by exact_mod_cast hm
    have hP : (0 : ℚ) < 2 ^ x.significand.2 := by positivity
    simp only [Nat.cast_zero, zero_div] at hlo
    split at hlo <;> nlinarith
  have hk := (binadeFits_iff hden _).mp (binadeExponent_fits (Nat.pos_of_ne_zero hnum) hden)
  rw [ofRatio_eq, if_neg hnum]
  by_cases hE0 : x.exponentField = 0
  · have hlt : x.lowerTight = false := by simp [lowerTight, hE0]
    rw [significand_of_subnormal hE0, hlt] at h
    exact ofRatioAt_of_subnormal_mem hE0 hden hk.1 h
  · rw [significand_of_normal hE0] at h
    exact ofRatioAt_of_normal_mem hE0 hE hden hk h

/-- A positive natural lies between the powers of ten of its length. -/
theorem pow_decimalLength_le {d : ℕ} (hd : 0 < d) :
    10 ^ (decimalLength d - 1) ≤ d ∧ d < 10 ^ decimalLength d := by
  have hpos : 0 < decimalLength d := Nat.length_toDigits_pos
  refine ⟨?_, (Nat.length_toDigits_le_iff (by norm_num) hpos).mp le_rfl⟩
  rcases Nat.lt_or_ge 1 (decimalLength d) with h1 | h1
  · by_contra hlt
    have := (Nat.length_toDigits_le_iff (n := d) (by norm_num) (by omega)).mpr (not_le.mp hlt)
    simp only [decimalLength] at h1 this
    omega
  · rw [show decimalLength d - 1 = 0 by omega, pow_zero]
    exact hd

/-- Everything in the rounding interval of a finite non-zero double lies strictly between
`10 ^ -324` and `10 ^ 309`. -/
theorem inRoundingInterval_range {x : Binary64} (hx : x.IsFiniteNonzero) {r : ℚ}
    (h : InRoundingInterval x.significand.1 x.significand.2 x.lowerTight r) :
    (10 : ℚ) ^ (-324 : ℤ) < r ∧ r < 10 ^ (309 : ℤ) := by
  obtain ⟨hm, hm53, hq, hq', -⟩ := hx.significand
  obtain ⟨hlo, hhi⟩ := InRoundingInterval.bounds h
  generalize x.significand.1 = m at hm hm53 hlo hhi
  generalize x.significand.2 = q at hq hq' hlo hhi
  have hm1 : (1 : ℚ) ≤ m := by exact_mod_cast hm
  have hm2 : (m : ℚ) + 1 ≤ 2 ^ 53 := by exact_mod_cast hm53
  have hP : (0 : ℚ) < 2 ^ q := by positivity
  constructor
  · -- the smallest interval end is half the smallest subnormal, above `10 ^ -324`
    have hsmall : (2 : ℚ) ^ (-1074 : ℤ) ≤ 2 ^ q := zpow_le_zpow_right₀ (by norm_num) hq
    have hten : (10 : ℚ) ^ (-324 : ℤ) < 2 ^ (-1074 : ℤ) / 2 := by
      have h : (2 : ℕ) ^ 1074 * 2 < 10 ^ 324 := by decide +kernel
      rw [zpow_neg, zpow_neg, zpow_ofNat, zpow_ofNat, div_eq_mul_inv, ← mul_inv,
        inv_lt_inv₀ (by positivity) (by positivity)]
      exact_mod_cast h
    split at hlo <;> nlinarith
  · -- the largest interval end is below `2 ^ 1024`, itself below `10 ^ 309`
    have hbig : (2 : ℚ) ^ q ≤ 2 ^ (971 : ℤ) := zpow_le_zpow_right₀ (by norm_num) hq'
    have hten : (2 : ℚ) ^ (53 : ℕ) * 2 ^ (971 : ℤ) < 10 ^ (309 : ℤ) := by
      have h : (2 : ℕ) ^ 53 * 2 ^ 971 < 10 ^ 309 := by decide +kernel
      rw [zpow_ofNat, zpow_ofNat]
      exact_mod_cast h
    have hend : ((m : ℚ) + 1 / 2) * 2 ^ q ≤ 2 ^ (53 : ℕ) * 2 ^ (971 : ℤ) :=
      mul_le_mul (by norm_num; linarith) hbig hP.le (by positivity)
    exact lt_of_le_of_lt (hhi.trans hend) hten

/-- Reading a decimal in the rounding interval of a finite non-zero double gives that double:
its size is within the range `ofDecimal` reads, and the ratio it forms rounds to the double. -/
theorem ofDecimal_of_mem {x : Binary64} (hx : x.IsFiniteNonzero) {digits : ℕ} {exp10 : ℤ}
    (hd : 0 < digits)
    (h : InRoundingInterval x.significand.1 x.significand.2 x.lowerTight (digits * 10 ^ exp10)) :
    ofDecimal x.negative digits exp10 = x := by
  obtain ⟨hlow, hhigh⟩ := inRoundingInterval_range hx h
  obtain ⟨hd1, hd2⟩ := pow_decimalLength_le hd
  have hd1' : (10 : ℚ) ^ ((decimalLength digits : ℤ) - 1) ≤ digits := by
    have hpos : 0 < decimalLength digits := Nat.length_toDigits_pos
    rw [show (decimalLength digits : ℤ) - 1 = ((decimalLength digits - 1 : ℕ) : ℤ) by omega,
      zpow_natCast]
    exact_mod_cast hd1
  have hd2' : (digits : ℚ) < 10 ^ (decimalLength digits : ℤ) := by
    rw [zpow_natCast]; exact_mod_cast hd2
  have h10 : (0 : ℚ) < 10 ^ exp10 := by positivity
  -- the decimal's size bounds the powers of ten around it
  have hmag_hi : (decimalLength digits : ℤ) + exp10 ≤ 310 := by
    by_contra hc
    have : (10 : ℚ) ^ (309 : ℤ) ≤ 10 ^ ((decimalLength digits : ℤ) - 1 + exp10) :=
      zpow_le_zpow_right₀ (by norm_num) (by omega)
    rw [zpow_add₀ (by norm_num)] at this
    nlinarith
  have hmag_lo : -324 ≤ (decimalLength digits : ℤ) + exp10 := by
    by_contra hc
    have : (10 : ℚ) ^ ((decimalLength digits : ℤ) + exp10) ≤ 10 ^ (-324 : ℤ) :=
      zpow_le_zpow_right₀ (by norm_num) (by omega)
    rw [zpow_add₀ (by norm_num)] at this
    nlinarith
  unfold ofDecimal
  rw [if_neg hd.ne']
  dsimp only
  rw [if_neg (by omega), if_neg (by omega)]
  split
  · rename_i he
    apply ofRatio_of_mem hx one_pos
    rw [Nat.cast_one, div_one, Nat.cast_mul, pow_toNat_cast he]
    exact h
  · rename_i he
    apply ofRatio_of_mem hx (Nat.pow_pos (by norm_num))
    rw [Nat.cast_pow, ← zpow_natCast, Int.toNat_of_nonneg (by omega), zpow_neg, div_inv_eq_mul,
      Nat.cast_ofNat]
    exact h

end Binary64

end ContentSync.Number
