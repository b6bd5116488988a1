import ContentSync.Number.Shortest
import Mathlib.Algebra.Order.Field.Power
import Mathlib.Tactic.Linarith
import Mathlib.Tactic.Positivity
import Mathlib.Tactic.Ring
import Mathlib.Tactic.SplitIfs
import Mathlib.Tactic.GCongr
import Mathlib.Tactic.FieldSimp

/-!
# The shortest digits of a double lie in its rounding interval

A finite non-zero double is `m * 2 ^ q`. The decimals that read back as it are those of its
rounding interval: within half a step `2 ^ q` of it, only a quarter step below at the bottom of
a binade (where the double below is nearer), the ends included when `m` is even.
`shortestDigits` searches the decimal grids of one, two, up to seventeen significant digits and
takes, on the first grid that has one, a grid point next to the double inside that interval.

Main statement: `shortestDigits_mem`, the decimal returned lies in the rounding interval of the
double, for every finite non-zero double. On the way: `compareScaled` compares exactly
(`compareScaled_eq_lt`), the test on a grid point is membership of the interval
(`gridInside_iff`), and seventeen digits always give a point (`gridPick_seventeen_isSome`).
-/

namespace ContentSync.Number

/-- The rational `a * 2 ^ p * 10 ^ r`. -/
def scaled (a : ℕ) (p r : ℤ) : ℚ := a * 2 ^ p * 10 ^ r

/-- A power of two or ten at a natural exponent that stands for an integer one. -/
theorem pow_toNat_cast {b : ℕ} {z : ℤ} (hz : 0 ≤ z) :
    ((Nat.pow b z.toNat : ℕ) : ℚ) = (b : ℚ) ^ z := by
  rw [Nat.pow_eq, Nat.cast_pow, ← zpow_natCast, Int.toNat_of_nonneg hz]

/-- Both sides of `compareScaled`, as naturals, are the rationals compared times one positive
factor. -/
theorem compareScaled_sides (a : ℕ) (p r : ℤ) (b : ℕ) (s t : ℤ) :
    ∃ c : ℚ, 0 < c ∧
      ((a * Nat.pow 2 (p + (max (-p) (-s)).toNat).toNat *
          Nat.pow 10 (r + (max (-r) (-t)).toNat).toNat : ℕ) : ℚ) = scaled a p r * c ∧
      ((b * Nat.pow 2 (s + (max (-p) (-s)).toNat).toNat *
          Nat.pow 10 (t + (max (-r) (-t)).toNat).toNat : ℕ) : ℚ) = scaled b s t * c := by
  refine ⟨2 ^ ((max (-p) (-s)).toNat : ℤ) * 10 ^ ((max (-r) (-t)).toNat : ℤ), by positivity, ?_, ?_⟩
  · rw [Nat.cast_mul, Nat.cast_mul, pow_toNat_cast (by omega),
      pow_toNat_cast (by omega), zpow_add₀ (by norm_num), zpow_add₀ (by norm_num),
      scaled, Nat.cast_ofNat, Nat.cast_ofNat]
    ring
  · rw [Nat.cast_mul, Nat.cast_mul, pow_toNat_cast (by omega),
      pow_toNat_cast (by omega), zpow_add₀ (by norm_num), zpow_add₀ (by norm_num),
      scaled, Nat.cast_ofNat, Nat.cast_ofNat]
    ring

/-- `compareScaled` answers `lt` exactly when the first number is the smaller. -/
theorem compareScaled_eq_lt {a : ℕ} {p r : ℤ} {b : ℕ} {s t : ℤ} :
    compareScaled a p r b s t = .lt ↔ scaled a p r < scaled b s t := by
  obtain ⟨c, hc, hl, hr⟩ := compareScaled_sides a p r b s t
  rw [compareScaled, Nat.compare_eq_lt, ← Nat.cast_lt (α := ℚ), hl, hr,
    mul_lt_mul_iff_left₀ hc]

/-- `compareScaled` answers `gt` exactly when the first number is the larger. -/
theorem compareScaled_eq_gt {a : ℕ} {p r : ℤ} {b : ℕ} {s t : ℤ} :
    compareScaled a p r b s t = .gt ↔ scaled b s t < scaled a p r := by
  obtain ⟨c, hc, hl, hr⟩ := compareScaled_sides a p r b s t
  rw [compareScaled, Nat.compare_eq_gt, ← Nat.cast_lt (α := ℚ), hl, hr,
    mul_lt_mul_iff_left₀ hc]


/-- Ten to the power `0.30103` is at least two. -/
theorem two_pow_le_ten_pow : (2 : ℚ) ^ (100000 : ℕ) ≤ 10 ^ (30103 : ℕ) := by
  have h : (2 : ℕ) ^ 100000 ≤ 10 ^ 30103 := by decide +kernel
  exact_mod_cast h

/-- The decimal size estimate of `floorLog10` from a binary size `L` is never above `2 ^ L`:
the power `floor (L * 0.30103) - 2` of ten is at most `2 ^ L` up to `L = 1900`. -/
theorem ten_zpow_estimate_le (L : ℤ) (hL : L ≤ 1900) :
    (10 : ℚ) ^ (L * 30103 / 100000 - 2) ≤ 2 ^ L := by
  have hg := Int.mul_ediv_self_le (x := L * 30103) (k := 100000) (by norm_num)
  generalize L * 30103 / 100000 = g at hg ⊢
  rcases le_or_gt 0 L with hL0 | hL0
  · -- `10 ^ 3 ≤ 2 ^ 10` carries the estimate, which drifts by less than two up to 1900
    have h10 : 10 * (g - 2) ≤ 3 * L := by omega
    have hpow : ((10 : ℚ) ^ (g - 2)) ^ 10 ≤ ((2 : ℚ) ^ L) ^ 10 := by
      calc ((10 : ℚ) ^ (g - 2)) ^ 10 = 10 ^ (10 * (g - 2)) := by
              rw [← zpow_natCast, ← zpow_mul, mul_comm]; rfl
        _ ≤ 10 ^ (3 * L) := zpow_le_zpow_right₀ (by norm_num) h10
        _ = ((10 : ℚ) ^ (3 : ℤ)) ^ L := zpow_mul _ _ _
        _ ≤ ((2 : ℚ) ^ (10 : ℤ)) ^ L := zpow_le_zpow_left₀ hL0 (by norm_num) (by norm_num)
        _ = ((2 : ℚ) ^ L) ^ 10 := by rw [← zpow_mul, ← zpow_natCast, ← zpow_mul, mul_comm]; rfl
    exact (pow_le_pow_iff_left₀ (by positivity) (by positivity) (by norm_num)).mp hpow
  · -- below one, `2 ^ 100000 ≤ 10 ^ 30103` makes the estimate never too high
    obtain ⟨n, rfl⟩ : ∃ n : ℕ, L = -n := ⟨L.natAbs, by omega⟩
    have hpow : ((10 : ℚ) ^ (g - 2)) ^ 100000 ≤ ((2 : ℚ) ^ (-(n : ℤ))) ^ 100000 := by
      have hb : ((2 : ℚ) ^ (100000 : ℕ)) ^ n ≤ ((10 : ℚ) ^ (30103 : ℕ)) ^ n :=
        pow_le_pow_left₀ (by positivity) two_pow_le_ten_pow n
      calc ((10 : ℚ) ^ (g - 2)) ^ 100000 = 10 ^ (100000 * (g - 2)) := by
              rw [← zpow_natCast, ← zpow_mul, mul_comm]; rfl
        _ ≤ 10 ^ (-(30103 * (n : ℤ))) := zpow_le_zpow_right₀ (by norm_num) (by omega)
        _ = (((10 : ℚ) ^ (30103 : ℕ)) ^ n)⁻¹ := by
              rw [zpow_neg, ← pow_mul, ← zpow_natCast]; push_cast; rfl
        _ ≤ (((2 : ℚ) ^ (100000 : ℕ)) ^ n)⁻¹ := inv_anti₀ (by positivity) hb
        _ = ((2 : ℚ) ^ (-(n : ℤ))) ^ 100000 := by
              rw [zpow_neg, inv_pow, zpow_natCast, ← pow_mul, ← pow_mul, mul_comm]
    exact (pow_le_pow_iff_left₀ (by positivity) (by positivity) (by norm_num)).mp hpow


@[simp] theorem scaled_zero_two (a : ℕ) (r : ℤ) : scaled a 0 r = a * 10 ^ r := by
  simp [scaled]

@[simp] theorem scaled_zero_ten (a : ℕ) (p : ℤ) : scaled a p 0 = a * 2 ^ p := by
  simp [scaled]

/-- The numbers that read back as `m * 2 ^ q`: within half a step of it, a quarter step below
when `lowerTight` (the bottom of a binade), ends included when `m` is even. -/
def InRoundingInterval (m : ℕ) (q : ℤ) (lowerTight : Bool) (x : ℚ) : Prop :=
  let below : ℚ := if lowerTight then 1 / 4 else 1 / 2
  if m % 2 = 0 then (m - below) * 2 ^ q ≤ x ∧ x ≤ (m + 1 / 2) * 2 ^ q
  else (m - below) * 2 ^ q < x ∧ x < (m + 1 / 2) * 2 ^ q

/-- The test of `shortestDigitsOf` that `d * 10 ^ e` lies in the rounding interval, the ends
counted in quarters of `2 ^ q`. -/
def gridInside (m : ℕ) (q : ℤ) (lowerTight : Bool) (d : ℕ) (e : ℤ) : Bool :=
  let v := 4 * m
  let hi := v + 2
  let lo := if lowerTight then v - 1 else v - 2
  let cLo := compareScaled d 0 e lo (q - 2) 0
  let cHi := compareScaled d 0 e hi (q - 2) 0
  if m % 2 = 0 then cLo != .lt && cHi != .gt else cLo == .gt && cHi == .lt

/-- The lower end of the interval in quarters of `2 ^ q`. -/
theorem lowEnd_eq (m : ℕ) (hm : 0 < m) (q : ℤ) (lowerTight : Bool) :
    scaled (if lowerTight then 4 * m - 1 else 4 * m - 2) (q - 2) 0 =
      (m - if lowerTight then (1 / 4 : ℚ) else 1 / 2) * 2 ^ q := by
  have hq : (2 : ℚ) ^ q = 2 ^ (q - 2) * 4 := by
    rw [show q = q - 2 + 2 by ring, zpow_add₀ (by norm_num)]; norm_num
  cases lowerTight
  · simp only [Bool.false_eq_true, if_false, scaled_zero_ten, hq]
    rw [Nat.cast_sub (by omega)]
    push_cast
    ring
  · simp only [if_true, scaled_zero_ten, hq]
    rw [Nat.cast_sub (by omega)]
    push_cast
    ring

/-- The upper end of the interval in quarters of `2 ^ q`. -/
theorem highEnd_eq (m : ℕ) (q : ℤ) : scaled (4 * m + 2) (q - 2) 0 = (m + 1 / 2) * 2 ^ q := by
  have hq : (2 : ℚ) ^ q = 2 ^ (q - 2) * 4 := by
    rw [show q = q - 2 + 2 by ring, zpow_add₀ (by norm_num)]; norm_num
  rw [scaled_zero_ten, hq]
  push_cast
  ring

/-- The test of `shortestDigitsOf` is membership of the rounding interval. -/
theorem gridInside_iff {m : ℕ} (hm : 0 < m) (q : ℤ) (lowerTight : Bool) (d : ℕ) (e : ℤ) :
    gridInside m q lowerTight d e = true ↔
      InRoundingInterval m q lowerTight (d * 10 ^ e) := by
  have hlo := lowEnd_eq m hm q lowerTight
  have hhi := highEnd_eq m q
  unfold gridInside InRoundingInterval
  dsimp only
  generalize (if lowerTight then 4 * m - 1 else 4 * m - 2) = lo at hlo ⊢
  generalize (if lowerTight then (1 / 4 : ℚ) else 1 / 2) = b at hlo ⊢
  by_cases hpar : m % 2 = 0
  · simp only [hpar, if_true, Bool.and_eq_true, bne_iff_ne, ne_eq, compareScaled_eq_lt,
      compareScaled_eq_gt, not_lt, scaled_zero_two, hhi, hlo]
  · simp only [hpar, if_false, Bool.and_eq_true, beq_iff_eq, compareScaled_eq_lt,
      compareScaled_eq_gt, scaled_zero_two, hhi, hlo]


/-- The choice `shortestDigitsOf` makes at `k` significant digits: of the two grid points next
to `m * 2 ^ q`, the one in the interval, or the nearer (the even one on a tie) if both are. -/
def gridPick (m : ℕ) (q : ℤ) (lowerTight : Bool) (k : ℕ) : Option (ℕ × ℤ) :=
  let e : Int := floorLog10 m q - k + 1
  let below := (m * Nat.pow 2 (max q 0).toNat * Nat.pow 10 (max (-e) 0).toNat) /
    (Nat.pow 2 (max (-q) 0).toNat * Nat.pow 10 (max e 0).toNat)
  let above := below + 1
  match gridInside m q lowerTight below e, gridInside m q lowerTight above e with
  | true, true =>
    let unit : Int := q - 2
    let twoShift := (max (-unit) 0).toNat
    let tenShift := (max (-e) 0).toNat
    let vN := 4 * m * Nat.pow 2 (unit + twoShift).toNat * Nat.pow 10 tenShift
    let bN := below * Nat.pow 10 (e + tenShift).toNat * Nat.pow 2 twoShift
    let aN := above * Nat.pow 10 (e + tenShift).toNat * Nat.pow 2 twoShift
    if vN - bN < aN - vN then some (below, e)
    else if aN - vN < vN - bN then some (above, e)
    else if below % 2 = 0 then some (below, e) else some (above, e)
  | true, false => some (below, e)
  | false, true => some (above, e)
  | false, false => none

/-- The search of `shortestDigitsOf`, its choice at each number of digits named. -/
theorem shortestDigitsOf_eq (m : ℕ) (q : ℤ) (lowerTight : Bool) :
    shortestDigitsOf m q lowerTight = shortestDigitsOf.search m q (gridPick m q lowerTight) 17 1 :=
  rfl

/-- Whatever the grid choice gives lies in the rounding interval. -/
theorem gridInside_of_gridPick {m : ℕ} {q : ℤ} {lowerTight : Bool} {k d : ℕ} {e : ℤ}
    (h : gridPick m q lowerTight k = some (d, e)) : gridInside m q lowerTight d e = true := by
  unfold gridPick at h
  generalize floorLog10 m q - k + 1 = e' at h
  generalize (m * Nat.pow 2 (max q 0).toNat * Nat.pow 10 (max (-e') 0).toNat) /
    (Nat.pow 2 (max (-q) 0).toNat * Nat.pow 10 (max e' 0).toNat) = below at h
  dsimp only at h
  split at h
  · rename_i hb ha
    split_ifs at h
    all_goals
      obtain ⟨rfl, rfl⟩ := Prod.mk.inj (Option.some.inj h)
      assumption
  · rename_i hb _
    obtain ⟨rfl, rfl⟩ := Prod.mk.inj (Option.some.inj h)
    exact hb
  · rename_i _ ha
    obtain ⟨rfl, rfl⟩ := Prod.mk.inj (Option.some.inj h)
    exact ha
  · cases h

/-- The search returns a choice of the grid at some number of digits it tries, provided one of
them gives a choice. -/
theorem search_of_isSome (m : ℕ) (q : ℤ) (pick : ℕ → Option (ℕ × ℤ)) (P : ℕ × ℤ → Prop)
    (hP : ∀ j r, pick j = some r → P r) :
    ∀ n k, (∃ j, k ≤ j ∧ j < k + n ∧ (pick j).isSome) →
      P (shortestDigitsOf.search m q pick n k)
  | 0, _, ⟨j, hkj, hjn, _⟩ => absurd hjn (by omega)
  | n + 1, k, ⟨j, hkj, hjn, hj⟩ => by
    unfold shortestDigitsOf.search
    split
    · rename_i r hr
      exact hP k r hr
    · rename_i hr
      refine search_of_isSome m q pick P hP n (k + 1) ⟨j, ?_, by omega, hj⟩
      rcases Nat.eq_or_lt_of_le hkj with rfl | hlt
      · simp [hr] at hj
      · omega


/-- The power of ten `floorLog10` returns is at most the number: the estimate from the binary
size is at most two too high, and the search goes two below it. -/
theorem floorLog10_le {m : ℕ} (hm : 0 < m) {q : ℤ} (hL : (m.log2 : ℤ) + q ≤ 1900) :
    (10 : ℚ) ^ floorLog10 m q ≤ m * 2 ^ q := by
  have fits_iff : ∀ e : ℤ,
      (compareScaled 1 0 e m q 0 != .gt) = true ↔ (10 : ℚ) ^ e ≤ m * 2 ^ q := by
    intro e
    simp only [bne_iff_ne, ne_eq, compareScaled_eq_gt, not_lt, scaled_zero_two,
      scaled_zero_ten, Nat.cast_one, one_mul]
  have hlen : (Binary64.bitLength m : ℤ) - 1 + q = m.log2 + q := by
    simp [Binary64.bitLength, hm.ne']
  have hlow : (10 : ℚ) ^ (((Binary64.bitLength m : ℤ) - 1 + q) * 30103 / 100000 - 2) ≤
      m * 2 ^ q := by
    rw [hlen]
    calc _ ≤ (2 : ℚ) ^ ((m.log2 : ℤ) + q) := ten_zpow_estimate_le _ hL
      _ = 2 ^ m.log2 * 2 ^ q := by rw [zpow_add₀ two_ne_zero, zpow_natCast]
      _ ≤ m * 2 ^ q := by
        gcongr
        exact_mod_cast Nat.log2_self_le hm.ne'
  unfold floorLog10
  dsimp only
  generalize ((Binary64.bitLength m : ℤ) - 1 + q) * 30103 / 100000 = g at hlow
  have hsome : ([g + 2, g + 1, g, g - 1, g - 2].find?
      fun e => compareScaled 1 0 e m q 0 != .gt).isSome :=
    List.find?_isSome.mpr ⟨g - 2, by simp, (fits_iff _).mpr hlow⟩
  obtain ⟨e, he⟩ := Option.isSome_iff_exists.mp hsome
  rw [he, Option.getD_some]
  exact (fits_iff e).mp (List.find?_some (p := fun e => compareScaled 1 0 e m q 0 != .gt) he)

/-- The grid point `gridPick` takes under the number: the quotient of the two natural scalings
is the floor of `m * 2 ^ q / 10 ^ e`. -/
theorem gridBelow_spec (m : ℕ) (q e : ℤ) :
    let below := (m * Nat.pow 2 (max q 0).toNat * Nat.pow 10 (max (-e) 0).toNat) /
      (Nat.pow 2 (max (-q) 0).toNat * Nat.pow 10 (max e 0).toNat)
    (below : ℚ) * 10 ^ e ≤ m * 2 ^ q ∧ (m : ℚ) * 2 ^ q < (below + 1) * 10 ^ e := by
  dsimp only
  generalize hN : m * Nat.pow 2 (max q 0).toNat * Nat.pow 10 (max (-e) 0).toNat = N
  generalize hD : Nat.pow 2 (max (-q) 0).toNat * Nat.pow 10 (max e 0).toNat = D
  have hDpos : (0 : ℚ) < D := by
    rw [← hD]; push_cast [Nat.pow_eq]; positivity
  -- both scalings agree with `m * 2 ^ q` over `10 ^ e`
  have hscale : (N : ℚ) * 10 ^ e = m * 2 ^ q * D := by
    rw [← hN, ← hD, Nat.cast_mul, Nat.cast_mul, Nat.cast_mul, pow_toNat_cast (by omega),
      pow_toNat_cast (by omega), pow_toNat_cast (by omega), pow_toNat_cast (by omega)]
    push_cast
    rw [mul_assoc, mul_assoc, mul_assoc, ← zpow_add₀ (by norm_num : (10 : ℚ) ≠ 0),
      show max (-e) 0 + e = max e 0 by omega, show max q 0 = q + max (-q) 0 by omega,
      zpow_add₀ (by norm_num : (2 : ℚ) ≠ 0)]
    ring
  have hle : ((N / D : ℕ) : ℚ) * D ≤ N := by exact_mod_cast Nat.div_mul_le_self N D
  have hlt : (N : ℚ) < D * ((N / D : ℕ) + 1) := by
    exact_mod_cast Nat.lt_mul_div_succ N (by exact_mod_cast hDpos)
  generalize N / D = below at hle hlt ⊢
  have h10 : (0 : ℚ) < 10 ^ e := by positivity
  constructor
  · have : (below : ℚ) * 10 ^ e * D ≤ m * 2 ^ q * D := by
      rw [← hscale]; nlinarith
    exact le_of_mul_le_mul_right this hDpos
  · have : (m : ℚ) * 2 ^ q * D < (below + 1) * 10 ^ e * D := by
      rw [← hscale]; nlinarith
    exact lt_of_mul_lt_mul_right this hDpos.le

/-- A number strictly inside the interval is in it, whatever the parity of `m`. -/
theorem inRoundingInterval_of_lt {m : ℕ} {q : ℤ} {lowerTight : Bool} {x : ℚ}
    (hlo : (m - if lowerTight then (1 / 4 : ℚ) else 1 / 2) * 2 ^ q < x)
    (hhi : x < (m + 1 / 2) * 2 ^ q) : InRoundingInterval m q lowerTight x := by
  unfold InRoundingInterval
  dsimp only
  split
  · exact ⟨hlo.le, hhi.le⟩
  · exact ⟨hlo, hhi⟩

/-- The interval of `m * 2 ^ q`, measured in units of `2 ^ q`, is that of `m`. -/
theorem inRoundingInterval_scale {m : ℕ} {q : ℤ} {lowerTight : Bool} {x : ℚ} :
    InRoundingInterval m q lowerTight x ↔ InRoundingInterval m 0 lowerTight (x * 2 ^ (-q)) := by
  have hP : (0 : ℚ) < 2 ^ q := by positivity
  have hx : x * 2 ^ (-q) = x / 2 ^ q := by rw [zpow_neg, div_eq_mul_inv]
  unfold InRoundingInterval
  simp only [zpow_zero, mul_one, hx]
  split
  · rw [le_div_iff₀ hP, div_le_iff₀ hP]
  · rw [lt_div_iff₀ hP, div_lt_iff₀ hP]

/-- The interval at the bottom of a binade lies inside the ordinary one. -/
theorem InRoundingInterval.untight {m : ℕ} {q : ℤ} {lowerTight : Bool} {x : ℚ}
    (h : InRoundingInterval m q lowerTight x) : InRoundingInterval m q false x := by
  have hP : (0 : ℚ) < 2 ^ q := by positivity
  unfold InRoundingInterval at h ⊢
  cases lowerTight
  · exact h
  · simp only [if_true, Bool.false_eq_true, if_false] at h ⊢
    split at h
    · rw [if_pos ‹_›]; exact ⟨by nlinarith [h.1], h.2⟩
    · rw [if_neg ‹_›]; exact ⟨by nlinarith [h.1], h.2⟩

/-- The ends of the interval, whatever the parity. -/
theorem InRoundingInterval.bounds {m : ℕ} {q : ℤ} {lowerTight : Bool} {x : ℚ}
    (h : InRoundingInterval m q lowerTight x) :
    (m - if lowerTight then (1 / 4 : ℚ) else 1 / 2) * 2 ^ q ≤ x ∧ x ≤ (m + 1 / 2) * 2 ^ q := by
  unfold InRoundingInterval at h
  dsimp only at h
  split at h
  · exact h
  · exact ⟨h.1.le, h.2.le⟩

/-- An even significand's interval holds its closed ends. -/
theorem inRoundingInterval_of_even {n : ℕ} (hn : n % 2 = 0) {q : ℤ} {x : ℚ}
    (hlo : (n - 1 / 2) * 2 ^ q ≤ x) (hhi : x ≤ (n + 1 / 2) * 2 ^ q) :
    InRoundingInterval n q false x := by
  unfold InRoundingInterval
  simp only [Bool.false_eq_true, if_false, hn, if_true]
  exact ⟨hlo, hhi⟩

/-- With seventeen significant digits one of the two grid points next to a double lies in its
rounding interval: the grid step is under `0.91 * 2 ^ q`, so the nearer point is within less
than half a step, and at the bottom of a binade within less than a quarter. -/
theorem gridPick_seventeen_isSome {m : ℕ} (hm : 0 < m) (hm53 : m < 2 ^ 53) {q : ℤ}
    (hL : (m.log2 : ℤ) + q ≤ 1900) {lowerTight : Bool}
    (htight : lowerTight = true → m = 2 ^ 52) :
    (gridPick m q lowerTight 17).isSome := by
  have hten := floorLog10_le hm hL
  unfold gridPick
  generalize floorLog10 m q = top at hten
  have hbelow := gridBelow_spec m q (top - (17 : ℕ) + 1)
  -- the grid step is the sixteenth power of ten below the number
  have hstep : (10 : ℚ) ^ (top - (17 : ℕ) + 1) * 10 ^ 16 ≤ m * 2 ^ q := by
    rw [← zpow_natCast, ← zpow_add₀ (by norm_num)]
    convert hten using 2
    push_cast
    ring
  generalize top - (17 : ℕ) + 1 = e at hbelow hstep ⊢
  dsimp only at hbelow ⊢
  generalize (m * Nat.pow 2 (max q 0).toNat * Nat.pow 10 (max (-e) 0).toNat) /
    (Nat.pow 2 (max (-q) 0).toNat * Nat.pow 10 (max e 0).toNat) = below at hbelow ⊢
  obtain ⟨hb1, hb2⟩ := hbelow
  have hP : (0 : ℚ) < 2 ^ q := by positivity
  have hmP : (m : ℚ) * 2 ^ q < 2 ^ 53 * 2 ^ q := by
    have : (m : ℚ) < 2 ^ 53 := by exact_mod_cast hm53
    nlinarith
  -- half a grid step is less than the distance to either end of the interval
  have hgap : (10 : ℚ) ^ e / 2 < (if lowerTight then 1 / 4 else 1 / 2) * 2 ^ q := by
    cases lowerTight with
    | false => simp only [Bool.false_eq_true, if_false]; linarith
    | true =>
      have hm52 : (m : ℚ) = 2 ^ 52 := by exact_mod_cast htight rfl
      rw [hm52] at hstep
      simp only [if_true]
      linarith
  have hupper : (10 : ℚ) ^ e / 2 < 1 / 2 * 2 ^ q := by
    cases lowerTight <;> simp only [Bool.false_eq_true, if_false, if_true] at hgap <;> linarith
  have key : gridInside m q lowerTight below e = true ∨
      gridInside m q lowerTight (below + 1) e = true := by
    rw [gridInside_iff hm, gridInside_iff hm]
    rcases le_or_gt ((m : ℚ) * 2 ^ q - below * 10 ^ e) (10 ^ e / 2) with hnear | hfar
    · left
      apply inRoundingInterval_of_lt <;> linarith
    · right
      apply inRoundingInterval_of_lt <;> push_cast <;> linarith
  cases hb : gridInside m q lowerTight below e <;>
    cases ha : gridInside m q lowerTight (below + 1) e
  · simp [hb, ha] at key
  · rfl
  · rfl
  · dsimp only
    split_ifs <;> rfl


/-- The digits `shortestDigitsOf` chooses lie in the rounding interval, for every significand
and power a double can have. -/
theorem shortestDigitsOf_mem {m : ℕ} (hm : 0 < m) (hm53 : m < 2 ^ 53) {q : ℤ}
    (hL : (m.log2 : ℤ) + q ≤ 1900) {lowerTight : Bool}
    (htight : lowerTight = true → m = 2 ^ 52) :
    InRoundingInterval m q lowerTight
      ((shortestDigitsOf m q lowerTight).1 * 10 ^ (shortestDigitsOf m q lowerTight).2) := by
  rw [shortestDigitsOf_eq]
  refine search_of_isSome m q (gridPick m q lowerTight)
    (fun r => InRoundingInterval m q lowerTight (r.1 * 10 ^ r.2)) ?_ 17 1
    ⟨17, by norm_num, by norm_num, gridPick_seventeen_isSome hm hm53 hL htight⟩
  rintro j ⟨d, e⟩ h
  exact (gridInside_iff hm q lowerTight d e).mp (gridInside_of_gridPick h)

/-- Removing trailing zeros keeps the value of the decimal. -/
theorem trimZeros_value (fuel : ℕ) (e : ℤ) (d : ℕ) :
    ((trimZeros fuel e d).1 : ℚ) * 10 ^ (trimZeros fuel e d).2 = d * 10 ^ e := by
  induction fuel generalizing e d with
  | zero => rfl
  | succ fuel ih =>
    unfold trimZeros
    split
    · rename_i h
      rw [ih]
      obtain ⟨k, rfl⟩ : 10 ∣ d := Nat.dvd_of_mod_eq_zero h.2
      rw [Nat.mul_div_cancel_left k (by norm_num), zpow_add_one₀ (by norm_num)]
      push_cast
      ring
    · rfl


/-! ## Fields of a double -/

namespace Binary64

/-- The bits are the sign, the exponent field and the fraction field. -/
theorem bits_toNat_eq (x : Binary64) :
    x.bits.toNat = (if x.negative then 2 ^ 63 else 0) + x.exponentField * 2 ^ 52 +
      x.fractionField := by
  unfold negative exponentField fractionField
  have := x.bits.toNat_lt_size
  simp only [Nat.pow_eq, UInt64.size, decide_eq_true_eq] at *
  split <;> omega

theorem exponentField_lt (x : Binary64) : x.exponentField < 2048 :=
  Nat.mod_lt _ (by decide)

theorem fractionField_lt (x : Binary64) : x.fractionField < 2 ^ 52 :=
  Nat.mod_lt _ (by decide)

/-- Assembling the fields of a double gives it back. -/
theorem assemble_fields (x : Binary64) :
    assemble x.negative x.exponentField x.fractionField = x := by
  have hbits := bits_toNat_eq x
  have hE := exponentField_lt x
  have hF := fractionField_lt x
  have hsize := x.bits.toNat_lt_size
  unfold assemble
  congr 1
  rw [← UInt64.toNat_inj, Nat.toUInt64_eq, UInt64.toNat_ofNat', hbits]
  simp only [Nat.pow_eq, UInt64.size] at *
  split <;> omega

/-- The significand and power of a normal double. -/
theorem significand_of_normal {x : Binary64} (hE : x.exponentField ≠ 0) :
    x.significand = (x.fractionField + 2 ^ 52, (x.exponentField : ℤ) - 1075) := by
  simp [significand, hE]

/-- The significand and power of a subnormal double. -/
theorem significand_of_subnormal {x : Binary64} (hE : x.exponentField = 0) :
    x.significand = (x.fractionField, -1074) := by
  simp [significand, hE]

/-- Whether a double is neither a NaN, nor an infinity, nor a zero. -/
def IsFiniteNonzero (x : Binary64) : Prop :=
  x.isNaN = false ∧ x.isInfinite = false ∧ x.isZero = false

/-- A finite non-zero double has an exponent field below the top one and is not all zero. -/
theorem IsFiniteNonzero.fields {x : Binary64} (hx : x.IsFiniteNonzero) :
    x.exponentField ≤ 2046 ∧ (x.exponentField ≠ 0 ∨ x.fractionField ≠ 0) := by
  obtain ⟨hnan, hinf, hzero⟩ := hx
  simp only [isNaN, isInfinite, isZero, decide_eq_false_iff_not, not_and] at hnan hinf hzero
  have := exponentField_lt x
  refine ⟨?_, ?_⟩
  · by_contra h
    have h2047 : x.exponentField = 2047 := by omega
    by_cases hF : x.fractionField = 0
    · exact hinf h2047 hF
    · exact hnan h2047 hF
  · by_contra h
    simp only [ne_eq, not_or, not_not] at h
    exact hzero h.1 h.2

/-- Whether the significand of a double is the bottom of a binade above the first, whose lower
neighbour is only half as far: what `shortestDigits` passes as `lowerTight`. -/
def lowerTight (x : Binary64) : Bool :=
  decide (x.fractionField = 0 ∧ x.exponentField > 1)

/-- The significand of a finite non-zero double is positive, below `2 ^ 53`, at the bottom of
its binade when the binade is tight, and its power lies between `-1074` and `971`. -/
theorem IsFiniteNonzero.significand {x : Binary64} (hx : x.IsFiniteNonzero) :
    0 < x.significand.1 ∧ x.significand.1 < 2 ^ 53 ∧ -1074 ≤ x.significand.2 ∧
      x.significand.2 ≤ 971 ∧ (x.lowerTight = true → x.significand.1 = 2 ^ 52) := by
  obtain ⟨hE, hnz⟩ := hx.fields
  have hF := fractionField_lt x
  by_cases h0 : x.exponentField = 0
  · rw [significand_of_subnormal h0]
    simp only [lowerTight, h0, decide_eq_true_eq]
    refine ⟨?_, ?_, le_refl _, by norm_num, fun h => absurd h.2 (by omega)⟩
    · rcases hnz with h | h
      · exact absurd h0 h
      · omega
    · omega
  · rw [significand_of_normal h0]
    simp only [lowerTight, decide_eq_true_eq]
    refine ⟨by omega, by omega, by omega, by omega, fun h => by omega⟩

end Binary64


/-- The decimal `shortestDigits` gives for a finite non-zero double lies in its rounding
interval. -/
theorem shortestDigits_mem {x : Binary64} (hx : x.IsFiniteNonzero) :
    InRoundingInterval x.significand.1 x.significand.2 x.lowerTight
      ((shortestDigits x).1 * 10 ^ (shortestDigits x).2) := by
  obtain ⟨hm, hm53, hq, hq', htight⟩ := hx.significand
  have hlog : (x.significand.1.log2 : ℤ) ≤ 52 := by
    have := (Nat.log2_lt hm.ne').mpr hm53
    omega
  have hmem := shortestDigitsOf_mem (q := x.significand.2) hm hm53 (by omega) htight
  rcases hs : x.significand with ⟨m, q⟩
  rw [hs] at hmem
  rcases hr : shortestDigitsOf m q x.lowerTight with ⟨d, e⟩
  rw [hr] at hmem
  have hsd : shortestDigits x = trimZeros 20 e d := by
    simp only [Binary64.lowerTight] at hr
    unfold shortestDigits
    rw [hs]
    dsimp only
    rw [hr]
  rw [hsd, trimZeros_value]
  exact hmem

end ContentSync.Number
