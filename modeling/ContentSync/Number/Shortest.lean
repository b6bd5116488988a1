import ContentSync.Number.Binary64

/-!
# Shortest decimal text of a double

A finite double is written with the fewest significant decimal digits that read back to it;
of two such decimals the one nearer to the double wins, and an exact tie goes to the even last
digit. The decimals that read back to a double `v` are those in its rounding interval, which
reaches halfway to each neighbouring double and includes its ends when the significand of `v`
is even.

For `k = 1, 2, …, 17` the search looks at the grid of decimals with `k` significant digits: if
any point of that grid lies in the interval, then one of the two grid points next to `v` does,
so only those two are tested, in exact natural-number arithmetic.

The text is positional, never with an exponent: `1e300` is a one and three hundred zeros and
`1e-7` is `0.0000001`; a whole number has no point, the sign is written only for negatives
(`-0` included), and the specials are `NaN`, `inf` and `-inf`.

A second, compact layout writes `d * 10 ^ e` positionally while the point stays within
sixteen digits of the front (whole numbers get `.0`, and small ones up to four leading zeros
after the point), and otherwise as the digits with a point after the first and `e` with the
decimal exponent, signed: `1e+300`, `1.5e-7`. Zero is `0.0`.

Main definitions: `shortestDigits`, `Binary64.toPositional` and `Binary64.toCompact`.
-/

namespace ContentSync.Number

/-- Exact comparison of `a * 2 ^ p * 10 ^ r` with `b * 2 ^ s * 10 ^ t` for integers
`p, r, s, t`, by clearing the negative powers. -/
def compareScaled (a : Nat) (p r : Int) (b : Nat) (s t : Int) : Ordering :=
  let twoShift := max (-p) (-s) |>.toNat
  let tenShift := max (-r) (-t) |>.toNat
  let lhs := a * Nat.pow 2 (p + twoShift).toNat * Nat.pow 10 (r + tenShift).toNat
  let rhs := b * Nat.pow 2 (s + twoShift).toNat * Nat.pow 10 (t + tenShift).toNat
  compare lhs rhs

/-- The largest `e` with `10 ^ e ≤ m * 2 ^ q`, for `m > 0`. -/
def floorLog10 (m : Nat) (q : Int) : Int :=
  -- a first guess from the binary size, then corrected by exact comparisons
  let guess : Int := ((Binary64.bitLength m : Int) - 1 + q) * 30103 / 100000
  let fits (e : Int) : Bool := compareScaled 1 0 e m q 0 != .gt
  ([guess + 2, guess + 1, guess, guess - 1, guess - 2].find? fits).getD (guess - 3)

/-- The decimal digits `d` and exponent `e` with `d * 10 ^ e` the shortest nearest decimal in
the rounding interval of `m * 2 ^ q`; `lowerTight` marks the significand at the bottom of a
binade, whose lower neighbour is only half as far. -/
def shortestDigitsOf (m : Nat) (q : Int) (lowerTight : Bool) : Nat × Int :=
  -- distances are counted in quarters of 2^q
  let v := 4 * m
  let hi := v + 2
  let lo := if lowerTight then v - 1 else v - 2
  let inclusive := m % 2 = 0
  let unit : Int := q - 2
  let top := floorLog10 m q
  let inside (d : Nat) (e : Int) : Bool :=
    let cLo := compareScaled d 0 e lo unit 0
    let cHi := compareScaled d 0 e hi unit 0
    if inclusive then cLo != .lt && cHi != .gt else cLo == .gt && cHi == .lt
  let pick (k : Nat) : Option (Nat × Int) :=
    let e : Int := top - k + 1
    -- `below` is the grid point at or under the value
    let below := (m * Nat.pow 2 (max q 0).toNat * Nat.pow 10 (max (-e) 0).toNat) /
      (Nat.pow 2 (max (-q) 0).toNat * Nat.pow 10 (max e 0).toNat)
    let above := below + 1
    match inside below e, inside above e with
    | true, true =>
      -- the nearer of the two, measured in exact arithmetic; a tie goes to the even one
      let twoShift := (max (-unit) 0).toNat
      let tenShift := (max (-e) 0).toNat
      let vN := v * Nat.pow 2 (unit + twoShift).toNat * Nat.pow 10 tenShift
      let bN := below * Nat.pow 10 (e + tenShift).toNat * Nat.pow 2 twoShift
      let aN := above * Nat.pow 10 (e + tenShift).toNat * Nat.pow 2 twoShift
      if vN - bN < aN - vN then some (below, e)
      else if aN - vN < vN - bN then some (above, e)
      else if below % 2 = 0 then some (below, e) else some (above, e)
    | true, false => some (below, e)
    | false, true => some (above, e)
    | false, false => none
  let rec search : Nat → Nat → Nat × Int
    | 0, _ => (m, q)
    | fuel + 1, k =>
      match pick k with
      | some r => r
      | none => search fuel (k + 1)
  search 17 1

/-- Removes trailing zeros of `d`, raising the exponent to match. -/
def trimZeros : Nat → Int → Nat → Nat × Int
  | 0, e, d => (d, e)
  | fuel + 1, e, d =>
    if d ≠ 0 ∧ d % 10 = 0 then trimZeros fuel (e + 1) (d / 10) else (d, e)

/-- The shortest nearest decimal `digits * 10 ^ exponent` of a finite non-zero double. -/
def shortestDigits (x : Binary64) : Nat × Int :=
  let (m, q) := x.significand
  let lowerTight := x.fractionField = 0 ∧ x.exponentField > 1
  let (d, e) := shortestDigitsOf m q lowerTight
  trimZeros 20 e d

/-- Positional text of `digits * 10 ^ e`, with no exponent. -/
def positional (digits : Nat) (e : Int) : String :=
  let s := Nat.toDigits 10 digits
  let n : Int := s.length
  let point := n + e
  if point ≤ 0 then
    String.ofList ('0' :: '.' :: List.replicate (-point).toNat '0' ++ s)
  else if point < n then
    String.ofList (s.take point.toNat ++ '.' :: s.drop point.toNat)
  else
    String.ofList (s ++ List.replicate e.toNat '0')

/-- The text of a double: shortest digits, positional, `NaN`, `inf`, `-inf`, `-0`. -/
def Binary64.toPositional (x : Binary64) : String :=
  if x.isNaN then "NaN"
  else
    let sign := if x.negative then "-" else ""
    if x.isInfinite then sign ++ "inf"
    else if x.isZero then sign ++ "0"
    else
      let (d, e) := shortestDigits x
      sign ++ positional d e

/-- Compact text of `digits * 10 ^ e`: positional near the units, with a signed exponent
otherwise. -/
def compactLayout (digits : Nat) (e : Int) : String :=
  let s := Nat.toDigits 10 digits
  let n : Int := s.length
  let point := n + e
  if 0 ≤ e ∧ point ≤ 16 then
    String.ofList (s ++ List.replicate e.toNat '0' ++ ['.', '0'])
  else if 0 < point ∧ point ≤ 16 then
    String.ofList (s.take point.toNat ++ '.' :: s.drop point.toNat)
  else if -5 < point ∧ point ≤ 0 then
    String.ofList ('0' :: '.' :: List.replicate (-point).toNat '0' ++ s)
  else
    let mantissa := match s with
      | [d] => [d]
      | d :: rest => d :: '.' :: rest
      | [] => []
    let exponent := point - 1
    String.ofList mantissa ++ "e" ++ (if 0 ≤ exponent then "+" else "") ++ toString exponent

/-- The compact text of a finite double; the specials read `NaN`, `inf`, `-inf`. -/
def Binary64.toCompact (x : Binary64) : String :=
  if x.isNaN then "NaN"
  else
    let sign := if x.negative then "-" else ""
    if x.isInfinite then sign ++ "inf"
    else if x.isZero then sign ++ "0.0"
    else
      let (d, e) := shortestDigits x
      sign ++ compactLayout d e

end ContentSync.Number
