import ContentSync.Text.Utf8

/-!
# Double-precision numbers

A `Binary64` is an IEEE 754 double kept as its 64-bit pattern: one sign bit, eleven exponent
bits and fifty-two fraction bits. Nothing here computes with hardware floats; every operation
is exact arithmetic on natural numbers, so the values can be reasoned about.

Reading a decimal numeral rounds its exact value to the nearest double, a tie going to the
double with an even significand. The numeral is a sign, digits with at most one point and at
least one digit, and an optional exponent `e` or `E` with its own sign and digits; the words
`inf`, `infinity` and `nan` are read in any case.

Main definitions: `Binary64.ofDecimal`, `readBinary64`, `Binary64.same` (the equality of the
standard, under which a NaN equals nothing and the two zeros are equal).
-/

namespace ContentSync.Number

/-- An IEEE 754 double, kept as its bit pattern. -/
structure Binary64 where
  /-- The 64 bits: sign, exponent field, fraction field. -/
  bits : UInt64
deriving DecidableEq, Repr

namespace Binary64

/-- Number of fraction bits. -/
def fractionBits : Nat := 52

/-- Whether the sign bit is set. -/
def negative (x : Binary64) : Bool :=
  x.bits.toNat ≥ Nat.pow 2 63

/-- The eleven-bit exponent field. -/
def exponentField (x : Binary64) : Nat :=
  x.bits.toNat / Nat.pow 2 52 % Nat.pow 2 11

/-- The fifty-two-bit fraction field. -/
def fractionField (x : Binary64) : Nat :=
  x.bits.toNat % Nat.pow 2 52

/-- Whether the number is a NaN. -/
def isNaN (x : Binary64) : Bool :=
  x.exponentField = 2047 ∧ x.fractionField ≠ 0

/-- Whether the number is an infinity. -/
def isInfinite (x : Binary64) : Bool :=
  x.exponentField = 2047 ∧ x.fractionField = 0

/-- Whether the number is a zero of either sign. -/
def isZero (x : Binary64) : Bool :=
  x.exponentField = 0 ∧ x.fractionField = 0

/-- The double with sign `neg`, exponent field `e` and fraction field `f`. -/
def assemble (neg : Bool) (e f : Nat) : Binary64 :=
  ⟨((if neg then Nat.pow 2 63 else 0) + e % Nat.pow 2 11 * Nat.pow 2 52 + f % Nat.pow 2 52).toUInt64⟩

/-- The quiet NaN, with the sign `neg`. -/
def nan (neg : Bool) : Binary64 := assemble neg 2047 (Nat.pow 2 51)

/-- The infinity of sign `neg`. -/
def infinity (neg : Bool) : Binary64 := assemble neg 2047 0

/-- The zero of sign `neg`. -/
def zero (neg : Bool) : Binary64 := assemble neg 0 0

/-- Equality of doubles as the standard defines it: a NaN equals nothing, the two zeros are
equal, and other numbers are equal when their bits are. -/
def same (x y : Binary64) : Bool :=
  if x.isNaN || y.isNaN then false
  else if x.isZero && y.isZero then true
  else x.bits == y.bits

/-- The significand `m` and the power `q` of a finite non-zero double, whose magnitude is
`m * 2 ^ q`; for normal numbers `m` carries the hidden bit. -/
def significand (x : Binary64) : Nat × Int :=
  if x.exponentField = 0 then (x.fractionField, -1074)
  else (x.fractionField + Nat.pow 2 52, (x.exponentField : Int) - 1075)

/-- Number of binary digits of `n` (zero for zero). -/
def bitLength (n : Nat) : Nat :=
  if n = 0 then 0 else Nat.log2 n + 1

/-- Rounds the positive ratio `num / den` to the nearest integer, a tie going to even. -/
def roundRatio (num den : Nat) : Nat :=
  let q := num / den
  let r := num % den
  if 2 * r > den then q + 1
  else if 2 * r < den then q
  else if q % 2 = 1 then q + 1 else q

/-- The ratio `num / den` times `2 ^ k`, for an integer `k`, as a pair of naturals. -/
def scaleRatio (num den : Nat) (k : Int) : Nat × Nat :=
  if 0 ≤ k then (num * Nat.pow 2 k.toNat, den) else (num, den * Nat.pow 2 (-k).toNat)

/-- The double nearest to the positive ratio `num / den`, with sign `neg`. -/
def ofRatio (neg : Bool) (num den : Nat) : Binary64 :=
  if num = 0 then zero neg
  else
    -- the estimate puts `num / den * 2 ^ k` into [2^52, 2^53), up to one step
    let k0 : Int := 52 - ((bitLength num : Int) - bitLength den)
    let inRange (k : Int) : Bool :=
      let (a, b) := scaleRatio num den k
      Nat.pow 2 52 * b ≤ a ∧ a < Nat.pow 2 53 * b
    let k :=
      if inRange k0 then k0
      else if inRange (k0 + 1) then k0 + 1
      else k0 - 1
    if -k < -1074 then
      -- below the normal range: the power is fixed at -1074
      let (a, b) := scaleRatio num den 1074
      let m := roundRatio a b
      if m ≥ Nat.pow 2 52 then assemble neg 1 (m - Nat.pow 2 52) else assemble neg 0 m
    else
      let (a, b) := scaleRatio num den k
      let m := roundRatio a b
      let (m, q) := if m = Nat.pow 2 53 then (Nat.pow 2 52, -k + 1) else (m, -k)
      let field := q + 1075
      if field ≥ 2047 then infinity neg
      else assemble neg field.toNat (m - Nat.pow 2 52)

/-- Number of decimal digits of `n` (zero for zero). -/
def decimalLength (n : Nat) : Nat :=
  (Nat.toDigits 10 n).length

/-- The double nearest to `digits * 10 ^ exp10`, with sign `neg`. Values of at least `10 ^ 309`
are infinite and values below `10 ^ -324` are zero, so no huge power is ever formed. -/
def ofDecimal (neg : Bool) (digits : Nat) (exp10 : Int) : Binary64 :=
  if digits = 0 then zero neg
  else
    let magnitude : Int := decimalLength digits + exp10
    if magnitude > 310 then infinity neg
    else if magnitude < -324 then zero neg
    else if 0 ≤ exp10 then ofRatio neg (digits * Nat.pow 10 exp10.toNat) 1
    else ofRatio neg digits (Nat.pow 10 (-exp10).toNat)

end Binary64

/-- Why a text is not a decimal floating-point numeral. -/
inductive FloatFault where
  /-- The text is empty. -/
  | empty
  /-- The text is not a numeral. -/
  | invalid
deriving DecidableEq, Repr

/-- The text that names a fault of floating-point reading. -/
def FloatFault.message : FloatFault → String
  | .empty => "cannot parse float from empty string"
  | .invalid => "invalid float literal"

/-- Whether a character is an ASCII digit. -/
def isAsciiDigit (c : Char) : Bool :=
  '0' ≤ c ∧ c ≤ '9'

/-- The value of a run of ASCII digits appended to `acc`. -/
def digitsValue (acc : Nat) (cs : List Char) : Nat :=
  cs.foldl (fun acc c => acc * 10 + (c.toNat - 48)) acc

/-- Reads the unsigned part of a decimal numeral: digits, a point, digits, an exponent. -/
def readUnsignedNumeral (cs : List Char) : Option (Nat × Int) :=
  let whole := cs.takeWhile isAsciiDigit
  let rest := cs.dropWhile isAsciiDigit
  let (frac, rest) :=
    match rest with
    | '.' :: more => (more.takeWhile isAsciiDigit, more.dropWhile isAsciiDigit)
    | _ => ([], rest)
  if whole.isEmpty && frac.isEmpty then none
  else
    let mantissa := digitsValue 0 (whole ++ frac)
    let scale : Int := -(frac.length : Int)
    match rest with
    | [] => some (mantissa, scale)
    | e :: more =>
      if e = 'e' || e = 'E' then
        let (expNeg, digits) :=
          match more with
          | '+' :: ds => (false, ds)
          | '-' :: ds => (true, ds)
          | ds => (false, ds)
        if digits.isEmpty || !digits.all isAsciiDigit then none
        else
          let e10 : Int := digitsValue 0 digits
          some (mantissa, scale + (if expNeg then -e10 else e10))
      else none

/-- Whether `cs` spells `word` in any mix of ASCII cases. -/
def spellsIgnoringCase (cs : List Char) (word : String) : Bool :=
  cs.map Char.toLower == word.toList

/-- Reads a decimal floating-point numeral, rounding to the nearest double. -/
def readBinary64 (s : String) : Except FloatFault Binary64 :=
  let cs := s.toList
  if cs.isEmpty then .error .empty
  else
    let (neg, body) :=
      match cs with
      | '+' :: rest => (false, rest)
      | '-' :: rest => (true, rest)
      | _ => (false, cs)
    if body.isEmpty then .error .invalid
    else
      match readUnsignedNumeral body with
      | some (digits, e10) => .ok (Binary64.ofDecimal neg digits e10)
      | none =>
        if spellsIgnoringCase body "inf" || spellsIgnoringCase body "infinity" then
          .ok (Binary64.infinity neg)
        else if spellsIgnoringCase body "nan" then .ok (Binary64.nan neg)
        else .error .invalid

example : readBinary64 "1.5" = .ok ⟨0x3FF8000000000000⟩ := rfl
example : readBinary64 "0.1" = .ok ⟨0x3FB999999999999A⟩ := rfl

end ContentSync.Number
