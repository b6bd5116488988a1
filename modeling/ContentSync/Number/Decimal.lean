/-!
# Decimal numerals

A decimal numeral is an optional sign, a mantissa of ASCII digits with at most one point and
at least one digit on some side of it, and an optional exponent: `e` or `E`, an optional sign
and at least one digit. The numeral is kept as written; only its shape is checked.

Main definition: `isDecimalNumeral`.
-/

namespace ContentSync.Number

/-- Whether every character is an ASCII digit. -/
def allAsciiDigits (cs : List Char) : Bool :=
  cs.all fun c => '0' ≤ c ∧ c ≤ '9'

/-- The characters without one leading `+` or `-`. -/
def dropSign : List Char → List Char
  | '+' :: rest => rest
  | '-' :: rest => rest
  | cs => cs

/-- Splits at the first character satisfying `p`, dropping it; `none` if there is none. -/
def splitAtFirst (p : Char → Bool) (cs : List Char) : List Char × Option (List Char) :=
  match cs.findIdx? p with
  | some i => (cs.take i, some (cs.drop (i + 1)))
  | none => (cs, none)

/-- Whether the text is a decimal numeral. -/
def isDecimalNumeral (s : String) : Bool :=
  let body := dropSign s.toList
  let (mantissa, exponent) := splitAtFirst (fun c => c = 'e' || c = 'E') body
  let (whole, frac) := splitAtFirst (· = '.') mantissa
  let frac := frac.getD []
  let mantissaOk := !(whole.isEmpty && frac.isEmpty) && allAsciiDigits whole && allAsciiDigits frac
  let exponentOk :=
    match exponent with
    | none => true
    | some e => let e := dropSign e; !e.isEmpty && allAsciiDigits e
  mantissaOk && exponentOk

example : isDecimalNumeral "-1.50" = true := rfl
example : isDecimalNumeral "1E5E5" = false := rfl
example : isDecimalNumeral "." = false := rfl

end ContentSync.Number
