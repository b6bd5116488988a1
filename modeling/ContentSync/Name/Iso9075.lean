import ContentSync.Text.Alphabetic
import ContentSync.Text.Numeric
import ContentSync.Number.Integer

/-!
# Names as XML names (ISO 9075 escaping)

A node or property name becomes an XML element or attribute name by escaping each character
that may not stand at its place as `_xHHHH_`, its code point in upper-case hex with at least
four digits. A name may start with a letter, `_` or `:`, and continue with those, digits, `-`
and `.`; letters and digits are those of Unicode. An `_` followed by `x` is escaped as well, so
that every `_x` in the result begins an escape.

Decoding replaces each `_x` followed by four to six hex digits and `_` by the character they
name, and leaves any other `_x` as it stands.

Main definitions: `iso9075Encode`, `iso9075Decode`.
-/

namespace ContentSync.Name

/-- Whether `c` may start an XML name. -/
def isNameStart (c : Char) : Bool :=
  c = ':' || c = '_' || Text.isAlphabetic c

/-- Whether `c` may continue an XML name. -/
def isNameChar (c : Char) : Bool :=
  isNameStart c || c = '-' || c = '.' || Text.isNumeric c

/-- The escape `_xHHHH_` of a character. -/
def hexEscape (c : Char) : List Char :=
  let ds := (Nat.toDigits 16 c.toNat).map Char.toUpper
  '_' :: 'x' :: List.replicate (4 - ds.length) '0' ++ ds ++ ['_']

/-- Escapes the characters `cs`; `first` marks the start of the name. -/
def encodeChars (first : Bool) : List Char → List Char
  | [] => []
  | c :: rest =>
    let valid := if first then isNameStart c else isNameChar c
    let literalEscape := c = '_' ∧ rest.head? = some 'x'
    (if valid ∧ !literalEscape then [c] else hexEscape c) ++ encodeChars false rest

/-- The XML name of a name. -/
def iso9075Encode (name : String) : String :=
  String.ofList (encodeChars true name.toList)

/-- Whether a character is an ASCII hex digit. -/
def isHexDigit (c : Char) : Bool :=
  ('0' ≤ c ∧ c ≤ '9') ∨ ('a' ≤ c ∧ c ≤ 'f') ∨ ('A' ≤ c ∧ c ≤ 'F')

/-- The character of an escape body: four to six hex digits before the first `_`. Returns
the character and the number of digits. -/
def escapeBody (cs : List Char) : Option (Char × Nat) :=
  match cs.findIdx? (· = '_') with
  | none => none
  | some i =>
    let ds := cs.take i
    if 4 ≤ i ∧ i ≤ 6 ∧ ds.all isHexDigit then
      match Number.readNatural 16 0xFFFFFFFF (String.ofList ds) with
      | .ok n => if n.isValidChar then some (Char.ofNat n, i) else none
      | .error _ => none
    else none

/-- Decodes escapes in `cs`, appending to `acc` (reversed). -/
def decodeChars (acc : List Char) : List Char → List Char
  | [] => acc.reverse
  | '_' :: 'x' :: rest =>
    match escapeBody rest with
    | some (c, digits) => decodeChars (c :: acc) (rest.drop (digits + 1))
    | none => decodeChars ('x' :: '_' :: acc) rest
  | c :: rest => decodeChars (c :: acc) rest
termination_by cs => cs.length
decreasing_by all_goals (simp only [List.length_drop, List.length_cons]; omega)

/-- The name of an XML name. -/
def iso9075Decode (name : String) : String :=
  String.ofList (decodeChars [] name.toList)

example : iso9075Encode "1.0" = "_x0031_.0" := by decide +kernel
example : iso9075Decode "_x0020_x0020_" = " x0020_" := by decide +kernel

end ContentSync.Name
