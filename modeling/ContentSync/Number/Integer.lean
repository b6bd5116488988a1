import ContentSync.Text.Utf8

/-!
# Reading integers in a radix

Integers are read digit by digit from the left. A leading `+` is accepted, and a leading `-`
only where the target is signed. The first byte that is no digit of the radix stops the
reading, and so does the first digit after which the value no longer fits the target range;
whichever comes first decides the fault.

Main definitions: `readInteger` for a signed range, `readNatural` for an unsigned one, and
`IntegerFault.message`, the text of each fault.
-/

namespace ContentSync.Number

/-- Why a text is not an integer of the target range. -/
inductive IntegerFault where
  /-- The text is empty. -/
  | empty
  /-- A byte is no digit of the radix, or a sign stands alone. -/
  | invalidDigit
  /-- The value is above the range. -/
  | tooLarge
  /-- The value is below the range. -/
  | tooSmall
deriving DecidableEq, Repr

/-- The text that names a fault of integer reading. -/
def IntegerFault.message : IntegerFault → String
  | .empty => "cannot parse integer from empty string"
  | .invalidDigit => "invalid digit found in string"
  | .tooLarge => "number too large to fit in target type"
  | .tooSmall => "number too small to fit in target type"

/-- The value of an ASCII byte as a digit of `radix` (at most 36), if it is one. -/
def digitValue (radix : Nat) (b : UInt8) : Option Nat :=
  let n := b.toNat
  let v :=
    if 48 ≤ n ∧ n ≤ 57 then some (n - 48)
    else if 97 ≤ n ∧ n ≤ 122 then some (n - 87)
    else if 65 ≤ n ∧ n ≤ 90 then some (n - 55)
    else none
  match v with
  | some d => if d < radix then some d else none
  | none => none

/-- Accumulates the digits of a non-negative value that must stay at most `bound`. -/
def accumulateUp (radix bound : Nat) : Nat → List UInt8 → Except IntegerFault Nat
  | acc, [] => .ok acc
  | acc, b :: rest =>
    match digitValue radix b with
    | none => .error .invalidDigit
    | some d =>
      let next := acc * radix + d
      if next ≤ bound then accumulateUp radix bound next rest else .error .tooLarge

/-- Accumulates the digits of a negative value whose magnitude must stay at most `bound`. -/
def accumulateDown (radix bound : Nat) : Nat → List UInt8 → Except IntegerFault Nat
  | acc, [] => .ok acc
  | acc, b :: rest =>
    match digitValue radix b with
    | none => .error .invalidDigit
    | some d =>
      let next := acc * radix + d
      if next ≤ bound then accumulateDown radix bound next rest else .error .tooSmall

/-- Reads an integer in `radix` from the bytes `s`, which must lie between `-lowMagnitude`
and `high`; a `-` sign is accepted only when `signed` holds. -/
def readIntegerBytes (radix : Nat) (signed : Bool) (lowMagnitude high : Nat) (s : List UInt8) :
    Except IntegerFault Int :=
  match s with
  | [] => .error .empty
  | [43] => .error .invalidDigit
  | [45] => .error .invalidDigit
  | 43 :: rest => (accumulateUp radix high 0 rest).map Int.ofNat
  | 45 :: rest =>
    if signed then (accumulateDown radix lowMagnitude 0 rest).map (fun n => -Int.ofNat n)
    else (accumulateUp radix high 0 s).map Int.ofNat
  | _ => (accumulateUp radix high 0 s).map Int.ofNat

/-- Reads a signed 64-bit integer written in decimal. -/
def readInteger (s : String) : Except IntegerFault Int :=
  readIntegerBytes 10 true (Nat.pow 2 63) (Nat.pow 2 63 - 1) (Text.utf8Bytes s)

/-- Reads an unsigned integer in `radix` that must be at most `bound`. -/
def readNatural (radix bound : Nat) (s : String) : Except IntegerFault Nat :=
  (readIntegerBytes radix false 0 bound (Text.utf8Bytes s)).map Int.toNat

example : readInteger "-9223372036854775808" = .ok (-9223372036854775808) := by rfl
example : readInteger "9223372036854775808" = .error .tooLarge := by rfl
example : readInteger "+" = .error .invalidDigit := by rfl
example : readNatural 16 0xFF "+F" = .ok 15 := by rfl

end ContentSync.Number
