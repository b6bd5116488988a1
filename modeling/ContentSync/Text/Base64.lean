/-!
# Base64

Binary values are written in the standard base64 alphabet (`A`–`Z`, `a`–`z`, `0`–`9`, `+`,
`/`) with `=` padding to a multiple of four symbols.

Reading is strict. The input is taken in groups of four symbols, the last group apart, which
may be shorter or padded. A symbol outside the alphabet, or padding in the wrong place, is an
invalid symbol at its offset; a last group of one symbol is an invalid length; padding that
does not complete the last group to four is invalid padding; and a last symbol whose unused
low bits are not zero is an invalid last symbol. A single bad symbol at the very end of an
input whose length leaves one symbol over is reported before anything else.

Main definitions: `encodeBase64`, `decodeBase64`, `Base64Fault.message`.
-/

namespace ContentSync.Text

/-- The symbol of a six-bit value. -/
def base64Symbol (v : Nat) : Char :=
  if v < 26 then Char.ofNat (65 + v)
  else if v < 52 then Char.ofNat (97 + v - 26)
  else if v < 62 then Char.ofNat (48 + v - 52)
  else if v = 62 then '+' else '/'

/-- The six-bit value of a symbol byte, if it belongs to the alphabet. -/
def base64Value (b : UInt8) : Option Nat :=
  let n := b.toNat
  if 65 ≤ n ∧ n ≤ 90 then some (n - 65)
  else if 97 ≤ n ∧ n ≤ 122 then some (n - 71)
  else if 48 ≤ n ∧ n ≤ 57 then some (n + 4)
  else if n = 43 then some 62
  else if n = 47 then some 63
  else none

/-- Encodes bytes, padding the last group with `=`. -/
def encodeBase64 : List UInt8 → List Char
  | [] => []
  | [a] =>
    let n := a.toNat * 65536
    [base64Symbol (n / 262144), base64Symbol (n / 4096 % 64), '=', '=']
  | [a, b] =>
    let n := a.toNat * 65536 + b.toNat * 256
    [base64Symbol (n / 262144), base64Symbol (n / 4096 % 64), base64Symbol (n / 64 % 64), '=']
  | a :: b :: c :: rest =>
    let n := a.toNat * 65536 + b.toNat * 256 + c.toNat
    [base64Symbol (n / 262144), base64Symbol (n / 4096 % 64), base64Symbol (n / 64 % 64),
      base64Symbol (n % 64)] ++ encodeBase64 rest

/-- The base64 text of bytes. -/
def base64Text (bytes : List UInt8) : String :=
  String.ofList (encodeBase64 bytes)

/-- Why a text is not base64. -/
inductive Base64Fault where
  /-- The byte `symbol` at `offset` may not stand there. -/
  | invalidSymbol (offset : Nat) (symbol : UInt8)
  /-- The input would end with a group of a single symbol; `length` counts the symbols read. -/
  | invalidLength (length : Nat)
  /-- The last symbol, at `offset`, has low bits that no byte uses. -/
  | invalidLastSymbol (offset : Nat) (symbol : UInt8)
  /-- The padding does not complete the last group. -/
  | invalidPadding
deriving DecidableEq, Repr

/-- The text that describes a base64 fault. -/
def Base64Fault.message : Base64Fault → String
  | .invalidSymbol i b => s!"Invalid symbol {b.toNat}, offset {i}."
  | .invalidLength n => s!"Invalid input length: {n}"
  | .invalidLastSymbol i b => s!"Invalid last symbol {b.toNat}, offset {i}."
  | .invalidPadding => "Invalid padding"

/-- The byte `=`. -/
def padByte : UInt8 := 61

/-- Decodes full groups of four symbols, `offset` being the position of the first. -/
def decodeGroups (offset : Nat) : List UInt8 → Except Base64Fault (List UInt8)
  | a :: b :: c :: d :: rest =>
    match base64Value a, base64Value b, base64Value c, base64Value d with
    | some va, some vb, some vc, some vd =>
      let n := va * 262144 + vb * 4096 + vc * 64 + vd
      (decodeGroups (offset + 4) rest).map
        ([(n / 65536).toUInt8, (n / 256 % 256).toUInt8, (n % 256).toUInt8] ++ ·)
    | none, _, _, _ => .error (.invalidSymbol offset a)
    | _, none, _, _ => .error (.invalidSymbol (offset + 1) b)
    | _, _, none, _ => .error (.invalidSymbol (offset + 2) c)
    | _, _, _, none => .error (.invalidSymbol (offset + 3) d)
  | _ => .ok []

/-- The state of reading the last group: values of its symbols, padding seen, and the offset
of the first padding byte. -/
structure Suffix where
  values : List Nat := []
  padding : Nat := 0
  firstPad : Nat := 0
  lastSymbol : UInt8 := 0

/-- Reads the symbols of the last group, `offset` being the position of the first. -/
def readSuffix (offset : Nat) : Nat → Suffix → List UInt8 → Except Base64Fault Suffix
  | _, st, [] => .ok st
  | i, st, b :: rest =>
    if b = padByte then
      if i < 2 then .error (.invalidSymbol (offset + i) b)
      else
        let st := if st.padding = 0 then { st with firstPad := i } else st
        readSuffix offset (i + 1) { st with padding := st.padding + 1 } rest
    else if st.padding > 0 then .error (.invalidSymbol (offset + st.firstPad) padByte)
    else
      match base64Value b with
      | none => .error (.invalidSymbol (offset + i) b)
      | some v =>
        readSuffix offset (i + 1) { st with values := st.values ++ [v], lastSymbol := b } rest

/-- Decodes the last group of up to four symbols. -/
def decodeSuffix (inputEmpty : Bool) (offset : Nat) (group : List UInt8) :
    Except Base64Fault (List UInt8) := do
  let st ← readSuffix offset 0 {} group
  let count := st.values.length
  if !inputEmpty && count < 2 then throw (.invalidLength (offset + count))
  if (st.padding + count) % 4 ≠ 0 then throw .invalidPadding
  let v (i : Nat) : Nat := st.values.getD i 0
  let n := v 0 * 262144 + v 1 * 4096 + v 2 * 64 + v 3
  let keep := count * 6 / 8
  -- bits past the kept bytes must be zero
  if n % Nat.pow 2 (24 - 8 * keep) ≠ 0 then
    throw (.invalidLastSymbol (offset + count - 1) st.lastSymbol)
  let bytes := [(n / 65536).toUInt8, (n / 256 % 256).toUInt8, (n % 256).toUInt8]
  return bytes.take keep

/-- Decodes standard base64 with canonical padding. -/
def decodeBase64 (input : List UInt8) : Except Base64Fault (List UInt8) := do
  let len := input.length
  let rem := len % 4
  if rem = 1 then
    match input.getLast? with
    | some last =>
      if last ≠ padByte ∧ base64Value last = none then throw (.invalidSymbol (len - 1) last)
    | none => pure ()
  -- all but the last group, which may be padded
  let body := len - rem - (if rem = 0 then 4 else 0)
  let head ← decodeGroups 0 (input.take body)
  let tail ← decodeSuffix input.isEmpty body (input.drop body)
  return head ++ tail

end ContentSync.Text
