/-!
# UTF-8 bytes of text

Text is read from and written to bytes in UTF-8. Encoding gives each character one to four
bytes. Decoding accepts exactly the well-formed sequences: no overlong forms, no surrogates,
nothing above U+10FFFF. When it meets a fault it reports where the valid prefix ends and how
many bytes form the bad sequence, or that the input stops inside a sequence.

Main definitions: `encodeChar`, `utf8Bytes`, `decodeUtf8` and `Utf8Fault.message`.
-/

namespace ContentSync.Text

/-- The UTF-8 bytes of one character. -/
def encodeChar (c : Char) : List UInt8 :=
  let n := c.toNat
  if n < 0x80 then [n.toUInt8]
  else if n < 0x800 then [(0xC0 + n / 64).toUInt8, (0x80 + n % 64).toUInt8]
  else if n < 0x10000 then
    [(0xE0 + n / 4096).toUInt8, (0x80 + n / 64 % 64).toUInt8, (0x80 + n % 64).toUInt8]
  else
    [(0xF0 + n / 262144).toUInt8, (0x80 + n / 4096 % 64).toUInt8,
      (0x80 + n / 64 % 64).toUInt8, (0x80 + n % 64).toUInt8]

/-- The UTF-8 bytes of a list of characters. -/
def utf8OfChars (cs : List Char) : List UInt8 :=
  cs.flatMap encodeChar

/-- The UTF-8 bytes of a text. -/
def utf8Bytes (s : String) : List UInt8 :=
  utf8OfChars s.toList

/-- The number of UTF-8 bytes of a text. -/
def utf8Length (s : String) : Nat :=
  (utf8Bytes s).length

/-- Where and why a byte sequence is not UTF-8. -/
inductive Utf8Fault where
  /-- The bytes from `index` on start a bad sequence of `length` bytes. -/
  | invalid (index : Nat) (length : Nat)
  /-- The input ends inside the sequence that starts at `index`. -/
  | incomplete (index : Nat)
deriving DecidableEq, Repr

/-- The text that describes a UTF-8 fault. -/
def Utf8Fault.message : Utf8Fault → String
  | .invalid i n => s!"invalid utf-8 sequence of {n} bytes from index {i}"
  | .incomplete i => s!"incomplete utf-8 byte sequence from index {i}"

/-- Whether a byte continues a multi-byte sequence. -/
def isContinuation (b : UInt8) : Bool :=
  0x80 ≤ b ∧ b ≤ 0xBF

/-- Whether the first two bytes of a three-byte sequence may stand together. -/
def threeByteStart (b0 b1 : UInt8) : Bool :=
  (b0 == 0xE0 && 0xA0 ≤ b1 && b1 ≤ 0xBF) ||
  (0xE1 ≤ b0 && b0 ≤ 0xEC && isContinuation b1) ||
  (b0 == 0xED && 0x80 ≤ b1 && b1 ≤ 0x9F) ||
  (0xEE ≤ b0 && b0 ≤ 0xEF && isContinuation b1)

/-- Whether the first two bytes of a four-byte sequence may stand together. -/
def fourByteStart (b0 b1 : UInt8) : Bool :=
  (b0 == 0xF0 && 0x90 ≤ b1 && b1 ≤ 0xBF) ||
  (0xF1 ≤ b0 && b0 ≤ 0xF3 && isContinuation b1) ||
  (b0 == 0xF4 && 0x80 ≤ b1 && b1 ≤ 0x8F)

/-- The low six bits of a continuation byte. -/
def payload (b : UInt8) : Nat :=
  b.toNat % 64

/-- Decodes UTF-8 bytes, `index` being the position of the first of them in the whole input. -/
def decodeUtf8From (index : Nat) : List UInt8 → Except Utf8Fault (List Char)
  | [] => .ok []
  | b0 :: rest =>
    if b0 < 0x80 then
      (decodeUtf8From (index + 1) rest).map (Char.ofNat b0.toNat :: ·)
    else if 0xC2 ≤ b0 ∧ b0 ≤ 0xDF then
      match rest with
      | [] => .error (.incomplete index)
      | b1 :: rest' =>
        if isContinuation b1 then
          (decodeUtf8From (index + 2) rest').map
            (Char.ofNat ((b0.toNat % 32) * 64 + payload b1) :: ·)
        else .error (.invalid index 1)
    else if 0xE0 ≤ b0 ∧ b0 ≤ 0xEF then
      match rest with
      | [] => .error (.incomplete index)
      | b1 :: rest' =>
        if threeByteStart b0 b1 then
          match rest' with
          | [] => .error (.incomplete index)
          | b2 :: rest'' =>
            if isContinuation b2 then
              (decodeUtf8From (index + 3) rest'').map
                (Char.ofNat ((b0.toNat % 16) * 4096 + payload b1 * 64 + payload b2) :: ·)
            else .error (.invalid index 2)
        else .error (.invalid index 1)
    else if 0xF0 ≤ b0 ∧ b0 ≤ 0xF4 then
      match rest with
      | [] => .error (.incomplete index)
      | b1 :: rest' =>
        if fourByteStart b0 b1 then
          match rest' with
          | [] => .error (.incomplete index)
          | b2 :: rest'' =>
            if isContinuation b2 then
              match rest'' with
              | [] => .error (.incomplete index)
              | b3 :: rest''' =>
                if isContinuation b3 then
                  (decodeUtf8From (index + 4) rest''').map
                    (Char.ofNat ((b0.toNat % 8) * 262144 + payload b1 * 4096 +
                      payload b2 * 64 + payload b3) :: ·)
                else .error (.invalid index 3)
            else .error (.invalid index 2)
        else .error (.invalid index 1)
    else .error (.invalid index 1)

/-- Decodes UTF-8 bytes into characters. -/
def decodeUtf8 (bytes : List UInt8) : Except Utf8Fault (List Char) :=
  decodeUtf8From 0 bytes

/-- The text of UTF-8 bytes, if they are well formed. -/
def stringOfUtf8? (bytes : List UInt8) : Option String :=
  match decodeUtf8 bytes with
  | .ok cs => some (String.ofList cs)
  | .error _ => none

example : decodeUtf8 [0x61, 0xFF] = .error (.invalid 1 1) := rfl
example : decodeUtf8 [0xE6, 0x97] = .error (.incomplete 0) := rfl

end ContentSync.Text
