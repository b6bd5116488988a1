import ContentSync.Json.Value
import ContentSync.Text.Utf8

/-!
# Reading JSON text

JSON text is read byte by byte into a `Located` tree: every value with the byte span it came
from, so that a fault found later, when the tree is decoded into a typed value, can name the
line and column it belongs to.

A syntax fault does not discard what was read before it. The reader stops at the fault and
leaves a `broken` node in the place of the value, key or separator it expected; the containers
around it keep the items read so far. A decoder walks the tree in document order and so meets
a fault in a type before it meets a syntax fault further on, as a reader that decodes while
it parses would.

Faults carry the byte index they are reported at. Some faults are reported where reading
stands, after the bytes already taken; others, about a byte looked at but not taken, one byte
further (at most at the end). Lines count from 1, and the column is the number of bytes
between the start of the line and the index.

Main definitions: `Located`, `readDocument`, `lineColumn`.
-/

namespace ContentSync.JsonText

/-- A fault met while reading or decoding JSON: its message and, when known, the byte index
it is reported at. -/
structure JsonFault where
  message : String
  index : Option Nat
deriving Repr, Inhabited, DecidableEq

/-- A value read from text, with its byte span `start` (first byte) to `stop` (after the last
byte). An array item carries the index reading reaches after the item and the separator
behind it. An object member carries its key, the index after the key, the index after the
blanks that follow the key, the value, and the index after the blanks that follow the value
(and after the closing brace if that comes next). -/
inductive Located where
  | null (start stop : Nat)
  | bool (b : Bool) (start stop : Nat)
  | number (n : JsonNumber) (start stop : Nat)
  | string (s : String) (start stop : Nat)
  | array (items : List (Located × Nat)) (start stop : Nat)
  | object (members : List (String × Nat × Nat × Located × Nat)) (start stop : Nat)
  | broken (fault : JsonFault)
deriving Repr, Inhabited

/-- Where reading stands: the bytes not yet read and the index of the first of them. -/
structure Cursor where
  rest : List UInt8
  index : Nat

namespace Cursor

/-- The next byte, if any. -/
def peek? (c : Cursor) : Option UInt8 :=
  c.rest.head?

/-- The cursor one byte further. -/
def advance (c : Cursor) : Cursor :=
  match c.rest with
  | _ :: more => ⟨more, c.index + 1⟩
  | [] => c

/-- A fault reported where reading stands. -/
def here (c : Cursor) (message : String) : JsonFault :=
  ⟨message, some c.index⟩

/-- A fault about the byte looked at: reported one byte further, at most at the end. -/
def ahead (c : Cursor) (message : String) : JsonFault :=
  ⟨message, some (if c.rest.isEmpty then c.index else c.index + 1)⟩

end Cursor

/-- Whether a byte is JSON white space. -/
def isBlank (b : UInt8) : Bool :=
  b = 32 || b = 10 || b = 9 || b = 13

/-- Skips white space from `bytes`, which start at `index`. -/
def skipBlanksFrom : List UInt8 → Nat → Cursor
  | b :: more, index => if isBlank b then skipBlanksFrom more (index + 1) else ⟨b :: more, index⟩
  | [], index => ⟨[], index⟩

/-- The cursor after white space. -/
def Cursor.skipBlanks (c : Cursor) : Cursor :=
  skipBlanksFrom c.rest c.index

/-- The byte of an ASCII character. -/
def byteOf (c : Char) : UInt8 :=
  c.toNat.toUInt8

/-- The value of an ASCII hex digit. -/
def hexValue (b : UInt8) : Option Nat :=
  if 48 ≤ b ∧ b ≤ 57 then some (b.toNat - 48)
  else if 97 ≤ b ∧ b ≤ 102 then some (b.toNat - 87)
  else if 65 ≤ b ∧ b ≤ 70 then some (b.toNat - 55)
  else none

/-- The value of four hex digits. -/
def hexQuad (a b c d : UInt8) : Option Nat := do
  let w ← hexValue a
  let x ← hexValue b
  let y ← hexValue c
  let z ← hexValue d
  return ((w * 16 + x) * 16 + y) * 16 + z

/-- Reads four hex digits of a `\u` escape. With fewer than four bytes left reading moves to
the end and reports an unfinished string. -/
def readHexQuad (c : Cursor) : Except JsonFault (Nat × Cursor) :=
  match c.rest with
  | a :: b :: d :: e :: more =>
    let after : Cursor := ⟨more, c.index + 4⟩
    match hexQuad a b d e with
    | some n => .ok (n, after)
    | none => .error (after.here "invalid escape")
  | short => .error ⟨"EOF while parsing a string", some (c.index + short.length)⟩

/-- Message of a string that ends before its closing quote. -/
def eofInString : String := "EOF while parsing a string"

/-- Reads the `\u` escape whose hex digits start at `c`: a character of the basic plane, or a
leading surrogate that must be followed by `\u` and a trailing one. Returns the UTF-8 bytes
of the character. -/
def readUnicodeEscape (c : Cursor) : Except JsonFault (List UInt8 × Cursor) := do
  let (n, c) ← readHexQuad c
  if 0xDC00 ≤ n ∧ n ≤ 0xDFFF then throw (c.here "lone leading surrogate in hex escape")
  if n < 0xD800 ∨ n > 0xDBFF then return (Text.encodeChar (Char.ofNat n), c)
  match c.peek? with
  | none => throw (c.here eofInString)
  | some b =>
    if b ≠ byteOf '\\' then throw (c.advance.here "unexpected end of hex escape")
    let c := c.advance
    match c.peek? with
    | none => throw (c.here eofInString)
    | some b =>
      if b ≠ byteOf 'u' then throw (c.advance.here "unexpected end of hex escape")
      let (n2, c) ← readHexQuad c.advance
      if n2 < 0xDC00 ∨ n2 > 0xDFFF then throw (c.here "lone leading surrogate in hex escape")
      let code := ((n - 0xD800) * 1024 + (n2 - 0xDC00)) + 0x10000
      return (Text.encodeChar (Char.ofNat code), c)

/-- The byte an escape letter stands for, for the one-letter escapes. -/
def simpleEscape (b : UInt8) : Option UInt8 :=
  if b = byteOf '"' then some b
  else if b = byteOf '\\' then some b
  else if b = byteOf '/' then some b
  else if b = byteOf 'b' then some 8
  else if b = byteOf 'f' then some 12
  else if b = byteOf 'n' then some 10
  else if b = byteOf 'r' then some 13
  else if b = byteOf 't' then some 9
  else none

/-- Reads the body of a string after its opening quote, collecting its bytes (reversed) in
`acc`; `fuel` bounds the number of steps. -/
def readStringBody : Nat → List UInt8 → Cursor → Except JsonFault (List UInt8 × Cursor)
  | 0, _, c => .error (c.here eofInString)
  | fuel + 1, acc, c =>
    match c.rest with
    | [] => .error (c.here eofInString)
    | b :: _ =>
      if b = byteOf '"' then .ok (acc.reverse, c.advance)
      else if b = byteOf '\\' then
        let c := c.advance
        match c.rest with
        | [] => .error (c.here eofInString)
        | e :: _ =>
          if e = byteOf 'u' then
            match readUnicodeEscape c.advance with
            | .ok (bytes, c) => readStringBody fuel (bytes.reverse ++ acc) c
            | .error f => .error f
          else
            match simpleEscape e with
            | some out => readStringBody fuel (out :: acc) c.advance
            | none => .error (c.advance.here "invalid escape")
      else if b < 0x20 then
        .error (c.advance.here "control character (\\u0000-\\u001F) found while parsing a string")
      else readStringBody fuel (b :: acc) c.advance

/-- Reads a string whose opening quote is at `c`, giving its text and the cursor after the
closing quote. Bytes that are not UTF-8 are a fault reported after the closing quote. -/
def readString (c : Cursor) : Except JsonFault (String × Cursor) := do
  let (bytes, after) ← readStringBody (c.rest.length + 1) [] c.advance
  match Text.stringOfUtf8? bytes with
  | some s => return (s, after)
  | none => throw (after.here "invalid unicode code point")

/-- Whether a byte is an ASCII digit. -/
def isDigitByte (b : UInt8) : Bool :=
  48 ≤ b && b ≤ 57

/-- Takes the digits at the cursor: their value, how many there were, and the cursor after. -/
def takeDigits : List UInt8 → Nat → Nat → Nat → Nat × Nat × Cursor
  | b :: more, index, value, count =>
    if isDigitByte b then takeDigits more (index + 1) (value * 10 + (b.toNat - 48)) (count + 1)
    else (value, count, ⟨b :: more, index⟩)
  | [], index, value, count => (value, count, ⟨[], index⟩)

/-- Reads the exponent after `e` or `E` (already taken): its value with sign. -/
def readExponent (c : Cursor) : Except JsonFault (Int × Cursor) :=
  let (negative, c) :=
    match c.peek? with
    | some b => if b = byteOf '+' then (false, c.advance)
      else if b = byteOf '-' then (true, c.advance) else (false, c)
    | none => (false, c)
  match c.peek? with
  | none => .error (c.here "EOF while parsing a value")
  | some b =>
    if !isDigitByte b then .error (c.advance.here "invalid number")
    else
      let (value, _, c) := takeDigits c.rest c.index 0 0
      .ok (if negative then -(value : Int) else value, c)

/-- The number of digits `d` as a JSON number with sign `negative`, when it has no fraction
and no exponent: an unsigned integer up to `2 ^ 64 - 1`, a negative one down to `-2 ^ 63`,
otherwise a double. `-0` is the double negative zero. -/
def integerNumber (negative : Bool) (d : Nat) : JsonNumber :=
  if negative then
    if d = 0 then .float (Number.Binary64.zero true)
    else if d ≤ Nat.pow 2 63 then .negative d
    else .float (Number.Binary64.ofDecimal true d 0)
  else if d < Nat.pow 2 64 then .natural d
  else .float (Number.Binary64.ofDecimal false d 0)

/-- Reads a number whose first byte (a digit or `-`) is at `c`. -/
def readNumber (c : Cursor) : Except JsonFault (JsonNumber × Cursor) := do
  let (negative, c) := if c.peek? = some (byteOf '-') then (true, c.advance) else (false, c)
  let first ← match c.peek? with
    | none => throw (c.here "EOF while parsing a value")
    | some b => pure b
  if !isDigitByte first then throw (c.advance.here "invalid number")
  let (whole, wholeCount, c) ←
    if first = byteOf '0' then
      let c := c.advance
      match c.peek? with
      | some b => if isDigitByte b then throw (c.ahead "invalid number") else pure (0, 1, c)
      | none => pure (0, 1, c)
    else pure (takeDigits c.rest c.index 0 0)
  let _ := wholeCount
  -- the fraction, if any
  let (fraction, fractionCount, c, isFloat) ←
    if c.peek? = some (byteOf '.') then
      let c := c.advance
      let (value, count, c) := takeDigits c.rest c.index 0 0
      if count = 0 then
        match c.peek? with
        | some _ => throw (c.ahead "invalid number")
        | none => throw (c.ahead "EOF while parsing a value")
      pure (value, count, c, true)
    else pure (0, 0, c, false)
  let (exponent, c, isFloat) ←
    if c.peek? = some (byteOf 'e') ∨ c.peek? = some (byteOf 'E') then
      let (e, c) ← readExponent c.advance
      pure (e, c, true)
    else pure (0, c, isFloat)
  if !isFloat then return (integerNumber negative whole, c)
  let digits := whole * Nat.pow 10 fractionCount + fraction
  let x := Number.Binary64.ofDecimal negative digits (exponent - fractionCount)
  if x.isInfinite then throw (c.here "number out of range")
  return (.float x, c)

/-- Reads the rest of a literal word after its first byte; a wrong byte is reported after it
is taken. -/
def readWord : List UInt8 → Cursor → Except Cursor (JsonFault) × Cursor
  | [], c => (.error c, c)
  | w :: more, c =>
    match c.peek? with
    | none => (.ok (c.here "EOF while parsing a value"), c)
    | some b =>
      if b = w then readWord more c.advance
      else (.ok (c.advance.here "expected ident"), c)

/-- Reads a literal word whose first byte is at `c`: the fault if it is misspelt, else the
cursor after it. -/
def readLiteral (word : String) (c : Cursor) : Except JsonFault Cursor :=
  match readWord ((Text.utf8Bytes word).drop 1) c.advance with
  | (.ok f, _) => .error f
  | (.error after, _) => .ok after

/-- The depth of nesting at which reading stops. -/
def nestingLimit : Nat := 128

mutual
/-- Reads one value after white space; `depth` counts the containers still allowed and
`fuel` bounds the steps of reading. -/
def readValue : Nat → Nat → Cursor → Located × Cursor
  | 0, _, c => (.broken (c.here "recursion limit exceeded"), c)
  | fuel + 1, depth, c0 =>
    let c := c0.skipBlanks
    match c.peek? with
    | none => (.broken (c.ahead "EOF while parsing a value"), c)
    | some b =>
      if b = byteOf 'n' then
        match readLiteral "null" c with
        | .ok after => (.null c.index after.index, after)
        | .error f => (.broken f, c)
      else if b = byteOf 't' then
        match readLiteral "true" c with
        | .ok after => (.bool true c.index after.index, after)
        | .error f => (.broken f, c)
      else if b = byteOf 'f' then
        match readLiteral "false" c with
        | .ok after => (.bool false c.index after.index, after)
        | .error f => (.broken f, c)
      else if b = byteOf '-' ∨ isDigitByte b then
        match readNumber c with
        | .ok (n, after) => (.number n c.index after.index, after)
        | .error f => (.broken f, c)
      else if b = byteOf '"' then
        match readString c with
        | .ok (s, after) => (.string s c.index after.index, after)
        | .error f => (.broken f, c)
      else if b = byteOf '[' then
        if depth ≤ 1 then (.broken (c.ahead "recursion limit exceeded"), c)
        else
          let (items, done, after) := readItems fuel (depth - 1) true c.advance
          (.array items c.index (if done then after.index else 0), after)
      else if b = byteOf '{' then
        if depth ≤ 1 then (.broken (c.ahead "recursion limit exceeded"), c)
        else
          let (members, done, after) := readMembers fuel (depth - 1) true c.advance
          (.object members c.index (if done then after.index else 0), after)
      else (.broken (c.ahead "expected value"), c)

/-- Reads the items of an array after `[` or after an item; returns them, whether the array
was closed, and the cursor after it. -/
def readItems : Nat → Nat → Bool → Cursor → List (Located × Nat) × Bool × Cursor
  | 0, _, _, c => ([(.broken (c.here "recursion limit exceeded"), c.index)], false, c)
  | fuel + 1, depth, first, c0 =>
    let c := c0.skipBlanks
    let fail (f : JsonFault) := ([(Located.broken f, c.index)], false, c)
    match c.peek? with
    | none => fail (c.ahead "EOF while parsing a list")
    | some b =>
      if b = byteOf ']' then ([], true, c.advance)
      else
        let start : Except JsonFault Cursor :=
          if b = byteOf ',' ∧ !first then
            let c := c.advance.skipBlanks
            match c.peek? with
            | none => .error (c.ahead "EOF while parsing a value")
            | some b => if b = byteOf ']' then .error (c.ahead "trailing comma") else .ok c
          else if first then .ok c
          else .error (c.ahead "expected `,` or `]`")
        match start with
        | .error f => fail f
        | .ok c =>
          match readValue fuel depth c with
          | (.broken f, after) => ([(.broken f, after.index)], false, after)
          | (item, after) =>
            let endAt := itemEnd after.skipBlanks
            let (items, done, last) := readItems fuel depth false after
            ((item, endAt) :: items, done, last)

/-- Reads the members of an object after `{` or after a member. -/
def readMembers : Nat → Nat → Bool → Cursor →
    List (String × Nat × Nat × Located × Nat) × Bool × Cursor
  | 0, _, _, c => ([("", 0, 0, .broken (c.here "recursion limit exceeded"), 0)], false, c)
  | fuel + 1, depth, first, c0 =>
    let c := c0.skipBlanks
    let fail (f : JsonFault) := ([("", c.index, c.index, Located.broken f, c.index)], false, c)
    match c.peek? with
    | none => fail (c.ahead "EOF while parsing an object")
    | some b =>
      if b = byteOf '}' then ([], true, c.advance)
      else
        let start : Except JsonFault Cursor :=
          if b = byteOf ',' ∧ !first then
            let c := c.advance.skipBlanks
            match c.peek? with
            | none => .error (c.ahead "EOF while parsing a value")
            | some b =>
              if b = byteOf '"' then .ok c
              else if b = byteOf '}' then .error (c.ahead "trailing comma")
              else .error (c.ahead "key must be a string")
          else if first then
            if b = byteOf '"' then .ok c else .error (c.ahead "key must be a string")
          else .error (c.ahead "expected `,` or `\x7d`")
        match start with
        | .error f => fail f
        | .ok c =>
          match readString c with
          | .error f => fail f
          | .ok (key, afterKey) =>
            let colon := afterKey.skipBlanks
            let member (value : Located) (endAt : Nat) :=
              (key, afterKey.index, colon.index, value, endAt)
            match colon.peek? with
            | none => ([member (.broken (colon.ahead "EOF while parsing an object")) 0],
                false, colon)
            | some b =>
              if b ≠ byteOf ':' then
                ([member (.broken (colon.ahead "expected `:`")) 0], false, colon)
              else
                match readValue fuel depth colon.advance with
                | (.broken f, after) => ([member (.broken f) 0], false, after)
                | (value, after) =>
                  let blank := after.skipBlanks
                  let endAt := if blank.peek? = some (byteOf '}') then blank.index + 1
                    else blank.index
                  let (members, done, last) := readMembers fuel depth false after
                  (member value endAt :: members, done, last)

/-- Where reading stands after an item when its array is closed or continued: after `]`, or
after `,` and the blanks behind it. -/
def itemEnd (c : Cursor) : Nat :=
  match c.peek? with
  | some b =>
    if b = byteOf ']' then c.index + 1
    else if b = byteOf ',' then c.advance.skipBlanks.index
    else c.index
  | none => c.index
end

/-- Reads a whole document: its value, and a fault for anything but white space after it. -/
def readDocument (bytes : List UInt8) : Located × Option JsonFault :=
  let (value, after) := readValue (2 * bytes.length + 4) nestingLimit ⟨bytes, 0⟩
  match value with
  | .broken _ => (value, none)
  | _ =>
    let c := after.skipBlanks
    if c.rest.isEmpty then (value, none) else (value, some (c.ahead "trailing characters"))

/-- Line (from 1) and column (bytes since the line began) of a byte index of `bytes`. -/
def lineColumnFrom : List UInt8 → Nat → Nat → Nat → Nat × Nat
  | [], _, line, column => (line, column)
  | _, 0, line, column => (line, column)
  | b :: more, k + 1, line, column =>
    if b = 10 then lineColumnFrom more k (line + 1) 0 else lineColumnFrom more k line (column + 1)

/-- Line and column of a byte index of a document. -/
def lineColumn (bytes : List UInt8) (index : Nat) : Nat × Nat :=
  lineColumnFrom bytes index 1 0

/-- The text of a fault of a document: its message, and its line and column when known. -/
def JsonFault.describe (bytes : List UInt8) (f : JsonFault) : String :=
  match f.index with
  | some i =>
    let (line, column) := lineColumn bytes i
    s!"{f.message} at line {line} column {column}"
  | none => f.message

mutual
/-- The plain value of a located one. -/
def Located.toJson : Located → Json
  | .null _ _ => .null
  | .bool b _ _ => .bool b
  | .number n _ _ => .number n
  | .string s _ _ => .string s
  | .array items _ _ => .array (itemsToJson items)
  | .object members _ _ => .object (membersToJson members)
  | .broken _ => .null

/-- The plain values of located array items. -/
def itemsToJson : List (Located × Nat) → List Json
  | [] => []
  | (j, _) :: rest => j.toJson :: itemsToJson rest

/-- The plain members of located object members. -/
def membersToJson : List (String × Nat × Nat × Located × Nat) → List (String × Json)
  | [] => []
  | (k, _, _, v, _) :: rest => (k, v.toJson) :: membersToJson rest
end

mutual
/-- A value in memory as a located one; its positions are never reported. -/
def Located.ofJson : Json → Located
  | .null => .null 0 0
  | .bool b => .bool b 0 0
  | .number n => .number n 0 0
  | .string s => .string s 0 0
  | .array items => .array (itemsOfJson items) 0 0
  | .object members => .object (membersOfJson members) 0 0

/-- Array items in memory as located ones. -/
def itemsOfJson : List Json → List (Located × Nat)
  | [] => []
  | j :: rest => (Located.ofJson j, 0) :: itemsOfJson rest

/-- Object members in memory as located ones. -/
def membersOfJson : List (String × Json) → List (String × Nat × Nat × Located × Nat)
  | [] => []
  | (k, v) :: rest => (k, 0, 0, Located.ofJson v, 0) :: membersOfJson rest
end

end ContentSync.JsonText
