import ContentSync.Xml.Reader
import ContentSync.Number.Integer

/-!
# Attributes of a tag

The attributes of a tag are read from its content after the name, one at a time. Each is a
key, `=` (blanks around it allowed), and a value in double or single quotes. Positions in
faults count bytes from the start of the tag's content (the byte after `<`). A key given
twice is a fault naming both positions.

A value is then unescaped: `&lt;`, `&gt;`, `&amp;`, `&apos;`, `&quot;`, and character
references `&#…;` and `&#x…;`. Each `&` must be closed by a `;` before the next `&`.

Main definitions: `readAttributes`, `unescapeValue`.
-/

namespace ContentSync.Xml

/-- Skips blanks from position `i`. -/
def skipBlanksAt : List UInt8 → Nat → List UInt8 × Nat
  | b :: rest, i => if isBlankByte b then skipBlanksAt rest (i + 1) else (b :: rest, i)
  | [], i => ([], i)

/-- Takes bytes up to `=` or a blank: the key, what follows, and its position. -/
def takeKey : List UInt8 → Nat → List UInt8 → List UInt8 × List UInt8 × Nat
  | b :: rest, i, acc =>
    if b = ascii '=' ∨ isBlankByte b then (acc.reverse, b :: rest, i)
    else takeKey rest (i + 1) (b :: acc)
  | [], i, acc => (acc.reverse, [], i)

/-- Takes bytes up to the closing quote `q`: the value and what follows it, if closed. -/
def takeQuoted (q : UInt8) : List UInt8 → Nat → List UInt8 → Option (List UInt8 × List UInt8 × Nat)
  | b :: rest, i, acc => if b = q then some (acc.reverse, rest, i + 1) else takeQuoted q rest (i + 1) (b :: acc)
  | [], _, _ => none

/-- The position and the rest after the `=` that follows a key, the key ending at position `i`
with `rest` (which starts with `=` or a blank); or the position at which a byte other than `=`
stands instead, the whole length `total` when nothing follows. -/
def equalsAfterKey (total : Nat) (rest : List UInt8) (i : Nat) : Except Nat (List UInt8 × Nat) :=
  match rest with
  | [] => .error total
  | b :: more =>
    if b = ascii '=' then .ok (more, i + 1)
    else
      match skipBlanksAt more (i + 1) with
      | ([], _) => .error total
      | (c :: more, j) => if c = ascii '=' then .ok (more, j + 1) else .error j

/-- Reads the attributes of a tag from its content at position `i`; `seen` holds the keys read
so far with their positions. Returns the attributes read and the fault that stopped reading,
if any. `fuel` bounds the number of attributes.

A key starts at the first byte that is not blank, whatever it is, and runs to the next `=` or
blank; only then is it checked against the keys before it. -/
def readAttributesFrom (total : Nat) :
    Nat → List UInt8 → Nat → List (List UInt8 × Nat) →
      List (List UInt8 × List UInt8) × Option XmlFault
  | 0, _, _, _ => ([], none)
  | fuel + 1, bytes, i, seen =>
    let (bytes, i) := skipBlanksAt bytes i
    let fail (detail : String) : List (List UInt8 × List UInt8) × Option XmlFault :=
      ([], some (.attribute detail))
    match bytes with
    | [] => ([], none)
    | first :: afterFirst =>
      let keyStart := i
      let (keyRest, rest, keyEnd) := takeKey afterFirst (i + 1) []
      let key := first :: keyRest
      match equalsAfterKey total rest keyEnd with
      | .error pos =>
        fail s!"position {pos}: attribute key must be directly followed by `=` or space"
      | .ok (rest, i) =>
        match seen.find? (·.1 = key) with
        | some (_, previous) =>
          fail s!"position {keyStart}: duplicated attribute, previous declaration at position {previous}"
        | none =>
          let (rest, i) := skipBlanksAt rest i
          match rest with
          | [] => fail s!"position {total}: `=` must be followed by an attribute value"
          | q :: more =>
            if q = ascii '"' ∨ q = ascii '\'' then
              match takeQuoted q more (i + 1) [] with
              | some (value, rest, i) =>
                let (others, fault) :=
                  readAttributesFrom total fuel rest i ((key, keyStart) :: seen)
                ((key, value) :: others, fault)
              | none =>
                fail s!"position {total}: missing closing quote `{Char.ofNat q.toNat}` in attribute value"
            else fail s!"position {i}: attribute value must be enclosed in `\"` or `'`"

/-- The raw attributes of a tag's content after its name, and the fault that stopped reading
them, if any. -/
def readAttributes (content : List UInt8) : List (List UInt8 × List UInt8) × Option XmlFault :=
  let n := nameLength content
  readAttributesFrom content.length (content.length + 1) (content.drop n) n []

/-- The character of a reference body (after `&#`): decimal, or hex after `x`. -/
def characterReference (body : String) : Except String Char := do
  let (digits, radix) := match body.toList with
    | 'x' :: rest => (String.ofList rest, 16)
    | _ => (body, 10)
  match digits.toList.head? with
  | some '+' | some '-' => throw "unexpected number sign"
  | _ => pure ()
  let code ← match Number.readNatural radix 0xFFFFFFFF digits with
    | .ok n => pure n
    | .error e => throw e.message
  if code = 0 then throw "0x0 character is not permitted in XML"
  if code.isValidChar then return Char.ofNat code
  else throw s!"`{code}` is not a valid codepoint"

/-- The text of a predefined entity. -/
def predefinedEntity (name : String) : Option String :=
  match name with
  | "lt" => some "<"
  | "gt" => some ">"
  | "amp" => some "&"
  | "apos" => some "'"
  | "quot" => some "\""
  | _ => none

/-- Unescapes the characters `cs` starting at byte position `i` of the whole value of `total`
bytes; `acc` collects the output reversed, and `fuel` bounds the steps. -/
def unescapeFrom (total : Nat) : Nat → List Char → Nat → List Char → Except XmlFault (List Char)
  | _, [], _, acc => .ok acc.reverse
  | 0, _ :: _, _, acc => .ok acc.reverse
  | fuel + 1, c :: rest, i, acc =>
    if c = '&' then
      let body := rest.takeWhile (fun d => d ≠ '&' ∧ d ≠ ';')
      let after := rest.drop body.length
      match after with
      | ';' :: more =>
        let name := String.ofList body
        let bodyStart := i + 1
        let bodyEnd := bodyStart + Text.utf8Length name
        match body with
        | '#' :: number =>
          match characterReference (String.ofList number) with
          | .ok ch => unescapeFrom total fuel more (bodyEnd + 1) (ch :: acc)
          | .error m => .error (.escape ("invalid character reference: " ++ m))
        | _ =>
          match predefinedEntity name with
          | some t => unescapeFrom total fuel more (bodyEnd + 1) (t.toList.reverse ++ acc)
          | none => .error (.escape s!"at {bodyStart}..{bodyEnd}: unrecognized entity `{name}`")
      | _ => .error (.escape
          s!"Error while escaping character at range {i}..{total}: Cannot find ';' after '&'")
    else unescapeFrom total fuel rest (i + (Text.encodeChar c).length) (c :: acc)

/-- The text of a raw attribute value: UTF-8 checked, then unescaped. -/
def unescapeValue (raw : List UInt8) : Except XmlFault String :=
  match Text.decodeUtf8 raw with
  | .error e => .error (.encoding ("cannot decode input using UTF-8: " ++ e.message))
  | .ok cs => (unescapeFrom raw.length (cs.length + 1) cs 0 []).map String.ofList

end ContentSync.Xml
