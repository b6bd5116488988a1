import ContentSync.Property

/-!
# Typed text of a property

A property is written as one line of text: the type in braces, `{Long}`, unless it is
`String`; then either a single value, or the values between `[` and `]` separated by commas.
Within a value a backslash escapes: `\\` is a backslash, `\,` a comma of a multi value, `\[` and
`\{` a bracket or brace opening a single value, `\uXXXX` a character by its four hex digits,
`\0` nothing (it stands for an empty element of a multi value). Characters below U+0020 are
always written as `\uXXXX` with upper-case digits.

Reading accepts more than writing produces: any other escaped character stands for itself, and
a brace prefix that names no type is part of a `String` value.

Main definitions: `formatProperty`, `decodeTyped`, `readProperty`.
-/

namespace ContentSync

/-- Four upper-case hex digits of `n` (more if it is larger). -/
def hex4 (n : Nat) : List Char :=
  let ds := Nat.toDigits 16 n |>.map Char.toUpper
  List.replicate (4 - ds.length) '0' ++ ds

/-- Escapes one character of a value; `first` marks the first character of a single value. -/
def escapeChar (multi first : Bool) (c : Char) : List Char :=
  if c = '\\' then ['\\', '\\']
  else if c = ',' ∧ multi then ['\\', ',']
  else if (c = '[' ∨ c = '{') ∧ first ∧ !multi then ['\\', c]
  else if c.toNat < 0x20 then '\\' :: 'u' :: hex4 c.toNat
  else [c]

/-- The escaped text of one value. -/
def escapeValue (multi : Bool) (s : String) : List Char :=
  if multi ∧ s.isEmpty then ['\\', '0']
  else
    match s.toList with
    | [] => []
    | c :: rest => escapeChar multi true c ++ rest.flatMap (escapeChar multi false)

/-- The typed text of a property. -/
def formatProperty (p : Property) : String :=
  let prefixText := if p.type = .string then [] else '{' :: p.type.typeName.toList ++ ['}']
  let body :=
    if p.multi then
      '[' :: (List.intercalate [','] (p.values.map fun v => escapeValue true v.text)) ++ [']']
    else
      match p.values with
      | v :: _ => escapeValue false v.text
      | [] => []
  String.ofList (prefixText ++ body)

/-- The result of reading typed text: the type, whether the text was multi-valued, and the
unescaped texts of the values. -/
structure DecodedText where
  type : PropertyType
  multi : Bool
  values : List String
deriving DecidableEq, Repr

/-- Splits off a brace prefix naming a type; without one the type is `String` and the text
stays whole. -/
def splitTypePrefix (cs : List Char) : PropertyType × List Char :=
  match cs with
  | '{' :: rest =>
    match rest.findIdx? (· = '}') with
    | some i =>
      match PropertyType.ofName? (String.ofList (rest.take i)) with
      | some t => (t, rest.drop (i + 1))
      | none => (.string, cs)
    | none => (.string, cs)
  | _ => (.string, cs)

/-- The value of four hex digits (a leading `+` allowed) as a character, if it is one. -/
def hexEscapeChar (ds : List Char) : Option Char :=
  if Text.utf8Length (String.ofList ds) ≠ 4 then none
  else
    match Number.readNatural 16 0xFFFFFFFF (String.ofList ds) with
    | .ok n => if n.isValidChar then some (Char.ofNat n) else none
    | .error _ => none

/-- Unescapes `cs`, splitting at unescaped commas when `multi` holds. `current` is the value
being built (reversed) and `done` the values finished (reversed); `whole` is the text quoted
in faults. -/
def unescapeLoop (whole : String) (multi : Bool) :
    List Char → List Char → List String → Except Error (List String)
  | [], current, done => .ok (done.reverse ++ [String.ofList current.reverse])
  | '\\' :: rest, current, done =>
    match rest with
    | [] => .error (.malformed s!"dangling escape at end of: {whole}")
    | '0' :: more => unescapeLoop whole multi more current done
    | 'u' :: more =>
      match hexEscapeChar (more.take 4) with
      | some c => unescapeLoop whole multi (more.drop 4) (c :: current) done
      | none => .error (.malformed s!"invalid \\u escape in: {whole}")
    | c :: more => unescapeLoop whole multi more (c :: current) done
  | c :: rest, current, done =>
    if c = ',' ∧ multi then unescapeLoop whole multi rest [] (String.ofList current.reverse :: done)
    else unescapeLoop whole multi rest (c :: current) done
termination_by cs => cs.length
decreasing_by all_goals (simp only [List.length_drop, List.length_cons]; omega)

/-- Unescapes a value text, or the inside of a multi value. -/
def unescapeText (s : String) (multi : Bool) : Except Error (List String) :=
  unescapeLoop s multi s.toList [] []

/-- Reads typed text into its type and value texts. -/
def decodeTyped (s : String) : Except Error DecodedText := do
  let (t, rest) := splitTypePrefix s.toList
  match rest with
  | '[' :: body =>
    match body.getLast? with
    | some ']' =>
      let inner := String.ofList body.dropLast
      let values ← if inner.isEmpty then pure [] else unescapeText inner true
      return { type := t, multi := true, values }
    | _ => throw (.malformed s!"unterminated multi value: {s}")
  | _ =>
    let values ← unescapeText (String.ofList rest) false
    return { type := t, multi := false, values := [values.getLastD ""] }

/-- Reads the property called `name` from its typed text. -/
def readProperty (name text : String) : Except Error Property := do
  let d ← decodeTyped text
  Property.ofTexts name d.type d.multi d.values

end ContentSync
