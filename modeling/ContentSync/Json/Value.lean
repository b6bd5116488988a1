import ContentSync.Number.Shortest

/-!
# JSON values and their text

A JSON value keeps the members of an object in the order they were given, since the order of
properties and of configuration entries is part of what a document says. Numbers keep whether
they were written as unsigned or negative integers or as floats.

Text is written in two layouts: compact, on one line with no spaces, and pretty, with two spaces
of indent per level, `": "` between key and value, and empty arrays and objects as `[]` and `{}`.
In strings `"` and `\` are escaped, backspace, form feed, newline, carriage return and tab get
their short escapes, other controls are written `\u00xx`, and all else is written as it is.

Main definitions: `Json`, `Json.compact`, `Json.pretty`.
-/

namespace ContentSync.JsonText

/-- A JSON number: an unsigned integer, a negative integer, or a double. -/
inductive JsonNumber where
  | natural (n : Nat)
  | negative (n : Nat)
  | float (x : Number.Binary64)
deriving DecidableEq, Repr

/-- A JSON value; object members keep their order. -/
inductive Json where
  | null
  | bool (b : Bool)
  | number (n : JsonNumber)
  | string (s : String)
  | array (items : List Json)
  | object (members : List (String × Json))
deriving Repr, Inhabited

/-- The escaped form of a character inside a JSON string. -/
def escapeChar (c : Char) : List Char :=
  match c with
  | '"' => ['\\', '"']
  | '\\' => ['\\', '\\']
  | '\n' => ['\\', 'n']
  | '\r' => ['\\', 'r']
  | '\t' => ['\\', 't']
  | _ =>
    if c.toNat = 8 then ['\\', 'b']
    else if c.toNat = 12 then ['\\', 'f']
    else if c.toNat < 0x20 then
      let d (k : Nat) : Char := if k < 10 then Char.ofNat (48 + k) else Char.ofNat (87 + k)
      ['\\', 'u', '0', '0', d (c.toNat / 16), d (c.toNat % 16)]
    else [c]

/-- A JSON string literal. -/
def quote (s : String) : String :=
  String.ofList ('"' :: s.toList.flatMap escapeChar ++ ['"'])

/-- The text of a JSON number. -/
def JsonNumber.text : JsonNumber → String
  | .natural n => toString n
  | .negative n => "-" ++ toString n
  | .float x => x.toPositional

mutual
/-- Compact text of a value. -/
def Json.compact : Json → String
  | .null => "null"
  | .bool b => if b then "true" else "false"
  | .number n => n.text
  | .string s => quote s
  | .array items => "[" ++ compactItems items ++ "]"
  | .object members => "\x7b" ++ compactMembers members ++ "\x7d"

/-- Compact text of array items, comma-separated. -/
def compactItems : List Json → String
  | [] => ""
  | [j] => j.compact
  | j :: rest => j.compact ++ "," ++ compactItems rest

/-- Compact text of object members, comma-separated. -/
def compactMembers : List (String × Json) → String
  | [] => ""
  | [(k, v)] => quote k ++ ":" ++ v.compact
  | (k, v) :: rest => quote k ++ ":" ++ v.compact ++ "," ++ compactMembers rest
end

/-- Indentation of `level` steps of two spaces. -/
def indent (level : Nat) : String :=
  String.ofList (List.replicate (2 * level) ' ')

mutual
/-- Pretty text of a value at nesting `level`. -/
def Json.prettyAt (level : Nat) : Json → String
  | .array [] => "[]"
  | .object [] => "{}"
  | .array items => "[\n" ++ prettyItems (level + 1) items ++ "\n" ++ indent level ++ "]"
  | .object members => "\x7b\n" ++ prettyMembers (level + 1) members ++ "\n" ++ indent level ++ "\x7d"
  | j => j.compact

/-- Pretty text of array items, one per line. -/
def prettyItems (level : Nat) : List Json → String
  | [] => ""
  | [j] => indent level ++ j.prettyAt level
  | j :: rest => indent level ++ j.prettyAt level ++ ",\n" ++ prettyItems level rest

/-- Pretty text of object members, one per line. -/
def prettyMembers (level : Nat) : List (String × Json) → String
  | [] => ""
  | [(k, v)] => indent level ++ quote k ++ ": " ++ v.prettyAt level
  | (k, v) :: rest => indent level ++ quote k ++ ": " ++ v.prettyAt level ++ ",\n" ++
    prettyMembers level rest
end

/-- Pretty text of a value. -/
def Json.pretty (j : Json) : String :=
  j.prettyAt 0

/-- The member `key` of an object, if present. -/
def Json.field? (j : Json) (key : String) : Option Json :=
  match j with
  | .object members => members.lookup key
  | _ => none

/-- A JSON array of strings. -/
def strings (xs : List String) : Json :=
  .array (xs.map Json.string)

/-- A JSON natural number. -/
def nat (n : Nat) : Json :=
  .number (.natural n)

end ContentSync.JsonText
