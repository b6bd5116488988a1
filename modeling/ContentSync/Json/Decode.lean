import ContentSync.Json.Reader

/-!
# Decoding JSON into typed values

A decoder turns a `Located` value into a typed one or a `JsonFault`. The faults name what
was found and what was expected: `invalid type: string "x", expected a boolean`,
`missing field`, `duplicate field`, `unknown variant` with the list of accepted names, and so
on.

Decoding runs in one of two modes. A value read from text reports each fault at a byte index:
a scalar of the wrong type after its last byte, an array or object of the wrong type at its
first byte, and a fault raised inside a container without an index of its own where reading
of that container stood when the fault arose. A value already in memory reports no index.

A structure is decoded from an object, field by field as the members come (unknown members
are skipped, though a syntax fault in them still counts), and then missing fields are
reported in declaration order; or from an array, its items taken as the fields in order.

Main definitions: `Decoder`, `decodeString`, `decodeBool`, `decodeU32`, `decodeList`,
`decodeStruct`, `decodeUnitEnum`, `decodeNewtypeEnum`, `decodeMap`.
-/

namespace ContentSync.JsonText

/-- A decoder of `α`; `fromText` tells whether faults carry positions. -/
abbrev Decoder (α : Type) := Bool → Located → Except JsonFault α

/-- A fault at index `i`, when positions are reported. -/
def faultAt (fromText : Bool) (i : Nat) (message : String) : JsonFault :=
  ⟨message, if fromText then some i else none⟩

/-- Gives a fault without a position the index `i`. -/
def JsonFault.settle (fromText : Bool) (i : Nat) (f : JsonFault) : JsonFault :=
  if fromText ∧ f.index.isNone then { f with index := some i } else f

/-- Runs `x`, settling a fault without a position at `i`. -/
def settleAt (fromText : Bool) (i : Nat) (x : Except JsonFault α) : Except JsonFault α :=
  match x with
  | .ok a => .ok a
  | .error f => .error (f.settle fromText i)

/-- The text of a string in a fault: quoted, with quotes, backslashes and controls escaped. -/
def debugQuote (s : String) : String :=
  let escape (c : Char) : List Char :=
    match c with
    | '"' => ['\\', '"']
    | '\\' => ['\\', '\\']
    | '\n' => ['\\', 'n']
    | '\r' => ['\\', 'r']
    | '\t' => ['\\', 't']
    | _ =>
      if c.toNat = 0 then ['\\', '0']
      else if c.toNat < 0x20 ∨ c.toNat = 0x7F then
        "\\u\x7b".toList ++ Nat.toDigits 16 c.toNat ++ ['\x7d']
      else [c]
  String.ofList ('"' :: s.toList.flatMap escape ++ ['"'])

/-- How a found value is named in a fault. -/
def Located.unexpected : Located → String
  | .null _ _ => "null"
  | .bool b _ _ => s!"boolean `{b}`"
  | .number (.natural n) _ _ => s!"integer `{n}`"
  | .number (.negative n) _ _ => s!"integer `-{n}`"
  | .number (.float x) _ _ => s!"floating point `{x.toCompact}`"
  | .string s _ _ => "string " ++ debugQuote s
  | .array _ _ _ => "sequence"
  | .object _ _ _ => "map"
  | .broken _ => "unit"

/-- Where a fault about the type of a value is reported: after a scalar, at the first byte
of a container. -/
def Located.typeFaultIndex : Located → Nat
  | .array _ start _ => start
  | .object _ start _ => start
  | .null _ stop => stop
  | .bool _ _ stop => stop
  | .number _ _ stop => stop
  | .string _ _ stop => stop
  | .broken _ => 0

/-- The fault for a value of the wrong type. -/
def invalidType (fromText : Bool) (j : Located) (expected : String) : JsonFault :=
  faultAt fromText j.typeFaultIndex s!"invalid type: {j.unexpected}, expected {expected}"

/-- The first syntax fault inside a value, if any. -/
def Located.firstFault : Located → Option JsonFault
  | .broken f => some f
  | .array items _ _ => itemsFault items
  | .object members _ _ => membersFault members
  | _ => none
where
  /-- The first syntax fault among array items. -/
  itemsFault : List (Located × Nat) → Option JsonFault
    | [] => none
    | (j, _) :: rest =>
      match j.firstFault with
      | some f => some f
      | none => itemsFault rest
  /-- The first syntax fault among object members. -/
  membersFault : List (String × Nat × Nat × Located × Nat) → Option JsonFault
    | [] => none
    | (_, _, _, v, _) :: rest =>
      match v.firstFault with
      | some f => some f
      | none => membersFault rest

/-- Skips a value, failing only on a syntax fault inside it. -/
def skipValue (j : Located) : Except JsonFault Unit :=
  match j.firstFault with
  | some f => .error f
  | none => .ok ()

/-- Decodes a string. -/
def decodeString : Decoder String := fun fromText j =>
  match j with
  | .string s _ _ => .ok s
  | .broken f => .error f
  | _ => .error (invalidType fromText j "a string")

/-- Decodes a boolean. -/
def decodeBool : Decoder Bool := fun fromText j =>
  match j with
  | .bool b _ _ => .ok b
  | .broken f => .error f
  | _ => .error (invalidType fromText j "a boolean")

/-- Decodes an unsigned 32-bit number. -/
def decodeU32 : Decoder Nat := fun fromText j =>
  match j with
  | .number (.natural n) _ stop =>
    if n < Nat.pow 2 32 then .ok n
    else .error (faultAt fromText stop s!"invalid value: integer `{n}`, expected u32")
  | .number (.negative n) _ stop =>
    .error (faultAt fromText stop s!"invalid value: integer `-{n}`, expected u32")
  | .broken f => .error f
  | _ => .error (invalidType fromText j "u32")

/-- Decodes the items of an array in order, settling unplaced faults where the item ends. -/
def decodeItems (d : Decoder α) (fromText : Bool) : List (Located × Nat) → Except JsonFault (List α)
  | [] => .ok []
  | (j, endAt) :: rest => do
    let a ← settleAt fromText endAt (d fromText j)
    let as ← decodeItems d fromText rest
    return a :: as

/-- Decodes an array of values. -/
def decodeList (d : Decoder α) : Decoder (List α) := fun fromText j =>
  match j with
  | .array items _ stop => settleAt fromText stop (decodeItems d fromText items)
  | .broken f => .error f
  | _ => .error (invalidType fromText j "a sequence")

/-- A field of a structure decoded into an accumulated value of type `α`. -/
structure FieldSpec (α : Type) where
  name : String
  required : Bool
  store : Bool → Located → α → Except JsonFault α

/-- The names of the accepted values, as a fault lists them. -/
def oneOf (names : List String) : String :=
  match names with
  | [] => "there are no variants"
  | [a] => s!"`{a}`"
  | [a, b] => s!"`{a}` or `{b}`"
  | _ => "one of " ++ ", ".intercalate (names.map fun n => s!"`{n}`")

/-- The fault for a name that is not a variant. -/
def unknownVariant (name : String) (variants : List String) : String :=
  match variants with
  | [] => s!"unknown variant `{name}`, there are no variants"
  | _ => s!"unknown variant `{name}`, expected {oneOf variants}"

/-- The index of the first byte of a value. -/
def Located.start : Located → Nat
  | .array _ s _ => s
  | .object _ s _ => s
  | .null s _ => s
  | .bool _ s _ => s
  | .number _ s _ => s
  | .string _ s _ => s
  | .broken _ => 0

/-- Decodes the members of an object into a structure; `seen` holds the fields met. -/
def structMembers (fromText : Bool) (fields : List (FieldSpec α)) (stop : Nat) :
    List String → α → List (String × Nat × Nat × Located × Nat) → Except JsonFault α
  | seen, acc, [] =>
    match fields.find? (fun f => f.required ∧ f.name ∉ seen) with
    | some f => .error (faultAt fromText stop s!"missing field `{f.name}`")
    | none => .ok acc
  | seen, acc, (key, _, afterKey, value, endAt) :: rest =>
    match fields.find? (·.name = key) with
    | some f =>
      if key ∈ seen then .error (faultAt fromText afterKey s!"duplicate field `{key}`")
      else
        match f.store fromText value acc with
        | .ok acc => structMembers fromText fields stop (key :: seen) acc rest
        | .error e => .error (e.settle fromText endAt)
    | none =>
      match skipValue value with
      | .ok () => structMembers fromText fields stop seen acc rest
      | .error e => .error e

/-- Decodes the items of an array into a structure, one field per item. -/
def structItems (fromText : Bool) (typeName : String) (count : Nat) (stop : Nat) :
    Nat → List (FieldSpec α) → α → List (Located × Nat) → Except JsonFault α
  | _, [], acc, [] => .ok acc
  | _, [], _, (extra, _) :: _ =>
    match extra with
    | .broken f => .error f
    | _ =>
      if fromText then
        .error (faultAt fromText (extra.start + 1) "trailing characters")
      else .error ⟨s!"invalid length {count}, expected fewer elements in array", none⟩
  | i, f :: fs, acc, [] =>
    if f.required then
      .error (faultAt fromText stop
        s!"invalid length {i}, expected struct {typeName} with {count} elements")
    else structItems fromText typeName count stop (i + 1) fs acc []
  | i, f :: fs, acc, (item, endAt) :: rest =>
    match item with
    | .broken e => .error e
    | _ =>
      match f.store fromText item acc with
      | .ok acc => structItems fromText typeName count stop (i + 1) fs acc rest
      | .error e => .error (e.settle fromText endAt)

/-- Decodes a structure named `typeName` from an object or an array, starting from `init`
(which holds the defaults). -/
def decodeStruct (typeName : String) (fields : List (FieldSpec α)) (init : α) : Decoder α :=
  fun fromText j =>
    match j with
    | .object members _ stop => structMembers fromText fields stop [] init members
    | .array items _ stop =>
      structItems fromText typeName fields.length stop 0 fields init items
    | .broken f => .error f
    | _ => .error (invalidType fromText j s!"struct {typeName}")

/-- The fault for an object standing for an enumeration value with more than one member. -/
def extraVariantMembers (fromText : Bool) (endAt : Nat) :
    List (String × Nat × Nat × Located × Nat) → JsonFault
  | (_, _, _, .broken f, _) :: _ =>
    if fromText ∧ f.message = "EOF while parsing an object" then f
    else if fromText then faultAt fromText endAt "expected value"
    else ⟨"invalid value: map, expected map with a single key", none⟩
  | _ =>
    if fromText then faultAt fromText endAt "expected value"
    else ⟨"invalid value: map, expected map with a single key", none⟩

/-- Decodes an enumeration value: a string naming a variant, or an object whose only key
names it; `inner` decodes what the variant carries, given the member value or nothing for a
bare string. -/
def decodeEnum (variants : List String) (inner : String → Option Located → Except JsonFault β) :
    Decoder β := fun fromText j =>
  let check (name : String) (i : Nat) : Except JsonFault String :=
    if name ∈ variants then .ok name
    else .error (faultAt fromText i (unknownVariant name variants))
  match j with
  | .string s _ stop => do
    let name ← check s stop
    inner name none
  | .object [] _ stop =>
    if fromText then .error (faultAt fromText stop "expected value")
    else .error ⟨"invalid value: map, expected map with a single key", none⟩
  | .object ((key, keyStop, _, value, endAt) :: rest) _ _ =>
    match value with
    | .broken f => .error f
    | _ => do
      let name ← check key keyStop
      let b ← inner name (some value)
      match rest with
      | [] => return b
      | _ => throw (extraVariantMembers fromText endAt rest)
  | .broken f => .error f
  | _ =>
    if fromText then .error (faultAt fromText (j.start + 1) "expected value")
    else .error (invalidType fromText j "string or map")

/-- Decodes an enumeration whose variants carry nothing: a string naming one, or an object
with the name as its only key and `null` as its value. -/
def decodeUnitEnum (variants : List String) : Decoder String := fun fromText =>
  decodeEnum variants (fun name value =>
    match value with
    | none => .ok name
    | some (.null _ _) => .ok name
    | some v => .error (invalidType fromText v "unit")) fromText

/-- Decodes an enumeration whose variants each carry one value decoded by `d`: an object with
the variant name as its only key. A bare name is a variant without its value. -/
def decodeNewtypeEnum (variants : List String) (d : Decoder α) : Decoder (String × α) :=
  fun fromText =>
    decodeEnum variants (fun name value =>
      match value with
      | none => .error ⟨"invalid type: unit variant, expected newtype variant", none⟩
      | some v => do
        let a ← d fromText v
        return (name, a)) fromText

/-- Visits the members of an object in order, settling unplaced faults where a member ends. -/
def visitMembers (fromText : Bool) (visit : String → Located → β → Except JsonFault β) :
    β → List (String × Nat × Nat × Located × Nat) → Except JsonFault β
  | acc, [] => .ok acc
  | acc, (key, _, _, value, endAt) :: rest =>
    match value with
    | .broken f => .error f
    | _ =>
      match visit key value acc with
      | .ok acc => visitMembers fromText visit acc rest
      | .error e => .error (e.settle fromText endAt)

/-- Decodes an object member by member with `visit`, starting from `init`; `expected` names
what an object of another type was expected to be. -/
def decodeMap (expected : String) (visit : Bool → String → Located → β → Except JsonFault β)
    (init : β) : Decoder β := fun fromText j =>
  match j with
  | .object members _ _ => visitMembers fromText (visit fromText) init members
  | .broken f => .error f
  | _ => .error (invalidType fromText j expected)

/-- Decodes a whole document with `d`: a syntax fault or a fault of `d`, whichever comes
first, else a fault for text after the value. The message names line and column. -/
def decodeBytes (d : Decoder α) (bytes : List UInt8) : Except String α :=
  let (value, trailing) := readDocument bytes
  match d true value with
  | .error f => .error (f.describe bytes)
  | .ok a =>
    match trailing with
    | some f => .error (f.describe bytes)
    | none => .ok a

/-- Decodes a whole text with `d`, as `decodeBytes` does its UTF-8 bytes. -/
def decodeText (d : Decoder α) (text : String) : Except String α :=
  decodeBytes d (Text.utf8Bytes text)

/-- Decodes a value in memory with `d`. -/
def decodeValue (d : Decoder α) (j : Json) : Except String α :=
  match d false (Located.ofJson j) with
  | .error f => .error f.message
  | .ok a => .ok a

end ContentSync.JsonText
