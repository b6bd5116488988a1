import ContentSync.Error
import ContentSync.Number.Integer
import ContentSync.Number.Shortest
import ContentSync.Number.Decimal
import ContentSync.Time.Timestamp
import ContentSync.Text.Base64
import ContentSync.Text.WhiteSpace

/-!
# Typed values

A property of a content node holds values of one of twelve types. Each type has a name, and a
text form from which its values are read and to which they are written:

* texts (`String`, `Name`, `Path`, `Reference`, `WeakReference`, `URI`) are kept verbatim;
* `Binary` is base64, `Long` a signed 64-bit decimal, `Double` a decimal float,
  `Date` an RFC 3339 timestamp, `Boolean` the word `true` or `false` in any case, and
  `Decimal` a decimal numeral kept as written; these are read after white space is cut from
  both ends.

Two values are the same when they have the same type and, for doubles, are equal as numbers
(a NaN is never the same as anything), for dates denote the same instant, and otherwise are
equal.

Main definitions: `PropertyType.ofName?`, `Value.read`, `Value.text`, `Value.same`.
-/

namespace ContentSync

/-- The type of a property value. -/
inductive PropertyType where
  | string
  | binary
  | long
  | double
  | date
  | boolean
  | name
  | path
  | reference
  | weakReference
  | uri
  | decimal
deriving DecidableEq, Repr

namespace PropertyType

/-- The name of a type, as it is written in typed text. -/
def typeName : PropertyType → String
  | .string => "String"
  | .binary => "Binary"
  | .long => "Long"
  | .double => "Double"
  | .date => "Date"
  | .boolean => "Boolean"
  | .name => "Name"
  | .path => "Path"
  | .reference => "Reference"
  | .weakReference => "WeakReference"
  | .uri => "URI"
  | .decimal => "Decimal"

/-- All types, in their canonical order. -/
def all : List PropertyType :=
  [.string, .binary, .long, .double, .date, .boolean, .name, .path, .reference, .weakReference,
    .uri, .decimal]

/-- The type of a name; `Undefined` stands for `String`. -/
def ofName? (n : String) : Option PropertyType :=
  if n = "Undefined" then some .string else all.find? (·.typeName = n)

end PropertyType

/-- A typed value. -/
inductive Value where
  | string (s : String)
  | binary (bytes : List UInt8)
  | long (n : Int)
  | double (x : Number.Binary64)
  | date (t : Time.Timestamp)
  | boolean (b : Bool)
  | name (s : String)
  | path (s : String)
  | reference (s : String)
  | weakReference (s : String)
  | uri (s : String)
  | decimal (s : String)
deriving DecidableEq, Repr

namespace Value

/-- The type of a value. -/
def type : Value → PropertyType
  | .string _ => .string
  | .binary _ => .binary
  | .long _ => .long
  | .double _ => .double
  | .date _ => .date
  | .boolean _ => .boolean
  | .name _ => .name
  | .path _ => .path
  | .reference _ => .reference
  | .weakReference _ => .weakReference
  | .uri _ => .uri
  | .decimal _ => .decimal

/-- The text form of a value. -/
def text : Value → String
  | .string s | .name s | .path s | .reference s | .weakReference s | .uri s | .decimal s => s
  | .binary bytes => Text.base64Text bytes
  | .long n => toString n
  | .double x => x.toPositional
  | .date t => t.toText
  | .boolean b => if b then "true" else "false"

/-- The text of a value when it is of a text type. -/
def textual? : Value → Option String
  | .string s | .name s | .path s | .reference s | .weakReference s | .uri s | .decimal s => some s
  | _ => none

/-- Whether two values are the same: doubles compare as numbers, dates as instants. -/
def same : Value → Value → Bool
  | .double x, .double y => x.same y
  | .date a, .date b => a.sameInstant b
  | a, b => a == b

/-- Reads a value of type `t` from its text. -/
def read (t : PropertyType) (s : String) : Except Error Value :=
  let invalid (reason : String) : Error := .invalidValue t.typeName s reason
  let trimmed := Text.trimWhiteSpace s
  match t with
  | .string => .ok (.string s)
  | .name => .ok (.name s)
  | .path => .ok (.path s)
  | .reference => .ok (.reference s)
  | .weakReference => .ok (.weakReference s)
  | .uri => .ok (.uri s)
  | .binary =>
    match Text.decodeBase64 (Text.utf8Bytes trimmed) with
    | .ok bytes => .ok (.binary bytes)
    | .error e => .error (invalid e.message)
  | .long =>
    match Number.readInteger trimmed with
    | .ok n => .ok (.long n)
    | .error e => .error (invalid e.message)
  | .double =>
    match Number.readBinary64 trimmed with
    | .ok x => .ok (.double x)
    | .error e => .error (invalid e.message)
  | .date =>
    match Time.readRfc3339 trimmed with
    | .ok d => .ok (.date d)
    | .error e => .error (invalid e.message)
  | .boolean =>
    match (trimmed.toList.map Char.toLower) with
    | ['t', 'r', 'u', 'e'] => .ok (.boolean true)
    | ['f', 'a', 'l', 's', 'e'] => .ok (.boolean false)
    | _ => .error (invalid "expected 'true' or 'false'")
  | .decimal =>
    if Number.isDecimalNumeral trimmed then .ok (.decimal trimmed)
    else .error (invalid "not a decimal number")

end Value

/-- The moment every version is created at: 2001-02-03T04:05:06.789 UTC. -/
def creationMoment : Time.Timestamp :=
  { year := 2001, month := 2, day := 3, hour := 4, minute := 5, second := 6,
    nanos := 789000000, offset := 0 }

end ContentSync
