import ContentSync.Regex.Ast
import ContentSync.Regex.Pattern
import ContentSync.Text.PropertyTables

/-!
# Unicode classes

The set of characters a Unicode class `\p…` names. Names are compared in loose form
(`looseName`), so `\p{Greek}`, `\p{greek}` and `\p{Is_Greek}` are the same class.

A name alone is, in this order: a binary property (such as `Alphabetic`), a general category
(such as `Lu`, or `Any`, `Assigned`, `ASCII`), or a script (such as `Greek`). The names `cf`,
`sc` and `lc` stand for the categories Format, Currency_Symbol and Cased_Letter, not for the
properties they abbreviate too. A property and a value name a general category, a script, a
script extension, an age (the characters assigned up to a version), or a value of the
grapheme cluster, word or sentence break properties.

A name that is no property is `PropertyFault.propertyNotFound`; a property with no such value,
or one that cannot be asked for a value, is `PropertyFault.valueNotFound`.

Main definitions: `looseName`, `unicodeQuerySet`.
-/

namespace ContentSync.Regex

/-- Why a Unicode class names no set. -/
inductive PropertyFault where
  | propertyNotFound
  | valueNotFound
deriving DecidableEq, Repr

/-- The loose form of a property name or value: without a leading `is` (in any case), without
spaces, `_`, `-` and characters beyond ASCII, and in lower case; only `isc` keeps its `is`,
which the loose form of `c` would otherwise take. -/
def looseName (s : String) : String :=
  let cs := s.toList
  let (prefixed, rest) := match cs with
    | a :: b :: rest =>
      if (a = 'i' || a = 'I') && (b = 's' || b = 'S') then (true, rest) else (false, cs)
    | _ => (false, cs)
  let kept := rest.filterMap fun c =>
    if c = ' ' || c = '_' || c = '-' || 128 ≤ c.toNat then none else some (lowerAscii c)
  if prefixed && kept = ['c'] then "isc" else String.ofList kept

/-- The set of a canonical name in a table of compact ranges. -/
def rangesNamed (table : List (String × String)) (canonical : String) : Option CharSet :=
  (List.lookup canonical table).map fun code => .table (Text.CodeRanges.decode code)

/-- The set of a canonical name in a table, or `missing`. -/
def setNamed (table : List (String × String)) (missing : PropertyFault) (canonical : String) :
    Except PropertyFault CharSet :=
  match rangesNamed table canonical with
  | some s => .ok s
  | none => .error missing

/-- The canonical general category of a loose name, `Any`, `Assigned` and `ASCII` included. -/
def canonicalCategory (name : String) : Option String :=
  match name with
  | "any" => some "Any"
  | "assigned" => some "Assigned"
  | "ascii" => some "ASCII"
  | _ => List.lookup name Text.generalCategoryNames

/-- The set of a canonical general category. -/
def categorySet (canonical : String) : Except PropertyFault CharSet :=
  match canonical with
  | "Any" => .ok (.range 0 0x10FFFF)
  | "ASCII" => .ok (.range 0 0x7F)
  | "Assigned" => (setNamed Text.generalCategoryRanges .valueNotFound "Unassigned").map .complement
  | _ => setNamed Text.generalCategoryRanges .valueNotFound canonical

/-- The code tables of the versions up to and with `canonical`, oldest first; `none` if it
is no version. -/
def agesUpTo (canonical : String) : List (String × String) → List String → Option (List String)
  | [], _ => none
  | (name, code) :: rest, acc =>
    if name = canonical then some (acc ++ [code]) else agesUpTo canonical rest (acc ++ [code])

/-- The characters assigned up to a version. -/
def ageSet (canonical : String) : Except PropertyFault CharSet :=
  match agesUpTo canonical Text.ageRanges [] with
  | some codes => .ok (.union (codes.map fun code => .table (Text.CodeRanges.decode code)))
  | none => .error .valueNotFound

/-- The set of a class given by a name alone. -/
def binaryQuerySet (name : String) : Except PropertyFault CharSet :=
  let loose := looseName name
  let property :=
    if loose = "cf" || loose = "sc" || loose = "lc" then none
    else List.lookup loose Text.propertyNames
  match property with
  | some canonical => setNamed Text.binaryPropertyRanges .propertyNotFound canonical
  | none =>
    match canonicalCategory loose with
    | some canonical => categorySet canonical
    | none =>
      match List.lookup loose Text.scriptNames with
      | some canonical => setNamed Text.scriptRanges .valueNotFound canonical
      | none => .error .propertyNotFound

/-- The set of a value of a property with the names `names` and the sets `sets`. -/
def valueSet (names sets : List (String × String)) (value : String) :
    Except PropertyFault CharSet :=
  match List.lookup value names with
  | some canonical => setNamed sets .valueNotFound canonical
  | none => .error .valueNotFound

/-- The set of a class given by a property and a value. -/
def valueQuerySet (name value : String) : Except PropertyFault CharSet :=
  let value := looseName value
  match List.lookup (looseName name) Text.propertyNames with
  | none => .error .propertyNotFound
  | some "General_Category" =>
    match canonicalCategory value with
    | some canonical => categorySet canonical
    | none => .error .valueNotFound
  | some "Script" => valueSet Text.scriptNames Text.scriptRanges value
  | some "Script_Extensions" => valueSet Text.scriptNames Text.scriptExtensionRanges value
  | some "Age" =>
    match List.lookup value Text.ageNames with
    | some canonical => ageSet canonical
    | none => .error .valueNotFound
  | some "Grapheme_Cluster_Break" =>
    valueSet Text.graphemeBreakNames Text.graphemeBreakRanges value
  | some "Word_Break" => valueSet Text.wordBreakNames Text.wordBreakRanges value
  | some "Sentence_Break" => valueSet Text.sentenceBreakNames Text.sentenceBreakRanges value
  | some _ => .error .valueNotFound

/-- The set of characters a Unicode class asks for. -/
def unicodeQuerySet : UnicodeQuery → Except PropertyFault CharSet
  | .oneLetter c => binaryQuerySet (String.singleton c)
  | .named name => binaryQuerySet name
  | .byValue name value => valueQuerySet name value

end ContentSync.Regex
