import ContentSync.Value

/-!
# Properties

A property is a name, a type, whether it is multi-valued, and its values in order. A
single-valued property has exactly one value; a multi-valued one any number, all of its type.
Two properties are the same when name, type, multiplicity and values agree, values compared
with `Value.same`.

Main definitions: `Property.single`, `Property.multiple`, `Property.ofTexts`, `Property.same`.
-/

namespace ContentSync

/-- A named, typed property of a content node. -/
structure Property where
  name : String
  type : PropertyType
  multi : Bool
  values : List Value
deriving DecidableEq, Repr

namespace Property

/-- A single-valued property. -/
def single (name : String) (v : Value) : Property :=
  { name, type := v.type, multi := false, values := [v] }

/-- A single-valued text property. -/
def ofString (name value : String) : Property :=
  single name (.string value)

/-- A multi-valued property of type `t`; every value must be of that type. -/
def multiple (name : String) (t : PropertyType) (vs : List Value) : Except Error Property :=
  match vs.find? (·.type ≠ t) with
  | some bad =>
    .error (.invalidValue t.typeName bad.text s!"value of type {bad.type.typeName} in property {name}")
  | none => .ok { name, type := t, multi := true, values := vs }

/-- Reads every text as a value of type `t`, in order, stopping at the first failure. -/
def readAll (t : PropertyType) : List String → Except Error (List Value)
  | [] => .ok []
  | s :: rest => do
    let v ← Value.read t s
    let vs ← readAll t rest
    return v :: vs

/-- A property from the texts of its values: all are read first, then a multi-valued
property is formed, or a single-valued one from exactly one value. -/
def ofTexts (name : String) (t : PropertyType) (multi : Bool) (texts : List String) :
    Except Error Property := do
  let vs ← readAll t texts
  if multi then multiple name t vs
  else
    match vs with
    | [v] => return single name v
    | _ => throw (.malformed s!"single-valued property {name} has {vs.length} values")

/-- A multi-valued `Name` property. -/
def names (name : String) (values : List String) : Property :=
  { name, type := .name, multi := true, values := values.map Value.name }

/-- A multi-valued `Reference` property. -/
def references (name : String) (values : List String) : Property :=
  { name, type := .reference, multi := true, values := values.map Value.reference }

/-- The texts of the values. -/
def valueTexts (p : Property) : List String :=
  p.values.map Value.text

/-- The first value, if any. -/
def first? (p : Property) : Option Value :=
  p.values.head?

/-- Whether two value lists agree pairwise under `Value.same`. -/
def sameValues : List Value → List Value → Bool
  | [], [] => true
  | a :: as, b :: bs => a.same b && sameValues as bs
  | _, _ => false

/-- Whether two properties are the same. -/
def same (p q : Property) : Bool :=
  p.name == q.name && p.type == q.type && p.multi == q.multi && sameValues p.values q.values

/-- The same property under another name. -/
def rename (p : Property) (name : String) : Property :=
  { p with name }

end Property

/-- Whether two property lists agree pairwise under `Property.same`. -/
def samePropertyLists : List Property → List Property → Bool
  | [], [] => true
  | p :: ps, q :: qs => p.same q && samePropertyLists ps qs
  | _, _ => false

end ContentSync
