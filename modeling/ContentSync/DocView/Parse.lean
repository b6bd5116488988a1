import ContentSync.Xml.Attributes
import ContentSync.Name.Iso9075
import ContentSync.Codec
import ContentSync.Node

/-!
# Reading content documents

A content document describes a tree of nodes as nested elements. Each element stands for one
node: the attribute `vlt:nodename` gives the node's name, `jcr:primaryType` and
`jcr:mixinTypes` its types (in typed text), and every other attribute a property in typed
text. Without `jcr:primaryType` the element's tag is the primary type. Tags and attribute
keys are names escaped with ISO 9075; namespace declarations are not properties.

The element reader turns markup tokens into start and end events: an empty element is a start
followed by an end, and text, comments and declarations are skipped. A document must close
every element it opens.

Main definitions: `Element`, `ElementEvent`, `elementEvents`, `DocViewNode`, `parseDocView`.
-/

namespace ContentSync

open Xml

/-- An element with decoded tag and attribute names. -/
structure Element where
  tag : String
  attributes : List (String × String)
deriving DecidableEq, Repr

namespace Element

/-- The value of an attribute. -/
def attribute? (e : Element) (name : String) : Option String :=
  e.attributes.lookup name

/-- The value of an attribute that must be there. -/
def require (e : Element) (name : String) : Except Error String :=
  match e.attribute? name with
  | some v => .ok v
  | none => .error (.missingAttribute e.tag name)

end Element

/-- A name as text, or a fault when its bytes are not UTF-8. -/
def nameText (bytes : List UInt8) : Except Error String :=
  match Text.decodeUtf8 bytes with
  | .ok cs => .ok (String.ofList cs)
  | .error e => .error (.malformed ("invalid UTF-8 in name: " ++ e.message))

/-- A fault of the markup reader as an error. -/
def markupError (f : XmlFault) : Error :=
  .markup f.describe

/-- The element of a tag's content: its tag and attributes, names decoded, namespace
declarations left out. Faults are met in reading order: the tag name, then each attribute's
syntax, key and value in turn. -/
def elementOf (content : List UInt8) : Except Error Element := do
  let tag ← nameText (content.take (nameLength content))
  let (raw, fault) := readAttributes content
  let mut attributes := []
  for (key, value) in raw do
    let k ← nameText key
    if k = "xmlns" ∨ k.startsWith "xmlns:" then continue
    let v ← match unescapeValue value with
      | .ok v => pure v
      | .error f => throw (markupError f)
    attributes := attributes ++ [(Name.iso9075Decode k, v)]
  -- the attributes before a faulty one are checked first
  if let some f := fault then throw (markupError f)
  return { tag := Name.iso9075Decode tag, attributes }

/-- An event of the element reader. -/
inductive ElementEvent where
  | start (e : Element)
  | finish
deriving DecidableEq, Repr

/-- The state of the element reader: the markup reader, the depth, and whether an end is due
for an empty element. -/
structure ElementReader where
  scanner : Scanner
  depth : Nat
  pendingEnd : Bool

/-- An element reader at the start of a document. -/
def ElementReader.ofBytes (bytes : List UInt8) : ElementReader :=
  { scanner := Scanner.ofBytes bytes, depth := 0, pendingEnd := false }

/-- The next event, `none` at the end of a well-formed document; `fuel` bounds the tokens
skipped. -/
def ElementReader.nextWith :
    Nat → ElementReader → Except Error (Option ElementEvent × ElementReader)
  | 0, r => .ok (none, r)
  | fuel + 1, r =>
    if r.pendingEnd then .ok (some .finish, { r with pendingEnd := false, depth := r.depth - 1 })
    else
      match r.scanner.next with
      | .error f => .error (markupError f)
      | .ok (token, scanner) =>
        let r := { r with scanner }
        match token with
        | .start content => do
          let e ← elementOf content
          return (some (.start e), { r with depth := r.depth + 1 })
        | .empty content => do
          let e ← elementOf content
          return (some (.start e), { r with depth := r.depth + 1, pendingEnd := true })
        | .finish _ =>
          if r.depth = 0 then .error (.malformed "unbalanced end element")
          else .ok (some .finish, { r with depth := r.depth - 1 })
        | .eof =>
          if r.depth ≠ 0 then
            .error (.malformed s!"document ends with {r.depth} open element(s)")
          else .ok (none, r)
        | .skipped => ElementReader.nextWith fuel r

/-- The next event of the element reader. -/
def ElementReader.next (r : ElementReader) : Except Error (Option ElementEvent × ElementReader) :=
  r.nextWith (r.scanner.rest.length + 2)

/-- At most `limit` events of a document, and the fault that stopped reading, if any. -/
def elementEvents (bytes : List UInt8) (limit : Nat) : List ElementEvent × Option Error :=
  let rec go : Nat → ElementReader → List ElementEvent → List ElementEvent × Option Error
    | 0, _, acc => (acc.reverse, none)
    | n + 1, r, acc =>
      match r.next with
      | .error e => (acc.reverse, some e)
      | .ok (none, _) => (acc.reverse, none)
      | .ok (some ev, r) => go n r (ev :: acc)
  go limit (ElementReader.ofBytes bytes) []

/-- A node as one element describes it. -/
structure DocViewNode where
  name : String
  primaryType : String
  mixins : List String
  properties : List Property
deriving Repr

/-- The node an element describes; the primary type falls back to the tag. -/
def DocViewNode.ofElement (e : Element) : Except Error DocViewNode := do
  let name ← e.require Known.nodeNameAttribute
  let mut primaryType := e.tag
  let mut mixins := []
  let mut properties := []
  for (key, value) in e.attributes do
    if key = Known.nodeNameAttribute then continue
    else if key = Known.primaryType then
      let d ← decodeTyped value
      match d.values.head? with
      | some t => primaryType := t
      | none => pure ()
    else if key = Known.mixinTypes then
      mixins := (← decodeTyped value).values
    else
      properties := properties ++ [← readProperty key value]
  return { name, primaryType, mixins, properties }

/-- The childless node of a described one. -/
def DocViewNode.toNode (d : DocViewNode) : Node :=
  { name := d.name, primaryType := d.primaryType, mixins := d.mixins,
    properties := d.properties, children := [] }

/-- Adds a finished node to the innermost open one, or makes it the root. -/
def closeNode (stack : List Node) (root : Option Node) :
    Except Error (List Node × Option Node) :=
  match stack with
  | [] => .error (.malformed "unbalanced end element")
  | n :: [] => .ok ([], some n)
  | n :: p :: rest => .ok ({ p with children := p.children ++ [n] } :: rest, root)

/-- Reads a content document into a tree. -/
def parseDocView (bytes : List UInt8) : Except Error Node :=
  let rec go : Nat → ElementReader → List Node → Option Node → Except Error Node
    | 0, _, _, root => match root with
      | some n => .ok n
      | none => .error (.malformed "document has no root element")
    | fuel + 1, r, stack, root => do
      match ← r.next with
      | (none, _) =>
        match root with
        | some n => return n
        | none => throw (.malformed "document has no root element")
      | (some (.start e), r) =>
        if root.isSome then throw (.malformed "more than one root element")
        let d ← DocViewNode.ofElement e
        go fuel r (d.toNode :: stack) root
      | (some .finish, r) =>
        let (stack, root) ← closeNode stack root
        go fuel r stack root
  go (bytes.length + 2) (ElementReader.ofBytes bytes) [] none

end ContentSync
