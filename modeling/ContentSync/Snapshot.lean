import ContentSync.Codec
import ContentSync.Json.Decode
import ContentSync.Repository

/-!
# Trees as JSON

A node is written as the object
`{"name", "primary_type", "mixins": [...], "properties": {name: typed text}, "children": [...]}`,
its properties as a map from names to their typed text (see `formatProperty`), in property
order. When a node is read, `mixins`, `properties` and `children` may be left out, and every
property text is read back with `readProperty`; a property that cannot be read is a fault of
the JSON document.

A repository file is the pretty JSON of `{"format": 1, "root": tree}` holding the saved tree.

Main definitions: `Node.toJson`, `nodeDecoder`, `snapshotText`, `openSnapshot`.
-/

namespace ContentSync

open JsonText

mutual
/-- The JSON form of a node. -/
def Node.toJson : Node → Json
  | ⟨name, primaryType, mixins, properties, children⟩ =>
    .object [("name", .string name), ("primary_type", .string primaryType),
      ("mixins", strings mixins),
      ("properties", .object (properties.map fun p => (p.name, .string (formatProperty p)))),
      ("children", .array (nodesToJson children))]

/-- The JSON forms of a list of nodes. -/
def nodesToJson : List Node → List Json
  | [] => []
  | n :: ns => n.toJson :: nodesToJson ns
end

/-- Decodes the property map of a node: each entry is a name and a typed text. -/
def propertiesDecoder : Decoder (List Property) :=
  decodeMap "a map of property names to encoded values"
    (fun fromText name value acc => do
      let text ← decodeString fromText value
      match readProperty name text with
      | .ok p => return acc ++ [p]
      | .error e => throw ⟨e.message, none⟩)
    []

/-- Decodes a node; `depth` bounds the nesting of children. -/
def nodeDecoderAt : Nat → Decoder Node
  | 0 => fun _ _ => .error ⟨"recursion limit exceeded", none⟩
  | depth + 1 =>
    decodeStruct "ContentNode"
      [{ name := "name", required := true,
         store := fun fromText j n => do return { n with name := ← decodeString fromText j } },
       { name := "primary_type", required := true,
         store := fun fromText j n => do
           return { n with primaryType := ← decodeString fromText j } },
       { name := "mixins", required := false,
         store := fun fromText j n => do
           return { n with mixins := ← decodeList decodeString fromText j } },
       { name := "properties", required := false,
         store := fun fromText j n => do
           return { n with properties := ← propertiesDecoder fromText j } },
       { name := "children", required := false,
         store := fun fromText j n => do
           return { n with children := ← decodeList (nodeDecoderAt depth) fromText j } }]
      (Node.empty "" "")

/-- Decodes a node. -/
def nodeDecoder : Decoder Node :=
  nodeDecoderAt (nestingLimit + 2)

/-- The version of the repository file layout. -/
def snapshotFormat : Nat := 1

/-- Decodes a repository file: its format number and its tree. -/
def snapshotDecoder : Decoder (Nat × Node) :=
  decodeStruct "Snapshot"
    [{ name := "format", required := true,
       store := fun fromText j s => do return (← decodeU32 fromText j, s.2) },
     { name := "root", required := true,
       store := fun fromText j s => do return (s.1, ← nodeDecoder fromText j) }]
    (0, Node.empty "" "")

/-- The text of the repository file of a saved tree. -/
def snapshotText (saved : Node) : String :=
  (Json.object [("format", nat snapshotFormat), ("root", saved.toJson)]).pretty

/-- Reads the tree of a repository file; `location` names the file in faults. -/
def openSnapshot (bytes : List UInt8) (location : String) : Except Error Node :=
  match decodeBytes snapshotDecoder bytes with
  | .error m => .error (.json m)
  | .ok (format, root) =>
    if format ≠ snapshotFormat then
      .error (.config s!"unsupported repository format {format} in {location}")
    else .ok root

end ContentSync
