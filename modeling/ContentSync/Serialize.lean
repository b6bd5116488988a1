import ContentSync.Artifact
import ContentSync.Versioning
import ContentSync.Codec
import ContentSync.Name.Iso9075
import ContentSync.Xml.Writer
import ContentSync.Text.Utf8

/-!
# Serializing content

A node is written as one element tagged with its escaped primary type. Its attributes are the
primary type and the mixins in typed text form, then the properties in order under their
escaped names, then `vlt:nodename` with the node name. The root element of a document also
declares the namespaces.

The primary document of an aggregate holds the aggregate node with the properties its
aggregator keeps and the descendants the aggregate includes. The version history document
wraps the whole version history of the versioned node in a `vlt:versions` element whose
`path` attribute is the aggregate path.

Main definitions: `nodeElement`, `docViewDocument`, `versionsDocument`, `Artifact.content`.
-/

namespace ContentSync

open Xml

mutual
/-- The element of a node at `path`, keeping the properties `keepProperty` accepts and the
children (with their paths) `keepChild` accepts. -/
def nodeElement (keepProperty : Property → Bool) (keepChild : Node → String → Bool)
    (rootElement : Bool) (path : String) : Node → XmlElement
  | ⟨name, primaryType, mixins, properties, children⟩ =>
    let typeAttribute :=
      (Known.primaryType, formatProperty (Property.single Known.primaryType (.name primaryType)))
    let mixinAttributes :=
      if mixins.isEmpty then [] else [(Known.mixinTypes, formatProperty (Property.names Known.mixinTypes mixins))]
    let propertyAttributes := (properties.filter keepProperty).map fun p =>
      (Name.iso9075Encode p.name, formatProperty p)
    { tag := Name.iso9075Encode primaryType,
      attributes := (if rootElement then Known.namespaceDeclarations else []) ++
        typeAttribute :: mixinAttributes ++ propertyAttributes ++ [(Known.nodeNameAttribute, name)],
      children := childElements keepProperty keepChild path children }

/-- The elements of the children `cs` of the node at `path` that `keepChild` accepts. -/
def childElements (keepProperty : Property → Bool) (keepChild : Node → String → Bool)
    (path : String) : List Node → List XmlElement
  | [] => []
  | c :: cs =>
    let rest := childElements keepProperty keepChild path cs
    let childPath := Path.join path c.name
    if keepChild c childPath then nodeElement keepProperty keepChild false childPath c :: rest
    else rest
end

/-- The primary document of an aggregate, given the aggregate node. -/
def docViewDocument (a : Aggregate) (n : Node) : String :=
  xmlDocument (nodeElement a.aggregator.includesProperty (fun c _ => a.includesChild c) true a.path n)

/-- The version history document of the aggregate at `path`, given the history node. -/
def versionsDocument (path : String) (history : Node) : String :=
  xmlDocument
    { tag := Known.versionsElement,
      attributes := Known.namespaceDeclarations ++ [(Known.versionsPathAttribute, path)],
      children := [nodeElement (fun _ => true) (fun _ _ => true) false history.name history] }

/-- The content of an artifact, written from the repository tree `tree` when it is
serialized. -/
def Artifact.content (tree : Node) (a : Artifact) : Except Error (List UInt8) :=
  match a.source with
  | .empty => .ok []
  | .bytes data => .ok data
  | .docView agg => do
    let n ← nodeAt tree agg.path
    return Text.utf8Bytes (docViewDocument agg n)
  | .versions path provenance => do
    let versioned := provenance.versionedPath path
    match ← versionHistoryIn tree versioned with
    | some history => return Text.utf8Bytes (versionsDocument path history)
    | none => throw (.notFound ("version history of " ++ versioned))

end ContentSync
