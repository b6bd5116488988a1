import ContentSync.Aggregate
import ContentSync.Name.Platform

/-!
# Artifacts

An aggregate is written as a set of artifacts: a directory, a primary content document, a
version history document, and hints that mark ignored children. Directories and hints are
addressed relative to the parent of the aggregate node (`page`, `page/child`), content and
versions relative to the aggregate node itself (`""`, `jcr:content`).

The content of an artifact is empty, given bytes, or produced from the repository on demand:
the document view of an aggregate, or the version history of the aggregate node or of its
content child.

An artifact set keeps its artifacts in the order they were added, with distinct file paths and
at most one directory and one version history.

Main definitions: `ArtifactType`, `Serialization`, `Artifact`, `Artifact.platformPath`,
`ArtifactSet`, `ArtifactSet.add`.
-/

namespace ContentSync

/-- The file suffix of a primary document. -/
def dotContentXml : String := ".content.xml"

/-- The file suffix of a version history document. -/
def dotVersionsXml : String := ".versions.xml"

/-- The file suffix of a hint. -/
def dotHint : String := ".hint"

/-- The role of an artifact. -/
inductive ArtifactType where
  /-- The serialized content of the aggregate. -/
  | primary
  /-- The folder of the aggregate. -/
  | directory
  /-- The version history of the aggregate. -/
  | versions
  /-- A marker for a child the export leaves alone. -/
  | hint
deriving DecidableEq, Repr, Inhabited

/-- The name of an artifact type. -/
def ArtifactType.title : ArtifactType → String
  | .primary => "Primary"
  | .directory => "Directory"
  | .versions => "Versions"
  | .hint => "Hint"

/-- The format of an artifact's content. -/
inductive Serialization where
  /-- A document view of a content tree. -/
  | docView
  /-- Plain markup, such as a version history. -/
  | generic
  /-- No content. -/
  | none
deriving DecidableEq, Repr, Inhabited

/-- The name of a content format. -/
def Serialization.title : Serialization → String
  | .docView => "XmlDocView"
  | .generic => "XmlGeneric"
  | .none => "None"

/-- The content format with the given name. -/
def Serialization.ofTitle? (t : String) : Option Serialization :=
  [Serialization.docView, .generic, .none].find? (·.title = t)

/-- Which node of an aggregate carries its version history. -/
inductive Provenance where
  /-- The aggregate node itself. -/
  | node
  /-- The `jcr:content` child of the aggregate node. -/
  | contentChild
deriving DecidableEq, Repr, Inhabited

/-- The path of the versioned node relative to the aggregate node. -/
def Provenance.relativePath : Provenance → String
  | .node => ""
  | .contentChild => Known.content

/-- The path of the versioned node of the aggregate at `path`. -/
def Provenance.versionedPath (v : Provenance) (path : String) : String :=
  Path.join path v.relativePath

/-- Where the content of an artifact comes from. -/
inductive ContentSource where
  /-- No content. -/
  | empty
  /-- Content given as bytes. -/
  | bytes (data : List UInt8)
  /-- The document view of an aggregate, written when read. -/
  | docView (aggregate : Aggregate)
  /-- The version history of the aggregate at `path`, written when read. -/
  | versions (path : String) (provenance : Provenance)
deriving Repr, Inhabited

/-- One file of an aggregate. -/
structure Artifact where
  relativePath : String
  extension : String
  type : ArtifactType
  serialization : Serialization
  source : ContentSource
deriving Repr, Inhabited

namespace Artifact

/-- The directory artifact at a relative path. -/
def directory (path : String) : Artifact :=
  { relativePath := path, extension := "", type := .directory, serialization := .none,
    source := .empty }

/-- The hint artifact at a relative path. -/
def hint (path : String) : Artifact :=
  { relativePath := path, extension := dotHint, type := .hint, serialization := .none,
    source := .empty }

/-- An artifact over given bytes. -/
def ofBytes (path extension : String) (type : ArtifactType) (serialization : Serialization)
    (data : List UInt8) : Artifact :=
  { relativePath := path, extension, type, serialization, source := .bytes data }

/-- The file path of the artifact: the file names of its path's segments, joined by `/`,
then the extension. -/
def platformPath (a : Artifact) : String :=
  "/".intercalate (Name.toPlatformPath a.relativePath) ++ a.extension

end Artifact

/-- The artifacts of one aggregate, in the order they were added. -/
structure ArtifactSet where
  artifacts : List Artifact
deriving Repr, Inhabited

namespace ArtifactSet

/-- The set without artifacts. -/
def empty : ArtifactSet := { artifacts := [] }

/-- The first artifact of a type. -/
def first? (s : ArtifactSet) (t : ArtifactType) : Option Artifact :=
  s.artifacts.find? (·.type = t)

/-- Adds an artifact; its file path must be new, and a second directory or version history
is refused. -/
def add (s : ArtifactSet) (a : Artifact) : Except Error ArtifactSet :=
  let path := a.platformPath
  if s.artifacts.any (·.platformPath = path) then
    .error (.malformed ("duplicate artifact '" ++ path ++ "'"))
  else if (a.type = .directory || a.type = .versions) && (s.first? a.type).isSome then
    .error (.malformed ("artifact set already has a " ++ a.type.title ++ " artifact"))
  else .ok { artifacts := s.artifacts ++ [a] }

/-- Adds artifacts in order, stopping at the first refusal. -/
def addAll (s : ArtifactSet) : List Artifact → Except Error ArtifactSet
  | [] => .ok s
  | a :: rest => do addAll (← s.add a) rest

/-- The directory artifact. -/
def directory? (s : ArtifactSet) : Option Artifact := s.first? .directory

/-- The primary artifact. -/
def primary? (s : ArtifactSet) : Option Artifact := s.first? .primary

/-- The version history artifact. -/
def versions? (s : ArtifactSet) : Option Artifact := s.first? .versions

/-- The hint artifacts. -/
def hints (s : ArtifactSet) : List Artifact := s.artifacts.filter (·.type = .hint)

/-- The number of artifacts that are not hints. -/
def size (s : ArtifactSet) : Nat := (s.artifacts.filter (·.type ≠ .hint)).length

/-- Whether the set has no artifacts. -/
def isEmpty (s : ArtifactSet) : Bool := s.artifacts.isEmpty

end ArtifactSet

end ContentSync
