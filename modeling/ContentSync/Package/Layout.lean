import ContentSync.Package.FileTree
import ContentSync.Export
import ContentSync.Import.Importer
import ContentSync.Filter

/-!
# Directory packages

A package is a directory laid out as

* `META-INF/vault/filter.json`: the filter definition, as pretty JSON;
* `jcr_root/<path>/`: one directory per aggregate, named by the file names of the segments of
  the aggregate path, holding `.content.xml` (the primary document), `.versions.xml` or
  `_jcr_content.versions.xml` (the version history) and `<name>.hint` for every ignored
  descendant.

Reading a package yields one entry per directory below `jcr_root`, parents first and
siblings in ascending order of their names. Each entry holds the directory artifact, the
documents found, and a hint for every hint file and every child directory, so that folder
imports keep the children that come with the package.

Main definitions: `filterFile`, `writePackage`, `readPackage`, `Package`.
-/

namespace ContentSync

/-- The directory holding the content of a package. -/
def contentRoot : String := "jcr_root"

/-- The path of the filter definition in a package. -/
def filterFile : List String := ["META-INF", "vault", "filter.json"]

/-- The path of a hint relative to its aggregate node, given the aggregate's name and the
hint's path relative to the aggregate's parent. -/
def hintName (aggregateName relativePath : String) : String :=
  if aggregateName.isEmpty then relativePath
  else
    let cs := relativePath.toList
    let pre := aggregateName.toList
    if pre.isPrefixOf cs then
      match cs.drop pre.length with
      | '/' :: rest => String.ofList rest
      | _ => relativePath
    else relativePath

/-- The `/`-separated segments of a relative file path. -/
def fileSegments (path : String) : List String :=
  path.splitOn "/"

/-- Writes the artifacts of one exported aggregate of `tree` below the package directory
`entries`; the entries after, and the number of files written. -/
def writeAggregate (tree : Node) (entries : List FileTree) (e : ExportedAggregate) :
    Except Error (List FileTree × Nat) := do
  let target := contentRoot :: Name.toPlatformPath e.aggregate.path
  let mut entries ← makeDirs entries target
  let mut files := 0
  for a in e.artifacts.artifacts do
    match a.type with
    | .directory => pure ()
    | .primary | .versions =>
      let data ← a.content tree
      entries ← writeFile entries data (target ++ fileSegments a.platformPath)
      files := files + 1
    | .hint =>
      let file := Name.toPlatformName (hintName e.aggregate.name a.relativePath) ++ dotHint
      entries ← writeFile entries [] (target ++ [file])
      files := files + 1
  return (entries, files)

/-- Writes exported aggregates of `tree` and the filter definition into the package directory
`entries`; the entries after, and the number of files written. -/
def writePackage (tree : Node) (entries : List FileTree) (exported : List ExportedAggregate)
    (filter : FilterConfig) : Except Error (List FileTree × Nat) := do
  let mut entries := entries
  let mut files := 0
  for e in exported do
    let (after, n) ← writeAggregate tree entries e
    entries := after
    files := files + n
  entries ← makeDirs entries (filterFile.take 2)
  entries ← writeFile entries (Text.utf8Bytes filter.toJson.pretty) filterFile
  return (entries, files + 1)

/-- A package that was read: its entries and its filter definition. -/
structure Package where
  entries : List ImportEntry
  filter : FilterConfig
deriving Repr

/-- Puts a name in an ascending list of names, once. -/
def insertName (n : String) : List String → List String
  | [] => [n]
  | m :: ms => if n < m then n :: m :: ms else if n = m then m :: ms else m :: insertName n ms

/-- The entry of the package directory with `entries` that stands for the node at `path`. -/
def directoryEntry (path : String) (entries : List FileTree) : Except Error ImportEntry := do
  let name := Path.name path
  let relative := fun (child : String) =>
    String.ofList ((Path.join name child).toList.dropWhile (· = '/'))
  let mut set ← ArtifactSet.empty.add (Artifact.directory name)
  let mut hinted : List String := []
  for e in entries do
    match e with
    | .file fileName data =>
      if fileName = dotContentXml then
        set ← set.add (Artifact.ofBytes "" dotContentXml .primary .docView data)
      else if fileName.endsWith dotVersionsXml then
        let stem := String.ofList (fileName.toList.take (fileName.length - dotVersionsXml.length))
        let versioned := Name.fromPlatformName stem
        if versioned.isEmpty || versioned = Known.content then
          set ← set.add (Artifact.ofBytes versioned dotVersionsXml .versions .generic data)
      else if fileName.endsWith dotHint then
        let stem := String.ofList (fileName.toList.take (fileName.length - dotHint.length))
        hinted := insertName (Name.fromPlatformName stem) hinted
    | .dir _ _ => pure ()
  for e in entries do
    if let .dir dirName _ := e then hinted := insertName (Name.fromPlatformName dirName) hinted
  for child in hinted do
    set ← set.add (Artifact.hint (relative child))
  return { parent := Path.parent path, name, artifacts := set }

/-- The entries of the subdirectories among `entries` of the directory standing for `path`,
each followed by the entries below it. -/
def subdirectoryEntries (path : String) : List FileTree → Except Error (List ImportEntry)
  | [] => .ok []
  | .file _ _ :: es => subdirectoryEntries path es
  | .dir dirName sub :: es => do
    let childPath := Path.join path (Name.fromPlatformName dirName)
    let entry ← directoryEntry childPath sub
    let below ← subdirectoryEntries childPath sub
    let rest ← subdirectoryEntries path es
    return entry :: below ++ rest

/-- Reads the package directory with `entries`; `location` names it in messages. -/
def readPackage (entries : List FileTree) (location : String) : Except Error Package := do
  let data ← match fileAt? entries filterFile with
    | some data => pure data
    | none => throw (.config (location ++ " is not a package: " ++ "/".intercalate filterFile ++
        " is missing"))
  let text ← match Text.stringOfUtf8? data with
    | some t => pure t
    | none => throw notUtf8
  let filter ← FilterConfig.load text
  match entryNamed? contentRoot entries with
  | some (.dir _ sub) =>
    let top ← directoryEntry "/" sub
    let below ← subdirectoryEntries "/" sub
    return { entries := top :: below, filter }
  | _ => return { entries := [], filter }

end ContentSync
