import ContentSync.Json.Decode
import ContentSync.Acl

/-!
# Configuration documents

The configuration of a vault says how content is exported (which aggregators cut the tree
into files, which node types are never exported, whether version histories go along) and how
it is imported (what happens to access control content, the type of folders the importer
creates, and properties that existing nodes keep). A filter definition lists filter sets: a
root, an import mode, and include and exclude rules.

Every document is read from JSON with missing fields set to their defaults, and written back
with every field.

Main definitions: `ImportMode`, `FilterConfig`, `AggregatorConfig`, `ExportConfig`,
`ImportOptions`, `VaultConfig`, `VaultConfig.load`, `VaultConfig.validate`.
-/

namespace ContentSync

open JsonText

/-- How an import treats what is already in the repository below a filter root. -/
inductive ImportMode where
  /-- Content is replaced; items missing from the package are removed. -/
  | replace
  /-- Only items missing in the repository are added. -/
  | merge
  /-- Existing items are updated and missing ones added; nothing is removed. -/
  | update
deriving DecidableEq, Repr, Inhabited

namespace ImportMode

/-- The lower-case name of a mode. -/
def key : ImportMode → String
  | .replace => "replace"
  | .merge => "merge"
  | .update => "update"

/-- The mode with a lower-case name. -/
def ofKey? (k : String) : Option ImportMode :=
  [ImportMode.replace, .merge, .update].find? (·.key = k)

end ImportMode

/-- A rule of a filter set: an include or exclude pattern. -/
inductive FilterRule where
  | include (pattern : String)
  | exclude (pattern : String)
deriving DecidableEq, Repr

/-- The definition of one filter set. -/
structure FilterSetConfig where
  root : String
  mode : ImportMode
  rules : List FilterRule
deriving DecidableEq, Repr

/-- A workspace filter definition. -/
structure FilterConfig where
  filters : List FilterSetConfig
deriving DecidableEq, Repr

/-- The filter with one set covering `root` in replace mode. -/
def FilterConfig.forRoot (root : String) : FilterConfig :=
  { filters := [{ root, mode := .replace, rules := [] }] }

/-- The definition of one generic aggregator. -/
structure AggregatorConfig where
  name : String
  /-- Node types starting an aggregate (empty: any type). -/
  matchTypes : List String
  /-- Node types this aggregator never matches. -/
  excludeTypes : List String
  /-- Properties left out of the serialized content. -/
  ignoredProperties : List String
  /-- Whether the aggregate claims its entire subtree. -/
  fullCoverage : Bool
  /-- Whether this is the fallback for nodes no other aggregator matches. -/
  isDefault : Bool
deriving DecidableEq, Repr, Inhabited

/-- An aggregator definition with only a name. -/
def AggregatorConfig.named (name : String) : AggregatorConfig :=
  { name, matchTypes := [], excludeTypes := [], ignoredProperties := [], fullCoverage := false,
    isDefault := false }

/-- The settings of an export. -/
structure ExportConfig where
  includeVersions : Bool
  aggregators : List AggregatorConfig
  ignoredTypes : List String
deriving DecidableEq, Repr, Inhabited

/-- The aggregators used when none are configured: files, unstructured content, folders. -/
def defaultAggregators : List AggregatorConfig :=
  let file := { AggregatorConfig.named "file" with matchTypes := ["nt:file"], fullCoverage := true }
  let content := { AggregatorConfig.named "content" with
    matchTypes := [Known.ntUnstructured], fullCoverage := true }
  let folder := { AggregatorConfig.named "folder" with isDefault := true }
  [file, content, folder]

/-- The node types that are never exported. -/
def defaultIgnoredTypes : List String :=
  [Known.repSystem, Known.repAcl, Known.repCugPolicy]

/-- The default export settings. -/
def ExportConfig.default : ExportConfig :=
  { includeVersions := true, aggregators := defaultAggregators, ignoredTypes := defaultIgnoredTypes }

/-- The settings of an import. -/
structure ImportOptions where
  acHandling : AccessControlHandling
  /-- The type of folders the importer creates. -/
  folderType : String
  /-- Properties existing nodes keep on replace. -/
  ignoredProperties : List String
deriving DecidableEq, Repr, Inhabited

/-- The default import settings. -/
def ImportOptions.default : ImportOptions :=
  { acHandling := .ignore, folderType := Known.ntFolder, ignoredProperties := [] }

/-- The whole configuration of a vault. -/
structure VaultConfig where
  exportConfig : ExportConfig
  importOptions : ImportOptions
deriving DecidableEq, Repr, Inhabited

/-- The default configuration. -/
def VaultConfig.default : VaultConfig :=
  { exportConfig := ExportConfig.default, importOptions := ImportOptions.default }

/-- The import settings with the properties every aggregator leaves out added to the ignored
ones, each once. -/
def VaultConfig.effectiveImportOptions (c : VaultConfig) : ImportOptions :=
  let extra := c.exportConfig.aggregators.flatMap (·.ignoredProperties)
  let ignored := extra.foldl (fun acc n => if acc.contains n then acc else acc ++ [n])
    c.importOptions.ignoredProperties
  { c.importOptions with ignoredProperties := ignored }

/-- Checks that exactly one aggregator is the default. -/
def VaultConfig.validate (c : VaultConfig) : Except Error Unit :=
  let defaults := (c.exportConfig.aggregators.filter (·.isDefault)).length
  if defaults = 1 then .ok ()
  else .error (.config s!"exactly one default aggregator required, found {defaults}")

/-! ## Reading -/

/-- A field of a structure decoded with `d` and stored with `put`. -/
def field (name : String) (required : Bool) (d : Decoder β) (put : α → β → α) : FieldSpec α :=
  { name, required, store := fun fromText j acc => do return put acc (← d fromText j) }

/-- Decodes a list of strings. -/
def stringsDecoder : Decoder (List String) :=
  decodeList decodeString

/-- Decodes an import mode. -/
def importModeDecoder : Decoder ImportMode := fun fromText j => do
  let k ← decodeUnitEnum ["replace", "merge", "update"] fromText j
  return (ImportMode.ofKey? k).getD .replace

/-- Decodes a filter rule. -/
def filterRuleDecoder : Decoder FilterRule := fun fromText j => do
  let (k, pattern) ← decodeNewtypeEnum ["include", "exclude"] decodeString fromText j
  return if k = "include" then .include pattern else .exclude pattern

/-- Decodes a filter set definition. -/
def filterSetDecoder : Decoder FilterSetConfig :=
  decodeStruct "FilterSetConfig"
    [field "root" true decodeString fun c v => { c with root := v },
     field "mode" false importModeDecoder fun c v => { c with mode := v },
     field "rules" false (decodeList filterRuleDecoder) fun c v => { c with rules := v }]
    { root := "", mode := .replace, rules := [] }

/-- Decodes a filter definition. -/
def filterConfigDecoder : Decoder FilterConfig :=
  decodeStruct "FilterConfig"
    [field "filters" false (decodeList filterSetDecoder) fun _ v => { filters := v }]
    { filters := [] }

/-- Decodes an access control handling. -/
def acHandlingDecoder : Decoder AccessControlHandling := fun fromText j => do
  let k ← decodeUnitEnum (AccessControlHandling.all.map (·.key)) fromText j
  return (AccessControlHandling.ofKey? k).getD .ignore

/-- Decodes an aggregator definition. -/
def aggregatorDecoder : Decoder AggregatorConfig :=
  decodeStruct "AggregatorConfig"
    [field "name" true decodeString fun c v => { c with name := v },
     field "match_types" false stringsDecoder fun c v => { c with matchTypes := v },
     field "exclude_types" false stringsDecoder fun c v => { c with excludeTypes := v },
     field "ignored_properties" false stringsDecoder fun c v => { c with ignoredProperties := v },
     field "full_coverage" false decodeBool fun c v => { c with fullCoverage := v },
     field "default" false decodeBool fun c v => { c with isDefault := v }]
    (AggregatorConfig.named "")

/-- Decodes export settings. -/
def exportConfigDecoder : Decoder ExportConfig :=
  decodeStruct "ExportConfig"
    [field "include_versions" false decodeBool fun c v => { c with includeVersions := v },
     field "aggregators" false (decodeList aggregatorDecoder) fun c v => { c with aggregators := v },
     field "ignored_types" false stringsDecoder fun c v => { c with ignoredTypes := v }]
    ExportConfig.default

/-- Decodes import settings. -/
def importOptionsDecoder : Decoder ImportOptions :=
  decodeStruct "ImportOptions"
    [field "ac_handling" false acHandlingDecoder fun c v => { c with acHandling := v },
     field "folder_type" false decodeString fun c v => { c with folderType := v },
     field "ignored_properties" false stringsDecoder fun c v => { c with ignoredProperties := v }]
    ImportOptions.default

/-- Decodes a vault configuration. -/
def vaultConfigDecoder : Decoder VaultConfig :=
  decodeStruct "VaultConfig"
    [field "export" false exportConfigDecoder fun c v => { c with exportConfig := v },
     field "import" false importOptionsDecoder fun c v => { c with importOptions := v }]
    VaultConfig.default

/-- Reads a configuration file; a missing one (`none`) gives the defaults. A configuration
read from a file must pass `validate`. -/
def VaultConfig.load (text : Option String) : Except Error VaultConfig := do
  match text with
  | none => return VaultConfig.default
  | some t =>
    let c ← match decodeText vaultConfigDecoder t with
      | .ok c => pure c
      | .error m => throw (.json m)
    c.validate
    return c

/-- Reads a filter definition file. -/
def FilterConfig.load (text : String) : Except Error FilterConfig :=
  match decodeText filterConfigDecoder text with
  | .ok c => .ok c
  | .error m => .error (.json m)

/-! ## Writing -/

/-- The JSON form of a filter rule. -/
def FilterRule.toJson : FilterRule → Json
  | .include p => .object [("include", .string p)]
  | .exclude p => .object [("exclude", .string p)]

/-- The JSON form of a filter definition. -/
def FilterConfig.toJson (c : FilterConfig) : Json :=
  .object [("filters", .array (c.filters.map fun s =>
    .object [("root", .string s.root), ("mode", .string s.mode.key),
      ("rules", .array (s.rules.map FilterRule.toJson))]))]

/-- The JSON form of an aggregator definition. -/
def AggregatorConfig.toJson (a : AggregatorConfig) : Json :=
  .object [("name", .string a.name), ("match_types", strings a.matchTypes),
    ("exclude_types", strings a.excludeTypes), ("ignored_properties", strings a.ignoredProperties),
    ("full_coverage", .bool a.fullCoverage), ("default", .bool a.isDefault)]

/-- The JSON form of export settings. -/
def ExportConfig.toJson (c : ExportConfig) : Json :=
  .object [("include_versions", .bool c.includeVersions),
    ("aggregators", .array (c.aggregators.map AggregatorConfig.toJson)),
    ("ignored_types", strings c.ignoredTypes)]

/-- The JSON form of import settings. -/
def ImportOptions.toJson (o : ImportOptions) : Json :=
  .object [("ac_handling", .string o.acHandling.key), ("folder_type", .string o.folderType),
    ("ignored_properties", strings o.ignoredProperties)]

/-- The JSON form of a vault configuration. -/
def VaultConfig.toJson (c : VaultConfig) : Json :=
  .object [("export", c.exportConfig.toJson), ("import", c.importOptions.toJson)]

end ContentSync
