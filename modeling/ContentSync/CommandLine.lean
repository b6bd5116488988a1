import ContentSync.Acl

/-!
# The command line

The `dvault` command synchronizes a repository snapshot file with directory packages. Its
options `-r`/`--repo` (the snapshot, `repository.json` by default), `-c`/`--config` (the
vault configuration, `dvault.json` by default, defaults applying when it is missing) and
`--debug` may stand anywhere; then comes one command with its arguments:

* `init [--force]`: writes an empty repository;
* `export <ROOT> <OUTPUT> [--no-versions]`: writes the subtree at `ROOT` as a package;
* `import <PACKAGE> [--ac-handling <AC_HANDLING>]`: imports a package whose entries, one
  relative path a line with directories ending in `/`, are read from standard input;
* `checkin <PATH>`: makes a node versionable if needed and checks it in;
* `label <PATH> <VERSION> <LABEL>`: binds a label to a version;
* `aggregates [ROOT]`: lists the aggregates of a subtree;
* `rm <PATH> [-R|--recursive]`: removes the aggregate at a path;
* `help [COMMAND]`: prints help.

Reading the command line gives an invocation, a text to print (help or version), or a usage
error.

Main definitions: `Command`, `Invocation`, `Parsed`, `parseCommandLine`, `withExtension`.
-/

namespace ContentSync

/-- A command with its arguments. -/
inductive Command where
  | init (force : Bool)
  | exportTo (root output : String) (noVersions : Bool)
  | importFrom (package : String) (acHandling : Option AccessControlHandling)
  | checkin (path : String)
  | label (path version label : String)
  | aggregates (root : String)
  | remove (path : String) (recursive : Bool)
deriving DecidableEq, Repr

/-- A command with the global options. -/
structure Invocation where
  repo : String
  config : String
  debug : Bool
  command : Command
deriving DecidableEq, Repr

/-- What a command line asks for. -/
inductive Parsed where
  /-- Run a command. -/
  | run (i : Invocation)
  /-- Print a text and succeed. -/
  | show (text : String)
  /-- Print a usage error and fail. -/
  | usage (text : String)
deriving DecidableEq, Repr

/-- The name of the program. -/
def programName : String := "dvault"

/-- A command's name, summary, arguments (name, help, optional) and own options (flags,
value name if any, help). -/
structure CommandSpec where
  name : String
  about : String
  arguments : List (String × String × Bool)
  options : List (String × Option String × String)

/-- The commands of the program, in order. -/
def commandSpecs : List CommandSpec :=
  [{ name := "init", about := "Initialize a new, empty repository", arguments := [],
     options := [("    --force", none, "Overwrite an existing repository")] },
   { name := "export", about := "Export a subtree into a directory package",
     arguments := [("ROOT", "Repository path to export", false), ("OUTPUT", "Package directory", false)],
     options := [("    --no-versions", none, "Leave out version histories")] },
   { name := "import",
     about := "Import a directory package (its entries are read from standard input)",
     arguments := [("PACKAGE", "Package directory", false)],
     options := [("    --ac-handling", some "AC_HANDLING",
       "Access control handling (overwrite, clear, ignore, merge)")] },
   { name := "checkin", about := "Make a node versionable if needed and check it in",
     arguments := [("PATH", "", false)], options := [] },
   { name := "label", about := "Bind a label to a version of a node",
     arguments := [("PATH", "", false), ("VERSION", "", false), ("LABEL", "", false)], options := [] },
   { name := "aggregates", about := "List the aggregates of a subtree",
     arguments := [("ROOT", "[default: /]", true)], options := [] },
   { name := "rm", about := "Remove the aggregate at a path",
     arguments := [("PATH", "", false)],
     options := [("-R, --recursive", none, "Remove the whole subtree instead of the covered content only")] }]

/-- The options every command accepts. -/
def globalOptions : List (String × Option String × String) :=
  [("-r, --repo", some "REPO", "Repository snapshot file [default: repository.json]"),
   ("-c, --config", some "CONFIG", "Vault configuration file (defaults apply if missing) [default: dvault.json]"),
   ("    --debug", none, "Enable debug logging"),
   ("-h, --help", none, "Print help")]

/-- A text padded with blanks to `width` characters. -/
def padRight (width : Nat) (s : String) : String :=
  s ++ String.ofList (List.replicate (width - s.length) ' ')

/-- Lines of a two-column table, indented by two blanks. -/
def table (rows : List (String × String)) : List String :=
  let width := rows.foldl (fun w (a, _) => max w a.length) 0
  rows.map fun (a, b) => if b.isEmpty then "  " ++ a else "  " ++ padRight (width + 2) a ++ b

/-- The first column of an option row. -/
def optionColumn : String × Option String × String → String
  | (flags, some value, _) => flags ++ " <" ++ value ++ ">"
  | (flags, none, _) => flags

/-- The usage line of a command. -/
def commandUsage (c : CommandSpec) : String :=
  "Usage: " ++ programName ++ " " ++ c.name ++ " [OPTIONS]" ++
    String.join (c.arguments.map fun (n, _, optional) =>
      if optional then " [" ++ n ++ "]" else " <" ++ n ++ ">")

/-- The usage line of the program. -/
def programUsage : String := "Usage: " ++ programName ++ " [OPTIONS] <COMMAND>"

/-- The help of the program. -/
def programHelp : String :=
  "\n".intercalate ([
    "Content repository to file-system synchronization tool", "", programUsage, "", "Commands:"] ++
    table (commandSpecs.map (fun c => (c.name, c.about)) ++
      [("help", "Print this message or the help of the given subcommand(s)")]) ++
    ["", "Options:"] ++
    table ((globalOptions ++ [("-V, --version", none, "Print version")]).map fun o =>
      (optionColumn o, o.2.2))) ++ "\n"

/-- The help of a command. -/
def commandHelp (c : CommandSpec) : String :=
  let arguments := if c.arguments.isEmpty then []
    else ["", "Arguments:"] ++ table (c.arguments.map fun (n, h, optional) =>
      ((if optional then "[" ++ n ++ "]" else "<" ++ n ++ ">"), h))
  "\n".intercalate ([c.about, "", commandUsage c] ++ arguments ++ ["", "Options:"] ++
    table ((c.options ++ globalOptions).map fun o => (optionColumn o, o.2.2))) ++ "\n"

/-- A usage error with the usage line and the pointer to the help. -/
def usageError (message usage : String) : Parsed :=
  .usage ("error: " ++ message ++ "\n\n" ++ usage ++ "\n\nFor more information, try '--help'.\n")

/-- A usage error without usage line. -/
def valueError (message : String) : Parsed :=
  .usage ("error: " ++ message ++ "\n\nFor more information, try '--help'.\n")

/-- The global options and the remaining arguments of a command line. -/
structure Scan where
  repo : String
  config : String
  debug : Bool
  help : Bool
  version : Bool
  rest : List String
  fault : Option Parsed

/-- The text after the first `n` characters. -/
def dropChars (n : Nat) (s : String) : String := String.ofList (s.toList.drop n)

/-- The global option that takes a value and is spelled `a`, with its long name and value
name. -/
def valueOptionOf? (a : String) : Option (String × String) :=
  if a = "-r" || a = "--repo" then some ("--repo", "REPO")
  else if a = "-c" || a = "--config" then some ("--config", "CONFIG")
  else none

/-- Sets a global option that takes a value. -/
def Scan.set (s : Scan) (long value : String) : Scan :=
  if long = "--repo" then { s with repo := value } else { s with config := value }

/-- Takes the global options out of `args`, wherever they stand; `fuel` bounds the steps. -/
def scanGlobal : Nat → Scan → List String → Scan
  | 0, s, _ => { s with rest := s.rest.reverse }
  | _, s, [] => { s with rest := s.rest.reverse }
  | fuel + 1, s, a :: more =>
    if a = "--" then { s with rest := s.rest.reverse ++ more }
    else match valueOptionOf? a with
    | some (long, name) =>
      match more with
      | v :: rest => scanGlobal fuel (s.set long v) rest
      | [] => { s with fault := some (valueError
          ("a value is required for '" ++ long ++ " <" ++ name ++ ">' but none was supplied")) }
    | none =>
      if a.startsWith "--repo=" then scanGlobal fuel { s with repo := dropChars 7 a } more
      else if a.startsWith "--config=" then scanGlobal fuel { s with config := dropChars 9 a } more
      else if a.startsWith "-r" && a.length > 2 then scanGlobal fuel { s with repo := dropChars 2 a } more
      else if a.startsWith "-c" && a.length > 2 then scanGlobal fuel { s with config := dropChars 2 a } more
      else if a = "--debug" then scanGlobal fuel { s with debug := true } more
      else if a = "-h" || a = "--help" then scanGlobal fuel { s with help := true } more
      else if a = "-V" || a = "--version" then scanGlobal fuel { s with version := true } more
      else scanGlobal fuel { s with rest := a :: s.rest } more

/-- Whether an argument looks like an option. -/
def isOptionLike (a : String) : Bool := a.startsWith "-" && a ≠ "-"

/-- The arguments of a command: its flags set, its value option, and its positionals. -/
def splitCommandArgs (flags : List String) (valueOption : Option String) :
    List String → Except String (List String × Option String × List String)
  | [] => .ok ([], none, [])
  | a :: more =>
    if flags.contains a then do
      let (fs, v, ps) ← splitCommandArgs flags valueOption more
      return (a :: fs, v, ps)
    else if valueOption = some a then
      match more with
      | v :: more => do
        let (fs, _, ps) ← splitCommandArgs flags valueOption more
        return (fs, some v, ps)
      | [] => .error a
    else if isOptionLike a then .error a
    else do
      let (fs, v, ps) ← splitCommandArgs flags valueOption more
      return (fs, v, a :: ps)

/-- The command `c` read from its arguments. -/
def readCommand (c : CommandSpec) (args : List String) : Except Parsed Command := do
  let flags := match c.name with
    | "init" => ["--force"]
    | "export" => ["--no-versions"]
    | "rm" => ["-R", "--recursive"]
    | _ => []
  let valueOption := if c.name = "import" then some "--ac-handling" else none
  let (fs, value, ps) ← match splitCommandArgs flags valueOption args with
    | .ok r => pure r
    | .error a =>
      if valueOption = some a then
        throw (valueError ("a value is required for '--ac-handling <AC_HANDLING>' but none was supplied"))
      else throw (usageError ("unexpected argument '" ++ a ++ "' found") (commandUsage c))
  let required := (c.arguments.filter fun (_, _, optional) => !optional).map (·.1)
  if ps.length < required.length then
    throw (usageError ("the following required arguments were not provided:\n" ++
      "\n".intercalate ((required.drop ps.length).map fun n => "  <" ++ n ++ ">"))
      (commandUsage c))
  if ps.length > c.arguments.length then
    throw (usageError ("unexpected argument '" ++ ps.getD c.arguments.length "" ++ "' found")
      (commandUsage c))
  let arg := fun (i : Nat) => ps.getD i ""
  match c.name with
  | "init" => return .init (fs.contains "--force")
  | "export" => return .exportTo (arg 0) (arg 1) (fs.contains "--no-versions")
  | "import" =>
    match value with
    | none => return .importFrom (arg 0) none
    | some v =>
      match AccessControlHandling.parse v with
      | .ok h => return .importFrom (arg 0) (some h)
      | .error m => throw (valueError ("invalid value '" ++ v ++
          "' for '--ac-handling <AC_HANDLING>': " ++ m))
  | "checkin" => return .checkin (arg 0)
  | "label" => return .label (arg 0) (arg 1) (arg 2)
  | "aggregates" => return .aggregates (ps.headD "/")
  | _ => return .remove (arg 0) (fs.contains "-R" || fs.contains "--recursive")

/-- Reads a command line (without the program name). -/
def parseCommandLine (args : List String) : Parsed :=
  let start : Scan :=
    { repo := "repository.json", config := "dvault.json", debug := false, help := false,
      version := false, rest := [], fault := none }
  let s := scanGlobal (args.length + 1) start args
  match s.fault with
  | some p => p
  | none =>
    match s.rest with
    | [] =>
      if s.help then .show programHelp
      else if s.version then .show (programName ++ " 0.1.0\n")
      else .usage ("error: '" ++ programName ++ "' requires a subcommand but one was not provided\n" ++
        "  [subcommands: " ++ ", ".intercalate (commandSpecs.map (·.name) ++ ["help"]) ++ "]\n\n" ++
        programUsage ++ "\n\nFor more information, try '--help'.\n")
    | name :: args =>
      if name = "help" then
        match args with
        | [] => .show programHelp
        | n :: _ => match commandSpecs.find? (·.name = n) with
          | some c => .show (commandHelp c)
          | none => usageError ("unrecognized subcommand '" ++ n ++ "'") programUsage
      else
        match commandSpecs.find? (·.name = name) with
        | none => usageError ("unrecognized subcommand '" ++ name ++ "'") programUsage
        | some c =>
          if s.help then .show (commandHelp c)
          else
            match readCommand c args with
            | .ok command => .run { repo := s.repo, config := s.config, debug := s.debug, command }
            | .error p => p

/-- A file path with the extension of its last name replaced by `ext` (added if it has none). -/
def withExtension (path ext : String) : String :=
  let cs := path.toList
  let nameStart := match cs.reverse.findIdx? (· = '/') with
    | some i => cs.length - i
    | none => 0
  let name := cs.drop nameStart
  match (name.drop 1).reverse.findIdx? (· = '.') with
  | some i =>
    let dot := nameStart + name.length - 1 - i
    String.ofList (cs.take dot) ++ "." ++ ext
  | none => path ++ "." ++ ext

end ContentSync
