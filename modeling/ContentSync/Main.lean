import ContentSync.CommandLine
import ContentSync.Commands
import Std.Time.DateTime.Timestamp

/-!
# The `dvault` program

Reads the command line, the repository snapshot, the configuration and package files, runs a
command, and writes back the snapshot and package files it gives. A failure is printed as
`Error: ` with what was being done and, below `Caused by:`, why; the program then ends with
status 1, and with status 2 for a command line it cannot read.
-/

namespace ContentSync

/-- Why a command failed: what it was doing, and the cause. -/
structure Failure where
  context : Option String
  cause : String

/-- Runs of commands. -/
abbrev Run := ExceptT Failure IO

/-- The operating system error code of an error, if it has one. -/
def osCodeOf : IO.Error → Option UInt32
  | .alreadyExists _ c _ | .otherError c _ | .resourceBusy c _ | .resourceVanished c _
  | .unsupportedOperation c _ | .hardwareFault c _ | .unsatisfiedConstraints c _
  | .illegalOperation c _ | .protocolError c _ | .timeExpired c _ | .interrupted _ c _
  | .noFileOrDirectory _ c _ | .invalidArgument _ c _ | .permissionDenied _ c _
  | .resourceExhausted _ c _ | .inappropriateType _ c _ | .noSuchThing _ c _ => some c
  | _ => none

/-- The message of a file system error. -/
def ioMessage (e : IO.Error) : String :=
  match osCodeOf e with
  | some c => (ioFault c.toNat).message
  | none => (Error.io (toString e)).message

/-- Runs a file operation, failing with `context` and the error's message. -/
def withFiles (context : Option String) (x : IO α) : Run α := do
  match ← (x.toBaseIO : BaseIO (Except IO.Error α)) with
  | .ok a => pure a
  | .error e => throw { context, cause := ioMessage e }

/-- The result of a library call, failing with `context` and the error's message. -/
def withResult (context : Option String) : Except Error α → Run α
  | .ok a => pure a
  | .error e => throw { context, cause := e.message }

/-- The bytes of a file, or `none` if there is no such file. -/
def readIfPresent (path : String) : IO (Option (List UInt8)) := do
  try
    return some (← IO.FS.readBinFile path).toList
  catch
    | .noFileOrDirectory .. => return none
    | e => throw e

/-- Whether something exists at a path. -/
def isPresent (path : String) : IO Bool := do
  try
    let _ ← IO.FS.Handle.mk path .read
    return true
  catch
    | .noFileOrDirectory .. => return false
    | _ => return true

/-- Opens the repository snapshot at `repo`. -/
def openRepository (repo : String) : Run Node := do
  let context := some ("failed to open repository " ++ repo)
  let bytes ← withFiles context (do return (← IO.FS.readBinFile repo).toList)
  withResult context (openSnapshot bytes repo)

/-- Writes the saved tree of a repository to the snapshot file at `repo`. -/
def persistRepository (repo : String) (saved : Node) : Run Unit := do
  let tmp := withExtension repo "tmp"
  withFiles (some ("failed to write repository " ++ repo)) do
    IO.FS.writeFile tmp (snapshotText saved)
    IO.FS.rename tmp repo

/-- Loads the configuration at `path`; a missing file gives the defaults. -/
def loadConfiguration (path : String) : Run VaultConfig := do
  let context := some ("failed to load configuration " ++ path)
  let text ← match ← withFiles context (readIfPresent path) with
    | none => pure none
    | some bytes => match Text.stringOfUtf8? bytes with
      | some t => pure (some t)
      | none => withResult context (.error notUtf8)
  withResult context (VaultConfig.load text)

/-- A repository over `root` whose identifiers start at a random number and whose versions
are dated now. -/
def repositoryOf (root : Node) : IO Repository := do
  let bytes ← IO.getRandomBytes 6
  let seed := bytes.toList.foldl (fun n b => n * 256 + b.toNat) 0 % Nat.pow 2 47
  let now ← Std.Time.Timestamp.now
  let clock := Time.Timestamp.ofUnixMillis now.toMillisecondsSinceUnixEpoch.val.toNat
  return Repository.ofRoot root seed clock

/-- Runs a repository operation; a failure has no context. -/
def runRepo (r : Repository) (x : RepoM α) : Run (α × Repository) :=
  match x.run r with
  | .ok a r => pure (a, r)
  | .error e _ => throw { context := none, cause := e.message }

/-- Prints the lines of a progress report. -/
def printProgress (p : Progress) : IO Unit := do
  for line in p.outputLines do IO.println line
  for line in p.errorLines do IO.eprintln line

/-- Writes package files below the directory `output`. -/
def writeFiles (output : String) (files : List (String × Option (List UInt8))) : IO Unit := do
  for (path, content) in files do
    let full := output ++ "/" ++ path
    match content with
    | none => IO.FS.createDirAll full
    | some data => IO.FS.writeBinFile full (ByteArray.mk data.toArray)

/-- Reads the package at `package` whose entries are listed on standard input. -/
def readFiles (package : String) : IO (List (String × Option (List UInt8))) := do
  let lines ← (← IO.getStdin).lines
  let mut files := []
  for line in lines do
    let line := if line.startsWith "./" then dropChars 2 line else line
    if line.isEmpty || line = "." then continue
    if line.endsWith "/" then
      files := files ++ [(String.ofList line.toList.dropLast, none)]
    else
      files := files ++ [(line, some (← IO.FS.readBinFile (package ++ "/" ++ line)).toList)]
  return files.mergeSort fun a b => a.1 < b.1 || a.1 = b.1

/-- Runs a command. -/
def execute (i : Invocation) : Run Unit := do
  match i.command with
  | .init force =>
    if (← withFiles none (isPresent i.repo)) && !force then
      throw { context := none,
              cause := "repository " ++ i.repo ++ " already exists (use --force to overwrite)" }
    persistRepository i.repo emptyRoot
    IO.println ("Initialized empty repository at " ++ i.repo)
  | .exportTo root output noVersions =>
    let tree ← openRepository i.repo
    let config ← loadConfiguration i.config
    let (p, result) := exportCommand config.exportConfig noVersions tree root
    printProgress p
    let exported ← withResult none result
    let context := some ("failed to write package " ++ output)
    let (files, count) ← withResult context (packageListing tree exported root)
    withFiles context (writeFiles output files)
    IO.println ("Exported " ++ toString exported.length ++ " aggregate(s) in " ++ toString count ++
      " file(s) to " ++ output)
  | .importFrom package acHandling =>
    let tree ← openRepository i.repo
    let options := (← loadConfiguration i.config).effectiveImportOptions
    let options := match acHandling with
      | some h => { options with acHandling := h }
      | none => options
    let context := some ("failed to read package " ++ package)
    let files ← withFiles context (readFiles package)
    let pkg ← withResult context (packageOfListing files package)
    let ((p, result), r) ← runRepo (← repositoryOf tree) (importCommand options pkg)
    printProgress p
    let info ← withResult none result
    persistRepository i.repo r.saved
    IO.println ("Imported " ++ toString info.size ++ " change(s) from " ++ package)
  | .checkin path =>
    let tree ← openRepository i.repo
    let (version, r) ← runRepo (← repositoryOf tree) (checkinCommand path)
    persistRepository i.repo r.saved
    IO.println ("Checked in " ++ path ++ " as version " ++ version)
  | .label path version label =>
    let tree ← openRepository i.repo
    let ((), r) ← runRepo (← repositoryOf tree) (labelCommand path version label)
    persistRepository i.repo r.saved
    IO.println ("Labeled version " ++ version ++ " of " ++ path ++ " as " ++ label)
  | .aggregates root =>
    let tree ← openRepository i.repo
    let config ← loadConfiguration i.config
    for line in ← withResult none (aggregateLines config.exportConfig tree root) do
      IO.println line
  | .remove path recursive =>
    let tree ← openRepository i.repo
    let config ← loadConfiguration i.config
    let (info, r) ← runRepo (← repositoryOf tree) (removeCommand config.exportConfig path recursive)
    printProgress (Progress.empty.importInfo info)
    persistRepository i.repo r.saved

end ContentSync

open ContentSync in
/-- Reads the command line and runs the command. -/
def main (args : List String) : IO UInt32 := do
  match parseCommandLine args with
  | .show text =>
    IO.print text
    return 0
  | .usage text =>
    IO.eprint text
    return 2
  | .run i =>
    match ← (execute i).run with
    | .ok () => return 0
    | .error f =>
      match f.context with
      | some c => IO.eprintln ("Error: " ++ c ++ "\n\nCaused by:\n    " ++ f.cause)
      | none => IO.eprintln ("Error: " ++ f.cause)
      return 1
