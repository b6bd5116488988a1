import ContentSync.Error

/-!
# File trees

A package is a directory of files. A file tree models such a directory: entries that are
files with their contents or directories with entries of their own. The entries of a
directory are kept in ascending order of their names, the order a listing presents them in.

A path is a list of names below the package directory, resolved the way a file system
resolves it: an empty name (from a doubled or trailing `/`) and `.` stay where they are, `..`
goes up a directory, and going up from the package directory leaves it for the directory it
sits in. What lies outside is not modelled: every directory there is taken to exist and
what is made there is not kept. A name longer than 255 bytes is refused, and so is a path
whose full form, the path of the package directory (a temporary directory such as
`/tmp/.tmpAbC123`) followed by the names, reaches 4096 bytes.

Making a directory and writing a file fail the way a file system does: a missing directory on
the way, a file where a directory is needed, a directory where a file is to be written, an
entry that exists where a directory is to be made. `createDirAll` makes a directory together
with the directories above it, and takes a directory that exists as made.

Main definitions: `FileTree`, `FsFault`, `makeDir`, `createDirAll`, `writeFileAt`, `fileAt?`,
`listDirectory`, `createListing`.
-/

namespace ContentSync

/-- An entry of a directory. -/
inductive FileTree where
  | file (name : String) (data : List UInt8)
  | dir (name : String) (entries : List FileTree)
deriving Repr, Inhabited

namespace FileTree

/-- The name of an entry. -/
def name : FileTree → String
  | .file n _ => n
  | .dir n _ => n

end FileTree

/-- The text of an operating system error code, as the system describes it. -/
def osErrorText (code : Nat) : String :=
  let text := match code with
    | 1 => "Operation not permitted"
    | 2 => "No such file or directory"
    | 5 => "Input/output error"
    | 13 => "Permission denied"
    | 17 => "File exists"
    | 20 => "Not a directory"
    | 21 => "Is a directory"
    | 22 => "Invalid argument"
    | 28 => "No space left on device"
    | 30 => "Read-only file system"
    | 36 => "File name too long"
    | 39 => "Directory not empty"
    | _ => "Unknown error " ++ toString code
  text ++ " (os error " ++ toString code ++ ")"

/-- A file system failure with an operating system error code. -/
def ioFault (code : Nat) : Error := .io (osErrorText code)

/-- The failure of reading a text file whose bytes are not UTF-8. -/
def notUtf8 : Error := .io "stream did not contain valid UTF-8"

/-- Why a file system operation failed. -/
inductive FsFault where
  /-- A directory on the way, or the entry itself, is missing. -/
  | noEntry
  /-- The entry to be made exists. -/
  | exists
  /-- A file stands where a directory is needed. -/
  | notDirectory
  /-- A directory stands where a file is to be written. -/
  | isDirectory
  /-- A name, or the whole path, is too long. -/
  | nameTooLong
deriving DecidableEq, Repr

/-- The operating system error code of a failure. -/
def FsFault.code : FsFault → Nat
  | .noEntry => 2
  | .exists => 17
  | .notDirectory => 20
  | .isDirectory => 21
  | .nameTooLong => 36

/-- The error a failure is reported as. -/
def FsFault.toError (f : FsFault) : Error :=
  ioFault f.code

/-- The longest name of an entry, in bytes. -/
def nameMax : Nat := 255

/-- The length in bytes that a path, with its terminating zero byte, must stay below. -/
def pathMax : Nat := 4096

/-- The length in bytes of the path of the package directory. -/
def baseLength : Nat := 15

/-- The length in bytes of the full form of a path below the package directory. -/
def fullLength (path : List String) : Nat :=
  path.foldl (fun n name => n + 1 + name.utf8ByteSize) baseLength

/-- Whether a path is refused for its length. -/
def pathTooLong (path : List String) : Bool :=
  pathMax ≤ fullLength path

/-- Puts an entry in an ascending list of entries, replacing one of the same name. -/
def placeEntry (e : FileTree) : List FileTree → List FileTree
  | [] => [e]
  | d :: ds =>
    if e.name < d.name then e :: d :: ds
    else if e.name = d.name then e :: ds
    else d :: placeEntry e ds

/-- The entry called `name`. -/
def entryNamed? (name : String) (entries : List FileTree) : Option FileTree :=
  entries.find? (·.name = name)

/-- The entries of the directory reached by following `names` down from a directory with
`entries`, if there is one. -/
def entriesAt (entries : List FileTree) : List String → Option (List FileTree)
  | [] => some entries
  | n :: ns =>
    match entryNamed? n entries with
    | some (.dir _ sub) => entriesAt sub ns
    | _ => none

/-- Changes the entries of the directory reached by following `names` down; nothing changes
if there is no such directory. -/
def changeAt (f : List FileTree → List FileTree) (entries : List FileTree) :
    List String → List FileTree
  | [] => f entries
  | n :: ns =>
    match entryNamed? n entries with
    | some (.dir _ sub) => placeEntry (.dir n (changeAt f sub ns)) entries
    | _ => entries

/-- The entry called `name` in the directory reached by following `names` down. -/
def entryAt? (entries : List FileTree) (names : List String) (name : String) : Option FileTree :=
  (entriesAt entries names).bind (entryNamed? name)

/-- Where a path leads: a directory inside the package directory, given by the names leading
down to it, or a place outside the package directory. -/
inductive Place where
  | inside (names : List String)
  | outside
deriving DecidableEq, Repr

/-- The place one name of a path leads to from `place`, below a package directory with
`root`. -/
def stepTo (root : List FileTree) (place : Place) (name : String) : Except FsFault Place :=
  if nameMax < name.utf8ByteSize then .error .nameTooLong
  else if name = "" ∨ name = "." then .ok place
  else if name = ".." then
    match place with
    | .inside [] => .ok .outside
    | .inside names => .ok (.inside names.dropLast)
    | .outside => .ok .outside
  else
    match place with
    | .outside => .ok .outside
    | .inside names =>
      match entryAt? root names name with
      | some (.dir _ _) => .ok (.inside (names ++ [name]))
      | some (.file _ _) => .error .notDirectory
      | none => .error .noEntry

/-- The place the names of a path lead to, one after another, from `place`. -/
def resolveFrom (root : List FileTree) : Place → List String → Except FsFault Place
  | place, [] => .ok place
  | place, n :: ns => do resolveFrom root (← stepTo root place n) ns

/-- The place a path leads to from the package directory. -/
def resolve (root : List FileTree) (path : List String) : Except FsFault Place :=
  resolveFrom root (.inside []) path

/-- A path without the empty names at its end, split into the names above its last name and
that name; `none` if no name is left. -/
def splitLast (path : List String) : Option (List String × String) :=
  match path.reverse.dropWhile (· = "") with
  | [] => none
  | last :: above => some (above.reverse, last)

/-- Whether a path leads to a directory. -/
def isDirAt (root : List FileTree) (path : List String) : Bool :=
  !pathTooLong path &&
    match resolve root path with
    | .ok _ => true
    | .error _ => false

/-- Makes the directory at `path`; the directory above it must exist. -/
def makeDir (root : List FileTree) (path : List String) : Except FsFault (List FileTree) :=
  if pathTooLong path then .error .nameTooLong
  else
    match splitLast path with
    | none => .error .exists
    | some (above, last) => do
      let place ← resolve root above
      if nameMax < last.utf8ByteSize then throw .nameTooLong
      if last = "." ∨ last = ".." then throw .exists
      match place with
      | .outside => return root
      | .inside names =>
        match entryAt? root names last with
        | some _ => throw .exists
        | none => return changeAt (placeEntry (.dir last [])) root names

/-- Makes the directory at `path` once the directories above it were made: a failure is no
failure if the path leads to a directory by then. -/
def makeAgain (root : List FileTree) (path : List String) : Except FsFault (List FileTree) :=
  match makeDir root path with
  | .ok r => .ok r
  | .error e => if isDirAt root path then .ok root else .error e

/-- Makes a directory and those above it; the path has no `.` or empty names and is given
last name first. On a missing directory on the way the directory above is made first. -/
def createDirsRev (root : List FileTree) : List String → Except FsFault (List FileTree)
  | [] => .ok root
  | last :: above =>
    let path := (last :: above).reverse
    match makeDir root path with
    | .error .noEntry => do makeAgain (← createDirsRev root above) path
    | _ => makeAgain root path

/-- Whether a name counts as a part of a path when its parent is taken. -/
def keptName (name : String) : Bool :=
  name ≠ "" && name ≠ "."

/-- The parent of a path: the path without its `.` and empty names and without its last
name. -/
def parentPath (path : List String) : List String :=
  (path.filter keptName).dropLast

/-- Makes a directory together with the directories above it, taking a directory that
exists as made. -/
def createDirAll (root : List FileTree) (path : List String) : Except FsFault (List FileTree) :=
  match makeDir root path with
  | .error .noEntry => do makeAgain (← createDirsRev root (parentPath path).reverse) path
  | _ => makeAgain root path

/-- Writes a file at `path`, replacing a file there; the directory it is in must exist. -/
def writeFileAt (root : List FileTree) (data : List UInt8) (path : List String) :
    Except FsFault (List FileTree) :=
  if pathTooLong path then .error .nameTooLong
  else
    match splitLast path with
    | none => .error .isDirectory
    | some (above, last) => do
      let place ← resolve root above
      if nameMax < last.utf8ByteSize then throw .nameTooLong
      if last = "." ∨ last = ".." then throw .isDirectory
      match place with
      | .outside => return root
      | .inside names =>
        match entryAt? root names last with
        | some (.dir _ _) => throw .isDirectory
        | some (.file _ _) =>
          if path.getLast? = some "" then throw .notDirectory
          else return changeAt (placeEntry (.file last data)) root names
        | none =>
          if path.getLast? = some "" then throw .isDirectory
          else return changeAt (placeEntry (.file last data)) root names

/-- The contents of the file a path leads to. -/
def fileAt? (root : List FileTree) (path : List String) : Option (List UInt8) :=
  match splitLast path with
  | none => none
  | some (above, last) =>
    match resolve root above with
    | .ok (.inside names) =>
      match entryAt? root names last with
      | some (.file _ data) => some data
      | _ => none
    | _ => none

/-- Makes a directory together with those above it, below a package directory with
`entries`. -/
def makeDirs (entries : List FileTree) (path : List String) : Except Error (List FileTree) :=
  (createDirAll entries path).mapError FsFault.toError

/-- Writes a file below a package directory with `entries`. -/
def writeFile (entries : List FileTree) (data : List UInt8) (path : List String) :
    Except Error (List FileTree) :=
  (writeFileAt entries data path).mapError FsFault.toError

mutual
/-- Every entry at or below `e`, with its `/`-separated path below `pre`: the contents of a
file, `none` for a directory. -/
def FileTree.listing (pre : String) : FileTree → List (String × Option (List UInt8))
  | .file n data => [(pre ++ n, some data)]
  | .dir n entries => (pre ++ n, none) :: FileTree.listingAll (pre ++ n ++ "/") entries

/-- The listings of entries, one after another. -/
def FileTree.listingAll (pre : String) : List FileTree → List (String × Option (List UInt8))
  | [] => []
  | e :: es => FileTree.listing pre e ++ FileTree.listingAll pre es
end

/-- Every entry below a directory with `entries`, in ascending order of the `/`-separated
paths: the contents of a file, `none` for a directory. -/
def listDirectory (entries : List FileTree) : List (String × Option (List UInt8)) :=
  (FileTree.listingAll "" entries).mergeSort fun a b => a.1 < b.1 || a.1 = b.1

/-- Creates the entries of a listing in order below a directory with `entries`: a directory
for `none`, a file (and the directories above it) for contents. A path starting with `/`
names a place outside the package directory. -/
def createListing (entries : List FileTree) :
    List (String × Option (List UInt8)) → Except Error (List FileTree)
  | [] => .ok entries
  | (path, content) :: rest => do
    let segments := path.splitOn "/"
    let entries ← if path.startsWith "/" then pure entries else
      match content with
      | none => makeDirs entries segments
      | some data => do
        let entries ← makeDirs entries (parentPath segments)
        writeFile entries data segments
    createListing entries rest

end ContentSync
