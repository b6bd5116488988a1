/-!
# Repository paths

A path is a text of `/`-separated node names; the root is `/`. These helpers work on the text
alone: joining a name to a parent, taking the parent or the last name, and testing whether one
path lies below another. Trailing slashes are ignored where a path is taken apart.

Main definitions: `Path.join`, `Path.parent`, `Path.name`, `Path.isDescendantOrSelf`.
-/

namespace ContentSync.Path

/-- The characters without the slashes at their end. -/
def dropTrailingSlashes (cs : List Char) : List Char :=
  (cs.reverse.dropWhile (· = '/')).reverse

/-- The path of the child `name` of `parent`; an empty name leaves the parent. -/
def join (parent name : String) : String :=
  if name.isEmpty then parent
  else if parent.isEmpty ∨ parent = "/" then "/" ++ name
  else String.ofList (dropTrailingSlashes parent.toList) ++ "/" ++ name

/-- Position of the last `/` in `cs`, if any. -/
def lastSlash (cs : List Char) : Option Nat :=
  match (cs.reverse.findIdx? (· = '/')) with
  | some i => some (cs.length - 1 - i)
  | none => none

/-- The parent of a path; the root, a name without a slash, and a first-level path have the
root as parent. -/
def parent (path : String) : String :=
  let trimmed := dropTrailingSlashes path.toList
  match lastSlash trimmed with
  | none => "/"
  | some 0 => "/"
  | some i => String.ofList (trimmed.take i)

/-- The last name of a path; empty for the root. -/
def name (path : String) : String :=
  let trimmed := dropTrailingSlashes path.toList
  match lastSlash trimmed with
  | none => String.ofList trimmed
  | some i => String.ofList (trimmed.drop (i + 1))

/-- Whether `path` is `ancestor` or lies below it. -/
def isDescendantOrSelf (ancestor path : String) : Bool :=
  if ancestor = "/" then path.toList.head? = some '/'
  else
    path = ancestor ∨
      (ancestor.toList.isPrefixOf path.toList ∧
        (path.toList.drop ancestor.toList.length).head? = some '/')

/-- The pieces of `cs` between its slashes, empty pieces included. -/
def splitAtSlash : List Char → List (List Char)
  | [] => [[]]
  | c :: cs => if c = '/' then [] :: splitAtSlash cs else (splitAtSlash cs).modifyHead (c :: ·)

/-- The non-empty names of a path, in order. -/
def segments (path : String) : List String :=
  ((splitAtSlash path.toList).filter (· ≠ [])).map String.ofList

/-- The pairs of characters that bucket a version history: up to three full pairs from the
start of its token. -/
def versionBuckets (token : String) : List String :=
  match token.toList with
  | a :: b :: c :: d :: e :: f :: _ =>
    [String.ofList [a, b], String.ofList [c, d], String.ofList [e, f]]
  | a :: b :: c :: d :: _ => [String.ofList [a, b], String.ofList [c, d]]
  | a :: b :: _ => [String.ofList [a, b]]
  | _ => []

/-- The names leading from the version storage to the history of `token`. -/
def versionHistoryPath (token : String) : List String :=
  versionBuckets token ++ [token]

end ContentSync.Path
