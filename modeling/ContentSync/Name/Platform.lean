import ContentSync.Number.Integer
import ContentSync.Path

/-!
# Names as file names

A node name becomes a file name in two steps. Characters that file systems refuse or treat
specially (`%`, `/`, `\`, `:`, `*`, `?`, `"`, `<`, `>`, `|` and controls below U+0020) are
written `%XX` in upper-case hex. A namespaced name `prefix:local` whose prefix is not empty and
holds no `_` is written `_prefix_local`; a name that starts with `_` gets one more `_` in
front, so that it cannot be mistaken for a namespaced one.

Reading a file name undoes this: `__rest` is `_rest`, `_prefix_local` (with a non-empty
prefix) is `prefix:local`, and every `%` followed by two hex digits (a `+` may stand for the
first) is the character of that byte.

Main definitions: `toPlatformName`, `fromPlatformName`, `toPlatformPath`.
-/

namespace ContentSync.Name

/-- Whether a character must be escaped in a file name. -/
def isIllegalFileChar (c : Char) : Bool :=
  c ∈ ['%', '/', '\\', ':', '*', '?', '"', '<', '>', '|'] || c.toNat < 0x20

/-- Two upper-case hex digits of a number below 256. -/
def hex2 (n : Nat) : List Char :=
  let d (k : Nat) : Char := if k < 10 then Char.ofNat (48 + k) else Char.ofNat (55 + k)
  [d (n / 16 % 16), d (n % 16)]

/-- Escapes the characters a file name may not hold. -/
def percentEscape (cs : List Char) : List Char :=
  cs.flatMap fun c => if isIllegalFileChar c then '%' :: hex2 c.toNat else [c]

/-- Replaces each `%` and two hex digits by the character of that byte. -/
def percentUnescape : List Char → List Char
  | [] => []
  | '%' :: a :: b :: rest =>
    if a.toNat < 128 ∧ b.toNat < 128 then
      match Number.readNatural 16 255 (String.ofList [a, b]) with
      | .ok n => Char.ofNat n :: percentUnescape rest
      | .error _ => '%' :: percentUnescape (a :: b :: rest)
    else '%' :: percentUnescape (a :: b :: rest)
  | c :: rest => c :: percentUnescape rest

/-- Splits at the first occurrence of `sep`, dropping it. -/
def splitOnce (sep : Char) (cs : List Char) : Option (List Char × List Char) :=
  match cs.findIdx? (· = sep) with
  | some i => some (cs.take i, cs.drop (i + 1))
  | none => none

/-- The file name of a node name. -/
def toPlatformName (name : String) : String :=
  let cs := name.toList
  String.ofList <|
    match splitOnce ':' cs with
    | some (pre, localPart) =>
      if !pre.isEmpty ∧ !pre.contains '_' then
        '_' :: percentEscape pre ++ '_' :: percentEscape localPart
      else if cs.head? = some '_' then '_' :: percentEscape cs
      else percentEscape cs
    | none => if cs.head? = some '_' then '_' :: percentEscape cs else percentEscape cs

/-- The node name of a file name. -/
def fromPlatformName (name : String) : String :=
  String.ofList <|
    match name.toList with
    | '_' :: '_' :: rest => percentUnescape ('_' :: rest)
    | '_' :: rest =>
      match splitOnce '_' rest with
      | some (pre, localPart) =>
        if pre.isEmpty then percentUnescape ('_' :: rest)
        else percentUnescape pre ++ ':' :: percentUnescape localPart
      | none => percentUnescape ('_' :: rest)
    | cs => percentUnescape cs

/-- The file names of the non-empty segments of a path. -/
def toPlatformPath (path : String) : List String :=
  (Path.segments path).map toPlatformName

end ContentSync.Name
