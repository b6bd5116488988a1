import ContentSync.Text.WordChar
import ContentSync.Text.DecimalDigit
import ContentSync.Text.WhiteSpace
import ContentSync.Text.CaseFolding

/-!
# Regular expressions

What a pattern means once its text is read: a `Pattern` tree of characters from sets,
concatenation, alternation, bounded or unbounded repetition, and assertions about the
position between two characters.

A `CharSet` is built from ranges and tables of code points with the set operations. Ignoring
case is a set of its own kind, `folded`: with Unicode on, a character is in it when a member
of its simple case folding orbit is in the inner set; with Unicode off, when the character or
its other ASCII case is.

An `Assertion` looks at the characters before and after a position: the ends of the text, the
ends of a line (a line feed ends a line, and in CRLF mode a carriage return too, except that
the position between `\r` and `\n` is neither), and the kinds of word boundary, with word
characters in the Unicode or the ASCII sense.

Main definitions: `CharSet`, `Assertion`, `Pattern`.
-/

namespace ContentSync.Regex

/-- A set of characters. -/
inductive CharSet where
  /-- The characters from `lo` to `hi`, by code point. -/
  | range (lo hi : Nat)
  /-- The characters in a table of code point ranges. -/
  | table (ranges : Text.CodeRanges)
  /-- The characters of any of the parts. -/
  | union (parts : List CharSet)
  /-- The characters not in the set. -/
  | complement (s : CharSet)
  /-- The characters of both sets. -/
  | inter (a b : CharSet)
  /-- The characters of `a` not in `b`. -/
  | diff (a b : CharSet)
  /-- The characters of exactly one of the sets. -/
  | symDiff (a b : CharSet)
  /-- The characters equal up to case to one in the set: by simple case folding with Unicode
  on, by ASCII case with it off. -/
  | folded (unicode : Bool) (s : CharSet)
deriving Inhabited

/-- The ASCII lower-case form of a character. -/
def lowerAscii (c : Char) : Char :=
  if 'A' ≤ c ∧ c ≤ 'Z' then Char.ofNat (c.toNat + 32) else c

/-- The ASCII upper-case form of a character. -/
def upperAscii (c : Char) : Char :=
  if 'a' ≤ c ∧ c ≤ 'z' then Char.ofNat (c.toNat - 32) else c

mutual
/-- Whether a character is in a set. -/
def CharSet.contains : CharSet → Char → Bool
  | .range lo hi, c => lo ≤ c.toNat && c.toNat ≤ hi
  | .table t, c => t.containsChar c
  | .union parts, c => CharSet.anyContains parts c
  | .complement s, c => !s.contains c
  | .inter a b, c => a.contains c && b.contains c
  | .diff a b, c => a.contains c && !b.contains c
  | .symDiff a b, c => a.contains c != b.contains c
  | .folded true s, c => (Text.caseOrbit c).any fun d => s.contains d
  | .folded false s, c => s.contains c || s.contains (lowerAscii c) || s.contains (upperAscii c)

/-- Whether a character is in one of the sets. -/
def CharSet.anyContains : List CharSet → Char → Bool
  | [], _ => false
  | s :: rest, c => s.contains c || CharSet.anyContains rest c
end

/-- The set of one character. -/
def CharSet.single (c : Char) : CharSet :=
  .range c.toNat c.toNat

/-- The set of the characters from `a` to `b`. -/
def CharSet.between (a b : Char) : CharSet :=
  .range a.toNat b.toNat

/-- Every character. -/
def CharSet.any : CharSet :=
  .complement (.union [])

/-- The ASCII word characters: letters, digits and `_`. -/
def asciiWord : CharSet :=
  .union [.between '0' '9', .between 'A' 'Z', .between '_' '_', .between 'a' 'z']

/-- The ASCII digits. -/
def asciiDigit : CharSet :=
  .between '0' '9'

/-- The ASCII white space: tab, line feed, vertical tab, form feed, carriage return, space. -/
def asciiSpace : CharSet :=
  .union [.range 9 13, .between ' ' ' ']

/-- Whether a character is a word character, in the Unicode sense or the ASCII one. -/
def isWordChar (unicode : Bool) (c : Char) : Bool :=
  if unicode then Text.isWordChar c else asciiWord.contains c

/-- The kinds of word boundary a position may be asked to be. -/
inductive WordLook where
  /-- A word character on exactly one side. -/
  | boundary
  /-- Word characters on both sides or on neither. -/
  | notBoundary
  /-- No word character before, one after. -/
  | start
  /-- A word character before, none after. -/
  | finish
  /-- No word character before. -/
  | startHalf
  /-- No word character after. -/
  | finishHalf
deriving DecidableEq, Repr

/-- A condition on the position between two characters. -/
inductive Assertion where
  /-- The start of the text. -/
  | textStart
  /-- The end of the text. -/
  | textEnd
  /-- The start of a line, with carriage returns ending lines in CRLF mode. -/
  | lineStart (crlf : Bool)
  /-- The end of a line, with carriage returns ending lines in CRLF mode. -/
  | lineEnd (crlf : Bool)
  /-- A word boundary of a kind, with Unicode or ASCII word characters. -/
  | word (look : WordLook) (unicode : Bool)
deriving DecidableEq, Repr

/-- Whether a word character stands on one side of a position. -/
def wordAt (unicode : Bool) : Option Char → Bool
  | some c => isWordChar unicode c
  | none => false

/-- Whether a word boundary of kind `look` holds when `before` and `after` tell whether word
characters stand on the two sides. -/
def WordLook.holds (look : WordLook) (before after : Bool) : Bool :=
  match look with
  | .boundary => before != after
  | .notBoundary => before == after
  | .start => !before && after
  | .finish => before && !after
  | .startHalf => !before
  | .finishHalf => !after

/-- Whether an assertion holds between the characters `before` and `after` (`none` at the
ends of the text). -/
def Assertion.holds (a : Assertion) (before after : Option Char) : Bool :=
  match a with
  | .textStart => before.isNone
  | .textEnd => after.isNone
  | .lineStart false => before.isNone || before == some '\n'
  | .lineStart true =>
    before.isNone || before == some '\n' || (before == some '\r' && after != some '\n')
  | .lineEnd false => after.isNone || after == some '\n'
  | .lineEnd true =>
    after.isNone || after == some '\r' || (after == some '\n' && before != some '\r')
  | .word look unicode => look.holds (wordAt unicode before) (wordAt unicode after)

/-- A regular expression. -/
inductive Pattern where
  /-- The empty text. -/
  | empty
  /-- One character of a set. -/
  | chars (s : CharSet)
  /-- The items one after another. -/
  | concat (items : List Pattern)
  /-- Any one of the branches. -/
  | alternate (branches : List Pattern)
  /-- From `min` to `max` (unbounded if none) repetitions; `greedy` tells whether more
  repetitions are preferred to fewer. -/
  | repetition (p : Pattern) (min : Nat) (max : Option Nat) (greedy : Bool)
  /-- A capturing group: it matches what `p` matches. -/
  | capture (p : Pattern)
  /-- A condition on the position. -/
  | assert (a : Assertion)
deriving Inhabited

end ContentSync.Regex
