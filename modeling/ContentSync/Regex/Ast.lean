/-!
# The syntax of patterns

A pattern text is first read into a syntax tree, `Ast`, that keeps what was written and where:
every node carries the `Span` of characters it was read from. The meaning of the tree (flags
applied, classes resolved) is given by `ContentSync.Regex.Translate`.

Faults of both steps are a `PatternFault`: what is wrong, the span it is about and, for some, a
second span (the first of two duplicate names or flags). `PatternFault.render` shows the pattern
with carets under the spans, as

    regex parse error:
        a(b
         ^
    error: unclosed group

and for a pattern of several lines, numbers the lines between rules of `~`.

Main definitions: `Span`, `Ast`, `FaultKind`, `PatternFault.render`.
-/

namespace ContentSync.Regex

/-- The characters of a pattern from `start` up to, not including, `stop`, counted from 0. -/
structure Span where
  start : Nat
  stop : Nat
deriving DecidableEq, Repr, Inhabited

/-- The flags a group may set or clear. -/
inductive Flag where
  /-- `i`: letters match in either case. -/
  | caseInsensitive
  /-- `m`: `^` and `$` match at the ends of lines. -/
  | multiLine
  /-- `s`: `.` matches a line feed too. -/
  | dotMatchesNewLine
  /-- `U`: repetitions prefer fewer rather than more. -/
  | swapGreed
  /-- `u`: classes and case are those of Unicode. -/
  | unicode
  /-- `R`: a carriage return ends lines as well. -/
  | crlf
  /-- `x`: blanks and `#` comments in the pattern are skipped. -/
  | ignoreWhitespace
deriving DecidableEq, Repr

/-- An item of a flag group: a flag, or the `-` after which flags are cleared. -/
inductive FlagItem where
  | negation
  | flag (f : Flag)
deriving DecidableEq, Repr

/-- The items of a flag group as written, each with its span. -/
abbrev FlagList := List (FlagItem × Span)

/-- What the items of a flag group do to `f` when `negated` tells whether a `-` came before
them: set it, clear it, or leave it (`none`). -/
def flagStateFrom (negated : Bool) (f : Flag) : FlagList → Option Bool
  | [] => none
  | (.negation, _) :: rest => flagStateFrom true f rest
  | (.flag g, _) :: rest => if g = f then some !negated else flagStateFrom negated f rest

/-- What the items of a flag group do to `f`, the flags after a `-` being cleared: set it,
clear it, or leave it (`none`). -/
def flagState (items : FlagList) (f : Flag) : Option Bool :=
  flagStateFrom false f items

/-- A literal character; `hexByte` marks the two-digit form `\xHH`, which with Unicode off
stands for one byte. -/
structure Literal where
  span : Span
  char : Char
  hexByte : Bool
deriving Repr, Inhabited

/-- The assertions a pattern can write. -/
inductive AssertionKind where
  /-- `^` -/
  | startLine
  /-- `$` -/
  | endLine
  /-- `\A` -/
  | startText
  /-- `\z` -/
  | endText
  /-- `\b` -/
  | wordBoundary
  /-- `\B` -/
  | notWordBoundary
  /-- `\b{start}` and `\<` -/
  | wordStart
  /-- `\b{end}` and `\>` -/
  | wordEnd
  /-- `\b{start-half}` -/
  | wordStartHalf
  /-- `\b{end-half}` -/
  | wordEndHalf
deriving DecidableEq, Repr

/-- The classes `\d`, `\s` and `\w`. -/
inductive PerlKind where
  | digit
  | space
  | word
deriving DecidableEq, Repr

/-- What a Unicode class `\p…` asks for: a one-letter name (`\pL`), a name (`\p{Greek}`), or
a property and a value (`\p{sc=Greek}`). -/
inductive UnicodeQuery where
  | oneLetter (c : Char)
  | named (name : String)
  | byValue (name value : String)
deriving Repr

/-- The ASCII classes `[:name:]` of a bracketed class. -/
inductive AsciiKind where
  | alnum
  | alpha
  | ascii
  | blank
  | cntrl
  | digit
  | graph
  | lower
  | print
  | punct
  | space
  | upper
  | word
  | xdigit
deriving DecidableEq, Repr

/-- The ASCII class of a name. -/
def AsciiKind.ofName : String → Option AsciiKind
  | "alnum" => some .alnum
  | "alpha" => some .alpha
  | "ascii" => some .ascii
  | "blank" => some .blank
  | "cntrl" => some .cntrl
  | "digit" => some .digit
  | "graph" => some .graph
  | "lower" => some .lower
  | "print" => some .print
  | "punct" => some .punct
  | "space" => some .space
  | "upper" => some .upper
  | "word" => some .word
  | "xdigit" => some .xdigit
  | _ => none

/-- The operations between class sets: `&&`, `--` and `~~`. -/
inductive SetOp where
  | intersection
  | difference
  | symmetricDifference
deriving DecidableEq, Repr

mutual
/-- An item of a bracketed class. -/
inductive ClassItem where
  /-- Nothing, as between `[` and `&&` in `[&&a]`. -/
  | empty (span : Span)
  | literal (lit : Literal)
  | range (span : Span) (lo hi : Literal)
  | ascii (span : Span) (kind : AsciiKind) (negated : Bool)
  | unicode (span : Span) (negated : Bool) (query : UnicodeQuery)
  | perl (span : Span) (kind : PerlKind) (negated : Bool)
  | bracketed (span : Span) (negated : Bool) (set : ClassSet)
  | union (span : Span) (items : List ClassItem)

/-- The body of a bracketed class: an item, or an operation between two bodies. -/
inductive ClassSet where
  | item (i : ClassItem)
  | op (span : Span) (kind : SetOp) (lhs rhs : ClassSet)
end

/-- The span of a class item. -/
def ClassItem.span : ClassItem → Span
  | .empty s | .range s _ _ | .ascii s _ _ | .unicode s _ _ | .perl s _ _ | .bracketed s _ _
  | .union s _ => s
  | .literal lit => lit.span

/-- The span of a class body. -/
def ClassSet.span : ClassSet → Span
  | .item i => i.span
  | .op s _ _ _ => s

/-- How often a repetition repeats. -/
inductive RepetitionKind where
  /-- `?` -/
  | zeroOrOne
  /-- `*` -/
  | zeroOrMore
  /-- `+` -/
  | oneOrMore
  /-- `{n}` -/
  | exactly (n : Nat)
  /-- `{n,}` -/
  | atLeast (n : Nat)
  /-- `{m,n}` -/
  | bounded (m n : Nat)
deriving DecidableEq, Repr

/-- The kinds of group. -/
inductive GroupKind where
  /-- `(…)` -/
  | capture
  /-- `(?P<name>…)` or `(?<name>…)` -/
  | named (name : String)
  /-- `(?flags:…)` -/
  | nonCapturing (flags : FlagList)
deriving Repr

/-- A syntax tree of a pattern. -/
inductive Ast where
  | empty (span : Span)
  /-- A flag group `(?flags)`, which sets flags up to the end of the group around it. -/
  | flags (span : Span) (items : FlagList)
  | literal (lit : Literal)
  | dot (span : Span)
  | assertion (span : Span) (kind : AssertionKind)
  | unicodeClass (span : Span) (negated : Bool) (query : UnicodeQuery)
  | perlClass (span : Span) (kind : PerlKind) (negated : Bool)
  | bracketed (span : Span) (negated : Bool) (set : ClassSet)
  | repetition (span : Span) (kind : RepetitionKind) (greedy : Bool) (ast : Ast)
  | group (span : Span) (kind : GroupKind) (ast : Ast)
  | alternation (span : Span) (branches : List Ast)
  | concat (span : Span) (items : List Ast)
deriving Inhabited

/-- The span of a syntax tree. -/
def Ast.span : Ast → Span
  | .empty s | .flags s _ | .dot s | .assertion s _ | .unicodeClass s _ _ | .perlClass s _ _
  | .bracketed s _ _ | .repetition s _ _ _ | .group s _ _ | .alternation s _ | .concat s _ => s
  | .literal lit => lit.span

/-- What is wrong with a pattern. -/
inductive FaultKind where
  | classEscapeInvalid
  | classRangeInvalid
  | classRangeLiteral
  | classUnclosed
  | decimalInvalid
  | escapeHexEmpty
  | escapeHexInvalid
  | escapeHexInvalidDigit
  | escapeUnexpectedEof
  | escapeUnrecognized
  | flagDanglingNegation
  | flagDuplicate
  | flagRepeatedNegation
  | flagUnexpectedEof
  | flagUnrecognized
  | groupNameDuplicate
  | groupNameEmpty
  | groupNameInvalid
  | groupNameUnexpectedEof
  | groupUnclosed
  | groupUnopened
  | nestLimitExceeded (limit : Nat)
  | repetitionCountInvalid
  | repetitionCountDecimalEmpty
  | repetitionCountUnclosed
  | repetitionMissing
  | specialWordBoundaryUnclosed
  | specialWordBoundaryUnrecognized
  | specialWordOrRepetitionUnexpectedEof
  | unicodeClassInvalid
  | unsupportedBackreference
  | unsupportedLookAround
  /-- A Unicode class or character where Unicode is off. -/
  | unicodeNotAllowed
  /-- A part that could match a byte sequence that is not UTF-8. -/
  | invalidUtf8
  | unicodePropertyNotFound
  | unicodePropertyValueNotFound
deriving DecidableEq, Repr

/-- The message of a fault. -/
def FaultKind.message : FaultKind → String
  | .classEscapeInvalid => "invalid escape sequence found in character class"
  | .classRangeInvalid => "invalid character class range, the start must be <= the end"
  | .classRangeLiteral => "invalid range boundary, must be a literal"
  | .classUnclosed => "unclosed character class"
  | .decimalInvalid => "decimal literal invalid"
  | .escapeHexEmpty => "hexadecimal literal empty"
  | .escapeHexInvalid => "hexadecimal literal is not a Unicode scalar value"
  | .escapeHexInvalidDigit => "invalid hexadecimal digit"
  | .escapeUnexpectedEof => "incomplete escape sequence, reached end of pattern prematurely"
  | .escapeUnrecognized => "unrecognized escape sequence"
  | .flagDanglingNegation => "dangling flag negation operator"
  | .flagDuplicate => "duplicate flag"
  | .flagRepeatedNegation => "flag negation operator repeated"
  | .flagUnexpectedEof => "expected flag but got end of regex"
  | .flagUnrecognized => "unrecognized flag"
  | .groupNameDuplicate => "duplicate capture group name"
  | .groupNameEmpty => "empty capture group name"
  | .groupNameInvalid => "invalid capture group character"
  | .groupNameUnexpectedEof => "unclosed capture group name"
  | .groupUnclosed => "unclosed group"
  | .groupUnopened => "unopened group"
  | .nestLimitExceeded limit =>
    "exceed the maximum number of nested parentheses/brackets (" ++ toString limit ++ ")"
  | .repetitionCountInvalid => "invalid repetition count range, the start must be <= the end"
  | .repetitionCountDecimalEmpty => "repetition quantifier expects a valid decimal"
  | .repetitionCountUnclosed => "unclosed counted repetition"
  | .repetitionMissing => "repetition operator missing expression"
  | .specialWordBoundaryUnclosed =>
    "special word boundary assertion is either unclosed or contains an invalid character"
  | .specialWordBoundaryUnrecognized =>
    "unrecognized special word boundary assertion, valid choices are: start, end, start-half or end-half"
  | .specialWordOrRepetitionUnexpectedEof =>
    "found either the beginning of a special word boundary or a bounded repetition on a \\b with an opening brace, but no closing brace"
  | .unicodeClassInvalid => "invalid Unicode character class"
  | .unsupportedBackreference => "backreferences are not supported"
  | .unsupportedLookAround => "look-around, including look-ahead and look-behind, is not supported"
  | .unicodeNotAllowed => "Unicode not allowed here"
  | .invalidUtf8 => "pattern can match invalid UTF-8"
  | .unicodePropertyNotFound => "Unicode property not found"
  | .unicodePropertyValueNotFound => "Unicode property value not found"

/-- A fault of a pattern: what is wrong, where, and the span of an earlier part it clashes
with, if any. -/
structure PatternFault where
  kind : FaultKind
  span : Span
  aux : Option Span := none
deriving Repr

/-- The fault of a kind over a span. -/
def fault (kind : FaultKind) (span : Span) : PatternFault :=
  { kind, span }

/-- A place in a pattern: line and column, both counted from 1. -/
structure Place where
  line : Nat
  column : Nat
deriving DecidableEq, Repr

/-- The place of the character at index `i` of `cs`, the characters before it having started
at `place`. -/
def placeAt : List Char → Nat → Place → Place
  | [], _, place => place
  | _, 0, place => place
  | c :: rest, i + 1, place =>
    placeAt rest i (if c = '\n' then ⟨place.line + 1, 1⟩ else ⟨place.line, place.column + 1⟩)

/-- The lines of a text, split at line feeds with a carriage return before a line feed left
out, and with no empty line after a final line feed. -/
def textLines (text : String) : List String :=
  let pieces := text.splitOn "\n"
  let pieces := if text.endsWith "\n" then pieces.dropLast else pieces
  let lines := pieces.zipIdx.map fun (piece, k) =>
    if k + 1 < pieces.length || text.endsWith "\n" then
      if piece.endsWith "\r" then String.ofList piece.toList.dropLast else piece
    else piece
  if text.isEmpty then [] else lines

/-- The caret line under one line of the pattern for the spans on it, given by their columns
and sorted, after `indent` blanks. -/
def caretLine (indent : Nat) (spans : List (Place × Place)) : String :=
  let step (acc : List Char × Nat) (span : Place × Place) : List Char × Nat :=
    let (cs, pos) := acc
    let blanks := span.1.column - 1 - pos
    let carets := max 1 (span.2.column - span.1.column)
    (cs ++ List.replicate blanks ' ' ++ List.replicate carets '^', pos + blanks + carets)
  String.ofList (List.replicate indent ' ' ++ (spans.foldl step ([], 0)).1)

/-- The number `n` padded on the left to `width` characters. -/
def padNumber (width n : Nat) : String :=
  let digits := toString n
  String.ofList (List.replicate (width - digits.length) ' ') ++ digits

/-- The fault shown under its pattern: `regex parse error:`, the pattern with carets under the
spans, and the message. A pattern of several lines gets numbered lines between rules of `~`,
and a note for each span that runs over more than one line. -/
def PatternFault.render (pattern : String) (f : PatternFault) : String :=
  let cs := pattern.toList
  let placed := (f.span :: f.aux.toList).map fun s =>
    (s.start, s.stop, placeAt cs s.start ⟨1, 1⟩, placeAt cs s.stop ⟨1, 1⟩)
  let sorted := placed.mergeSort fun a b => a.1 < b.1 || (a.1 = b.1 && a.2.1 ≤ b.2.1)
  let oneLine := sorted.filter fun (_, _, p, q) => p.line = q.line
  let multiLine := sorted.filter fun (_, _, p, q) => p.line ≠ q.line
  let lines := textLines pattern
  let lineCount := lines.length + (if pattern.endsWith "\n" then 1 else 0)
  let width := if lineCount ≤ 1 then 0 else (toString lineCount).length
  let indent := if width = 0 then 4 else width + 2
  let notated := lines.zipIdx.foldl (fun acc (line, k) =>
    let head := if width = 0 then "    " else padNumber width (k + 1) ++ ": "
    let spans := (oneLine.filter fun (_, _, p, _) => p.line = k + 1).map fun (_, _, p, q) => (p, q)
    let notes := if spans.isEmpty then "" else caretLine indent spans ++ "\n"
    acc ++ head ++ line ++ "\n" ++ notes) ""
  if pattern.contains '\n' then
    let rule := String.ofList (List.replicate 79 '~')
    let spanNotes := multiLine.map fun (_, _, p, q) =>
      "on line " ++ toString p.line ++ " (column " ++ toString p.column ++ ") through line " ++
        toString q.line ++ " (column " ++ toString (q.column - 1) ++ ")"
    let notes := if spanNotes.isEmpty then "" else "\n".intercalate spanNotes ++ "\n"
    "regex parse error:\n" ++ rule ++ "\n" ++ notated ++ rule ++ "\n" ++ notes ++
      "error: " ++ f.kind.message
  else
    "regex parse error:\n" ++ notated ++ "error: " ++ f.kind.message

end ContentSync.Regex
