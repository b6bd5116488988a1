import ContentSync.Regex.Ast
import ContentSync.Text.Alphabetic
import ContentSync.Text.Numeric
import ContentSync.Text.WhiteSpace

/-!
# Reading patterns

Reads a pattern text into its syntax tree, left to right, with explicit stacks of the groups
and the bracketed classes still open. The first fault met stops reading.

* Groups: `(…)`, `(?P<name>…)` and `(?<name>…)` (a name starts with a letter or `_` and goes
  on with letters, digits, `_`, `.`, `[` and `]`; names are unique), `(?flags:…)`, and the flag
  group `(?flags)`, whose flags last to the end of the group around it. Look-around is refused.
* Flags: `i`, `m`, `s`, `U`, `u`, `R`, `x`, each at most once, and at most one `-`, which must
  be followed by a flag.
* Repetitions: `?`, `*`, `+` and `{n}`, `{n,}`, `{m,n}`, each made lazy by a `?` after it. A
  repetition needs something before it that is not a flag group.
* Escapes: the meta characters and the other ASCII characters that are neither letters nor
  digits nor `<` and `>` stand for themselves; `\a \f \t \n \r \v`; `\xHH`, `\uHHHH`,
  `\UHHHHHHHH` and `\x{…}`; the classes `\d \s \w` and their negations `\D \S \W`; Unicode
  classes `\pL`, `\p{…}` and `\P…`; the assertions `\A \z \b \B \< \>` and `\b{start}`,
  `\b{end}`, `\b{start-half}`, `\b{end-half}`. Digits after `\` are backreferences, which are
  refused.
* Bracketed classes: `[…]` and `[^…]`, where leading `-` and a first `]` are literal, with
  ranges `a-z`, nested classes, ASCII classes `[:alpha:]` and `[:^alpha:]`, and the operations
  `&&`, `--` and `~~`, taken from left to right.

With the flag `x`, blanks and comments from `#` to the end of the line are skipped between
the parts of a pattern and inside most of them.

Main definitions: `parseAst`.
-/

namespace ContentSync.Regex

/-- The state of reading: the characters of the pattern, the position, whether blanks are
skipped, and the capture names read so far with their spans. -/
structure Reader where
  src : Array Char
  pos : Nat
  ignoreWhitespace : Bool
  names : List (String × Span)

/-- Reading steps, which may stop at a fault. -/
abbrev ReadM := StateT Reader (Except PatternFault)

/-- The character at the position, if any. -/
def current : ReadM (Option Char) := do
  let r ← get
  return r.src[r.pos]?

/-- The position. -/
def position : ReadM Nat := do
  return (← get).pos

/-- Moves to the position `p`. -/
def moveTo (p : Nat) : ReadM Unit :=
  modify fun r => { r with pos := p }

/-- Whether the whole pattern has been read. -/
def atEnd : ReadM Bool := do
  let r ← get
  return r.src.size ≤ r.pos

/-- The empty span at the position. -/
def hereSpan : ReadM Span := do
  let p ← position
  return ⟨p, p⟩

/-- The span of the character at the position. -/
def charSpan : ReadM Span := do
  let p ← position
  return ⟨p, p + 1⟩

/-- The span from `start` to the position. -/
def spanFrom (start : Nat) : ReadM Span := do
  return ⟨start, ← position⟩

/-- Steps over one character; whether a character follows. -/
def bump : ReadM Bool := do
  let r ← get
  if r.src.size ≤ r.pos then return false
  set { r with pos := r.pos + 1 }
  return r.pos + 1 < r.src.size

/-- Steps over `word` if it comes next; whether it did. -/
def bumpIf (word : String) : ReadM Bool := do
  let r ← get
  let cs := word.toList
  if cs.zipIdx.all fun (c, k) => r.src[r.pos + k]? = some c then
    set { r with pos := r.pos + cs.length }
    return true
  else return false

/-- Steps over a comment, up to and with the next line feed. -/
def skipComment : Nat → ReadM Unit
  | 0 => pure ()
  | fuel + 1 => do
    match ← current with
    | none => pure ()
    | some c =>
      let _ ← bump
      if c = '\n' then pure () else skipComment fuel

/-- Steps over blanks and comments. -/
def skipSpace : Nat → ReadM Unit
  | 0 => pure ()
  | fuel + 1 => do
    match ← current with
    | none => pure ()
    | some c =>
      if Text.isWhiteSpace c then
        let _ ← bump
        skipSpace fuel
      else if c = '#' then
        let _ ← bump
        skipComment fuel
        skipSpace fuel
      else pure ()

/-- Steps over blanks and comments when they are skipped. -/
def bumpSpace : ReadM Unit := do
  let r ← get
  if r.ignoreWhitespace then skipSpace r.src.size

/-- Steps over one character and then over blanks; whether a character follows. -/
def bumpAndBumpSpace : ReadM Bool := do
  if !(← bump) then return false
  bumpSpace
  return !(← atEnd)

/-- The character after the one at the position. -/
def peek : ReadM (Option Char) := do
  let r ← get
  if r.src.size ≤ r.pos then return none
  return r.src[r.pos + 1]?

/-- The first character of `cs` that is not blank, a first `#` being passed over too. -/
def firstUnskipped : List Char → Bool → Option Char
  | [], _ => none
  | c :: rest, inComment =>
    if Text.isWhiteSpace c then firstUnskipped rest inComment
    else if !inComment && c = '#' then firstUnskipped rest true
    else some c

/-- The character after the one at the position, past blanks when they are skipped. When only
blanks follow, the character right after. -/
def peekSpace : ReadM (Option Char) := do
  let r ← get
  if !r.ignoreWhitespace then return (← peek)
  if r.src.size ≤ r.pos then return none
  match firstUnskipped (r.src.toList.drop (r.pos + 1)) false with
  | some c => return some c
  | none => return r.src[r.pos + 1]?

/-- A concatenation being read: where it starts, and its items, last first. -/
structure Concat where
  start : Nat
  items : List Ast

/-- The tree of a concatenation that ends at `stop`: empty, its one item, or the items. -/
def Concat.toAst (c : Concat) (stop : Nat) : Ast :=
  match c.items with
  | [] => .empty ⟨c.start, stop⟩
  | [a] => a
  | items => .concat ⟨c.start, stop⟩ items.reverse

/-- Adds an item to a concatenation. -/
def Concat.push (c : Concat) (a : Ast) : Concat :=
  { c with items := a :: c.items }

/-- What is open around the position. -/
inductive GroupState where
  /-- A group: the concatenation before it, its kind, the span of its `(`, and whether
  blanks were skipped before it. -/
  | group (outer : Concat) (kind : GroupKind) (openSpan : Span) (ignoreWhitespace : Bool)
  /-- An alternation: where it starts, and its branches so far, last first. -/
  | alternation (start : Nat) (branches : List Ast)

/-- The parts a pattern is built from. -/
inductive Primitive where
  | literal (lit : Literal)
  | assertion (span : Span) (kind : AssertionKind)
  | dot (span : Span)
  | perl (span : Span) (kind : PerlKind) (negated : Bool)
  | unicode (span : Span) (negated : Bool) (query : UnicodeQuery)

/-- The span of a part. -/
def Primitive.span : Primitive → Span
  | .literal lit => lit.span
  | .assertion s _ | .dot s | .perl s _ _ | .unicode s _ _ => s

/-- The tree of a part. -/
def Primitive.toAst : Primitive → Ast
  | .literal lit => .literal lit
  | .assertion s k => .assertion s k
  | .dot s => .dot s
  | .perl s k n => .perlClass s k n
  | .unicode s n q => .unicodeClass s n q

/-- A part as a class item; assertions are no class items. -/
def Primitive.toClassItem : Primitive → Except PatternFault ClassItem
  | .literal lit => .ok (.literal lit)
  | .perl s k n => .ok (.perl s k n)
  | .unicode s n q => .ok (.unicode s n q)
  | p => .error (fault .classEscapeInvalid p.span)

/-- A part as the end of a class range, which must be a literal. -/
def Primitive.toLiteral : Primitive → Except PatternFault Literal
  | .literal lit => .ok lit
  | p => .error (fault .classRangeLiteral p.span)

/-- Whether a character is a meta character, which an escape makes literal. -/
def isMetaCharacter (c : Char) : Bool :=
  "\\.+*?()|[]\x7b\x7d^$#&-~".toList.contains c

/-- Whether an escape of the character stands for the character itself: the meta characters,
and the ASCII characters other than letters, digits, `<` and `>`. -/
def isEscapeable (c : Char) : Bool :=
  isMetaCharacter c || (c.toNat < 128 && !c.isAlphanum && c ≠ '<' && c ≠ '>')

/-- Whether a character may stand in a capture name, as its first character or later. -/
def isCaptureChar (c : Char) (first : Bool) : Bool :=
  if first then c = '_' || Text.isAlphabetic c
  else c = '_' || c = '.' || c = '[' || c = ']' || Text.isAlphabetic c || Text.isNumeric c

/-- The value of hexadecimal digits. -/
def hexValue (ds : List Char) : Nat :=
  ds.foldl (fun acc d =>
    acc * 16 + (if d.isDigit then d.toNat - 48 else (d.toLower.toNat - 87))) 0

/-- The value of decimal digits. -/
def decimalValue (ds : List Char) : Nat :=
  ds.foldl (fun acc d => acc * 10 + (d.toNat - 48)) 0

/-- The position of the first occurrence of `word` in `cs`. -/
def findWord (word : List Char) : List Char → Nat → Option Nat
  | [], _ => none
  | c :: rest, i => if (c :: rest).take word.length = word then some i else findWord word rest (i + 1)

/-- The query of the text between the braces of `\p{…}`: a property and a value split at the
first `!=` (which negates), else at the first `:`, else at the first `=`; or a name. -/
def unicodeQueryOf (text : List Char) : Bool × UnicodeQuery :=
  let part (i j : Nat) : String := String.ofList ((text.drop i).take (j - i))
  let n := text.length
  match findWord ['!', '='] text 0 with
  | some i => (true, .byValue (part 0 i) (part (i + 2) n))
  | none =>
    match findWord [':'] text 0 with
    | some i => (false, .byValue (part 0 i) (part (i + 1) n))
    | none =>
      match findWord ['='] text 0 with
      | some i => (false, .byValue (part 0 i) (part (i + 1) n))
      | none => (false, .named (String.ofList text))

/-- Reads the characters of a capture name up to `>`, the name having started at `start`. -/
def captureNameLoop (start : Nat) : Nat → ReadM Unit
  | 0 => pure ()
  | fuel + 1 => do
    match ← current with
    | none => pure ()
    | some c =>
      if c = '>' then return
      if !isCaptureChar c ((← position) = start) then throw (fault .groupNameInvalid (← charSpan))
      if ← bump then captureNameLoop start fuel

/-- Reads a capture name and its `>`, after `(?P<` or `(?<`. -/
def readCaptureName : ReadM String := do
  if ← atEnd then throw (fault .groupNameUnexpectedEof (← hereSpan))
  let start ← position
  captureNameLoop start (← get).src.size
  let stop ← position
  if ← atEnd then throw (fault .groupNameUnexpectedEof (← hereSpan))
  let _ ← bump
  let name := String.ofList (((← get).src.toList.drop start).take (stop - start))
  if name.isEmpty then throw (fault .groupNameEmpty ⟨start, start⟩)
  let span : Span := ⟨start, stop⟩
  match (← get).names.find? (·.1 = name) with
  | some (_, original) => throw { kind := .groupNameDuplicate, span, aux := some original }
  | none => modify fun r => { r with names := (name, span) :: r.names }
  return name

/-- The flag a character names. -/
def flagOf : Char → Option Flag
  | 'i' => some .caseInsensitive
  | 'm' => some .multiLine
  | 's' => some .dotMatchesNewLine
  | 'U' => some .swapGreed
  | 'u' => some .unicode
  | 'R' => some .crlf
  | 'x' => some .ignoreWhitespace
  | _ => none

/-- Reads flag items up to `:` or `)`; `lastNegation` is the span of the item before if it was
a `-`. -/
def flagsLoop : Nat → FlagList → Option Span → ReadM (FlagList × Option Span)
  | 0, items, lastNegation => pure (items, lastNegation)
  | fuel + 1, items, lastNegation => do
    match ← current with
    | none => pure (items, lastNegation)
    | some c =>
      if c = ':' || c = ')' then return (items, lastNegation)
      let span ← charSpan
      let item ← match c, flagOf c with
        | '-', _ => pure FlagItem.negation
        | _, some f => pure (FlagItem.flag f)
        | _, none => throw (fault .flagUnrecognized span)
      match items.find? (·.1 = item) with
      | some (_, original) =>
        let kind := if item = .negation then FaultKind.flagRepeatedNegation else .flagDuplicate
        throw { kind, span, aux := some original }
      | none => pure ()
      if !(← bump) then throw (fault .flagUnexpectedEof (← hereSpan))
      flagsLoop fuel (items ++ [(item, span)]) (if c = '-' then some span else none)

/-- Reads the flags of a group, up to its `:` or `)`. -/
def readFlags : ReadM FlagList := do
  let (items, lastNegation) ← flagsLoop (← get).src.size [] none
  match lastNegation with
  | some span => throw (fault .flagDanglingNegation span)
  | none => return items

/-- Steps over a look-around opening after `(`, if one comes next; whether one did. -/
def lookAroundOpening : ReadM Bool := do
  if ← bumpIf "?=" then return true
  if ← bumpIf "?!" then return true
  if ← bumpIf "?<=" then return true
  bumpIf "?<!"

/-- Reads the opening of a group at `(`: a flag group with its span and flags, or the kind of
a group and the span of its `(`. -/
def readGroupOpening : ReadM ((Span × FlagList) ⊕ (GroupKind × Span)) := do
  let openSpan ← charSpan
  let _ ← bump
  bumpSpace
  if ← lookAroundOpening then throw (fault .unsupportedLookAround (← spanFrom openSpan.start))
  let innerSpan ← hereSpan
  let named ← do
    if ← bumpIf "?P<" then pure true else bumpIf "?<"
  if named then
    let name ← readCaptureName
    return .inr (.named name, openSpan)
  if ← bumpIf "?" then
    if ← atEnd then throw (fault .groupUnclosed openSpan)
    let flags ← readFlags
    let closing ← current
    let _ ← bump
    if closing = some ')' then
      if flags.isEmpty then throw (fault .repetitionMissing innerSpan)
      return .inl (← spanFrom openSpan.start, flags)
    return .inr (.nonCapturing flags, openSpan)
  return .inr (.capture, openSpan)

/-- Reads a group opening at `(`: a flag group joins the concatenation, any other group is
pushed on the stack. -/
def pushGroup (stack : List GroupState) (concat : Concat) : ReadM (List GroupState × Concat) := do
  match ← readGroupOpening with
  | .inl (span, items) =>
    if let some v := flagState items .ignoreWhitespace then
      modify fun r => { r with ignoreWhitespace := v }
    return (stack, concat.push (.flags span items))
  | .inr (kind, openSpan) =>
    let old := (← get).ignoreWhitespace
    let new := match kind with
      | .nonCapturing items => (flagState items .ignoreWhitespace).getD old
      | _ => old
    modify fun r => { r with ignoreWhitespace := new }
    return (.group concat kind openSpan old :: stack, ⟨← position, []⟩)

/-- Closes the group open at `)`. -/
def popGroup (stack : List GroupState) (inner : Concat) : ReadM (List GroupState × Concat) := do
  let (outer, kind, openSpan, old, alternation, rest) ← match stack with
    | .group outer kind openSpan old :: rest => pure (outer, kind, openSpan, old, none, rest)
    | .alternation start branches :: .group outer kind openSpan old :: rest =>
      pure (outer, kind, openSpan, old, some (start, branches), rest)
    | _ => throw (fault .groupUnopened (← charSpan))
  modify fun r => { r with ignoreWhitespace := old }
  let innerEnd ← position
  let _ ← bump
  let body := match alternation with
    | some (start, branches) =>
      Ast.alternation ⟨start, innerEnd⟩ (branches.reverse ++ [inner.toAst innerEnd])
    | none => inner.toAst innerEnd
  return (rest, outer.push (.group (← spanFrom openSpan.start) kind body))

/-- Ends a branch at `|`. -/
def pushAlternate (stack : List GroupState) (concat : Concat) :
    ReadM (List GroupState × Concat) := do
  let branch := concat.toAst (← position)
  let stack := match stack with
    | .alternation start branches :: rest => .alternation start (branch :: branches) :: rest
    | _ => .alternation concat.start [branch] :: stack
  let _ ← bump
  return (stack, ⟨← position, []⟩)

/-- The tree of the whole pattern at its end; a group still open is a fault. -/
def popGroupEnd (stack : List GroupState) (concat : Concat) : ReadM Ast := do
  let stop ← position
  match stack with
  | [] => return concat.toAst stop
  | [.alternation start branches] =>
    return .alternation ⟨start, stop⟩ (branches.reverse ++ [concat.toAst stop])
  | .alternation _ _ :: .group _ _ openSpan _ :: _ => throw (fault .groupUnclosed openSpan)
  | .group _ _ openSpan _ :: _ => throw (fault .groupUnclosed openSpan)
  | .alternation start branches :: _ =>
    return .alternation ⟨start, stop⟩ (branches.reverse ++ [concat.toAst stop])

/-- Reads the fixed number `count` of hex digits, the first `done` of them read already into
`acc` (last first). -/
def hexDigitsLoop (count : Nat) : Nat → Nat → List Char → ReadM (List Char)
  | 0, _, acc => pure acc.reverse
  | fuel + 1, done, acc => do
    if count ≤ done then return acc.reverse
    if 0 < done then
      if !(← bumpAndBumpSpace) then throw (fault .escapeUnexpectedEof (← hereSpan))
    match ← current with
    | some d =>
      if d.isHexDigit then hexDigitsLoop count fuel (done + 1) (d :: acc)
      else throw (fault .escapeHexInvalidDigit (← charSpan))
    | none => throw (fault .escapeUnexpectedEof (← hereSpan))

/-- Reads `count` hex digits of `\x`, `\u` or `\U` without braces. -/
def readHexDigits (count : Nat) (hexByte : Bool) : ReadM Literal := do
  let start ← position
  let ds ← hexDigitsLoop count (count + 1) 0 []
  let _ ← bumpAndBumpSpace
  let span ← spanFrom start
  let value := hexValue ds
  if value.isValidChar then return ⟨span, Char.ofNat value, hexByte⟩
  else throw (fault .escapeHexInvalid span)

/-- Reads hex digits up to `}`. -/
def hexBraceLoop : Nat → List Char → ReadM (List Char)
  | 0, acc => pure acc.reverse
  | fuel + 1, acc => do
    if !(← bumpAndBumpSpace) then return acc.reverse
    match ← current with
    | some d =>
      if d = '\x7d' then return acc.reverse
      if d.isHexDigit then hexBraceLoop fuel (d :: acc)
      else throw (fault .escapeHexInvalidDigit (← charSpan))
    | none => return acc.reverse

/-- Reads hex digits in braces, at the `{`. -/
def readHexBrace : ReadM Literal := do
  let bracePos ← position
  let start := bracePos + 1
  let ds ← hexBraceLoop (← get).src.size []
  if ← atEnd then throw (fault .escapeUnexpectedEof (← spanFrom bracePos))
  let stop ← position
  let _ ← bumpAndBumpSpace
  if ds.isEmpty then throw (fault .escapeHexEmpty (← spanFrom bracePos))
  let value := hexValue ds
  if value.isValidChar then return ⟨← spanFrom start, Char.ofNat value, false⟩
  else throw (fault .escapeHexInvalid ⟨start, stop⟩)

/-- Reads a hex escape at its letter `x`, `u` or `U`. -/
def readHex (letter : Char) : ReadM Literal := do
  let count := if letter = 'x' then 2 else if letter = 'u' then 4 else 8
  if !(← bumpAndBumpSpace) then throw (fault .escapeUnexpectedEof (← hereSpan))
  if (← current) = some '\x7b' then readHexBrace else readHexDigits count (letter = 'x')

/-- Reads the characters of `\p{…}` up to `}`. -/
def unicodeNameLoop : Nat → List Char → ReadM (List Char)
  | 0, acc => pure acc.reverse
  | fuel + 1, acc => do
    if !(← bumpAndBumpSpace) then return acc.reverse
    match ← current with
    | some c => if c = '\x7d' then return acc.reverse else unicodeNameLoop fuel (c :: acc)
    | none => return acc.reverse

/-- Reads a Unicode class at its letter `p` or `P`: its span (from after the letter), whether
it is negated, and its query. -/
def readUnicodeClass : ReadM (Span × Bool × UnicodeQuery) := do
  let negated := (← current) = some 'P'
  if !(← bumpAndBumpSpace) then throw (fault .escapeUnexpectedEof (← hereSpan))
  if (← current) = some '\x7b' then
    let start := (← position) + 1
    let text ← unicodeNameLoop (← get).src.size []
    if ← atEnd then throw (fault .escapeUnexpectedEof (← hereSpan))
    let _ ← bump
    let (notEqual, query) := unicodeQueryOf text
    return (← spanFrom start, negated != notEqual, query)
  let start ← position
  match ← current with
  | some c =>
    if c = '\\' then throw (fault .unicodeClassInvalid (← charSpan))
    let _ ← bumpAndBumpSpace
    return (← spanFrom start, negated, .oneLetter c)
  | none => throw (fault .escapeUnexpectedEof (← hereSpan))

/-- Reads the letters of a special word boundary up to `}`. -/
def boundaryWordLoop : Nat → List Char → ReadM (List Char)
  | 0, acc => pure acc.reverse
  | fuel + 1, acc => do
    match ← current with
    | some c =>
      if c.isAlpha || c = '-' then
        let _ ← bumpAndBumpSpace
        boundaryWordLoop fuel (c :: acc)
      else return acc.reverse
    | none => return acc.reverse

/-- Reads `{start}`, `{end}`, `{start-half}` or `{end-half}` after `\b` (which starts at
`escapeStart`); `none`, back at the `{`, when the brace does not start a word. -/
def readSpecialWordBoundary (escapeStart : Nat) : ReadM (Option AssertionKind) := do
  let start ← position
  if !(← bumpAndBumpSpace) then
    throw (fault .specialWordOrRepetitionUnexpectedEof (← spanFrom escapeStart))
  let contentStart ← position
  match ← current with
  | some c =>
    if !(c.isAlpha || c = '-') then
      moveTo start
      return none
  | none => pure ()
  let word ← boundaryWordLoop (← get).src.size []
  if (← atEnd) || (← current) ≠ some '\x7d' then
    throw (fault .specialWordBoundaryUnclosed (← spanFrom start))
  let stop ← position
  let _ ← bump
  match String.ofList word with
  | "start" => return some .wordStart
  | "end" => return some .wordEnd
  | "start-half" => return some .wordStartHalf
  | "end-half" => return some .wordEndHalf
  | _ => throw (fault .specialWordBoundaryUnrecognized ⟨contentStart, stop⟩)

/-- Reads an escape at its `\`. -/
def readEscape : ReadM Primitive := do
  let start ← position
  if !(← bump) then throw (fault .escapeUnexpectedEof (← spanFrom start))
  let c := (← current).getD ' '
  if c.isDigit then throw (fault .unsupportedBackreference ⟨start, (← position) + 1⟩)
  if c = 'x' || c = 'u' || c = 'U' then
    let lit ← readHex c
    return .literal { lit with span := ⟨start, lit.span.stop⟩ }
  if c = 'p' || c = 'P' then
    let (span, negated, query) ← readUnicodeClass
    return .unicode ⟨start, span.stop⟩ negated query
  if "dswDSW".toList.contains c then
    let _ ← bump
    let kind := if c = 'd' || c = 'D' then PerlKind.digit
      else if c = 's' || c = 'S' then .space else .word
    return .perl (← spanFrom start) kind c.isUpper
  let _ ← bump
  let span ← spanFrom start
  if isEscapeable c then return .literal ⟨span, c, false⟩
  match c with
  | 'a' => return .literal ⟨span, '\x07', false⟩
  | 'f' => return .literal ⟨span, '\x0C', false⟩
  | 't' => return .literal ⟨span, '\t', false⟩
  | 'n' => return .literal ⟨span, '\n', false⟩
  | 'r' => return .literal ⟨span, '\r', false⟩
  | 'v' => return .literal ⟨span, '\x0B', false⟩
  | 'A' => return .assertion span .startText
  | 'z' => return .assertion span .endText
  | 'b' =>
    if (← current) = some '\x7b' then
      match ← readSpecialWordBoundary start with
      | some kind => return .assertion (← spanFrom start) kind
      | none => pure ()
    return .assertion span .wordBoundary
  | 'B' => return .assertion span .notWordBoundary
  | '<' => return .assertion span .wordStart
  | '>' => return .assertion span .wordEnd
  | _ => throw (fault .escapeUnrecognized span)

/-- Reads a part of a pattern outside classes. -/
def readPrimitive : ReadM Primitive := do
  let span ← charSpan
  match ← current with
  | some '\\' => readEscape
  | some '.' =>
    let _ ← bump
    return .dot span
  | some '^' =>
    let _ ← bump
    return .assertion span .startLine
  | some '$' =>
    let _ ← bump
    return .assertion span .endLine
  | some c =>
    let _ ← bump
    return .literal ⟨span, c, false⟩
  | none => throw (fault .escapeUnexpectedEof span)

/-- The last item of a concatenation, to be repeated, and the items before it; a flag group or
nothing is a fault. -/
def repeatedItem (concat : Concat) : ReadM (Ast × List Ast) := do
  match concat.items with
  | [] => throw (fault .repetitionMissing (← hereSpan))
  | .empty _ :: _ | .flags _ _ :: _ => throw (fault .repetitionMissing (← hereSpan))
  | ast :: rest => return (ast, rest)

/-- Reads `?`, `*` or `+` and repeats the item before it. -/
def repeatUncounted (concat : Concat) (kind : RepetitionKind) : ReadM Concat := do
  let (ast, rest) ← repeatedItem concat
  let lazy ← do
    if ← bump then
      if (← current) = some '?' then
        let _ ← bump
        pure true
      else pure false
    else pure false
  let span ← spanFrom ast.span.start
  return { concat with items := .repetition span kind (!lazy) ast :: rest }

/-- Steps over white space, blanks skipped or not. -/
def skipWhite : Nat → ReadM Unit
  | 0 => pure ()
  | fuel + 1 => do
    match ← current with
    | some c =>
      if Text.isWhiteSpace c then
        let _ ← bump
        skipWhite fuel
    | none => pure ()

/-- Steps over white space after a count. -/
def skipWhiteAfter : Nat → ReadM Unit
  | 0 => pure ()
  | fuel + 1 => do
    match ← current with
    | some c =>
      if Text.isWhiteSpace c then
        let _ ← bumpAndBumpSpace
        skipWhiteAfter fuel
    | none => pure ()

/-- Reads decimal digits. -/
def digitsLoop : Nat → List Char → ReadM (List Char)
  | 0, acc => pure acc.reverse
  | fuel + 1, acc => do
    match ← current with
    | some c =>
      if c.isDigit then
        let _ ← bumpAndBumpSpace
        digitsLoop fuel (c :: acc)
      else return acc.reverse
    | none => return acc.reverse

/-- Reads a count of a repetition, white space around it skipped. -/
def readDecimal : ReadM Nat := do
  let size := (← get).src.size
  skipWhite size
  let start ← position
  let ds ← digitsLoop size []
  let span ← spanFrom start
  skipWhiteAfter size
  if ds.isEmpty then throw (fault .repetitionCountDecimalEmpty span)
  let n := decimalValue ds
  if Nat.pow 2 32 ≤ n then throw (fault .decimalInvalid span)
  return n

/-- Reads `{n}`, `{n,}` or `{m,n}` and repeats the item before it. -/
def repeatCounted (concat : Concat) : ReadM Concat := do
  let start ← position
  let (ast, rest) ← repeatedItem concat
  if !(← bumpAndBumpSpace) then throw (fault .repetitionCountUnclosed (← spanFrom start))
  let lo ← readDecimal
  if ← atEnd then throw (fault .repetitionCountUnclosed (← spanFrom start))
  let kind ← do
    if (← current) = some ',' then
      if !(← bumpAndBumpSpace) then throw (fault .repetitionCountUnclosed (← spanFrom start))
      if (← current) ≠ some '\x7d' then
        let hi ← readDecimal
        pure (RepetitionKind.bounded lo hi)
      else pure (RepetitionKind.atLeast lo)
    else pure (RepetitionKind.exactly lo)
  if (← atEnd) || (← current) ≠ some '\x7d' then
    throw (fault .repetitionCountUnclosed (← spanFrom start))
  let lazy ← do
    if ← bumpAndBumpSpace then
      if (← current) = some '?' then
        let _ ← bump
        pure true
      else pure false
    else pure false
  let opSpan ← spanFrom start
  if let .bounded m n := kind then
    if n < m then throw (fault .repetitionCountInvalid opSpan)
  let span ← spanFrom ast.span.start
  return { concat with items := .repetition span kind (!lazy) ast :: rest }

/-- A union of class items being read: its span, and its items, last first. -/
structure ClassUnion where
  span : Span
  items : List ClassItem

/-- Adds an item to a union. -/
def ClassUnion.push (u : ClassUnion) (item : ClassItem) : ClassUnion :=
  { span := ⟨if u.items.isEmpty then item.span.start else u.span.start, item.span.stop⟩,
    items := item :: u.items }

/-- The item of a union: empty, its one item, or the union. -/
def ClassUnion.toItem (u : ClassUnion) : ClassItem :=
  match u.items with
  | [] => .empty u.span
  | [i] => i
  | items => .union u.span items.reverse

/-- What is open in a bracketed class. -/
inductive ClassState where
  /-- A bracketed class: the union around it, the span of its opening, and its negation. -/
  | opened (parent : ClassUnion) (span : Span) (negated : Bool)
  /-- An operation whose left side has been read. -/
  | op (kind : SetOp) (lhs : ClassSet)

/-- The fault of a class left open: about the opening of the innermost open class. -/
def unclosedClass : List ClassState → PatternFault
  | [] => fault .classUnclosed ⟨0, 0⟩
  | .opened _ span _ :: _ => fault .classUnclosed span
  | .op _ _ :: rest => unclosedClass rest

/-- Reads the `-` at the start of a class, each a literal. -/
def dashLoop (start : Nat) : Nat → ClassUnion → ReadM ClassUnion
  | 0, u => pure u
  | fuel + 1, u => do
    if (← current) ≠ some '-' then return u
    let u := u.push (.literal ⟨← charSpan, '-', false⟩)
    if !(← bumpAndBumpSpace) then throw (fault .classUnclosed ⟨start, start⟩)
    dashLoop start fuel u

/-- Reads the opening of a bracketed class at `[`: the span of the opening, whether it is
negated, and the literal `-` and `]` at its start. -/
def readClassOpen : ReadM (Span × Bool × ClassUnion) := do
  let start ← position
  if !(← bumpAndBumpSpace) then throw (fault .classUnclosed (← spanFrom start))
  let negated ← do
    if (← current) = some '^' then
      if !(← bumpAndBumpSpace) then throw (fault .classUnclosed (← spanFrom start))
      pure true
    else pure false
  let u ← dashLoop start (← get).src.size ⟨← hereSpan, []⟩
  let u ← do
    if u.items.isEmpty && (← current) = some ']' then
      let u := u.push (.literal ⟨← charSpan, ']', false⟩)
      if !(← bumpAndBumpSpace) then throw (fault .classUnclosed (← spanFrom start))
      pure u
    else pure u
  return (← spanFrom start, negated, u)

/-- Steps to the next `:`, or to the end. -/
def colonLoop : Nat → ReadM Unit
  | 0 => pure ()
  | fuel + 1 => do
    if (← current) = some ':' then return
    if ← bump then colonLoop fuel

/-- Reads an ASCII class `[:name:]` or `[:^name:]` at its `[`; `none`, back at the `[`, when
there is none. -/
def readAsciiClass : ReadM (Option ClassItem) := do
  let start ← position
  if !(← bump) then
    moveTo start
    return none
  if (← current) ≠ some ':' then
    moveTo start
    return none
  if !(← bump) then
    moveTo start
    return none
  let negated := (← current) = some '^'
  if negated then
    if !(← bump) then
      moveTo start
      return none
  let nameStart ← position
  colonLoop (← get).src.size
  if ← atEnd then
    moveTo start
    return none
  let name := String.ofList (((← get).src.toList.drop nameStart).take ((← position) - nameStart))
  if !(← bumpIf ":]") then
    moveTo start
    return none
  match AsciiKind.ofName name with
  | some kind => return some (.ascii (← spanFrom start) kind negated)
  | none =>
    moveTo start
    return none

/-- A result of a pure step, as a reading step. -/
def liftFault {α : Type} : Except PatternFault α → ReadM α
  | .ok a => pure a
  | .error e => throw e

/-- Reads one part of a class: an escape or a character. -/
def readClassPrimitive : ReadM Primitive := do
  if (← current) = some '\\' then readEscape
  else
    let span ← charSpan
    let c := (← current).getD ' '
    let _ ← bump
    return .literal ⟨span, c, false⟩

/-- Reads a class item that may be a range `a-z`. -/
def readClassRange (stack : List ClassState) : ReadM ClassItem := do
  let first ← readClassPrimitive
  bumpSpace
  if ← atEnd then throw (unclosedClass stack)
  let next ← peekSpace
  if (← current) ≠ some '-' || next = some ']' || next = some '-' then
    return (← liftFault first.toClassItem)
  if !(← bumpAndBumpSpace) then throw (unclosedClass stack)
  let second ← readClassPrimitive
  let lo ← liftFault first.toLiteral
  let hi ← liftFault second.toLiteral
  let span : Span := ⟨first.span.start, second.span.stop⟩
  if hi.char < lo.char then throw (fault .classRangeInvalid span)
  return .range span lo hi

/-- Joins `rhs` to the operation open on the stack, if any. -/
def popClassOp (stack : List ClassState) (rhs : ClassSet) : List ClassState × ClassSet :=
  match stack with
  | .op kind lhs :: rest => (rest, .op ⟨lhs.span.start, rhs.span.stop⟩ kind lhs rhs)
  | _ => (stack, rhs)

/-- Opens an operation after its `&&`, `--` or `~~`, with the union before it as its left
side. -/
def pushClassOp (kind : SetOp) (stack : List ClassState) (u : ClassUnion) :
    ReadM (List ClassState × ClassUnion) := do
  let (stack, lhs) := popClassOp stack (.item u.toItem)
  return (.op kind lhs :: stack, ⟨← hereSpan, []⟩)

/-- Closes the class open at `]`: the union around it, or the whole class when it was the
outermost. -/
def popClass (stack : List ClassState) (u : ClassUnion) :
    ReadM ((List ClassState × ClassUnion) ⊕ Ast) := do
  let (stack, body) := popClassOp stack (.item u.toItem)
  match stack with
  | .opened parent span negated :: rest =>
    let _ ← bump
    let span ← spanFrom span.start
    if rest.isEmpty then return .inr (.bracketed span negated body)
    return .inl (rest, parent.push (.bracketed span negated body))
  | _ => throw (unclosedClass stack)

/-- The main loop of reading a bracketed class. -/
def classLoop : Nat → List ClassState → ClassUnion → ReadM Ast
  | 0, stack, _ => throw (unclosedClass stack)
  | fuel + 1, stack, u => do
    bumpSpace
    match ← current with
    | none => throw (unclosedClass stack)
    | some '[' =>
      if !stack.isEmpty then
        match ← readAsciiClass with
        | some item => return (← classLoop fuel stack (u.push item))
        | none => pure ()
      let (span, negated, nested) ← readClassOpen
      classLoop fuel (.opened u span negated :: stack) nested
    | some ']' =>
      match ← popClass stack u with
      | .inl (stack, u) => classLoop fuel stack u
      | .inr ast => return ast
    | some c =>
      let op := if c = '&' then some SetOp.intersection
        else if c = '-' then some .difference
        else if c = '~' then some .symmetricDifference else none
      match op with
      | some kind =>
        if (← peek) = some c then
          let _ ← bump
          let _ ← bump
          let (stack, u) ← pushClassOp kind stack u
          return (← classLoop fuel stack u)
      | none => pure ()
      let item ← readClassRange stack
      classLoop fuel stack (u.push item)

/-- Reads a bracketed class at its `[`. -/
def readClass : ReadM Ast := do
  classLoop ((← get).src.size + 1) [] ⟨← hereSpan, []⟩

/-- The main loop of reading a pattern. -/
def readLoop : Nat → List GroupState → Concat → ReadM Ast
  | 0, stack, concat => popGroupEnd stack concat
  | fuel + 1, stack, concat => do
    bumpSpace
    match ← current with
    | none => popGroupEnd stack concat
    | some '(' =>
      let (stack, concat) ← pushGroup stack concat
      readLoop fuel stack concat
    | some ')' =>
      let (stack, concat) ← popGroup stack concat
      readLoop fuel stack concat
    | some '|' =>
      let (stack, concat) ← pushAlternate stack concat
      readLoop fuel stack concat
    | some '[' => readLoop fuel stack (concat.push (← readClass))
    | some '?' => readLoop fuel stack (← repeatUncounted concat .zeroOrOne)
    | some '*' => readLoop fuel stack (← repeatUncounted concat .zeroOrMore)
    | some '+' => readLoop fuel stack (← repeatUncounted concat .oneOrMore)
    | some '\x7b' => readLoop fuel stack (← repeatCounted concat)
    | some _ => readLoop fuel stack (concat.push (← readPrimitive).toAst)

mutual
/-- The first node of a class body, in reading order, that lies deeper than `limit`
classes, unions and operations, the body itself lying at `depth`. -/
def ClassSet.tooDeep (limit depth : Nat) : ClassSet → Option Span
  | .item i => i.tooDeep limit depth
  | .op span _ lhs rhs =>
    if limit < depth + 1 then some span
    else match lhs.tooDeep limit (depth + 1) with
      | some s => some s
      | none => rhs.tooDeep limit (depth + 1)

/-- The first node too deep in a class item. -/
def ClassItem.tooDeep (limit depth : Nat) : ClassItem → Option Span
  | .bracketed span _ set => if limit < depth + 1 then some span else set.tooDeep limit (depth + 1)
  | .union span items =>
    if limit < depth + 1 then some span else ClassItem.tooDeepList limit (depth + 1) items
  | _ => none

/-- The first node too deep in one of the class items. -/
def ClassItem.tooDeepList (limit depth : Nat) : List ClassItem → Option Span
  | [] => none
  | i :: rest =>
    match i.tooDeep limit depth with
    | some span => some span
    | none => ClassItem.tooDeepList limit depth rest
end

mutual
/-- The first node of a tree, in reading order, that lies deeper than `limit` groups,
classes, repetitions, alternations and concatenations, the tree itself lying at `depth`. -/
def Ast.tooDeep (limit depth : Nat) : Ast → Option Span
  | .bracketed span _ set => if limit < depth + 1 then some span else set.tooDeep limit (depth + 1)
  | .repetition span _ _ ast => if limit < depth + 1 then some span else ast.tooDeep limit (depth + 1)
  | .group span _ ast => if limit < depth + 1 then some span else ast.tooDeep limit (depth + 1)
  | .alternation span asts =>
    if limit < depth + 1 then some span else Ast.tooDeepList limit (depth + 1) asts
  | .concat span asts =>
    if limit < depth + 1 then some span else Ast.tooDeepList limit (depth + 1) asts
  | _ => none

/-- The first node too deep in one of the trees. -/
def Ast.tooDeepList (limit depth : Nat) : List Ast → Option Span
  | [] => none
  | a :: rest =>
    match a.tooDeep limit depth with
    | some span => some span
    | none => Ast.tooDeepList limit depth rest
end

/-- The deepest nesting a pattern may have. -/
def nestLimit : Nat := 250

/-- Reads a pattern into its syntax tree. -/
def parseAst (pattern : String) : Except PatternFault Ast := do
  let src := pattern.toList.toArray
  let (ast, _) ← (readLoop (src.size + 1) [] ⟨0, []⟩).run ⟨src, 0, false, []⟩
  match ast.tooDeep nestLimit 0 with
  | some span => throw (fault (.nestLimitExceeded nestLimit) span)
  | none => return ast

end ContentSync.Regex
