import ContentSync.Regex.Property

/-!
# The meaning of a syntax tree

Turns a syntax tree into the `Pattern` it means, applying the flags in force at each node: a
flag group changes them up to the end of the group around it, a group with flags only inside
itself. The faults of this step come in reading order.

* Ignoring case (`i`) folds every literal and class: with Unicode on (`u`, the default) by
  simple case folding, with it off by ASCII case. A class is folded before it is negated, and
  both sides of a class operation are folded before it is taken.
* With Unicode off, the classes `\d`, `\s`, `\w` and word boundaries are ASCII ones, and a
  part that could match a byte that is not UTF-8 is a fault: `.`, a negated class, and `\xHH`
  beyond `7F`. So is a Unicode class, and a character beyond ASCII inside a class.
* `^` and `$` are the ends of the text, or with `m` the ends of lines (with `R`, lines end at a
  carriage return too); `.` is any character but a line feed (and a carriage return with `R`),
  or with `s` any character at all.

Main definitions: `Flags`, `translate`.
-/

namespace ContentSync.Regex

/-- The flags in force at a node. -/
structure Flags where
  caseInsensitive : Bool
  multiLine : Bool
  dotMatchesNewLine : Bool
  swapGreed : Bool
  unicode : Bool
  crlf : Bool
deriving DecidableEq, Repr

/-- The flags at the start of a pattern: only Unicode is on. -/
def Flags.initial : Flags :=
  ⟨false, false, false, false, true, false⟩

/-- The flags with one flag set to `v`. -/
def Flags.with (fl : Flags) (f : Flag) (v : Bool) : Flags :=
  match f with
  | .caseInsensitive => { fl with caseInsensitive := v }
  | .multiLine => { fl with multiLine := v }
  | .dotMatchesNewLine => { fl with dotMatchesNewLine := v }
  | .swapGreed => { fl with swapGreed := v }
  | .unicode => { fl with unicode := v }
  | .crlf => { fl with crlf := v }
  | .ignoreWhitespace => fl

/-- The flags after the items of a flag group, `negated` telling whether a `-` came before. -/
def Flags.applyFrom (fl : Flags) (negated : Bool) : FlagList → Flags
  | [] => fl
  | (.negation, _) :: rest => fl.applyFrom true rest
  | (.flag f, _) :: rest => (fl.with f !negated).applyFrom negated rest

/-- The flags after the items of a flag group. -/
def Flags.apply (fl : Flags) (items : FlagList) : Flags :=
  fl.applyFrom false items

/-- The pattern of a literal character. -/
def literalPattern (flags : Flags) (lit : Literal) : Except PatternFault Pattern :=
  let c := lit.char
  if !flags.unicode && lit.hexByte && 128 ≤ c.toNat then .error (fault .invalidUtf8 lit.span)
  else if flags.caseInsensitive && (flags.unicode || c.toNat < 128) then
    .ok (.chars (.folded flags.unicode (.single c)))
  else .ok (.chars (.single c))

/-- The pattern of `.`. -/
def dotPattern (flags : Flags) (span : Span) : Except PatternFault Pattern :=
  if !flags.unicode then .error (fault .invalidUtf8 span)
  else if flags.dotMatchesNewLine then .ok (.chars CharSet.any)
  else if flags.crlf then .ok (.chars (.complement (.union [.single '\n', .single '\r'])))
  else .ok (.chars (.complement (.single '\n')))

/-- The pattern of an assertion. -/
def assertionPattern (flags : Flags) (kind : AssertionKind) : Pattern :=
  let word (look : WordLook) : Pattern := .assert (.word look flags.unicode)
  match kind with
  | .startLine => .assert (if flags.multiLine then .lineStart flags.crlf else .textStart)
  | .endLine => .assert (if flags.multiLine then .lineEnd flags.crlf else .textEnd)
  | .startText => .assert .textStart
  | .endText => .assert .textEnd
  | .wordBoundary => word .boundary
  | .notWordBoundary => word .notBoundary
  | .wordStart => word .start
  | .wordEnd => word .finish
  | .wordStartHalf => word .startHalf
  | .wordEndHalf => word .finishHalf

/-- The set of `\d`, `\s` or `\w`, in the Unicode or the ASCII sense. -/
def perlSet (unicode : Bool) : PerlKind → CharSet
  | .digit => if unicode then .table Text.decimalDigitRanges else asciiDigit
  | .space => if unicode then .table Text.whiteSpaceRanges else asciiSpace
  | .word => if unicode then .table Text.wordCharRanges else asciiWord

/-- The set of an ASCII class. -/
def asciiSet : AsciiKind → CharSet
  | .alnum => .union [.between '0' '9', .between 'A' 'Z', .between 'a' 'z']
  | .alpha => .union [.between 'A' 'Z', .between 'a' 'z']
  | .ascii => .range 0 0x7F
  | .blank => .union [.single '\t', .single ' ']
  | .cntrl => .union [.range 0 0x1F, .range 0x7F 0x7F]
  | .digit => .between '0' '9'
  | .graph => .between '!' '~'
  | .lower => .between 'a' 'z'
  | .print => .between ' ' '~'
  | .punct => .union [.range 0x21 0x2F, .range 0x3A 0x40, .range 0x5B 0x60, .range 0x7B 0x7E]
  | .space => .union [.range 9 13, .single ' ']
  | .upper => .between 'A' 'Z'
  | .word => asciiWord
  | .xdigit => .union [.between '0' '9', .between 'A' 'F', .between 'a' 'f']

/-- A class folded when case is ignored and then negated if asked. With Unicode off, a negated
class could match bytes beyond ASCII and is a fault. -/
def foldAndNegate (flags : Flags) (span : Span) (negated : Bool) (s : CharSet) :
    Except PatternFault CharSet :=
  let s := if flags.caseInsensitive then CharSet.folded flags.unicode s else s
  if !negated then .ok s
  else if flags.unicode then .ok (.complement s)
  else .error (fault .invalidUtf8 span)

/-- The set of `\d`, `\s`, `\w` or a negation of one; these are closed under case folding. -/
def perlClassSet (flags : Flags) (span : Span) (kind : PerlKind) (negated : Bool) :
    Except PatternFault CharSet :=
  let s := perlSet flags.unicode kind
  if !negated then .ok s
  else if flags.unicode then .ok (.complement s)
  else .error (fault .invalidUtf8 span)

/-- The set of a Unicode class. -/
def unicodeClassSet (flags : Flags) (span : Span) (negated : Bool) (query : UnicodeQuery) :
    Except PatternFault CharSet :=
  if !flags.unicode then .error (fault .unicodeNotAllowed span)
  else
    match unicodeQuerySet query with
    | .error .propertyNotFound => .error (fault .unicodePropertyNotFound span)
    | .error .valueNotFound => .error (fault .unicodePropertyValueNotFound span)
    | .ok s => foldAndNegate flags span negated s

/-- The character of a literal in a class; with Unicode off it must be ASCII. -/
def classLiteral (flags : Flags) (lit : Literal) : Except PatternFault Char :=
  if flags.unicode || lit.char.toNat < 128 then .ok lit.char
  else if lit.hexByte then .error (fault .invalidUtf8 lit.span)
  else .error (fault .unicodeNotAllowed lit.span)

mutual
/-- The set of a class item. -/
def classItemSet (flags : Flags) : ClassItem → Except PatternFault CharSet
  | .empty _ => .ok (.union [])
  | .literal lit => return .single (← classLiteral flags lit)
  | .range _ lo hi => do
    let a ← classLiteral flags lo
    let b ← classLiteral flags hi
    return .between a b
  | .ascii span kind negated => foldAndNegate flags span negated (asciiSet kind)
  | .unicode span negated query => unicodeClassSet flags span negated query
  | .perl span kind negated => perlClassSet flags span kind negated
  | .bracketed span negated set => do
    foldAndNegate flags span negated (← classBodySet flags set)
  | .union _ items => return .union (← classItemSets flags items)

/-- The sets of class items. -/
def classItemSets (flags : Flags) : List ClassItem → Except PatternFault (List CharSet)
  | [] => .ok []
  | i :: rest => do
    let s ← classItemSet flags i
    return s :: (← classItemSets flags rest)

/-- The set of a class body; both sides of an operation are folded when case is ignored. -/
def classBodySet (flags : Flags) : ClassSet → Except PatternFault CharSet
  | .item i => classItemSet flags i
  | .op _ kind lhs rhs => do
    let a ← classBodySet flags lhs
    let b ← classBodySet flags rhs
    let fold (s : CharSet) : CharSet :=
      if flags.caseInsensitive then .folded flags.unicode s else s
    return match kind with
      | .intersection => .inter (fold a) (fold b)
      | .difference => .diff (fold a) (fold b)
      | .symmetricDifference => .symDiff (fold a) (fold b)
end

/-- The least and the most number of times a repetition repeats. -/
def RepetitionKind.bounds : RepetitionKind → Nat × Option Nat
  | .zeroOrOne => (0, some 1)
  | .zeroOrMore => (0, none)
  | .oneOrMore => (1, none)
  | .exactly n => (n, some n)
  | .atLeast n => (n, none)
  | .bounded m n => (m, some n)

mutual
/-- The pattern of a tree under `flags`, and the flags after it. -/
def translateAst (flags : Flags) : Ast → Except PatternFault (Pattern × Flags)
  | .empty _ => .ok (.empty, flags)
  | .flags _ items => .ok (.empty, flags.apply items)
  | .literal lit => return (← literalPattern flags lit, flags)
  | .dot span => return (← dotPattern flags span, flags)
  | .assertion _ kind => .ok (assertionPattern flags kind, flags)
  | .unicodeClass span negated query =>
    return (.chars (← unicodeClassSet flags span negated query), flags)
  | .perlClass span kind negated => return (.chars (← perlClassSet flags span kind negated), flags)
  | .bracketed span negated set => do
    let s ← foldAndNegate flags span negated (← classBodySet flags set)
    return (.chars s, flags)
  | .repetition _ kind greedy ast => do
    let (p, after) ← translateAst flags ast
    let (lo, hi) := kind.bounds
    return (.repetition p lo hi (greedy != flags.swapGreed), after)
  | .group _ kind ast => do
    match kind with
    | .nonCapturing items =>
      let (p, _) ← translateAst (flags.apply items) ast
      return (p, flags)
    | _ =>
      let (p, _) ← translateAst flags ast
      return (.capture p, flags)
  | .alternation _ branches => do
    let (ps, after) ← translateList flags branches
    return (.alternate ps, after)
  | .concat _ items => do
    let (ps, after) ← translateList flags items
    return (.concat ps, after)

/-- The patterns of trees one after another, each under the flags left by the one before. -/
def translateList (flags : Flags) : List Ast → Except PatternFault (List Pattern × Flags)
  | [] => .ok ([], flags)
  | a :: rest => do
    let (p, after) ← translateAst flags a
    let (ps, final) ← translateList after rest
    return (p :: ps, final)
end

/-- The pattern a syntax tree means. -/
def translate (ast : Ast) : Except PatternFault Pattern :=
  (translateAst Flags.initial ast).map (·.1)

end ContentSync.Regex
