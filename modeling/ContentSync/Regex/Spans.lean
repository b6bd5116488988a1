import ContentSync.Regex.Pattern

/-!
# The code points of a character set

A character set of a pattern is a tree of tables, ranges and set operations. To build an
automaton it is needed as a plain list of *spans*: closed ranges of code points, sorted,
disjoint, and with a gap between any two of them. The set operations are computed on such
lists; the surrogate code points `D800`–`DFFF`, which are no characters, are left out at the
end.

A span of characters is read as bytes of UTF-8: it is cut into *byte runs*, lists of byte
ranges such that the characters of the span are exactly the byte strings whose `i`-th byte lies
in the `i`-th range of one of the runs. The cutting first separates characters of different
encoded lengths and then cuts where a continuation byte wraps around, so that every run is a
product of byte ranges. Runs come in increasing order of their characters.

Main definitions: `Spans`, `CharSet.spans`, `encodePoint`, `utf8Runs`.
-/

namespace ContentSync.Regex

/-- Closed ranges of code points, sorted, disjoint and not touching. -/
abbrev Spans := List (Nat × Nat)

/-- The largest code point. -/
def maxCodePoint : Nat := 0x10FFFF

/-- Merges `current` with the ranges after it, which start no earlier than it does, joining
ranges that overlap or touch. -/
def mergeInto (current : Nat × Nat) : List (Nat × Nat) → Spans
  | [] => [current]
  | (lo, hi) :: rest =>
    if lo ≤ current.2 + 1 then mergeInto (current.1, max current.2 hi) rest
    else current :: mergeInto (lo, hi) rest

/-- Ranges in any order as spans: empty ranges dropped, the rest sorted and merged. -/
def normalize (ranges : List (Nat × Nat)) : Spans :=
  match (ranges.filter fun r => r.1 ≤ r.2).mergeSort (fun a b => a.1 ≤ b.1) with
  | [] => []
  | r :: rest => mergeInto r rest

/-- The code points from `start` on that none of the spans holds. -/
def gapsFrom (start : Nat) : Spans → Spans
  | [] => if start ≤ maxCodePoint then [(start, maxCodePoint)] else []
  | (lo, hi) :: rest => (if start < lo then [(start, lo - 1)] else []) ++ gapsFrom (hi + 1) rest

/-- The code points not in the spans. -/
def Spans.complement (s : Spans) : Spans :=
  gapsFrom 0 s

/-- The code points in either of two lists of spans. -/
def Spans.union (a b : Spans) : Spans :=
  normalize (a ++ b)

/-- The code points in both lists of spans. -/
def Spans.inter (a b : Spans) : Spans :=
  (a.complement.union b.complement).complement

/-- The code points in `a` but not in `b`. -/
def Spans.diff (a b : Spans) : Spans :=
  a.inter b.complement

/-- The code points in exactly one of two lists of spans. -/
def Spans.symDiff (a b : Spans) : Spans :=
  (a.diff b).union (b.diff a)

/-- The spans as a table for lookups. -/
def Spans.toTable (s : Spans) : Text.CodeRanges :=
  (s.map fun r => (r.1.toUInt32, r.2.toUInt32)).toArray

/-- The spans together with every character equal to one of theirs up to simple case
folding. Only characters of the case table have other members in their orbit. -/
def Spans.caseClosure (s : Spans) : Spans :=
  let table := s.toTable
  let orbits := Text.caseOrbitTable.toList.filterMap fun pair =>
    if table.contains pair.1 then some (Text.caseOrbit (Char.ofNat pair.1.toNat)) else none
  s.union (orbits.flatten.map fun c => (c.toNat, c.toNat))

/-- The spans together with the other case of every ASCII letter in them. -/
def Spans.asciiCaseClosure (s : Spans) : Spans :=
  let lower := s.inter [(0x61, 0x7A)]
  let upper := s.inter [(0x41, 0x5A)]
  s.union ((lower.map fun r => (r.1 - 32, r.2 - 32)) ++ upper.map fun r => (r.1 + 32, r.2 + 32))

/-- The surrogate code points. -/
def surrogates : Spans := [(0xD800, 0xDFFF)]

mutual
/-- The code points of a character set, surrogates possibly included. -/
def CharSet.pointSpans : CharSet → Spans
  | .range lo hi => normalize [(lo, hi)]
  | .table t => normalize (t.toList.map fun r => (r.1.toNat, r.2.toNat))
  | .union parts => CharSet.unionSpans parts
  | .complement s => s.pointSpans.complement
  | .inter a b => a.pointSpans.inter b.pointSpans
  | .diff a b => a.pointSpans.diff b.pointSpans
  | .symDiff a b => a.pointSpans.symDiff b.pointSpans
  | .folded true s => s.pointSpans.caseClosure
  | .folded false s => s.pointSpans.asciiCaseClosure

/-- The code points of any of the character sets. -/
def CharSet.unionSpans : List CharSet → Spans
  | [] => []
  | s :: rest => s.pointSpans.union (CharSet.unionSpans rest)
end

/-- The characters of a character set as spans. -/
def CharSet.spans (s : CharSet) : Spans :=
  s.pointSpans.diff surrogates

/-! ## UTF-8 byte runs -/

/-- A list of byte ranges, one for each byte of an encoded character. -/
abbrev ByteRun := List (Nat × Nat)

/-- The UTF-8 bytes of a code point. -/
def encodePoint (c : Nat) : List Nat :=
  if c < 0x80 then [c]
  else if c < 0x800 then [0xC0 + c / 64, 0x80 + c % 64]
  else if c < 0x10000 then [0xE0 + c / 4096, 0x80 + c / 64 % 64, 0x80 + c % 64]
  else [0xF0 + c / 262144, 0x80 + c / 4096 % 64, 0x80 + c / 64 % 64, 0x80 + c % 64]

/-- The number of UTF-8 bytes of a code point. -/
def encodedLength (c : Nat) : Nat :=
  if c < 0x80 then 1 else if c < 0x800 then 2 else if c < 0x10000 then 3 else 4

/-- The last code point of the encoded length of `lo` when `hi` has a longer one. -/
def lengthCut (lo hi : Nat) : Option Nat :=
  [0x7F, 0x7FF, 0xFFFF].find? fun top => lo ≤ top ∧ top < hi

/-- Where the range `lo`–`hi` must be cut so that its continuation bytes form ranges: for the
lowest `i` at which the two ends differ above their last `6 * i` bits, the part below the
first wrap of those bits is kept and the rest put aside, or the part after the last wrap is
put aside. Gives the new upper end and the part put aside. -/
def continuationCut (lo hi : Nat) : List Nat → Option (Nat × (Nat × Nat))
  | [] => none
  | i :: rest =>
    let block := Nat.pow 2 (6 * i)
    if lo / block ≠ hi / block then
      if lo % block ≠ 0 then
        let top := lo - lo % block + block - 1
        some (top, (top + 1, hi))
      else if hi % block ≠ block - 1 then
        let bottom := hi - hi % block
        some (bottom - 1, (bottom, hi))
      else continuationCut lo hi rest
    else continuationCut lo hi rest

/-- Cuts ranges into byte runs: `current` is the range at hand, `pending` the ranges put aside,
`done` the runs so far, latest first. Each step cuts the range at hand or finishes it. -/
def runsLoop : Nat → Option (Nat × Nat) → List (Nat × Nat) → List ByteRun → List ByteRun
  | 0, _, _, done => done.reverse
  | _ + 1, none, [], done => done.reverse
  | fuel + 1, none, r :: pending, done => runsLoop fuel (some r) pending done
  | fuel + 1, some (lo, hi), pending, done =>
    if lo < 0xE000 ∧ 0xD7FF < hi then
      runsLoop fuel (some (lo, 0xD7FF)) ((0xE000, hi) :: pending) done
    else if hi < lo then runsLoop fuel none pending done
    else
      match lengthCut lo hi with
      | some top => runsLoop fuel (some (lo, top)) ((top + 1, hi) :: pending) done
      | none =>
        if hi ≤ 0x7F then runsLoop fuel none pending ([(lo, hi)] :: done)
        else
          match continuationCut lo hi [1, 2, 3] with
          | some (top, aside) => runsLoop fuel (some (lo, top)) (aside :: pending) done
          | none => runsLoop fuel none pending ((encodePoint lo).zip (encodePoint hi) :: done)

/-- The byte runs of the characters from `lo` to `hi`, in increasing order. A range needs a
few dozen steps at most; the fuel of 256 is well beyond that. -/
def utf8Runs (lo hi : Nat) : List ByteRun :=
  runsLoop 256 (some (lo, hi)) [] []

/-- The byte runs of the characters of spans, in increasing order. -/
def Spans.runs (s : Spans) : List ByteRun :=
  s.flatMap fun r => utf8Runs r.1 r.2

end ContentSync.Regex
