/-!
# Sorted tables of code point ranges

A character property of the Unicode standard is given here as a sorted array of closed,
disjoint ranges of code points. Membership is found by halving the array, so a lookup in a
table of some hundreds of ranges takes about ten comparisons.

Large tables are kept as compact text (`CodeRanges.decode`): each range is the gap from the
end of the one before and its length, each number written in base 31 with the digits `0`–`9`,
`a`–`z`, `A`–`Z`, most significant first, where the digits from 31 on mean that more digits
of the same number follow.
-/

namespace ContentSync.Text

/-- A table of closed code point ranges `(lo, hi)`, sorted and disjoint. -/
abbrev CodeRanges := Array (UInt32 × UInt32)

/-- Whether the code point `c` lies in one of the ranges `table[lo]` to `table[hi - 1]`. -/
def CodeRanges.containsBetween (table : CodeRanges) (c : UInt32) (lo hi : Nat) : Bool :=
  if lo < hi then
    let mid := (lo + hi) / 2
    match table[mid]? with
    | none => false
    | some (first, last) =>
      if c < first then table.containsBetween c lo mid
      else if last < c then table.containsBetween c (mid + 1) hi
      else true
  else false
termination_by hi - lo

/-- Whether the code point `c` lies in one of the ranges of `table`. -/
def CodeRanges.contains (table : CodeRanges) (c : UInt32) : Bool :=
  table.containsBetween c 0 table.size

/-- Whether the character `c` lies in one of the ranges of `table`. -/
def CodeRanges.containsChar (table : CodeRanges) (c : Char) : Bool :=
  table.contains c.val

/-- The value of a digit of a compact table: `0`–`9`, `a`–`z`, `A`–`Z` stand for 0 to 61. -/
def codeDigit (c : Char) : Nat :=
  if c.isDigit then c.toNat - 48 else if c.isLower then c.toNat - 87 else c.toNat - 29

/-- The numbers written in a compact table; `acc` is the value of the digits of the number
being read. -/
def decodeNumbers : List Char → Nat → List Nat
  | [], _ => []
  | c :: rest, acc =>
    let d := codeDigit c
    if d < 31 then (acc * 31 + d) :: decodeNumbers rest 0
    else decodeNumbers rest (acc * 31 + (d - 31))

/-- The ranges given by pairs of gap and length, the first starting `next` plus its gap. -/
def rangesOfGaps : List Nat → Nat → List (UInt32 × UInt32)
  | gap :: length :: rest, next =>
    let lo := next + gap
    (lo.toUInt32, (lo + length).toUInt32) :: rangesOfGaps rest (lo + length + 1)
  | _, _ => []

/-- The table written in compact text. -/
def CodeRanges.decode (code : String) : CodeRanges :=
  (rangesOfGaps (decodeNumbers code.toList 0) 0).toArray

end ContentSync.Text
