import ContentSync.Text.CodeRanges

/-!
# White space

The characters with the Unicode property White_Space. Typed values are read after these are
cut from both ends of the text.
-/

namespace ContentSync.Text

/-- The code point ranges of the property, sorted and disjoint. -/
def whiteSpaceRanges : CodeRanges := #[
  (0x9, 0xD), (0x20, 0x20), (0x85, 0x85), (0xA0, 0xA0), (0x1680, 0x1680), (0x2000, 0x200A),
  (0x2028, 0x2029), (0x202F, 0x202F), (0x205F, 0x205F), (0x3000, 0x3000)]

/-- Whether `c` has the Unicode property White_Space. -/
def isWhiteSpace (c : Char) : Bool :=
  whiteSpaceRanges.containsChar c

/-- The characters without the white space at both ends. -/
def trimWhiteSpaceChars (cs : List Char) : List Char :=
  ((cs.dropWhile isWhiteSpace).reverse.dropWhile isWhiteSpace).reverse

/-- The text without the white space at both ends. -/
def trimWhiteSpace (s : String) : String :=
  String.ofList (trimWhiteSpaceChars s.toList)

end ContentSync.Text
