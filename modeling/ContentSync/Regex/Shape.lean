import ContentSync.Regex.Spans

/-!
# The shape of a pattern

Before an automaton is built from a pattern, the pattern is brought into a normal form, its
*shape*. The shape keeps what the automaton builder looks at: literals as UTF-8 bytes,
classes as spans, capturing groups, assertions, repetitions with their bounds and greediness,
sequences and alternations. It is built bottom up, each node by the rules below.

* A class of exactly one character is the literal of its bytes; a class of none stays an empty
  class, which matches nothing.
* In a sequence, nested sequences are opened, empty parts dropped and neighbouring literals
  joined into one; a sequence of one part is that part, of none the empty pattern.
* In an alternation, nested alternations are opened. Branches that are all one-character
  literals, or all classes, become one class. Branches that are all sequences beginning with
  the same parts have those parts taken out in front of an alternation of the rest. Two
  capturing groups are never the same part, as each has its own number.
* A repetition of something that matches only the empty text repeats at most once; zero to
  zero repetitions are the empty pattern, one to one the body itself.

Each shape has a least and a greatest length of the texts it matches in bytes (none when it
matches nothing, or for the greatest when it is unbounded), counted as machine words do: a
product that overflows stays at the largest word, a sum that overflows is unknown.

Main definitions: `Shape`, `Pattern.shape`, `Shape.minLen`, `Shape.startsAnchored`.
-/

namespace ContentSync.Regex

/-- The normal form of a pattern that an automaton is built from. -/
inductive Shape where
  /-- The empty text. -/
  | empty
  /-- A text of bytes, at least one. -/
  | literal (bytes : List Nat)
  /-- One character of the spans; no spans at all match nothing. -/
  | chars (spans : Spans)
  /-- A condition on the position. -/
  | look (a : Assertion)
  /-- From `min` to `max` (unbounded if none) repetitions of the body. -/
  | repetition (body : Shape) (min : Nat) (max : Option Nat) (greedy : Bool)
  /-- A capturing group. -/
  | capture (body : Shape)
  /-- Two or more parts one after another. -/
  | concat (parts : List Shape)
  /-- Two or more branches. -/
  | alternation (branches : List Shape)
deriving Inhabited

mutual
/-- Whether two shapes are the same part: equal in every node, capturing groups never. -/
def Shape.same : Shape → Shape → Bool
  | .empty, .empty => true
  | .literal a, .literal b => a == b
  | .chars a, .chars b => a == b
  | .look a, .look b => decide (a = b)
  | .repetition a m n g, .repetition b m' n' g' =>
    m == m' && n == n' && g == g' && a.same b
  | .concat as, .concat bs => Shape.sameAll as bs
  | .alternation as, .alternation bs => Shape.sameAll as bs
  | _, _ => false

/-- Whether two lists of shapes are the same part by part. -/
def Shape.sameAll : List Shape → List Shape → Bool
  | [], [] => true
  | a :: as, b :: bs => a.same b && Shape.sameAll as bs
  | _, _ => false
end

/-! ## Lengths -/

/-- The largest machine word. -/
def wordMax : Nat := Nat.pow 2 64 - 1

/-- A sum of machine words, unknown when it overflows. -/
def checkedAdd (a b : Nat) : Option Nat :=
  if a + b ≤ wordMax then some (a + b) else none

/-- A product of machine words, unknown when it overflows. -/
def checkedMul (a b : Nat) : Option Nat :=
  if a * b ≤ wordMax then some (a * b) else none

/-- The least of two lengths, unknown when one is. -/
def leastOf : Option Nat → Option Nat → Option Nat
  | some a, some b => some (min a b)
  | _, _ => none

/-- The greatest of two lengths, unknown when one is. -/
def greatestOf : Option Nat → Option Nat → Option Nat
  | some a, some b => some (max a b)
  | _, _ => none

/-- The sum of two lengths, unknown when one is or when it overflows. -/
def sumOf : Option Nat → Option Nat → Option Nat
  | some a, some b => checkedAdd a b
  | _, _ => none

mutual
/-- The length in bytes of the shortest text a shape matches. -/
def Shape.minLen : Shape → Option Nat
  | .empty | .look _ => some 0
  | .literal bytes => some bytes.length
  | .chars [] => none
  | .chars (r :: _) => some (encodedLength r.1)
  | .repetition body min _ _ => body.minLen.map fun n => Nat.min (n * min) wordMax
  | .capture body => body.minLen
  | .concat parts => Shape.minLenSum parts
  | .alternation branches => Shape.minLenLeast branches

/-- The sum of the shortest lengths of parts. -/
def Shape.minLenSum : List Shape → Option Nat
  | [] => some 0
  | p :: rest => sumOf p.minLen (Shape.minLenSum rest)

/-- The least of the shortest lengths of branches. -/
def Shape.minLenLeast : List Shape → Option Nat
  | [] => none
  | [b] => b.minLen
  | b :: rest => leastOf b.minLen (Shape.minLenLeast rest)
end

mutual
/-- The length in bytes of the longest text a shape matches. -/
def Shape.maxLen : Shape → Option Nat
  | .empty | .look _ => some 0
  | .literal bytes => some bytes.length
  | .chars spans =>
    match spans.getLast? with
    | none => none
    | some r => some (encodedLength r.2)
  | .repetition body _ max _ =>
    match max, body.maxLen with
    | some m, some n => checkedMul n m
    | _, _ => none
  | .capture body => body.maxLen
  | .concat parts => Shape.maxLenSum parts
  | .alternation branches => Shape.maxLenGreatest branches

/-- The sum of the longest lengths of parts. -/
def Shape.maxLenSum : List Shape → Option Nat
  | [] => some 0
  | p :: rest => sumOf p.maxLen (Shape.maxLenSum rest)

/-- The greatest of the longest lengths of branches. -/
def Shape.maxLenGreatest : List Shape → Option Nat
  | [] => none
  | [b] => b.maxLen
  | b :: rest => greatestOf b.maxLen (Shape.maxLenGreatest rest)
end

/-! ## Anchors -/

/-- Whether a shape matches nothing but the empty text. -/
def Shape.onlyEmpty (s : Shape) : Bool :=
  s.maxLen == some 0

mutual
/-- Whether every match of a shape begins where the assertion `a` is checked first: the
assertion leads each branch, possibly after parts that match only the empty text. -/
def Shape.leadsWith (a : Assertion) : Shape → Bool
  | .look b => decide (a = b)
  | .repetition body min _ _ => min ≠ 0 && body.leadsWith a
  | .capture body => body.leadsWith a
  | .concat parts => Shape.leadsWithParts a parts
  | .alternation branches => Shape.leadsWithAll a branches
  | _ => false

/-- Whether one of the leading parts that match only the empty text, or the first part after
them, leads with the assertion. -/
def Shape.leadsWithParts (a : Assertion) : List Shape → Bool
  | [] => false
  | p :: rest => p.leadsWith a || (p.onlyEmpty && Shape.leadsWithParts a rest)

/-- Whether every branch leads with the assertion. -/
def Shape.leadsWithAll (a : Assertion) : List Shape → Bool
  | [] => false
  | [b] => b.leadsWith a
  | b :: rest => b.leadsWith a && Shape.leadsWithAll a rest
end

mutual
/-- Whether every match of a shape ends where the assertion `a` is checked last. -/
def Shape.endsWith (a : Assertion) : Shape → Bool
  | .look b => decide (a = b)
  | .repetition body min _ _ => min ≠ 0 && body.endsWith a
  | .capture body => body.endsWith a
  | .concat parts => Shape.endsWithParts a parts
  | .alternation branches => Shape.endsWithAll a branches
  | _ => false

/-- Whether one of the trailing parts that match only the empty text, or the last part before
them, ends with the assertion: a part counts when all parts after it match only the empty
text. -/
def Shape.endsWithParts (a : Assertion) : List Shape → Bool
  | [] => false
  | p :: rest => (rest.all Shape.onlyEmpty && p.endsWith a) || Shape.endsWithParts a rest

/-- Whether every branch ends with the assertion. -/
def Shape.endsWithAll (a : Assertion) : List Shape → Bool
  | [] => false
  | [b] => b.endsWith a
  | b :: rest => b.endsWith a && Shape.endsWithAll a rest
end

/-- Whether every match of a shape starts at the start of the text. -/
def Shape.startsAnchored (s : Shape) : Bool :=
  s.leadsWith .textStart

/-- Whether every match of a shape ends at the end of the text. -/
def Shape.endsAnchored (s : Shape) : Bool :=
  s.endsWith .textEnd

/-! ## Building shapes -/

/-- The shape of a class with the given spans. -/
def Shape.ofSpans (spans : Spans) : Shape :=
  match spans with
  | [(lo, hi)] => if lo = hi then .literal (encodePoint lo) else .chars spans
  | _ => .chars spans

/-- The parts of a sequence with nested sequences opened and empty parts dropped. -/
def openParts : List Shape → List Shape
  | [] => []
  | .concat ps :: rest => ps ++ openParts rest
  | .empty :: rest => openParts rest
  | p :: rest => p :: openParts rest

/-- Parts with neighbouring literals joined; `pending` holds the bytes of the literals just
passed. -/
def joinLiterals : Option (List Nat) → List Shape → List Shape
  | none, [] => []
  | some bytes, [] => [.literal bytes]
  | pending, .literal b :: rest => joinLiterals (some (pending.getD [] ++ b)) rest
  | none, p :: rest => p :: joinLiterals none rest
  | some bytes, p :: rest => .literal bytes :: p :: joinLiterals none rest

/-- The shape of parts one after another. -/
def Shape.seq (parts : List Shape) : Shape :=
  match joinLiterals none (openParts parts) with
  | [] => .empty
  | [p] => p
  | ps => .concat ps

/-- The branches of an alternation with nested alternations opened. -/
def openBranches : List Shape → List Shape
  | [] => []
  | .alternation bs :: rest => bs ++ openBranches rest
  | b :: rest => b :: openBranches rest

/-- The code point whose UTF-8 bytes are exactly `bytes`, if there is one. -/
def decodePoint : List Nat → Option Nat
  | [b] => if b < 0x80 then some b else none
  | [b0, b1] => if 0xC0 ≤ b0 ∧ b0 < 0xE0 then some ((b0 - 0xC0) * 64 + (b1 - 0x80)) else none
  | [b0, b1, b2] =>
    if 0xE0 ≤ b0 ∧ b0 < 0xF0 then some ((b0 - 0xE0) * 4096 + (b1 - 0x80) * 64 + (b2 - 0x80))
    else none
  | [b0, b1, b2, b3] =>
    if 0xF0 ≤ b0 then
      some ((b0 - 0xF0) * 262144 + (b1 - 0x80) * 4096 + (b2 - 0x80) * 64 + (b3 - 0x80))
    else none
  | _ => none

/-- The characters of branches that are all literals of one character. -/
def singleChars : List Shape → Option (List Nat)
  | [] => some []
  | .literal bytes :: rest => do
    let c ← decodePoint bytes
    return c :: (← singleChars rest)
  | _ => none

/-- The spans of branches that are all classes. -/
def classSpans : List Shape → Option Spans
  | [] => some []
  | .chars s :: rest => do
    let more ← classSpans rest
    return s.union more
  | _ => none

/-- The parts of branches that are all sequences. -/
def sequenceParts : List Shape → Option (List (List Shape))
  | [] => some []
  | .concat ps :: rest => do
    let more ← sequenceParts rest
    return ps :: more
  | _ => none

/-- The longest list of leading parts that two lists of parts share. -/
def sharedParts : List Shape → List Shape → List Shape
  | a :: as, b :: bs => if a.same b then a :: sharedParts as bs else []
  | _, _ => []

/-- The shape of branches taken as alternatives. `fuel` bounds how often leading parts are
taken out; each time every branch loses a part, so the longest branch bounds it. -/
def Shape.alt : Nat → List Shape → Shape
  | fuel, branches =>
    match openBranches branches with
    | [] => .chars []
    | [b] => b
    | bs =>
      match singleChars bs with
      | some cs => Shape.ofSpans (normalize (cs.map fun c => (c, c)))
      | none =>
        match classSpans bs with
        | some spans => Shape.ofSpans spans
        | none =>
          match fuel, sequenceParts bs with
          | fuel + 1, some (first :: rest) =>
            let shared := rest.foldl sharedParts first
            if shared.isEmpty then .alternation bs
            else
              let k := shared.length
              Shape.seq (shared ++
                [Shape.alt fuel ((first :: rest).map fun ps => Shape.seq (ps.drop k))])
          | _, _ => .alternation bs

/-- The number of parts of a shape taken as a sequence. -/
def Shape.partCount : Shape → Nat
  | .concat ps => ps.length
  | _ => 1

/-- The shape of a repetition. -/
def Shape.repeat (body : Shape) (min : Nat) (max : Option Nat) (greedy : Bool) : Shape :=
  let (min, max) :=
    if body.onlyEmpty then (Nat.min min 1, some (Nat.min (max.getD 1) 1)) else (min, max)
  if min = 0 ∧ max = some 0 then .empty
  else if min = 1 ∧ max = some 1 then body
  else .repetition body min max greedy

mutual
/-- The shape of a pattern. -/
def Pattern.shape : Pattern → Shape
  | .empty => .empty
  | .chars s => Shape.ofSpans s.spans
  | .concat items => Shape.seq (Pattern.shapes items)
  | .alternate branches =>
    let bs := Pattern.shapes branches
    Shape.alt ((bs.map Shape.partCount).foldr (· + ·) 0 + 1) bs
  | .repetition p lo hi greedy => Shape.repeat p.shape lo hi greedy
  | .assert a => .look a
  | .capture p => .capture p.shape

/-- The shapes of patterns. -/
def Pattern.shapes : List Pattern → List Shape
  | [] => []
  | p :: rest => p.shape :: Pattern.shapes rest
end

end ContentSync.Regex
