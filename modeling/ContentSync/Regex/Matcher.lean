import ContentSync.Regex.Parser
import ContentSync.Regex.Translate
import ContentSync.Regex.Footprint

/-!
# Matching regular expressions

A pattern is compiled to a nondeterministic automaton whose nodes read one character of a
set, branch two ways, or check an assertion about the position. A text matches when the
accepting node can be reached from a start at some position; the automaton is run on all its
active nodes at once, so matching takes time proportional to the text length times the
automaton size, and always ends.

Compiling refuses patterns whose automata would take more memory than `sizeLimit` allows, as
counted in `ContentSync.Regex.Footprint`.

Main definitions: `Automaton`, `compileRegex`, `Automaton.isMatch`.
-/

namespace ContentSync.Regex

/-- A node of the automaton. -/
inductive Node where
  /-- Reads a character of the set and goes on to `next`. -/
  | chars (s : CharSet) (next : Nat)
  /-- Goes on to both `a` and `b`. -/
  | split (a b : Nat)
  /-- Goes on to `next` when the assertion holds. -/
  | assert (a : Assertion) (next : Nat)
  /-- Accepts. -/
  | accept
deriving Inhabited

/-- A compiled regular expression: its nodes and the start node. -/
structure Automaton where
  nodes : Array Node
  start : Nat
deriving Inhabited

/-- Appends a node, giving its index. -/
def push (nodes : Array Node) (n : Node) : Nat × Array Node :=
  (nodes.size, nodes.push n)

mutual
/-- Compiles a pattern so that it continues at `next`; gives its entry node. -/
def compile : Pattern → Nat → Array Node → Nat × Array Node
  | .empty, next, nodes => (next, nodes)
  | .chars s, next, nodes => push nodes (.chars s next)
  | .assert a, next, nodes => push nodes (.assert a next)
  | .concat items, next, nodes => compileSeq items next nodes
  | .alternate branches, next, nodes => compileBranches branches next nodes
  | .capture p, next, nodes => compile p next nodes
  | .repetition p lo hi _, next, nodes =>
    let (tail, nodes) := match hi with
      | none =>
        -- a loop: the branch node is placed first and filled in after the body
        let (loop, nodes) := push nodes .accept
        let (body, nodes) := compile p loop nodes
        (loop, nodes.setIfInBounds loop (.split body next))
      | some h => compileOptional p (h - lo) next nodes
    compileCopies p lo tail nodes

/-- Compiles the items one after another. -/
def compileSeq : List Pattern → Nat → Array Node → Nat × Array Node
  | [], next, nodes => (next, nodes)
  | p :: rest, next, nodes =>
    let (after, nodes) := compileSeq rest next nodes
    compile p after nodes

/-- Compiles the branches of an alternation. -/
def compileBranches : List Pattern → Nat → Array Node → Nat × Array Node
  | [], next, nodes => (next, nodes)
  | [p], next, nodes => compile p next nodes
  | p :: rest, next, nodes =>
    let (first, nodes) := compile p next nodes
    let (others, nodes) := compileBranches rest next nodes
    push nodes (.split first others)

/-- Compiles `count` optional copies of `p`, each one only if the one before was taken. -/
def compileOptional (p : Pattern) : Nat → Nat → Array Node → Nat × Array Node
  | 0, next, nodes => (next, nodes)
  | count + 1, next, nodes =>
    let (inner, nodes) := compileOptional p count next nodes
    let (body, nodes) := compile p inner nodes
    push nodes (.split body next)

/-- Compiles `count` copies of `p` before `next`. -/
def compileCopies (p : Pattern) : Nat → Nat → Array Node → Nat × Array Node
  | 0, next, nodes => (next, nodes)
  | count + 1, next, nodes =>
    let (inner, nodes) := compileCopies p count next nodes
    compile p inner nodes
end

/-- Reads and translates a pattern text. -/
def parsePattern (pattern : String) : Except PatternFault Pattern := do
  translate (← parseAst pattern)

/-- Compiles a pattern text, or explains why it cannot be. -/
def compileRegex (pattern : String) : Except String Automaton :=
  match parsePattern pattern with
  | .error f => .error (f.render pattern)
  | .ok p =>
    if !p.shape.fitsBoth then
      .error s!"Compiled regex exceeds size limit of {sizeLimit} bytes."
    else
      let (acceptAt, nodes) := push #[] .accept
      let (start, nodes) := compile p acceptAt nodes
      .ok { nodes, start }

/-- The reading and accepting nodes reachable from the nodes in `work` without reading,
between the characters `before` and `after`; `seen` marks the nodes visited. -/
def closure (r : Automaton) (before after : Option Char) :
    Nat → List Nat → Array Bool → List Nat → List Nat × Array Bool
  | 0, _, seen, acc => (acc, seen)
  | _, [], seen, acc => (acc, seen)
  | fuel + 1, i :: work, seen, acc =>
    if seen[i]?.getD true then closure r before after fuel work seen acc
    else
      let seen := seen.setIfInBounds i true
      match r.nodes[i]? with
      | some (.split a b) => closure r before after fuel (a :: b :: work) seen acc
      | some (.assert a next) =>
        if a.holds before after then closure r before after fuel (next :: work) seen acc
        else closure r before after fuel work seen acc
      | some (.chars _ _) => closure r before after fuel work seen (i :: acc)
      | some .accept => closure r before after fuel work seen (i :: acc)
      | none => closure r before after fuel work seen acc

/-- The active nodes after following `start` nodes between `before` and `after`. -/
def activate (r : Automaton) (before after : Option Char) (start : List Nat) : List Nat :=
  (closure r before after (3 * r.nodes.size + start.length + 2) start
    (Array.replicate r.nodes.size false) []).1

/-- The nodes reached by reading `c` from the active nodes. -/
def advance (r : Automaton) (c : Char) (active : List Nat) : List Nat :=
  active.filterMap fun i =>
    match (r.nodes[i]? : Option Node) with
    | some (.chars s next) => if s.contains c then some next else none
    | _ => none

/-- Whether an active node accepts. -/
def accepts (r : Automaton) (active : List Nat) : Bool :=
  active.any fun i => match (r.nodes[i]? : Option Node) with
    | some .accept => true
    | _ => false

/-- Searches the characters `cs` that follow `before` for a match, with `active` the nodes
active before them; a new attempt starts at every position. -/
def search (r : Automaton) : Option Char → List Char → List Nat → Bool
  | _, [], active => accepts r active
  | _, c :: rest, active =>
    accepts r active ||
      search r (some c) rest (activate r (some c) rest.head? (advance r c active ++ [r.start]))

/-- Whether the pattern matches somewhere in `text`. -/
def Automaton.isMatch (r : Automaton) (text : String) : Bool :=
  let cs := text.toList
  search r none cs (activate r none cs.head? [r.start])

end ContentSync.Regex
