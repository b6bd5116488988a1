import ContentSync.Regex.Shape

/-!
# The memory an automaton takes

A pattern is refused when the automata built from it would take more than `sizeLimit` bytes.
Two automata are built from the shape of a pattern, one reading forwards with a state at the
start and the end of each capturing group (the whole pattern being a group too), and one
reading backwards without them; each must stay within the limit. This module counts what the
builder of those automata adds, state by state, and stops as soon as the count passes the
limit.

Every state takes `stateBytes` bytes. On top of that, a state reading one of several byte
ranges takes 8 bytes per range, and a state branching to several states takes 4 bytes per
branch, added as each branch is attached. The states are numbered in the order they are
added, and the numbers matter: the builder shares equal states through caches indexed by a
hash of the numbers.

What a shape adds:

* the empty text, an assertion, each byte of a literal: one state;
* a sequence: its parts in order (last part first when reading backwards);
* an alternation: its branches, then a branch state and an empty end state; when every branch
  is a literal, a trie of the literals instead (`TrieNode`, `buildTrie`);
* a repetition: copies of its body joined by branch states, as `repeatOf` lays out;
* a class of ASCII characters: an empty end state and a state reading its ranges;
* any other class, reading forwards: its UTF-8 byte runs (`Spans.runs`) merged into a tree of
  states from the end backwards, where a state equal to one built before for the same class
  is shared if the cache slot of its hash still holds it (`buildClassForward`);
* any other class, reading backwards: a branch state and an empty end state, then for each run
  a chain of one state per byte range, where a chain tail equal to one built before for the
  same class is shared if its cache slot still holds it (`buildClassBackward`).

A pattern that is not anchored at the start (at the end, reading backwards) is preceded by a
loop over any byte.

Main definitions: `Builder`, `Shape.build`, `Shape.fitsBoth`.
-/

namespace ContentSync.Regex

/-- The most bytes the automata of a pattern may take. -/
def sizeLimit : Nat := 10485760

/-- The bytes of a state before its transitions. -/
def stateBytes : Nat := 32

/-- A transition of a state of a class: a byte range and the state it leads to. -/
structure Edge where
  lo : Nat
  hi : Nat
  next : Nat
deriving DecidableEq, Inhabited, Repr

/-- A slot of the cache of class states: when it was filled, the transitions of the state,
and the state's number. -/
structure NodeSlot where
  version : Nat
  key : Array Edge
  id : Nat
deriving Inhabited

/-- A slot of the cache of chain tails: when it was filled, the state the chain continues to,
the byte range, and the number of the state reading it. -/
structure TailSlot where
  version : Nat
  key : Nat × Nat × Nat
  id : Nat
deriving Inhabited

/-- The number of slots of the cache of class states. -/
def nodeSlotCount : Nat := 10000

/-- The number of slots of the cache of chain tails. -/
def tailSlotCount : Nat := 1000

/-- Versions of a cache count modulo this; on wrapping round, the cache is emptied. -/
def versionCount : Nat := 65536

/-- The builder as it goes: the states added, the bytes beyond `stateBytes` per state, the
direction, and the two caches with their current versions. -/
structure Builder where
  states : Nat
  extra : Nat
  backward : Bool
  nodeSlots : Array NodeSlot
  nodeVersion : Nat
  tailSlots : Array TailSlot
  tailVersion : Nat

/-- A builder with nothing added yet. -/
def Builder.initial (backward : Bool) : Builder :=
  { states := 0, extra := 0, backward, nodeSlots := #[], nodeVersion := 0, tailSlots := #[],
    tailVersion := 0 }

/-- The bytes the states added so far take. -/
def Builder.bytes (b : Builder) : Nat :=
  stateBytes * b.states + b.extra

/-- Building with a builder; failing means the limit was passed. -/
abbrev BuildM := StateT Builder (Except Unit)

/-- Fails when the builder has passed the limit. -/
def checkLimit (b : Builder) : Except Unit (Unit × Builder) :=
  if sizeLimit < b.bytes then .error () else .ok ((), b)

/-- Adds a state taking `extra` bytes beyond `stateBytes`; gives its number. -/
def addState (extra : Nat) : BuildM Nat := fun b =>
  let id := b.states
  match checkLimit { b with states := b.states + 1, extra := b.extra + extra } with
  | .ok (_, b) => .ok (id, b)
  | .error e => .error e

/-- Attaches a branch to a branch state. -/
def addBranch : BuildM Unit := fun b =>
  checkLimit { b with extra := b.extra + 4 }

/-- Attaches the next state to the end of a piece: a branch if that end is a branch state. -/
def attachAfter (endBranches : Bool) : BuildM Unit :=
  if endBranches then addBranch else pure ()

/-- A built piece: its first state, its last state, and whether the last state is a branch
state (attaching to it adds a branch). -/
structure Piece where
  start : Nat
  finish : Nat
  endBranches : Bool

/-- A piece of one plain state. -/
def plainPiece : BuildM Piece := do
  let id ← addState 0
  return { start := id, finish := id, endBranches := false }

/-! ## Caches -/

/-- One step of the FNV-1a hash over words. -/
def fnvMix (h : UInt64) (x : Nat) : UInt64 :=
  (h ^^^ x.toUInt64) * 1099511628211

/-- The starting value of the FNV-1a hash. -/
def fnvStart : UInt64 := 14695981039346656037

/-- The cache slot of a class state with the given transitions. -/
def nodeSlotOf (key : Array Edge) : Nat :=
  (key.foldl (fun h e => fnvMix (fnvMix (fnvMix h e.lo) e.hi) e.next) fnvStart).toNat %
    nodeSlotCount

/-- The cache slot of a chain tail. -/
def tailSlotOf (key : Nat × Nat × Nat) : Nat :=
  (fnvMix (fnvMix (fnvMix fnvStart key.1) key.2.1) key.2.2).toNat % tailSlotCount

/-- Starts a new version of the cache of class states: the first time the slots are made,
and when the version wraps round they are made afresh. -/
def resetNodes : BuildM Unit := modify fun b =>
  if b.nodeSlots.isEmpty then { b with nodeSlots := Array.replicate nodeSlotCount default }
  else
    let v := (b.nodeVersion + 1) % versionCount
    if v = 0 then { b with nodeSlots := Array.replicate nodeSlotCount default, nodeVersion := 0 }
    else { b with nodeVersion := v }

/-- Starts a new version of the cache of chain tails. -/
def resetTails : BuildM Unit := modify fun b =>
  if b.tailSlots.isEmpty then { b with tailSlots := Array.replicate tailSlotCount default }
  else
    let v := (b.tailVersion + 1) % versionCount
    if v = 0 then { b with tailSlots := Array.replicate tailSlotCount default, tailVersion := 0 }
    else { b with tailVersion := v }

/-- The state the cache holds for transitions, if it holds one. -/
def Builder.cachedNode (b : Builder) (slot : Nat) (key : Array Edge) : Option Nat :=
  match b.nodeSlots[slot]? with
  | some s => if s.version = b.nodeVersion ∧ s.key = key then some s.id else none
  | none => none

/-- The state the cache holds for a chain tail, if it holds one. -/
def Builder.cachedTail (b : Builder) (slot : Nat) (key : Nat × Nat × Nat) : Option Nat :=
  match b.tailSlots[slot]? with
  | some s => if s.version = b.tailVersion ∧ s.key = key then some s.id else none
  | none => none

/-- The state for the given transitions: the cached one, or a new one put in the cache. -/
def nodeFor (key : Array Edge) : BuildM Nat := do
  let slot := nodeSlotOf key
  match (← get).cachedNode slot key with
  | some id => return id
  | none =>
    let id ← addState (8 * key.size)
    modify fun b => { b with
      nodeSlots := b.nodeSlots.setIfInBounds slot { version := b.nodeVersion, key, id } }
    return id

/-- The state reading `lo`–`hi` before continuing to `next`: the cached one, or a new one put
in the cache. -/
def tailFor (next lo hi : Nat) : BuildM Nat := do
  let key := (next, lo, hi)
  let slot := tailSlotOf key
  match (← get).cachedTail slot key with
  | some id => return id
  | none =>
    let id ← addState 0
    modify fun b => { b with
      tailSlots := b.tailSlots.setIfInBounds slot { version := b.tailVersion, key, id } }
    return id

/-! ## Classes -/

/-- A state of the tree of a class not yet built: its transitions so far and the byte range
of its last transition, whose target is not known yet. -/
structure Pending where
  edges : Array Edge
  last : Option (Nat × Nat)
deriving Inhabited

/-- The transitions of a pending state, its last one leading to `next`. -/
def Pending.close (p : Pending) (next : Nat) : Array Edge :=
  match p.last with
  | some (lo, hi) => p.edges.push { lo, hi, next }
  | none => p.edges

/-- Builds the `count` innermost pending states, innermost first, each leading to the one
built before it and the first to `next`; the state left innermost gets its last transition
to the last one built. -/
def closePending (next : Nat) : Nat → Array Pending → BuildM (Array Pending)
  | 0, pending =>
    return pending.modify (pending.size - 1) fun p => { edges := p.close next, last := none }
  | count + 1, pending => do
    let id ← nodeFor (pending.back?.getD default |>.close next)
    closePending id count pending.pop

/-- How many leading pending states have a last transition equal to the run's byte range at
their depth; the rest of the run is new. -/
def sharedDepth (pending : Array Pending) (run : ByteRun) : Nat :=
  ((pending.toList.zip run).takeWhile fun (p, r) => p.last = some r).length

/-- Adds a byte run to the pending tree of a class whose end state is `target`: the pending
states below the part it shares are built, and the rest of the run becomes pending. -/
def addRun (target : Nat) (pending : Array Pending) (run : ByteRun) :
    BuildM (Array Pending) := do
  let depth := sharedDepth pending run
  let pending ← closePending target (pending.size - (depth + 1)) pending
  let rest := run.drop depth
  match rest with
  | [] => return pending
  | first :: more =>
    let pending := pending.modify (pending.size - 1) fun p => { p with last := some first }
    return more.foldl (fun acc r => acc.push { edges := #[], last := some r }) pending

/-- Builds a class reading forwards from its byte runs. -/
def buildClassForward (runs : List ByteRun) : BuildM Piece := do
  let target ← addState 0
  resetNodes
  let pending ← runs.foldlM (addRun target) #[{ edges := #[], last := none }]
  let pending ← closePending target (pending.size - 1) pending
  let start ← nodeFor (pending[0]?.getD default).edges
  return { start, finish := target, endBranches := false }

/-- Builds the chain of a byte run reading backwards, from its first byte range to its last,
each continuing to the one before; gives the state of the last range. -/
def chainFor (next : Nat) : ByteRun → BuildM Nat
  | [] => pure next
  | (lo, hi) :: rest => do
    let id ← tailFor next lo hi
    chainFor id rest

/-- Builds a class reading backwards from its byte runs. -/
def buildClassBackward (runs : List ByteRun) : BuildM Piece := do
  resetTails
  let branch ← addState 0
  let finish ← addState 0
  for run in runs do
    let _ ← chainFor finish run
    addBranch
  return { start := branch, finish, endBranches := false }

/-- Builds a class from its spans and their byte runs. -/
def buildClass (spans : Spans) (runs : List ByteRun) : BuildM Piece := do
  let ascii : Bool := match spans.getLast? with
    | some r => decide (r.2 ≤ 0x7F)
    | none => true
  if ascii then
    let finish ← addState 0
    let start ← addState (8 * spans.length)
    return { start, finish, endBranches := false }
  else if (← get).backward then buildClassBackward runs
  else buildClassForward runs

/-! ## Tries of literals -/

/-- A state of a trie of literals: its transitions as a byte and a state, and its chunks, the
ranges of transitions closed by a match, the transitions after the last chunk being open. -/
structure TrieNode where
  edges : Array (Nat × Nat)
  chunks : Array (Nat × Nat)
deriving Inhabited

/-- Where the open transitions of a trie state begin. -/
def TrieNode.openStart (n : TrieNode) : Nat :=
  match n.chunks.back? with
  | some (_, e) => e
  | none => 0

/-- Marks a trie state as matching: its open transitions become a closed chunk, unless it has
no transitions and is matching already. -/
def TrieNode.addMatch (n : TrieNode) : TrieNode :=
  if n.edges.isEmpty ∧ !n.chunks.isEmpty then n
  else { n with chunks := n.chunks.push (n.openStart, n.edges.size) }

/-- The place among the open transitions of a trie state, from `i` on, of the first
transition on a byte not below `byte`. -/
def openPlace (edges : Array (Nat × Nat)) (byte : Nat) (i : Nat) : Nat :=
  if h : i < edges.size then
    if edges[i].1 < byte then openPlace edges byte (i + 1) else i
  else i
termination_by edges.size - i

/-- Follows the open transition of a trie state on a byte, adding a new state if there is
none; gives the trie and the state reached. -/
def stepTrie (trie : Array TrieNode) (source byte : Nat) : Array TrieNode × Nat :=
  let node := trie[source]?.getD default
  let place := openPlace node.edges byte node.openStart
  match node.edges[place]? with
  | some (b, next) =>
    if b = byte then (trie, next)
    else
      let next := trie.size
      let edges := (node.edges.extract 0 place).push (byte, next) ++
        node.edges.extract place node.edges.size
      ((trie.setIfInBounds source { node with edges }).push default, next)
  | none =>
    let next := trie.size
    ((trie.setIfInBounds source { node with edges := node.edges.push (byte, next) }).push default,
      next)

/-- Adds a literal to a trie. -/
def addLiteral (trie : Array TrieNode) (bytes : List Nat) : Array TrieNode :=
  let (trie, last) := bytes.foldl (fun (t, here) b => stepTrie t here b) (trie, 0)
  trie.modify last TrieNode.addMatch

/-- The chunks of a trie state in order, the open transitions last. -/
def TrieNode.chunkList (n : TrieNode) : List (Array (Nat × Nat)) :=
  n.chunks.toList.map (fun c => n.edges.extract c.1 c.2) ++
    [n.edges.extract n.openStart n.edges.size]

/-- Builds the states of a trie state, its children first, depth first; a transition to a
state without transitions goes to `finish`. Each chunk is one state reading its bytes, and a
branch state joins the chunks, with `finish` between them as a match. `fuel` bounds the depth,
which the number of trie states bounds. Gives the branch state. -/
def buildTrieNode (trie : Array TrieNode) (finish : Nat) : Nat → Nat → BuildM Nat
  | 0, _ => pure finish
  | fuel + 1, id => do
    let node := trie[id]?.getD default
    let mut branches := 0
    let mut first := true
    for chunk in node.chunkList do
      if !first then branches := branches + 1
      first := false
      for (_, child) in chunk do
        if !(trie[child]?.getD default).edges.isEmpty then
          let _ ← buildTrieNode trie finish fuel child
      if chunk.size = 1 then
        let _ ← addState 0
        branches := branches + 1
      else if 1 < chunk.size then
        let _ ← addState (8 * chunk.size)
        branches := branches + 1
    addState (4 * branches)

/-- Builds an alternation of literals as a trie, the bytes of each literal read in the
building direction. -/
def buildTrie (literals : List (List Nat)) : BuildM Piece := do
  let backward := (← get).backward
  let trie := literals.foldl
    (fun t bytes => addLiteral t (if backward then bytes.reverse else bytes)) #[default]
  let finish ← addState 0
  let start ← buildTrieNode trie finish trie.size 0
  return { start, finish, endBranches := false }

/-! ## Sequences, alternatives and repetitions -/

/-- Builds `count` more copies of a piece after `acc`, each attached to the one before. -/
def copiesAfter (part : BuildM Piece) : Nat → Piece → BuildM Piece
  | 0, acc => pure acc
  | count + 1, acc => fun b =>
    match part b with
    | .error e => .error e
    | .ok (q, b) =>
      match attachAfter acc.endBranches b with
      | .error e => .error e
      | .ok (_, b) =>
        let joined : Piece :=
          { start := acc.start, finish := q.finish, endBranches := q.endBranches }
        copiesAfter part count joined b

/-- Builds `count` copies of a piece one after another; none is an empty state. -/
def exactly (part : BuildM Piece) : Nat → BuildM Piece
  | 0 => plainPiece
  | count + 1 => do
    let first ← part
    copiesAfter part count first

/-- Builds pieces one after another, in reverse order when reading backwards. -/
def sequenceOf (parts : List (BuildM Piece)) : BuildM Piece := do
  let parts := if (← get).backward then parts.reverse else parts
  match parts with
  | [] => plainPiece
  | first :: rest =>
    let p ← first
    rest.foldlM (fun acc part => do
      let q ← part
      attachAfter acc.endBranches
      return { start := acc.start, finish := q.finish, endBranches := q.endBranches }) p

/-- Builds alternatives: the branches, then a branch state and an end state; one alternative
is itself, none is a failing state. -/
def choiceOf (parts : List (BuildM Piece)) : BuildM Piece :=
  match parts with
  | [] => plainPiece
  | [p] => p
  | p₁ :: p₂ :: rest => do
    let first ← p₁
    let second ← p₂
    let branch ← addState 0
    let finish ← addState 0
    addBranch
    attachAfter first.endBranches
    addBranch
    attachAfter second.endBranches
    for part in rest do
      let q ← part
      addBranch
      attachAfter q.endBranches
    return { start := branch, finish, endBranches := false }

/-- Builds an optional piece: a branch state, the piece, an end state. -/
def zeroOrOne (part : BuildM Piece) : BuildM Piece := do
  let branch ← addState 0
  let p ← part
  let finish ← addState 0
  addBranch
  addBranch
  attachAfter p.endBranches
  return { start := branch, finish, endBranches := false }

/-- Builds at least `min` copies of a piece; `nonEmpty` tells whether the piece matches only
non-empty texts. -/
def atLeast (part : BuildM Piece) (nonEmpty : Bool) : Nat → BuildM Piece
  | 0 =>
    if nonEmpty then do
      let branch ← addState 0
      let p ← part
      addBranch
      attachAfter p.endBranches
      return { start := branch, finish := branch, endBranches := true }
    else do
      let p ← part
      let _ ← addState 0
      attachAfter p.endBranches
      addBranch
      let start ← addState 0
      let finish ← addState 0
      addBranch
      addBranch
      addBranch
      return { start, finish, endBranches := false }
  | 1 => do
    let p ← part
    let again ← addState 0
    attachAfter p.endBranches
    addBranch
    return { start := p.start, finish := again, endBranches := true }
  | min + 2 => do
    let front ← exactly part (min + 1)
    let last ← part
    let again ← addState 0
    attachAfter front.endBranches
    attachAfter last.endBranches
    addBranch
    return { start := front.start, finish := again, endBranches := true }

/-- Builds `count` optional copies after `prev`, each behind a branch state that may skip to
the end state `finish`; gives the end of the last copy. -/
def optionalCopies (part : BuildM Piece) (finish : Nat) : Nat → Piece → BuildM Piece
  | 0, prev => pure prev
  | count + 1, prev => fun b =>
    match (do
      let _ ← addState 0
      let q ← part
      attachAfter prev.endBranches
      addBranch
      addBranch
      return q : BuildM Piece) b with
    | .error e => .error e
    | .ok (q, b) => optionalCopies part finish count q b

/-- Builds from `min` to `max` copies of a piece, `min` below `max`. -/
def bounded (part : BuildM Piece) (min max : Nat) : BuildM Piece := do
  let front ← exactly part min
  let finish ← addState 0
  let last ← optionalCopies part finish (max - min) front
  attachAfter last.endBranches
  return { start := front.start, finish, endBranches := false }

/-- Builds a repetition of a piece. -/
def repeatOf (part : BuildM Piece) (nonEmpty : Bool) (min : Nat) (max : Option Nat) :
    BuildM Piece :=
  match min, max with
  | 0, some 1 => zeroOrOne part
  | min, none => atLeast part nonEmpty min
  | min, some max => if min = max then exactly part min else bounded part min max

/-- The bytes of branches that are all literals. -/
def literalBranches : List Shape → Option (List (List Nat))
  | [] => some []
  | .literal bytes :: rest => do
    let more ← literalBranches rest
    return bytes :: more
  | _ => none

mutual
/-- Builds the states of a shape. -/
def Shape.build : Shape → BuildM Piece
  | .empty | .look _ => plainPiece
  | .literal bytes => exactly plainPiece bytes.length
  | .chars spans =>
    -- the runs are worked out once, however often the class is built
    let runs := spans.runs
    buildClass spans runs
  | .capture body => do
    if (← get).backward then body.build
    else
      let start ← addState 0
      let inner ← body.build
      let finish ← addState 0
      attachAfter inner.endBranches
      return { start, finish, endBranches := false }
  | .concat parts => sequenceOf (Shape.buildEach parts)
  | .alternation branches =>
    match literalBranches branches with
    | some literals => buildTrie literals
    | none => choiceOf (Shape.buildEach branches)
  | .repetition body min max _ =>
    repeatOf body.build (match body.minLen with | some n => 0 < n | none => false) min max

/-- The builds of shapes. -/
def Shape.buildEach : List Shape → List (BuildM Piece)
  | [] => []
  | s :: rest => s.build :: Shape.buildEach rest
end

/-- Builds a loop over any byte, which an unanchored pattern starts with. -/
def anyBytes : BuildM Piece := do
  let branch ← addState 0
  let _ ← addState 0
  let _ ← addState 8
  addBranch
  return { start := branch, finish := branch, endBranches := true }

/-- Builds the automaton of a whole pattern: the loop over any byte unless the pattern is
anchored, the pattern as a capturing group, and the matching state. -/
def Shape.buildWhole (s : Shape) : BuildM Unit := do
  let backward := (← get).backward
  let anchored := if backward then s.endsAnchored else s.startsAnchored
  let front ← if anchored then plainPiece else anyBytes
  let whole ← (Shape.capture s).build
  let _ ← addState 0
  attachAfter whole.endBranches
  attachAfter front.endBranches

/-- Whether the automaton of a shape in one direction stays within the limit. -/
def Shape.fits (s : Shape) (backward : Bool) : Bool :=
  match s.buildWhole.run (Builder.initial backward) with
  | .ok _ => true
  | .error _ => false

/-- Whether both automata of a shape stay within the limit. -/
def Shape.fitsBoth (s : Shape) : Bool :=
  s.fits false && s.fits true

end ContentSync.Regex
