import ContentSync.Repository

/-!
# Replacing a node while rescuing its children

Replacing the content of a node must not lose the children that the new content does not
mention. The rescue works in three steps:

1. `begin` moves every child of the target into a fresh scratch node below the root;
2. the new content is streamed in with `startNode` and `endNode`; the first node started is
   the target itself, whose own state is replaced, and every later one is created below the
   innermost open node;
3. `finish` moves the rescued children back. Where the new content supplied a child of the
   same name, the two are merged: the supplied child keeps its own state, gains the preserved
   properties it lacks and, recursively, every rescued grandchild it does not have. The
   scratch node is removed once it is empty.

Moves that fail are skipped: such a child is not rescued, or stays in the scratch node.

Main definitions: `RescueTransformer`, `RescueTransformer.begin`, `RescueTransformer.startNode`,
`RescueTransformer.endNode`, `RescueTransformer.finish`.
-/

namespace ContentSync

/-- A replacement in progress. -/
structure RescueTransformer where
  /-- The node being replaced. -/
  target : String
  /-- The scratch node holding the rescued children. -/
  scratch : String
  /-- The names of the rescued children, in order. -/
  rescued : List String
  /-- Properties that existing nodes keep when the new content lacks them. -/
  preserved : List String
  /-- The paths of the open nodes, innermost first. -/
  stack : List String
  /-- Whether the target has been started. -/
  started : Bool
deriving DecidableEq, Repr, Inhabited

namespace RescueTransformer

/-- Moves the children of `target` into a fresh scratch node, keeping the properties named
`preserved` on merged nodes later. -/
def begin (target : String) (preserved : List String) : RepoM RescueTransformer := do
  let scratchName := "tmp-" ++ simpleIdentifierOf (← RepoM.freshNumber)
  let scratch ← RepoM.addNode "/" scratchName Known.ntUnstructured
  let names := ((← RepoM.requireNode target).children.map (·.name)).filter (· ≠ scratchName)
  let mut rescued := []
  for name in names do
    if let .ok () ← RepoM.attempt (RepoM.moveNode (Path.join target name) (Path.join scratch name)) then
      rescued := rescued ++ [name]
  return { target, scratch, rescued, preserved, stack := [], started := false }

/-- Replaces the target's own state by that of `new`: types, properties (the preserved ones
stay unless `new` has them), and removes its children other than the scratch node. -/
def replaceTarget (t : RescueTransformer) (new : Node) : RepoM Unit := do
  RepoM.setPrimaryType t.target new.primaryType
  RepoM.setMixins t.target new.mixins
  let existing ← RepoM.requireNode t.target
  let stale := (existing.properties.map (·.name)).filter fun n =>
    (new.property? n).isNone && !t.preserved.contains n
  let scratchName := Path.name t.scratch
  let leftover := (existing.children.filter (·.name ≠ scratchName)).map (Path.join t.target ·.name)
  for n in stale do
    RepoM.removeProperty t.target n
  for p in new.properties do
    RepoM.setProperty t.target p
  for c in leftover do
    RepoM.removeNode c

/-- The transformer after a start was tried: the first start claims the target, even when
replacing it then fails. -/
def attempted (t : RescueTransformer) : RescueTransformer :=
  if t.stack.isEmpty then { t with started := true } else t

/-- Applies the next node of the new content; only the node's own state is used. -/
def startNode (t : RescueTransformer) (new : Node) : RepoM RescueTransformer := do
  match t.stack with
  | [] =>
    if t.started then
      throw (.malformed s!"second root node {new.name} in replacement of {t.target}")
    replaceTarget t new
    return { t with started := true, stack := [t.target] }
  | parent :: _ =>
    let path ← RepoM.addNode parent new.name new.primaryType
    if !new.mixins.isEmpty then RepoM.setMixins path new.mixins
    for p in new.properties do
      RepoM.setProperty path p
    return { t with stack := path :: t.stack }

/-- Closes the innermost open node. -/
def endNode (t : RescueTransformer) : Except Error RescueTransformer :=
  match t.stack with
  | [] => .error (.malformed s!"unbalanced end in replacement of {t.target}")
  | _ :: rest => .ok { t with stack := rest }

/-- Moves the rescued node at `src` to `dest`, merging it into a node that is there already;
adds the paths moved back to `restored`. `fuel` bounds the depth. -/
def restore (t : RescueTransformer) : Nat → String → String → List String → RepoM (List String)
  | 0, _, _, restored => return restored
  | fuel + 1, src, dest, restored => do
    if !(← RepoM.nodeExists dest) then
      match ← RepoM.attempt (RepoM.moveNode src dest) with
      | .ok () => return restored ++ [dest]
      | .error _ => return restored
    let rescued ← RepoM.requireNode src
    let supplied ← RepoM.requireNode dest
    let kept := rescued.properties.filter fun p =>
      t.preserved.contains p.name && (supplied.property? p.name).isNone
    for p in kept do
      RepoM.setProperty dest p
    let mut restored := restored
    for c in rescued.children do
      restored ← restore t fuel (Path.join src c.name) (Path.join dest c.name) restored
    if (← RepoM.requireNode src).children.isEmpty then RepoM.removeNode src
    return restored

/-- Moves the rescued children back and removes the scratch node if it is empty; the paths
moved back. -/
def finish (t : RescueTransformer) : RepoM (List String) := do
  if !t.stack.isEmpty then
    throw (.malformed s!"replacement of {t.target} ended with {t.stack.length} open node(s)")
  let fuel := (← get).root.subtreeSize + 1
  let mut restored := []
  for name in t.rescued do
    let src := Path.join t.scratch name
    if ← RepoM.nodeExists src then
      restored ← t.restore fuel src (Path.join t.target name) restored
  if (← RepoM.requireNode t.scratch).children.isEmpty then RepoM.removeNode t.scratch
  return restored

end RescueTransformer

end ContentSync
