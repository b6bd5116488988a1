import ContentSync.Property
import ContentSync.Path
import ContentSync.Name.Known

/-!
# Content nodes

A content node has a name (empty for the root), a primary type, mixin types, properties in
repository order and children in repository order. Lookups by name take the first match, so
the order of properties and children is what decides.

A staged tree is a detached copy used to prepare a change of the version storage before it
is committed in one step. Its nodes may still lack a primary type, and each remembers
whether it was created in the staged tree; building it gives untyped nodes the type
`nt:unstructured`.

Main definitions: `Node`, `Node.descendant?`, `Node.modifyAt`, `Node.same`, `Staged`.
-/

namespace ContentSync

/-- A repository node with its properties and ordered children. -/
structure Node where
  name : String
  primaryType : String
  mixins : List String
  properties : List Property
  children : List Node
deriving Repr, Inhabited

/-- Replaces the first property named like `p` by `p`, or appends `p`. -/
def setPropertyIn (p : Property) : List Property → List Property
  | [] => [p]
  | q :: rest => if q.name = p.name then p :: rest else q :: setPropertyIn p rest

/-- Removes the first property called `name`. -/
def removePropertyIn (name : String) : List Property → List Property
  | [] => []
  | q :: rest => if q.name = name then rest else q :: removePropertyIn name rest

/-- The first property called `name`. -/
def findProperty? (name : String) (ps : List Property) : Option Property :=
  ps.find? (·.name = name)

namespace Node

/-- A node without mixins, properties or children. -/
def empty (name primaryType : String) : Node :=
  { name, primaryType, mixins := [], properties := [], children := [] }

/-- Whether the node has `t` as primary type or as a mixin. -/
def isNodeType (n : Node) (t : String) : Bool :=
  n.primaryType = t || n.mixins.contains t

/-- The first property called `name`. -/
def property? (n : Node) (name : String) : Option Property :=
  findProperty? name n.properties

/-- The stable identifier: the text of `jcr:uuid` when it is a textual value. -/
def identifier? (n : Node) : Option String :=
  (n.property? Known.uuid).bind fun p => p.first?.bind Value.textual?

/-- Sets a property, replacing one of the same name in place. -/
def setProperty (n : Node) (p : Property) : Node :=
  { n with properties := setPropertyIn p n.properties }

/-- Removes the property called `name`, if there is one. -/
def removeProperty (n : Node) (name : String) : Node :=
  { n with properties := removePropertyIn name n.properties }

/-- The first child called `name`. -/
def child? (n : Node) (name : String) : Option Node :=
  n.children.find? (·.name = name)

/-- Whether there is a child called `name`. -/
def hasChild (n : Node) (name : String) : Bool :=
  n.children.any (·.name = name)

/-- The descendant reached by following `names` from this node. -/
def descendAlong (n : Node) : List String → Option Node
  | [] => some n
  | name :: rest => (n.child? name).bind fun c => c.descendAlong rest

/-- The descendant at a relative or absolute path; empty segments are skipped. -/
def descendant? (n : Node) (path : String) : Option Node :=
  n.descendAlong (Path.segments path)

mutual
/-- Applies `f` to the descendant reached along `names`; `none` if there is none. -/
def modifyAlong (f : Node → Node) : Node → List String → Option Node
  | n, [] => some (f n)
  | ⟨n, t, m, ps, children⟩, name :: rest =>
    (modifyChild f name rest children).map fun cs => ⟨n, t, m, ps, cs⟩

/-- Applies `modifyAlong` to the first child called `name` in `cs`. -/
def modifyChild (f : Node → Node) (name : String) (rest : List String) :
    List Node → Option (List Node)
  | [] => none
  | c :: cs =>
    if c.name = name then (modifyAlong f c rest).map (· :: cs)
    else (modifyChild f name rest cs).map (c :: ·)
end

/-- Applies `f` to the descendant at `path`; `none` if there is none. -/
def modifyAt (n : Node) (path : String) (f : Node → Node) : Option Node :=
  modifyAlong f n (Path.segments path)

/-- Removes the first child called `name`; `none` if there is none. -/
def removeChild? (n : Node) (name : String) : Option Node :=
  match n.children.findIdx? (·.name = name) with
  | some i => some { n with children := n.children.eraseIdx i }
  | none => none

/-- Replaces the first child called `c.name` by `c`, or appends `c`. -/
def putChild (n : Node) (c : Node) : Node :=
  let rec go : List Node → List Node
    | [] => [c]
    | d :: ds => if d.name = c.name then c :: ds else d :: go ds
  { n with children := go n.children }

mutual
/-- The number of nodes in the subtree, this node included. -/
def subtreeSize : Node → Nat
  | ⟨_, _, _, _, children⟩ => 1 + forestSize children

/-- The number of nodes in a list of subtrees. -/
def forestSize : List Node → Nat
  | [] => 0
  | c :: cs => subtreeSize c + forestSize cs
end

mutual
/-- Whether two trees are the same: names, types, mixins, properties under
`Property.same`, and children, all in order. -/
def same : Node → Node → Bool
  | ⟨n1, t1, m1, p1, c1⟩, ⟨n2, t2, m2, p2, c2⟩ =>
    n1 == n2 && t1 == t2 && m1 == m2 && samePropertyLists p1 p2 && sameForests c1 c2

/-- Whether two lists of trees are pairwise the same. -/
def sameForests : List Node → List Node → Bool
  | [], [] => true
  | a :: as, b :: bs => same a b && sameForests as bs
  | _, _ => false
end

end Node

/-- A node of a staged tree: its type may still be missing, and `fresh` marks a node created
in the staged tree rather than copied into it. -/
structure Staged where
  name : String
  primaryType : Option String
  mixins : List String
  properties : List Property
  children : List Staged
  fresh : Bool
deriving Repr, Inhabited

namespace Staged

/-- A fresh staged node without a type. -/
def blank (name : String) : Staged :=
  { name, primaryType := none, mixins := [], properties := [], children := [], fresh := true }

mutual
/-- A staged copy of an existing tree. -/
def ofNode : Node → Staged
  | ⟨name, primaryType, mixins, properties, children⟩ =>
    { name, primaryType := some primaryType, mixins, properties,
      children := ofNodes children, fresh := false }

/-- Staged copies of a list of trees. -/
def ofNodes : List Node → List Staged
  | [] => []
  | n :: ns => ofNode n :: ofNodes ns
end

mutual
/-- The tree a staged one stands for; nodes without a type become `nt:unstructured`. -/
def build : Staged → Node
  | ⟨name, primaryType, mixins, properties, children, _⟩ =>
    { name, primaryType := primaryType.getD Known.ntUnstructured, mixins, properties,
      children := buildAll children }

/-- The trees of a list of staged ones. -/
def buildAll : List Staged → List Node
  | [] => []
  | s :: ss => build s :: buildAll ss
end

/-- The first child called `name`. -/
def child? (s : Staged) (name : String) : Option Staged :=
  s.children.find? (·.name = name)

/-- Sets a property, replacing one of the same name in place. -/
def setProperty (s : Staged) (p : Property) : Staged :=
  { s with properties := setPropertyIn p s.properties }

/-- The first property called `name`. -/
def property? (s : Staged) (name : String) : Option Property :=
  findProperty? name s.properties

/-- Gives a fresh node the type `t`; a node copied into the staged tree keeps its own. -/
def typeIfFresh (s : Staged) (t : String) : Staged :=
  if s.fresh then { s with primaryType := some t } else s

/-- Updates the first child called `name` with `f`, creating a blank one at the end if
there is none; returns what `f` returns. -/
def withChild (s : Staged) (name : String) (f : Staged → Staged × α) : Staged × α :=
  let rec go : List Staged → List Staged × α
    | [] => let (c, a) := f (blank name); ([c], a)
    | d :: ds =>
      if d.name = name then let (c, a) := f d; (c :: ds, a)
      else let (rest, a) := go ds; (d :: rest, a)
  let (cs, a) := go s.children
  ({ s with children := cs }, a)

/-- Updates the first child called `name` in place; nothing happens if there is none. -/
def modifyChild (s : Staged) (name : String) (f : Staged → Staged) : Staged :=
  let rec go : List Staged → List Staged
    | [] => []
    | d :: ds => if d.name = name then f d :: ds else d :: go ds
  { s with children := go s.children }

end Staged

end ContentSync
