import ContentSync.Repository

/-!
# Access control content

Access control policies are child nodes of type `rep:ACL` or `rep:CugPolicy` below nodes with
the mixin `rep:AccessControllable`. They are never removed like ordinary content: an import
decides by its `AccessControlHandling` what happens to them.

Main definitions: `AccessControlHandling`, `isAclNode`, `RepoM.clearAcl`.
-/

namespace ContentSync

/-- What an import does with access control content. -/
inductive AccessControlHandling where
  /-- Replace existing policies with the imported ones. -/
  | overwrite
  /-- Remove existing policies. -/
  | clear
  /-- Leave existing policies untouched. -/
  | ignore
  /-- Merge imported policies into existing ones. -/
  | merge
deriving DecidableEq, Repr, Inhabited

namespace AccessControlHandling

/-- The lower-case name of a handling, as configuration files spell it. -/
def key : AccessControlHandling → String
  | .overwrite => "overwrite"
  | .clear => "clear"
  | .ignore => "ignore"
  | .merge => "merge"

/-- The capitalised name of a handling. -/
def title : AccessControlHandling → String
  | .overwrite => "Overwrite"
  | .clear => "Clear"
  | .ignore => "Ignore"
  | .merge => "Merge"

/-- All handlings, in declaration order. -/
def all : List AccessControlHandling := [.overwrite, .clear, .ignore, .merge]

/-- The handling spelled `key`. -/
def ofKey? (k : String) : Option AccessControlHandling :=
  all.find? (·.key = k)

/-- Whether existing policies are removed under this handling. -/
def removesExisting : AccessControlHandling → Bool
  | .overwrite | .clear => true
  | _ => false

/-- Reads a handling from its name in any case of ASCII letters. -/
def parse (s : String) : Except String AccessControlHandling :=
  let lower := String.ofList (s.toList.map Char.toLower)
  match ofKey? lower with
  | some h => .ok h
  | none => .error s!"unknown access control handling '{lower}'"

end AccessControlHandling

/-- Whether a node is an access control policy. -/
def isAclNode (n : Node) : Bool :=
  n.isNodeType Known.repAcl || n.isNodeType Known.repCugPolicy

/-- Removes every access control policy of the node at `path`, and its mixin
`rep:AccessControllable` if it has it. -/
def RepoM.clearAcl (path : String) : RepoM Unit := do
  let n ← RepoM.requireNode path
  let policies := (n.children.filter isAclNode).map fun c => Path.join path c.name
  for policy in policies do
    RepoM.removeNode policy
  if n.mixins.contains Known.repAccessControllable then
    RepoM.setMixins path (n.mixins.filter (· ≠ Known.repAccessControllable))

end ContentSync
