/-!
# Well-known item names

The names of properties, nodes and node types that the repository and the content files give
a fixed meaning, and the namespace declarations written on every serialized root element.
-/

namespace ContentSync.Known

/-- The property naming a node's primary type. -/
def primaryType : String := "jcr:primaryType"
/-- The property listing a node's mixin types. -/
def mixinTypes : String := "jcr:mixinTypes"
/-- The property holding a node's stable identifier. -/
def uuid : String := "jcr:uuid"
/-- The child holding a file's content. -/
def content : String := "jcr:content"
/-- The creation date of a version. -/
def created : String := "jcr:created"
/-- The references of a version to its predecessors. -/
def predecessors : String := "jcr:predecessors"
/-- The references of a version to its successors. -/
def successors : String := "jcr:successors"
/-- The identifier of the node a version history belongs to. -/
def versionableUuid : String := "jcr:versionableUuid"
/-- The child of a version history holding its labels. -/
def versionLabels : String := "jcr:versionLabels"
/-- The first version of every history. -/
def rootVersion : String := "jcr:rootVersion"
/-- The child of a version holding the frozen copy of the node. -/
def frozenNode : String := "jcr:frozenNode"
/-- The identifier of the node a frozen copy was taken from. -/
def frozenUuid : String := "jcr:frozenUuid"
/-- The primary type of the node a frozen copy was taken from. -/
def frozenPrimaryType : String := "jcr:frozenPrimaryType"
/-- The mixin types of the node a frozen copy was taken from. -/
def frozenMixinTypes : String := "jcr:frozenMixinTypes"
/-- The system node below the root. -/
def system : String := "jcr:system"
/-- The version storage below the system node. -/
def versionStorage : String := "jcr:versionStorage"
/-- The absolute path of the version storage. -/
def versionStoragePath : String := "/jcr:system/jcr:versionStorage"

/-- The type of nodes without a fixed structure. -/
def ntUnstructured : String := "nt:unstructured"
/-- The type of folders. -/
def ntFolder : String := "nt:folder"
/-- The type of version histories. -/
def ntVersionHistory : String := "nt:versionHistory"
/-- The type of versions. -/
def ntVersion : String := "nt:version"
/-- The type of the label node of a history. -/
def ntVersionLabels : String := "nt:versionLabels"
/-- The type of frozen copies. -/
def ntFrozenNode : String := "nt:frozenNode"
/-- The mixin of versionable nodes. -/
def mixVersionable : String := "mix:versionable"
/-- The mixin of referenceable nodes. -/
def mixReferenceable : String := "mix:referenceable"
/-- The type of the repository root. -/
def repRoot : String := "rep:root"
/-- The type of the system node. -/
def repSystem : String := "rep:system"
/-- The type of the version storage and its buckets. -/
def repVersionStorage : String := "rep:versionStorage"
/-- The type of access control lists. -/
def repAcl : String := "rep:ACL"
/-- The type of closed user group policies. -/
def repCugPolicy : String := "rep:CugPolicy"
/-- The mixin of nodes that carry access control policies. -/
def repAccessControllable : String := "rep:AccessControllable"

/-- The reserved attribute carrying a node's own name in content files. -/
def nodeNameAttribute : String := "vlt:nodename"
/-- The root element of a versions file. -/
def versionsElement : String := "vlt:versions"
/-- The attribute of a versions file naming the aggregate path. -/
def versionsPathAttribute : String := "path"
/-- The namespace of the content file items. -/
def vaultNamespace : String := "http://www.day.com/jcr/vault/1.0"

/-- The namespace declarations written on every serialized root element, in order. -/
def namespaceDeclarations : List (String × String) :=
  [("xmlns:jcr", "http://www.jcp.org/jcr/1.0"),
   ("xmlns:nt", "http://www.jcp.org/jcr/nt/1.0"),
   ("xmlns:mix", "http://www.jcp.org/jcr/mix/1.0"),
   ("xmlns:rep", "internal"),
   ("xmlns:vlt", vaultNamespace)]

end ContentSync.Known
