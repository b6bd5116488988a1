import ContentSync.Proofs.DocViewReadBack
import ContentSync.Proofs.UpToDateCheck

/-!
# What a version document carries

The version document of a history wraps the history node, written in full as in a content
document, in a `vlt:versions` element: every node is one element whose tag is its escaped
primary type and whose attributes are its types in typed text, each property under its escaped
name, and its name under `vlt:nodename`. Such an element is writable whenever the keys it gets
are markup names and distinct (`Node.KeysWritable`); it needs no namespace-free names, since
the reader leaves out the properties whose escaped names read as namespace declarations
(`readElement_fullElement_false`).

The reader of version documents takes each element by the type of its node: a history, its
label nodes, its versions, and frozen content below the versions. `Node.HistoryReadable` says
what it needs of each, with `L` the condition on label names:

* a label node has no mixins and no children, and each property is a single reference under a
  name that is not empty and not a key of its own;
* a version has no mixins, exactly its identifier, a date read back to the millisecond, its
  predecessors and its successors, and below it frozen nodes only;
* a frozen node records its source's identifier and types in the forms a check-in writes them
  (`FrozenRecord`), and every other property reads back exactly under a name of no meaning to
  the reader (`Property.Carried`);
* siblings have distinct names at every level.

Main statements: `Node.Everywhere.fullElement_writable`, `readElement_fullElement_false`,
`reads_versionsDocument`.
-/

namespace ContentSync

open Xml Text ElementReader

/-! ## Keys of a node's element -/

/-- A node whose element, written below the root element, has keys that are markup names and
distinct: a primary type, property names that are not empty, distinct, and none of the keys
the element writes for the node's type and name, nor the mixins' key when it writes mixins. -/
structure Node.KeysWritable (n : Node) : Prop where
  primaryType_ne : n.primaryType ≠ ""
  name_ne : ∀ p ∈ n.properties, p.name ≠ ""
  names_nodup : (n.properties.map (·.name)).Nodup
  ne_primaryType : ∀ p ∈ n.properties, p.name ≠ Known.primaryType
  ne_nodeName : ∀ p ∈ n.properties, p.name ≠ Known.nodeNameAttribute
  ne_mixinTypes : n.mixins ≠ [] → ∀ p ∈ n.properties, p.name ≠ Known.mixinTypes

theorem reservedKeys_decoded : Name.iso9075Decode Known.primaryType = Known.primaryType ∧
    Name.iso9075Decode Known.mixinTypes = Known.mixinTypes ∧
    Name.iso9075Decode Known.nodeNameAttribute = Known.nodeNameAttribute := by
  decide +kernel

/-- The keys of a node's element are distinct: they decode to the reserved keys and the
property names, all distinct. -/
theorem Node.KeysWritable.keys_nodup {n : Node} (hn : n.KeysWritable) (v w : String) :
    (((Known.primaryType, v) :: ((if n.mixins.isEmpty then [] else [(Known.mixinTypes, w)]) ++
      ((n.properties.map fun p => (Name.iso9075Encode p.name, formatProperty p)) ++
        [(Known.nodeNameAttribute, n.name)]))).map (·.1)).Nodup := by
  apply List.Nodup.of_map Name.iso9075Decode
  obtain ⟨htype, hmixin, hname⟩ := reservedKeys_decoded
  have hreserved : Known.primaryType ≠ Known.mixinTypes ∧
      Known.primaryType ≠ Known.nodeNameAttribute ∧ Known.mixinTypes ≠ Known.nodeNameAttribute := by
    decide
  have hdecode : n.properties.map (fun p => Name.iso9075Decode (Name.iso9075Encode p.name)) =
      n.properties.map (·.name) := by
    simp [Name.iso9075Decode_iso9075Encode]
  have htp := hn.ne_primaryType
  have hnn := hn.ne_nodeName
  cases hm : n.mixins with
  | nil =>
    simp [Function.comp_def, htype, hname, hdecode, List.nodup_append, hn.names_nodup,
      hreserved]
    grind
  | cons m ms =>
    have hmt := hn.ne_mixinTypes (by simp [hm])
    simp [Function.comp_def, htype, hmixin, hname, hdecode, List.nodup_append, hn.names_nodup,
      hreserved]
    grind

/-- The element of a tree whose every node has writable keys is writable, wherever below the
root element it is written. -/
theorem Node.Everywhere.fullElement_writable {m : Node} (hm : m.Everywhere Node.KeysWritable)
    (path : String) : (fullElement false path m).Writable := by
  induction hm generalizing path with
  | intro m hself _ ih =>
    obtain ⟨name, primaryType, mixins, properties, children⟩ := m
    have hreserved := markupName_reservedKeys
    rw [fullElement, nodeElement]
    refine .intro _ (markupName_iso9075Encode hself.primaryType_ne) ?_ ?_ ?_
    · -- every key is a markup name
      intro a ha
      simp only [List.filter_true, Bool.false_eq_true, if_false, List.nil_append, List.mem_append,
        List.mem_cons, List.mem_map, List.not_mem_nil, or_false] at ha
      rcases ha with ((rfl | ha) | ⟨p, hp, rfl⟩) | rfl
      · exact hreserved _ List.mem_cons_self
      · split at ha
        · cases ha
        · rw [List.mem_singleton] at ha
          rw [ha]
          exact hreserved _ (by simp)
      · exact markupName_iso9075Encode (hself.name_ne p hp)
      · exact hreserved _ (by simp)
    · simp only [List.filter_true, Bool.false_eq_true, if_false, List.nil_append, List.append_assoc,
        List.cons_append]
      exact hself.keys_nodup _ _
    · intro c hc
      rw [childElements_full] at hc
      obtain ⟨c', hc', rfl⟩ := List.mem_map.mp hc
      exact ih c' hc' _

/-! ## Reading a node's element -/

/-- Whether the escaped name of a property reads as a namespace declaration; the reader of an
element leaves such an attribute out. -/
def Property.namespaceLike (p : Property) : Bool :=
  isNamespaceKey (Name.iso9075Encode p.name)

/-- A node without the properties whose escaped names read as namespace declarations. -/
def Node.dropNamespaceLike (n : Node) : Node :=
  { n with properties := n.properties.filter fun p => !p.namespaceLike }

theorem filterMap_keptAttribute_map (ps : List Property) :
    (ps.map fun p => (Name.iso9075Encode p.name, formatProperty p)).filterMap keptAttribute =
      (ps.filter fun p => !p.namespaceLike).map fun p => (p.name, formatProperty p) := by
  induction ps with
  | nil => rfl
  | cons p ps ih =>
    have hkept : keptAttribute (Name.iso9075Encode p.name, formatProperty p) =
        if p.namespaceLike then none else some (p.name, formatProperty p) := by
      rw [keptAttribute, Name.iso9075Decode_iso9075Encode]
      rfl
    rw [List.map_cons, List.filterMap_cons, hkept, ih]
    cases hp : p.namespaceLike <;> simp [hp]

/-- The element of a node written below the root element is read with the node's primary type
as its tag and its attributes decoded, the properties whose names read as namespace
declarations left out. -/
theorem readElement_fullElement_false (path : String) (n : Node) :
    readElement (fullElement false path n).tag (fullElement false path n).attributes =
      ⟨n.primaryType, n.dropNamespaceLike.docViewAttributes⟩ := by
  have htype := keptAttribute_of_kept (reservedKeys_kept _ List.mem_cons_self)
  have hmixins := keptAttribute_of_kept (reservedKeys_kept Known.mixinTypes (by simp))
  have hname := keptAttribute_of_kept (reservedKeys_kept Known.nodeNameAttribute (by simp))
  obtain ⟨name, primaryType, mixins, properties, children⟩ := n
  rw [fullElement, nodeElement]
  simp only [readElement, Node.docViewAttributes, Node.dropNamespaceLike,
    Name.iso9075Decode_iso9075Encode, List.filter_true, List.filterMap_append, List.filterMap_cons,
    htype, hname, filterMap_keptAttribute_map, Bool.false_eq_true, if_false, List.filterMap_nil,
    List.nil_append]
  by_cases hm : mixins.isEmpty = true <;> simp [hm, hmixins]

@[simp] theorem Node.name_dropNamespaceLike (n : Node) : n.dropNamespaceLike.name = n.name := rfl

@[simp] theorem Node.primaryType_dropNamespaceLike (n : Node) :
    n.dropNamespaceLike.primaryType = n.primaryType := rfl

@[simp] theorem Node.mixins_dropNamespaceLike (n : Node) :
    n.dropNamespaceLike.mixins = n.mixins := rfl

@[simp] theorem Node.children_dropNamespaceLike (n : Node) :
    n.dropNamespaceLike.children = n.children := rfl

theorem Node.properties_dropNamespaceLike (n : Node) :
    n.dropNamespaceLike.properties = n.properties.filter fun p => !p.namespaceLike := rfl

/-- Properties whose names are no namespace keys are all read. -/
theorem Node.dropNamespaceLike_eq_self_of_key {n : Node}
    (h : ∀ p ∈ n.properties, isNamespaceKey p.name = false) : n.dropNamespaceLike = n := by
  have hkeep : n.properties.filter (fun p => !p.namespaceLike) = n.properties :=
    List.filter_eq_self.mpr fun p hp => by
      simp [Property.namespaceLike, isNamespaceKey_iso9075Encode_of_key (h p hp)]
  rw [Node.dropNamespaceLike, hkeep]
  cases n
  rfl

/-- Properties whose names do not start with `xmlns` are all read. -/
theorem Node.dropNamespaceLike_eq_self {n : Node}
    (h : ∀ p ∈ n.properties, p.name.startsWith "xmlns" = false) : n.dropNamespaceLike = n :=
  dropNamespaceLike_eq_self_of_key fun p hp => isNamespaceKey_of_startsWith (h p hp)

/-! ## Histories a version document carries -/

/-- The properties a frozen node records of its source, in the forms a check-in writes them: its
own identifier, and its source's identifier, primary type and mixins. -/
inductive FrozenRecord : Property → Prop
  | uuid (u : String) : FrozenRecord (Property.ofString Known.uuid u)
  | frozenUuid (u : String) : FrozenRecord (Property.ofString Known.frozenUuid u)
  | frozenPrimaryType (t : String) :
      FrozenRecord (Property.single Known.frozenPrimaryType (.name t))
  | frozenMixinTypes (ts : List String) :
      FrozenRecord (Property.names Known.frozenMixinTypes ts)

/-- The keys a frozen node's element gives a meaning of their own. -/
def frozenKeys : List String :=
  [Known.primaryType, Known.mixinTypes, Known.nodeNameAttribute, Known.uuid, Known.frozenUuid,
    Known.frozenPrimaryType, Known.frozenMixinTypes]

/-- A property of checked-in content as a version document carries it: a name that escaping
writes as a markup name, that reads as no namespace declaration and has no meaning of its own in
a frozen node's element, and a typed text that reads back as the property. -/
structure Property.Carried (q : Property) : Prop where
  name_ne : q.name ≠ ""
  not_xmlns : q.name.startsWith "xmlns" = false
  not_frozenKey : q.name ∉ frozenKeys
  exact : q.Exact

/-- A frozen node as a version document carries it: a primary type, distinct property names,
each property a record of the source or carried content, and distinct child names. -/
structure Node.FrozenReadable (n : Node) : Prop where
  primaryType_ne : n.primaryType ≠ ""
  names_nodup : (n.properties.map (·.name)).Nodup
  property : ∀ q ∈ n.properties, FrozenRecord q ∨ q.Carried
  children_nodup : (n.children.map (·.name)).Nodup

/-- A label name a label element carries: not empty, and neither of the keys the element
writes for the node's type and name. -/
structure LabelKey (a : String) : Prop where
  ne_empty : a ≠ ""
  ne_primaryType : a ≠ Known.primaryType
  ne_nodeName : a ≠ Known.nodeNameAttribute

/-- A label node as a version document carries it: no mixins and no children, and each property
a single reference under a label name that satisfies `L`. -/
structure Node.LabelsReadable (L : String → Prop) (n : Node) : Prop where
  type : n.primaryType = Known.ntVersionLabels
  mixins : n.mixins = []
  children : n.children = []
  names_nodup : (n.properties.map (·.name)).Nodup
  label : ∀ q ∈ n.properties,
    L q.name ∧ LabelKey q.name ∧ ∃ u, q = Property.single q.name (.reference u)

/-- The properties of a version, in the order the repository gives them: its identifier, its
date, its predecessors and its successors. -/
def versionProperties (u : String) (t : Time.Timestamp) (preds succs : List String) :
    List Property :=
  [Property.ofString Known.uuid u, Property.single Known.created (.date t),
    Property.references Known.predecessors preds, Property.references Known.successors succs]

/-- A version as a version document carries it: no mixins, its four properties with a date the
codec reads back to the millisecond, and below it frozen nodes only, with distinct names. -/
structure Node.VersionReadable (n : Node) : Prop where
  type : n.primaryType = Known.ntVersion
  mixins : n.mixins = []
  properties : ∃ u t preds succs, t.Valid ∧ t.nanos % 1000000 = 0 ∧
    n.properties = versionProperties u t preds succs
  frozen : ∀ c ∈ n.children,
    c.primaryType = Known.ntFrozenNode ∧ c.Everywhere Node.FrozenReadable
  children_nodup : (n.children.map (·.name)).Nodup

/-- A version history as a version document carries it: a name, writable keys, its versionable
node's identifier as a text, and children that are label nodes and versions, with distinct
names. -/
structure Node.HistoryReadable (L : String → Prop) (h : Node) : Prop where
  type : h.primaryType = Known.ntVersionHistory
  name_ne : h.name ≠ ""
  keys : h.KeysWritable
  versionable : ∃ v, h.property? Known.versionableUuid =
    some (Property.ofString Known.versionableUuid v)
  child : ∀ c ∈ h.children, c.LabelsReadable L ∨ c.VersionReadable
  children_nodup : (h.children.map (·.name)).Nodup

/-- The names of a frozen node's records, each a key a frozen element reads for itself. -/
theorem FrozenRecord.name_mem {q : Property} (h : FrozenRecord q) :
    q.name ∈ [Known.uuid, Known.frozenUuid, Known.frozenPrimaryType, Known.frozenMixinTypes] := by
  cases h <;> simp [Property.ofString, Property.single, Property.names]

theorem recordNames_facts : ∀ a ∈ [Known.uuid, Known.frozenUuid, Known.frozenPrimaryType,
    Known.frozenMixinTypes], a ≠ "" ∧ a ≠ Known.primaryType ∧ a ≠ Known.nodeNameAttribute ∧
      a ≠ Known.mixinTypes ∧ a.startsWith "xmlns" = false := by
  decide +kernel

theorem Property.Carried.ne_reserved {q : Property} (h : q.Carried) :
    q.name ≠ Known.primaryType ∧ q.name ≠ Known.nodeNameAttribute ∧ q.name ≠ Known.mixinTypes := by
  have hk := h.not_frozenKey
  simp only [frozenKeys, List.mem_cons, List.not_mem_nil, or_false, not_or] at hk
  exact ⟨hk.1, hk.2.2.1, hk.2.1⟩

theorem Node.FrozenReadable.keysWritable {n : Node} (hn : n.FrozenReadable) : n.KeysWritable := by
  -- each property is a record, under a fixed name, or carried content
  have hq : ∀ q ∈ n.properties, q.name ≠ "" ∧ q.name ≠ Known.primaryType ∧
      q.name ≠ Known.nodeNameAttribute ∧ q.name ≠ Known.mixinTypes := by
    intro q hqn
    rcases hn.property q hqn with hr | hc
    · obtain ⟨h1, h2, h3, h4, -⟩ := recordNames_facts _ hr.name_mem
      exact ⟨h1, h2, h3, h4⟩
    · exact ⟨hc.name_ne, hc.ne_reserved⟩
  exact ⟨hn.primaryType_ne, fun q hq' => (hq q hq').1, hn.names_nodup,
    fun q hq' => (hq q hq').2.1, fun q hq' => (hq q hq').2.2.1, fun _ q hq' => (hq q hq').2.2.2⟩

theorem Node.LabelsReadable.keysWritable {L : String → Prop} {n : Node} (hn : n.LabelsReadable L) :
    n.KeysWritable where
  primaryType_ne := by rw [hn.type]; decide
  name_ne q hq := (hn.label q hq).2.1.ne_empty
  names_nodup := hn.names_nodup
  ne_primaryType q hq := (hn.label q hq).2.1.ne_primaryType
  ne_nodeName q hq := (hn.label q hq).2.1.ne_nodeName
  ne_mixinTypes h := absurd hn.mixins h

theorem versionProperties_names (u : String) (t : Time.Timestamp) (preds succs : List String) :
    (versionProperties u t preds succs).map (·.name) =
      [Known.uuid, Known.created, Known.predecessors, Known.successors] :=
  rfl

theorem Node.VersionReadable.keysWritable {n : Node} (hn : n.VersionReadable) : n.KeysWritable := by
  obtain ⟨u, t, preds, succs, -, -, hprops⟩ := hn.properties
  have hnames : ∀ a ∈ [Known.uuid, Known.created, Known.predecessors, Known.successors],
      a ≠ "" ∧ a ≠ Known.primaryType ∧ a ≠ Known.nodeNameAttribute := by
    decide
  have hmem : ∀ q ∈ n.properties, q.name ∈
      [Known.uuid, Known.created, Known.predecessors, Known.successors] := fun q hq => by
    rw [← versionProperties_names u t preds succs, ← hprops]
    exact List.mem_map_of_mem hq
  refine ⟨by rw [hn.type]; decide, fun q hq => (hnames _ (hmem q hq)).1, ?_,
    fun q hq => (hnames _ (hmem q hq)).2.1, fun q hq => (hnames _ (hmem q hq)).2.2,
    fun h => absurd hn.mixins h⟩
  rw [hprops, versionProperties_names]
  decide

/-- Every node of a readable history has writable keys. -/
theorem Node.HistoryReadable.everywhere {L : String → Prop} {h : Node} (hh : h.HistoryReadable L) :
    h.Everywhere Node.KeysWritable := by
  refine .intro h hh.keys fun c hc => ?_
  rcases hh.child c hc with hl | hv
  · exact .intro c hl.keysWritable fun d hd => by rw [hl.children] at hd; cases hd
  · exact .intro c hv.keysWritable fun d hd =>
      Node.Everywhere.imp (fun _ hf => Node.FrozenReadable.keysWritable hf) (hv.frozen d hd).2

/-! ## The events of a version document -/

/-- The root element of the version document of a history. -/
def versionsRoot (path : String) (h : Node) : XmlElement :=
  { tag := Known.versionsElement,
    attributes := Known.namespaceDeclarations ++ [(Known.versionsPathAttribute, path)],
    children := [fullElement false h.name h] }

theorem versionsDocument_eq (path : String) (h : Node) :
    versionsDocument path h = xmlDocument (versionsRoot path h) :=
  rfl

theorem versionsRoot_writable {h : Node} (hh : h.Everywhere Node.KeysWritable) (path : String) :
    (versionsRoot path h).Writable := by
  have htag : MarkupName Known.versionsElement := .of_check (by decide) (by decide)
  have hpath : MarkupName Known.versionsPathAttribute := .of_check (by decide) (by decide)
  have hkeys : ∀ a ∈ Known.namespaceDeclarations ++ [(Known.versionsPathAttribute, path)],
      MarkupName a.1 := by
    intro a ha
    rcases List.mem_append.mp ha with ha | ha
    · exact markupName_namespaceDeclarations a ha
    · rw [List.mem_singleton.mp ha]
      exact hpath
  refine .intro _ htag hkeys ?_ ?_
  · show ((Known.namespaceDeclarations ++ [(Known.versionsPathAttribute, path)]).map (·.1)).Nodup
    rw [List.map_append]
    exact (by decide : (Known.namespaceDeclarations.map (·.1) ++ [Known.versionsPathAttribute]).Nodup)
  · intro c hc
    rw [show (versionsRoot path h).children = [fullElement false h.name h] from rfl,
      List.mem_singleton] at hc
    rw [hc]
    exact hh.fullElement_writable h.name

/-- The root element is read with its tag and its path. -/
theorem readElement_versionsRoot (path : String) :
    readElement Known.versionsElement
        (Known.namespaceDeclarations ++ [(Known.versionsPathAttribute, path)]) =
      ⟨Known.versionsElement, [(Known.versionsPathAttribute, path)]⟩ := by
  have hns : Known.namespaceDeclarations.filterMap keptAttribute = [] := by decide +kernel
  have hpath : isNamespaceKey Known.versionsPathAttribute = false ∧
      Name.iso9075Decode Known.versionsPathAttribute = Known.versionsPathAttribute ∧
      Name.iso9075Decode Known.versionsElement = Known.versionsElement := by
    decide +kernel
  rw [readElement, List.filterMap_append, hns, List.nil_append, List.filterMap_cons,
    keptAttribute_of_kept ⟨hpath.1, hpath.2.1⟩, hpath.2.2]
  rfl

/-- The events of the root element: its start, the events of the history's element, its end. -/
theorem events_versionsRoot (path : String) (h : Node) :
    (versionsRoot path h).events =
      .start ⟨Known.versionsElement, [(Known.versionsPathAttribute, path)]⟩ ::
        ((fullElement false h.name h).events ++ [.finish]) := by
  rw [versionsRoot, XmlElement.events, readElement_versionsRoot, XmlElement.eventsOfAll,
    XmlElement.eventsOfAll, List.append_nil]

/-- The version document of a history with writable keys is read as the start of its root
element, the events of the history's element, and the end of the root element; the document
ends there. -/
theorem reads_versionsDocument {h : Node} (hh : h.Everywhere Node.KeysWritable) (path : String) :
    Reads (ofBytes (utf8Bytes (versionsDocument path h)))
      (.start ⟨Known.versionsElement, [(Known.versionsPathAttribute, path)]⟩ ::
        ((fullElement false h.name h).events ++ [.finish])) (atLine [ascii '\n'] [] 0) := by
  rw [versionsDocument_eq, ← events_versionsRoot]
  exact reads_xmlDocument (versionsRoot_writable hh path)

/-- The version document has more bytes than the element reader has events in it. -/
theorem events_length_lt_versionsDocument {h : Node} (hh : h.Everywhere Node.KeysWritable)
    (path : String) :
    (fullElement false h.name h).events.length + 2 <
      (utf8Bytes (versionsDocument path h)).length := by
  have hlen := (versionsRoot_writable hh path).events_length_le 0
  rw [events_versionsRoot] at hlen
  rw [versionsDocument_eq, utf8Bytes_xmlDocument]
  have hdecl : (utf8Bytes declaration).length = 38 := by decide
  simp only [List.length_cons, List.length_append] at hlen ⊢
  omega

end ContentSync
