import ContentSync.Serialize
import ContentSync.Proofs.MarkupReadBack
import ContentSync.Proofs.SnapshotReadBack
import ContentSync.Proofs.TypedText

/-!
# Content documents read back as the content they were written from

The primary document of an aggregate writes the aggregate node with the properties its
aggregator keeps and the children the aggregate includes, at every level: its written part
(`Node.written`). Writing a node with these filters is writing its written part in full
(`nodeElement_written`), so reading back only has to undo full writing.

Each node is one element. Its tag is the escaped primary type; its attributes are the primary
type and the mixins in typed text, each property under its escaped name, and the node name
under `vlt:nodename`. Reading the element undoes each escaping: the tag and keys are decoded,
the values unescaped, and the typed texts read back. This needs of each node
(`Node.DocViewReadable`) a non-empty primary type, and property names that are not empty,
distinct, none of `jcr:primaryType`, `jcr:mixinTypes`, `vlt:nodename`, none starting with
`xmlns`, and properties whose typed text reads back exactly.

The parser keeps the nodes still open on a stack; the events of a node's element push the node,
fill in its children, and hand it to the node below it, or make it the root.

Main statements: `nodeElement_written`, `DocViewNode.ofElement_nodeElement`,
`parseDocView_docViewDocument`.
-/

namespace ContentSync

open Xml Text

/-! ## What a content document holds -/

mutual
/-- The part of a node at `path` that its element writes: the properties `keepProperty`
accepts, and the children (with their paths) `keepChild` accepts, each with its written part. -/
def Node.written (keepProperty : Property → Bool) (keepChild : Node → String → Bool)
    (path : String) : Node → Node
  | ⟨name, primaryType, mixins, properties, children⟩ =>
    ⟨name, primaryType, mixins, properties.filter keepProperty,
      Node.writtenChildren keepProperty keepChild path children⟩

/-- The written parts of the children `cs` of the node at `path` that `keepChild` accepts. -/
def Node.writtenChildren (keepProperty : Property → Bool) (keepChild : Node → String → Bool)
    (path : String) : List Node → List Node
  | [] => []
  | c :: cs =>
    let rest := Node.writtenChildren keepProperty keepChild path cs
    let childPath := Path.join path c.name
    if keepChild c childPath then Node.written keepProperty keepChild childPath c :: rest
    else rest
end

/-- The element of a node written in full. -/
abbrev fullElement (rootElement : Bool) (path : String) (n : Node) : XmlElement :=
  nodeElement (fun _ => true) (fun _ _ => true) rootElement path n

theorem childElements_written (keepProperty : Property → Bool)
    (keepChild : Node → String → Bool) (path : String) {cs : List Node}
    (h : ∀ c ∈ cs, ∀ path, nodeElement keepProperty keepChild false path c =
      fullElement false path (c.written keepProperty keepChild path)) :
    childElements keepProperty keepChild path cs =
      childElements (fun _ => true) (fun _ _ => true) path
        (Node.writtenChildren keepProperty keepChild path cs) := by
  induction cs with
  | nil => rfl
  | cons c cs ih =>
    have hrest := ih fun c' hc' => h c' (List.mem_cons_of_mem c hc')
    rw [childElements, Node.writtenChildren]
    by_cases hk : keepChild c (Path.join path c.name) = true
    · have hname : (c.written keepProperty keepChild (Path.join path c.name)).name = c.name := by
        cases c
        rfl
      rw [if_pos hk, if_pos hk, childElements, hname, if_pos rfl, hrest,
        h c List.mem_cons_self]
    · rw [if_neg hk, if_neg hk, hrest]

/-- Writing a node with filters is writing its written part in full. -/
theorem nodeElement_written (keepProperty : Property → Bool) (keepChild : Node → String → Bool)
    (rootElement : Bool) (path : String) (n : Node) :
    nodeElement keepProperty keepChild rootElement path n =
      fullElement rootElement path (n.written keepProperty keepChild path) := by
  obtain ⟨name, primaryType, mixins, properties, children⟩ := n
  have hchildren : childElements keepProperty keepChild path children = _ :=
    childElements_written keepProperty keepChild path
      fun c hc path => nodeElement_written keepProperty keepChild false path c
  rw [Node.written, nodeElement, fullElement, nodeElement, hchildren, List.filter_filter]
  simp
termination_by sizeOf n
decreasing_by
  -- a child is smaller than its parent
  have := List.sizeOf_lt_of_mem hc
  simp only [Node.mk.sizeOf_spec]
  omega

/-! ## Keys of a node's element -/

/-- A node whose element reads back as the node: a primary type and property names that escaping
writes as markup names, property names distinct, none a key the reader gives a meaning of its
own or a namespace declaration, and properties that read back exactly from their typed text. -/
structure Node.DocViewReadable (n : Node) : Prop where
  primaryType_ne : n.primaryType ≠ ""
  name_ne : ∀ p ∈ n.properties, p.name ≠ ""
  names_nodup : (n.properties.map (·.name)).Nodup
  not_reserved : ∀ p ∈ n.properties,
    p.name ≠ Known.primaryType ∧ p.name ≠ Known.mixinTypes ∧ p.name ≠ Known.nodeNameAttribute
  not_xmlns : ∀ p ∈ n.properties, p.name.startsWith "xmlns" = false
  exact : ∀ p ∈ n.properties, p.Exact

/-- The keys the reader gives a meaning of their own are kept as they are. -/
theorem reservedKeys_kept : ∀ k ∈ [Known.primaryType, Known.mixinTypes, Known.nodeNameAttribute],
    isNamespaceKey k = false ∧ Name.iso9075Decode k = k := by
  decide +kernel

theorem markupName_reservedKeys :
    ∀ k ∈ [Known.primaryType, Known.mixinTypes, Known.nodeNameAttribute], MarkupName k := by
  have hcheck : [Known.primaryType, Known.mixinTypes, Known.nodeNameAttribute].all
      (fun k => k != "" && stopChars.all (fun c => !k.toList.contains c)) = true := by
    decide
  intro k hk
  have := List.all_eq_true.mp hcheck k hk
  simp only [Bool.and_eq_true, bne_iff_ne] at this
  exact .of_check this.1 this.2

theorem markupName_namespaceDeclarations : ∀ a ∈ Known.namespaceDeclarations, MarkupName a.1 := by
  have hcheck : Known.namespaceDeclarations.all
      (fun a => a.1 != "" && stopChars.all (fun c => !a.1.toList.contains c)) = true := by
    decide
  intro a ha
  have := List.all_eq_true.mp hcheck a ha
  simp only [Bool.and_eq_true, bne_iff_ne] at this
  exact .of_check this.1 this.2

/-- A written name starts with a character other than `_` only where the name does: escapes
start with `_`. -/
theorem encodeChars_eq_cons {first : Bool} {cs : List Char} {d : Char} {t : List Char}
    (h : Name.encodeChars first cs = d :: t) (hd : d ≠ '_') :
    ∃ rest, cs = d :: rest ∧ t = Name.encodeChars false rest := by
  cases cs with
  | nil => simp [Name.encodeChars] at h
  | cons c rest =>
    rw [Name.encodeChars_cons] at h
    by_cases hk : Name.Kept first c rest
    · rw [if_pos hk, List.singleton_append, List.cons.injEq] at h
      exact ⟨rest, by rw [h.1], h.2.symm⟩
    · rw [if_neg hk, Name.hexEscape_eq, List.cons_append, List.cons.injEq] at h
      exact absurd h.1.symm hd

theorem prefix_of_encodeChars {first : Bool} {cs p t : List Char} (hp : '_' ∉ p)
    (h : Name.encodeChars first cs = p ++ t) : p <+: cs := by
  induction p generalizing first cs with
  | nil => exact List.nil_prefix
  | cons d p ih =>
    obtain ⟨rest, rfl, ht⟩ := encodeChars_eq_cons h (fun e => hp (e ▸ List.mem_cons_self))
    exact List.cons_prefix_cons.mpr ⟨rfl, ih (fun m => hp (List.mem_cons_of_mem d m)) ht.symm⟩

/-- Every character is written as one character or more. -/
theorem length_le_encodeChars : ∀ (first : Bool) (cs : List Char),
    cs.length ≤ (Name.encodeChars first cs).length
  | _, [] => Nat.le_refl 0
  | first, c :: rest => by
    have := length_le_encodeChars false rest
    rw [Name.encodeChars_cons, List.length_append, List.length_cons]
    split
    · simp only [List.length_singleton]
      omega
    · simp only [Name.hexEscape_eq, List.length_cons]
      omega

/-- A name that is no namespace key is not written as one: escaping adds no leading `xmlns`, and
a name written as `xmlns` is no longer than it. -/
theorem isNamespaceKey_iso9075Encode_of_key {s : String} (h : isNamespaceKey s = false) :
    isNamespaceKey (Name.iso9075Encode s) = false := by
  cases hk : isNamespaceKey (Name.iso9075Encode s) with
  | false => rfl
  | true =>
    simp only [isNamespaceKey, decide_eq_true_eq, decide_eq_false_iff_not, not_or,
      String.startsWith_string_iff] at hk h
    have henc : (Name.iso9075Encode s).toList = Name.encodeChars true s.toList := by
      simp [Name.iso9075Encode]
    rcases hk with hk | hk
    · have hw : Name.encodeChars true s.toList = "xmlns".toList ++ [] := by
        rw [← henc, hk]
        rfl
      obtain ⟨u, hu⟩ := prefix_of_encodeChars (by decide) hw
      have hlen := length_le_encodeChars true s.toList
      rw [hw, ← hu] at hlen
      have hu0 : u = [] := List.eq_nil_of_length_eq_zero (by simp at hlen; omega)
      rw [hu0, List.append_nil] at hu
      exact absurd (String.toList_inj.mp hu.symm) h.1
    · obtain ⟨t, ht⟩ := hk
      rw [henc] at ht
      exact absurd (prefix_of_encodeChars (by decide) ht.symm) h.2

/-- A name that does not start with `xmlns` is no namespace key. -/
theorem isNamespaceKey_of_startsWith {s : String} (h : s.startsWith "xmlns" = false) :
    isNamespaceKey s = false := by
  have hpre : ¬"xmlns".toList <+: s.toList := fun hp => by
    rw [String.startsWith_string_iff.mpr hp] at h
    cases h
  simp only [isNamespaceKey, decide_eq_false_iff_not, not_or, String.startsWith_string_iff]
  have hcolon : "xmlns".toList <+: "xmlns:".toList := by decide
  exact ⟨fun hs => hpre (hs ▸ List.prefix_refl _), fun hp => hpre (hcolon.trans hp)⟩

/-- A name that does not start with `xmlns` is not written as a namespace declaration. -/
theorem isNamespaceKey_iso9075Encode {s : String} (h : s.startsWith "xmlns" = false) :
    isNamespaceKey (Name.iso9075Encode s) = false :=
  isNamespaceKey_iso9075Encode_of_key (isNamespaceKey_of_startsWith h)

/-! ## Reading one node's element -/

/-- The attributes of a node's element as the reader gives them: keys decoded, namespace
declarations left out. -/
def Node.docViewAttributes (n : Node) : List (String × String) :=
  (Known.primaryType, formatProperty (Property.single Known.primaryType (.name n.primaryType))) ::
    ((if n.mixins.isEmpty then []
      else [(Known.mixinTypes, formatProperty (Property.names Known.mixinTypes n.mixins))]) ++
      ((n.properties.map fun p => (p.name, formatProperty p)) ++
        [(Known.nodeNameAttribute, n.name)]))

theorem keptAttribute_of_kept {k : String}
    (hk : isNamespaceKey k = false ∧ Name.iso9075Decode k = k) (v : String) :
    keptAttribute (k, v) = some (k, v) := by
  rw [keptAttribute, if_neg (by simp [hk.1]), hk.2]

theorem filterMap_keptAttribute_properties {ps : List Property}
    (h : ∀ p ∈ ps, p.name.startsWith "xmlns" = false) :
    (ps.map fun p => (Name.iso9075Encode p.name, formatProperty p)).filterMap keptAttribute =
      ps.map fun p => (p.name, formatProperty p) := by
  induction ps with
  | nil => rfl
  | cons p ps ih =>
    have hkept : keptAttribute (Name.iso9075Encode p.name, formatProperty p) =
        some (p.name, formatProperty p) := by
      rw [keptAttribute,
        if_neg (by simp [isNamespaceKey_iso9075Encode (h p List.mem_cons_self)]),
        Name.iso9075Decode_iso9075Encode]
    rw [List.map_cons, List.filterMap_cons_some hkept,
      ih (fun q hq => h q (List.mem_cons_of_mem p hq)), List.map_cons]

/-- A node's element is read with its primary type as tag and its attributes decoded. -/
theorem readElement_fullElement (rootElement : Bool) (path : String) {n : Node}
    (hn : n.DocViewReadable) :
    readElement (fullElement rootElement path n).tag (fullElement rootElement path n).attributes =
      ⟨n.primaryType, n.docViewAttributes⟩ := by
  have hns : Known.namespaceDeclarations.filterMap keptAttribute = [] := by decide +kernel
  have hprops := filterMap_keptAttribute_properties hn.not_xmlns
  have htype := keptAttribute_of_kept (reservedKeys_kept _ List.mem_cons_self)
  have hmixins := keptAttribute_of_kept (reservedKeys_kept Known.mixinTypes (by simp))
  have hname := keptAttribute_of_kept (reservedKeys_kept Known.nodeNameAttribute (by simp))
  obtain ⟨name, primaryType, mixins, properties, children⟩ := n
  rw [fullElement, nodeElement]
  simp only [readElement, Node.docViewAttributes, Name.iso9075Decode_iso9075Encode,
    List.filter_true, List.filterMap_append, List.filterMap_cons, htype, hname, hprops]
  cases rootElement <;> cases mixins.isEmpty <;> simp [hns, hmixins]

theorem lookup_append_last {l : List (String × String)} {k v : String} (h : ∀ a ∈ l, a.1 ≠ k) :
    (l ++ [(k, v)]).lookup k = some v := by
  induction l with
  | nil => simp
  | cons a l ih =>
    have hne : (k == a.1) = false := by simpa using (h a List.mem_cons_self).symm
    rw [List.cons_append, List.lookup, hne]
    exact ih fun b hb => h b (List.mem_cons_of_mem a hb)

theorem DocViewNode.require_name {n : Node} (hn : n.DocViewReadable) :
    (⟨n.primaryType, n.docViewAttributes⟩ : Element).require Known.nodeNameAttribute =
      .ok n.name := by
  have hkeys : ∀ a ∈ (Known.primaryType, formatProperty (Property.single Known.primaryType
      (.name n.primaryType))) :: ((if n.mixins.isEmpty then []
        else [(Known.mixinTypes, formatProperty (Property.names Known.mixinTypes n.mixins))]) ++
        n.properties.map fun p => (p.name, formatProperty p)), a.1 ≠ Known.nodeNameAttribute := by
    intro a ha
    simp only [List.mem_cons, List.mem_append, List.mem_map] at ha
    rcases ha with rfl | ha | ⟨p, hp, rfl⟩
    · show Known.primaryType ≠ Known.nodeNameAttribute
      decide
    · split at ha
      · cases ha
      · rw [List.mem_singleton] at ha
        rw [ha]
        show Known.mixinTypes ≠ Known.nodeNameAttribute
        decide
    · exact (hn.not_reserved p hp).2.2
  rw [Element.require, Element.attribute?, Node.docViewAttributes, ← List.append_assoc,
    ← List.cons_append, lookup_append_last hkeys]

theorem decodeTyped_primaryType (t : String) :
    decodeTyped (formatProperty (Property.single Known.primaryType (.name t))) =
      .ok { type := .name, multi := false, values := [t] } :=
  decodeTyped_formatProperty _ fun _ => rfl

theorem decodeTyped_mixins (ms : List String) :
    decodeTyped (formatProperty (Property.names Known.mixinTypes ms)) =
      .ok { type := .name, multi := true, values := ms } := by
  have htext : (Value.text ∘ Value.name) = id := funext fun _ => rfl
  rw [decodeTyped_formatProperty _ fun h => by cases h]
  simp [Property.names, Property.valueTexts, htext]

theorem foldl_appendProperty (props : List Property) (t : String) (ms : List String)
    (acc : List Property) :
    props.foldl (fun (s : String × List String × List Property) p => (s.1, s.2.1, s.2.2 ++ [p]))
      (t, ms, acc) = (t, ms, acc ++ props) := by
  induction props generalizing acc with
  | nil => simp
  | cons p ps ih => simp [ih]

/-- The mixins' attribute, written only when there are mixins, sets them. -/
theorem forIn_mixinAttributes {β : Type} {f : String × String → β → Except Error (ForInStep β)}
    {init b : β} {ms : List String} {rest : List (String × String)} (hnone : ms = [] → b = init)
    (hf : ms ≠ [] → f (Known.mixinTypes, formatProperty (Property.names Known.mixinTypes ms)) init =
      .ok (.yield b)) :
    forIn ((if ms.isEmpty then []
        else [(Known.mixinTypes, formatProperty (Property.names Known.mixinTypes ms))]) ++ rest)
      init f = forIn rest b f := by
  cases ms with
  | nil =>
    rw [hnone rfl]
    rfl
  | cons m ms => exact forIn_cons_yield (hf (List.cons_ne_nil m ms))

/-- The element of a readable node describes the node: its name, types and properties. -/
theorem DocViewNode.ofElement_docViewAttributes {n : Node} (hn : n.DocViewReadable) :
    DocViewNode.ofElement ⟨n.primaryType, n.docViewAttributes⟩ =
      .ok ⟨n.name, n.primaryType, n.mixins, n.properties⟩ := by
  have htype : Known.primaryType ≠ Known.nodeNameAttribute := by decide
  have hmixin : Known.mixinTypes ≠ Known.nodeNameAttribute ∧ Known.mixinTypes ≠ Known.primaryType := by
    decide
  rw [DocViewNode.ofElement, DocViewNode.require_name hn]
  dsimp only
  rw [Except.ok_bind, Node.docViewAttributes]
  -- each attribute in turn: the primary type, the mixins, the properties, the node name
  rw [forIn_cons_yield (b := (n.primaryType, [], [])),
    forIn_mixinAttributes (b := (n.primaryType, n.mixins, [])),
    forIn_map_yield_append (g := fun s p => (s.1, s.2.1, s.2.2 ++ [p])), foldl_appendProperty,
    forIn_cons_yield (b := (n.primaryType, n.mixins, [] ++ n.properties))]
  · simp
    rfl
  · dsimp only
    rw [if_pos rfl]
    rfl
  · intro p hp s
    obtain ⟨hpt, hmx, hnn⟩ := hn.not_reserved p hp
    dsimp only
    rw [if_neg hnn, if_neg hpt, if_neg hmx, (hn.exact p hp).readProperty_eq]
    rfl
  · intro hnil
    rw [hnil]
  · intro _
    dsimp only
    rw [if_neg hmixin.1, if_neg hmixin.2, if_pos rfl, decodeTyped_mixins]
    rfl
  · dsimp only
    rw [if_neg htype, if_pos rfl, decodeTyped_primaryType]
    rfl

/-! ## Parsing a node's events -/

open ElementReader

/-- The events of the element of `m` turn a parse with any stack of open nodes into the same
parse with `m` handed to the innermost open node, or made the root when none is open. -/
def Node.ParsesBack (m : Node) : Prop :=
  ∀ (rootElement : Bool) (path : String) (r r' : ElementReader) (stack stack' : List Node)
    (root' : Option Node) (fuel : Nat),
    Reads r (fullElement rootElement path m).events r' →
    closeNode (m :: stack) none = .ok (stack', root') →
    parseDocView.go (fuel + (fullElement rootElement path m).events.length) r stack none =
      parseDocView.go fuel r' stack' root'

theorem childElements_full (path : String) (cs : List Node) :
    childElements (fun _ => true) (fun _ _ => true) path cs =
      cs.map fun c => fullElement false (Path.join path c.name) c := by
  induction cs with
  | nil => rfl
  | cons c cs ih =>
    rw [childElements, if_pos rfl, ih]
    rfl

/-- The events of the children's elements, one after another, add the children in order to the
innermost open node. -/
theorem parseDocView_go_children {cs : List Node} (h : ∀ c ∈ cs, c.ParsesBack) (path : String)
    {r r' : ElementReader} (p : Node) (rest : List Node) (fuel : Nat)
    (hr : Reads r (XmlElement.eventsOfAll (childElements (fun _ => true) (fun _ _ => true) path cs))
      r') :
    parseDocView.go (fuel + (XmlElement.eventsOfAll
        (childElements (fun _ => true) (fun _ _ => true) path cs)).length) r (p :: rest) none =
      parseDocView.go fuel r' ({ p with children := p.children ++ cs } :: rest) none := by
  induction cs generalizing p r with
  | nil =>
    cases hr
    rw [childElements, XmlElement.eventsOfAll, List.length_nil, Nat.add_zero, List.append_nil]
    cases p
    rfl
  | cons c cs ih =>
    rw [childElements, if_pos rfl, XmlElement.eventsOfAll] at hr ⊢
    obtain ⟨r₁, h₁, h₂⟩ := hr.split
    rw [List.length_append, ← Nat.add_assoc, Nat.add_right_comm,
      h c List.mem_cons_self false _ r r₁ (p :: rest) _ none _ h₁ rfl,
      ih (fun c' hc' => h c' (List.mem_cons_of_mem c hc')) _ h₂]
    simp

/-- A readable tree is parsed back from the events of its element: the start pushes the node
the element describes, the children's events fill in its children, and the end hands it on. -/
theorem Node.Everywhere.parsesBack {m : Node} (hm : m.Everywhere Node.DocViewReadable) :
    m.ParsesBack := by
  induction hm with
  | intro m hself _ ih =>
    intro rootElement path r r' stack stack' root' fuel hr hclose
    have hread := readElement_fullElement rootElement path hself
    have hnode := DocViewNode.ofElement_docViewAttributes hself
    obtain ⟨name, primaryType, mixins, properties, children⟩ := m
    rw [fullElement, nodeElement] at hr hread ⊢
    rw [XmlElement.events] at hr ⊢
    rw [hread] at hr ⊢
    cases hr with
    | step hnext hrest =>
      obtain ⟨r₁, hchildren, hend⟩ := hrest.split
      cases hend with
      | step hfinish hnil =>
        cases hnil
        rw [List.length_cons, List.length_append, List.length_singleton,
          show ∀ k, fuel + (k + 1 + 1) = fuel + 1 + k + 1 from fun k => by omega]
        -- the start: the node the element describes is opened
        rw [parseDocView.go, hnext, Except.ok_bind]
        dsimp only
        rw [hnode, Except.ok_bind]
        -- its children
        rw [parseDocView_go_children ih path _ stack (fuel + 1) hchildren]
        -- the end: the node is handed on
        rw [parseDocView.go, hfinish, Except.ok_bind]
        simp only [Option.isSome_none, Bool.false_eq_true, if_false, DocViewNode.toNode,
          List.nil_append]
        rw [hclose, Except.ok_bind]

/-! ## Content documents are writable -/

/-- The keys of a readable node's element other than namespace declarations are distinct: they
decode to the reserved keys and the property names, all distinct. -/
theorem keys_nodup {n : Node} (hn : n.DocViewReadable) (v w : String) :
    (((Known.primaryType, v) :: ((if n.mixins.isEmpty then [] else [(Known.mixinTypes, w)]) ++
      ((n.properties.map fun p => (Name.iso9075Encode p.name, formatProperty p)) ++
        [(Known.nodeNameAttribute, n.name)]))).map (·.1)).Nodup := by
  apply List.Nodup.of_map Name.iso9075Decode
  obtain ⟨htype, hmixin, hname⟩ : Name.iso9075Decode Known.primaryType = Known.primaryType ∧
      Name.iso9075Decode Known.mixinTypes = Known.mixinTypes ∧
      Name.iso9075Decode Known.nodeNameAttribute = Known.nodeNameAttribute := by
    decide +kernel
  have hres := hn.not_reserved
  have hreserved : Known.primaryType ≠ Known.mixinTypes ∧
      Known.primaryType ≠ Known.nodeNameAttribute ∧ Known.mixinTypes ≠ Known.nodeNameAttribute := by
    decide
  have hdecode : n.properties.map (fun p => Name.iso9075Decode (Name.iso9075Encode p.name)) =
      n.properties.map (·.name) := by
    simp [Name.iso9075Decode_iso9075Encode]
  cases n.mixins.isEmpty <;>
    simp [Function.comp_def, htype, hmixin, hname, hdecode, List.nodup_append, hn.names_nodup,
      hreserved] <;>
    grind

/-- Only namespace declarations among a readable node's keys have the form of one. -/
theorem keys_not_namespace {n : Node} (hn : n.DocViewReadable) (v w : String) :
    ∀ b ∈ ((Known.primaryType, v) :: ((if n.mixins.isEmpty then [] else [(Known.mixinTypes, w)]) ++
      ((n.properties.map fun p => (Name.iso9075Encode p.name, formatProperty p)) ++
        [(Known.nodeNameAttribute, n.name)]))).map (·.1), isNamespaceKey b = false := by
  have hkept := reservedKeys_kept
  rw [List.forall_mem_map]
  intro a ha
  simp only [List.mem_cons, List.mem_append, List.mem_map, List.not_mem_nil, or_false] at ha
  rcases ha with rfl | ha | ⟨p, hp, rfl⟩ | rfl
  · exact (hkept _ List.mem_cons_self).1
  · split at ha
    · cases ha
    · rw [List.mem_singleton] at ha
      rw [ha]
      exact (hkept _ (by simp)).1
  · exact isNamespaceKey_iso9075Encode (hn.not_xmlns p hp)
  · exact (hkept _ (by simp)).1

theorem namespaceKeys_facts : (Known.namespaceDeclarations.map (·.1)).Nodup ∧
    ∀ a ∈ Known.namespaceDeclarations, isNamespaceKey a.1 = true := by
  decide +kernel

/-- The element of a readable tree is writable: its tags and keys are markup names, and the keys
of each tag distinct. -/
theorem fullElement_writable {m : Node} (hm : m.Everywhere Node.DocViewReadable)
    (rootElement : Bool) (path : String) : (fullElement rootElement path m).Writable := by
  induction hm generalizing rootElement path with
  | intro m hself _ ih =>
    obtain ⟨name, primaryType, mixins, properties, children⟩ := m
    have hprops : ∀ p ∈ properties, MarkupName (Name.iso9075Encode p.name) ∧
        isNamespaceKey (Name.iso9075Encode p.name) = false := fun p hp =>
      ⟨markupName_iso9075Encode (hself.name_ne p hp), isNamespaceKey_iso9075Encode (hself.not_xmlns p hp)⟩
    have hreserved := markupName_reservedKeys
    have hkept := reservedKeys_kept
    rw [fullElement, nodeElement]
    refine .intro _ (markupName_iso9075Encode hself.primaryType_ne) ?_ ?_ ?_
    · -- every key is a markup name
      intro a ha
      simp only [List.filter_true, List.mem_append, List.mem_cons, List.mem_map, List.not_mem_nil,
        or_false] at ha
      rcases ha with ((ha | rfl | ha) | ⟨p, hp, rfl⟩) | rfl
      · cases rootElement
        · cases ha
        · exact markupName_namespaceDeclarations a ha
      · exact hreserved _ List.mem_cons_self
      · split at ha
        · cases ha
        · rw [List.mem_singleton] at ha
          rw [ha]
          exact hreserved _ (by simp)
      · exact (hprops p hp).1
      · exact hreserved _ (by simp)
    · -- the keys are distinct: namespace declarations are told apart from the others by their
      -- form, and the others by their decoded names
      simp only [List.filter_true, List.append_assoc, List.cons_append]
      rw [List.map_append, List.nodup_append]
      refine ⟨?_, keys_nodup hself _ _, ?_⟩
      · cases rootElement
        · exact List.nodup_nil
        · exact namespaceKeys_facts.1
      · intro a ha b hb hab
        have hb' := keys_not_namespace hself _ _ b hb
        cases rootElement
        · cases ha
        · obtain ⟨x, hx, rfl⟩ := List.mem_map.mp ha
          rw [← hab, namespaceKeys_facts.2 x hx] at hb'
          cases hb'
    · intro c hc
      rw [childElements_full] at hc
      obtain ⟨c', hc', rfl⟩ := List.mem_map.mp hc
      exact ih c' hc' false _

/-! ## Content documents -/

/-- A readable tree written as a document, with or without the namespace declarations on its
root element, is parsed back as itself. -/
theorem parseDocView_fullDocument {m : Node} (hm : m.Everywhere Node.DocViewReadable)
    (rootElement : Bool) (path : String) :
    parseDocView (utf8Bytes (xmlDocument (fullElement rootElement path m))) = .ok m := by
  have hw := fullElement_writable hm rootElement path
  have hreads := reads_xmlDocument hw
  -- the parser's fuel, one more than the bytes, covers every event and the end
  have hlen := hw.events_length_le 0
  obtain ⟨k, hk⟩ : ∃ k, (utf8Bytes (xmlDocument (fullElement rootElement path m))).length + 2 =
      k + 1 + (fullElement rootElement path m).events.length := by
    refine ⟨(utf8Bytes (xmlDocument (fullElement rootElement path m))).length + 1 -
      (fullElement rootElement path m).events.length, ?_⟩
    rw [utf8Bytes_xmlDocument]
    simp only [List.length_append, List.length_singleton]
    omega
  rw [parseDocView, hk, hm.parsesBack rootElement path _ _ [] [] (some m) (k + 1) hreads rfl,
    parseDocView.go, next_end, Except.ok_bind]
  rfl

/-- The primary document of an aggregate is parsed back as the part of the aggregate node it
writes: the same name, primary type and mixins, the properties the aggregator keeps in order,
and at every level the children the aggregate includes, in order. -/
theorem parseDocView_docViewDocument (a : Aggregate) (n : Node)
    (h : (n.written a.aggregator.includesProperty (fun c _ => a.includesChild c) a.path).Everywhere
      Node.DocViewReadable) :
    parseDocView (utf8Bytes (docViewDocument a n)) =
      .ok (n.written a.aggregator.includesProperty (fun c _ => a.includesChild c) a.path) := by
  rw [docViewDocument, nodeElement_written]
  exact parseDocView_fullDocument h true a.path

/-- An aggregate at `/content/site` whose aggregator claims the whole subtree. -/
def siteAggregate : Aggregate :=
  { (default : Aggregate) with
    path := "/content/site", aggregator := { (default : AggregatorConfig) with fullCoverage := true } }

/-- A titled page with a mixin and one child. -/
def titledSite : Node :=
  ⟨"site", "cq:Page", ["mix:title"], [Property.ofString "title" "Home"],
    [Node.empty "jcr:content" "cq:PageContent"]⟩

theorem titled_site_reads_back :
    (titledSite.written siteAggregate.aggregator.includesProperty
        (fun c _ => siteAggregate.includesChild c) siteAggregate.path).Everywhere
        Node.DocViewReadable ∧
      parseDocView (utf8Bytes (docViewDocument siteAggregate titledSite)) =
        .ok (titledSite.written siteAggregate.aggregator.includesProperty
          (fun c _ => siteAggregate.includesChild c) siteAggregate.path) := by
  have hwritten : titledSite.written siteAggregate.aggregator.includesProperty
      (fun c _ => siteAggregate.includesChild c) siteAggregate.path = titledSite := rfl
  have hchild : (Node.empty "jcr:content" "cq:PageContent").Everywhere Node.DocViewReadable :=
    .intro _ ⟨by decide, (fun _ h => by cases h), List.nodup_nil, (fun _ h => by cases h),
      (fun _ h => by cases h), (fun _ h => by cases h)⟩ (fun _ h => by cases h)
  have hreadable : titledSite.Everywhere Node.DocViewReadable := by
    refine .intro _ ⟨by decide, ?_, by decide, ?_, ?_, ?_⟩ ?_
    · simp [titledSite, Property.ofString, Property.single]
    · simp only [titledSite, List.mem_singleton, forall_eq]
      decide
    · simp only [titledSite, List.mem_singleton, forall_eq]
      decide +kernel
    · simp only [titledSite, List.mem_singleton, forall_eq]
      exact Property.ofString_exact "title" "Home"
    · simp only [titledSite, List.mem_singleton, forall_eq]
      exact hchild
  rw [← hwritten] at hreadable
  exact ⟨hreadable, parseDocView_docViewDocument siteAggregate titledSite hreadable⟩

end ContentSync

