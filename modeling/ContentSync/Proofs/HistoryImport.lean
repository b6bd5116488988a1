import ContentSync.Proofs.VersionDocument
import ContentSync.Proofs.VersionReplay
import ContentSync.Proofs.VersionHistories

/-!
# A version document rebuilds the history it was written from

Importing the version document of a readable history (`Node.HistoryReadable`) into a repository
that has no node at the history's place creates the history there, with a new identifier, the
identifier of its versionable node, and its children as they were written: every label node,
version and frozen node is read back as it stands, only the labels whose escaped names read as
namespace declarations are left out (`importVersions_versionsDocument`).

The proof follows the reader through the events of the document. Each element of the history
creates its node at a path where the staged storage has none yet, and the elements inside it
fill in that node's children, one after another, at paths below it that are free as well. So
the whole element of a node `c` puts the new staged copy `freshOf c` at its path
(`ImportsAs`): this is shown for a frozen node by induction on its tree, and from it for a
version, then for the history.

Main statement: `importVersions_versionsDocument`.
-/

namespace ContentSync

open Node Staged RepoM Xml Text ElementReader

namespace Staged

/-! ## New staged copies -/

mutual
/-- A staged copy of a tree, every node of it created in the staged tree. -/
def freshOf : Node → Staged
  | ⟨name, primaryType, mixins, properties, children⟩ =>
    { name, primaryType := some primaryType, mixins, properties,
      children := freshOfAll children, fresh := true }

/-- New staged copies of a list of trees. -/
def freshOfAll : List Node → List Staged
  | [] => []
  | n :: ns => freshOf n :: freshOfAll ns
end

theorem freshOfAll_eq_map (ns : List Node) : freshOfAll ns = ns.map freshOf := by
  induction ns with
  | nil => rfl
  | cons n ns ih => rw [freshOfAll, ih, List.map_cons]

mutual
/-- A new staged copy builds back into the tree it copies. -/
theorem build_freshOf : ∀ n : Node, (freshOf n).build = n
  | ⟨name, primaryType, mixins, properties, children⟩ => by
    rw [freshOf, build, buildAll_freshOfAll children]
    rfl

theorem buildAll_freshOfAll : ∀ ns : List Node, buildAll (freshOfAll ns) = ns
  | [] => by rw [freshOfAll, buildAll]
  | n :: ns => by rw [freshOfAll, buildAll, build_freshOf n, buildAll_freshOfAll ns]
end

theorem freshOf_eq (n : Node) :
    freshOf n =
      { name := n.name, primaryType := some n.primaryType, mixins := n.mixins,
        properties := n.properties, children := n.children.map freshOf, fresh := true } := by
  cases n
  rw [freshOf, freshOfAll_eq_map]

@[simp] theorem name_freshOf (n : Node) : (freshOf n).name = n.name := by
  cases n
  rfl

/-! ## Updates along a path -/

/-- Two updates of the child of one name, the first keeping its name, are one update. -/
theorem withChild_withChild {f g : Staged → Staged × Unit} {s : Staged} {a : String}
    (hf : ∀ c, c.name = a → (f c).1.name = a) :
    ((s.withChild a f).1.withChild a g).1 = (s.withChild a fun c => g (f c).1).1 := by
  simp only [withChild_fst]
  rcases exists_first_or_forall_ne Staged.name a s.children with
    ⟨l₁, c, l₂, hsplit, hfirst, hc⟩ | hall
  · rw [hsplit, withChild_go_of_first f hfirst hc, withChild_go_of_first g hfirst (hf c hc),
      withChild_go_of_first _ hfirst hc]
  · -- the child is added last, as a blank one changed by `f`
    rw [withChild_go_of_forall_ne f hall, withChild_go_of_forall_ne _ hall,
      withChild_go_of_first g hall (hf _ rfl)]

/-- Updating a node, then a path below it, is one update of the node. -/
theorem updateAlong_updateAlong_append {F G : Staged → Staged} {a : String}
    (hF : ∀ x, x.name = a → (F x).name = a) :
    ∀ (p r : List String) (s : Staged),
      (s.updateAlong (p ++ [a]) F).updateAlong (p ++ [a] ++ r) G =
        s.updateAlong (p ++ [a]) fun x => (F x).updateAlong r G
  | [], r, s => by
    show ((s.withChild a fun c => (F c, ())).1.withChild a fun c => (c.updateAlong r G, ())).1 =
      (s.withChild a fun c => ((F c).updateAlong r G, ())).1
    exact withChild_withChild hF
  | b :: p, r, s => by
    show ((s.withChild b fun c => (c.updateAlong (p ++ [a]) F, ())).1.withChild b
        fun c => (c.updateAlong (p ++ [a] ++ r) G, ())).1 =
      (s.withChild b fun c => (c.updateAlong (p ++ [a]) fun x => (F x).updateAlong r G, ())).1
    -- an update along a path keeps the name of the node it starts from
    rw [withChild_withChild fun c hc => by cases p <;> exact hc]
    congr 2
    funext c
    rw [updateAlong_updateAlong_append hF p r c]

/-- Updating a node that has no child of a name, at that name, adds the child last. -/
theorem updateAlong_single_of_child?_none {x : Staged} {a : String} (hx : x.child? a = none)
    (G : Staged → Staged) :
    x.updateAlong [a] G = { x with children := x.children ++ [G (blank a)] } := by
  have hne : ∀ d ∈ x.children, d.name ≠ a := fun d hd hdn => by
    simpa [hdn] using List.find?_eq_none.mp (show x.children.find? (·.name = a) = none from hx) d hd
  show (x.withChild a fun c => (c.updateAlong [] G, ())).1 = _
  rw [withChild_fst, withChild_go_of_forall_ne _ hne]
  rfl

/-- An update at a path with no node only ever meets a blank node there. -/
theorem updateAlong_of_along?_none {F : Staged → Staged} {a : String} :
    ∀ (p : List String) {s : Staged}, s.along? (p ++ [a]) = none →
      s.updateAlong (p ++ [a]) F = s.updateAlong (p ++ [a]) fun _ => F (blank a)
  | [], s, hs => by
    have hnone : s.child? a = none := by simpa using hs
    rw [List.nil_append, updateAlong_single_of_child?_none hnone,
      updateAlong_single_of_child?_none hnone]
  | b :: p, s, hs => by
    show (s.withChild b fun c => (c.updateAlong (p ++ [a]) F, ())).1 =
      (s.withChild b fun c => (c.updateAlong (p ++ [a]) fun _ => F (blank a), ())).1
    rw [List.cons_append, along?_cons] at hs
    cases hc : s.child? b with
    | none =>
      -- the node of name `b` is created blank, and the path below it is free
      have hne : ∀ d ∈ s.children, d.name ≠ b := fun d hd hdn => by
        simpa [hdn] using
          List.find?_eq_none.mp (show s.children.find? (·.name = b) = none from hc) d hd
      have hblank : (blank b).along? (p ++ [a]) = none := by
        cases p <;> rfl
      rw [withChild_fst, withChild_fst, withChild_go_of_forall_ne _ hne,
        withChild_go_of_forall_ne _ hne, updateAlong_of_along?_none p hblank]
    | some c =>
      rw [hc, Option.bind_some] at hs
      obtain ⟨hcn, l₁, l₂, hsplit, hfirst⟩ := List.find?_eq_some_iff_append.mp hc
      have hfirst' : ∀ d ∈ l₁, d.name ≠ b := fun d hd hdn => by simpa [hdn] using hfirst d hd
      rw [withChild_fst, withChild_fst, hsplit, withChild_go_of_first _ hfirst' (by simpa using hcn),
        withChild_go_of_first _ hfirst' (by simpa using hcn), updateAlong_of_along?_none p hs]

/-- Below a node put at a path stand the nodes below it. -/
theorem along?_updateAlong_const {X : Staged} {a : String} (hX : X.name = a) :
    ∀ (p r : List String) (s : Staged),
      (s.updateAlong (p ++ [a]) fun _ => X).along? (p ++ [a] ++ r) = X.along? r
  | [], r, s => by
    show ((s.withChild a fun c => ((fun _ => X) c, ())).1.along? (a :: r)) = X.along? r
    rw [along?_cons, child?_withChild (a := a) (b := a) fun _ _ => hX, if_pos rfl,
      Option.bind_some]
  | b :: p, r, s => by
    show ((s.withChild b fun c => (c.updateAlong (p ++ [a]) fun _ => X, ())).1.along?
      (b :: (p ++ [a] ++ r))) = X.along? r
    rw [along?_cons, child?_withChild (a := b) (b := b) fun c hc => ?_, if_pos rfl,
      Option.bind_some]
    · exact along?_updateAlong_const hX p r _
    · cases p <;> exact hc

/-- Typing the fresh nodes along the buckets of a history creates no node below them. -/
theorem along?_typeFreshAlong_append_none (ty : String) (a : String) :
    ∀ (names : List String) {s : Staged}, s.along? (names ++ [a]) = none →
      (s.typeFreshAlong ty names).along? (names ++ [a]) = none
  | [], _, hs => hs
  | b :: names, s, hs => by
    have hname : ∀ c : Staged, c.name = b →
        ((c.typeIfFresh ty).typeFreshAlong ty names, ()).1.name = b := fun c hc =>
      (name_typeFreshAlong _ ty names).trans ((name_typeIfFresh c ty).trans hc)
    rw [typeFreshAlong, List.cons_append, along?_cons, child?_withChild hname, if_pos rfl,
      Option.bind_some]
    rw [List.cons_append, along?_cons] at hs
    refine along?_typeFreshAlong_append_none ty a names ?_
    cases hc : s.child? b with
    | none =>
      -- a new bucket has no children
      cases names <;> rfl
    | some c =>
      rw [hc, Option.bind_some] at hs
      rw [Option.getD_some]
      cases names with
      | nil => rwa [List.nil_append, along?_cons_of_children_eq (children_typeIfFresh c ty)]
      | cons d names =>
        rwa [List.cons_append, along?_cons_of_children_eq (children_typeIfFresh c ty)]

/-- Setting properties with new, distinct names appends them. -/
theorem foldl_setProperty_fresh :
    ∀ (ps : List Property) (s : Staged), ((s.properties ++ ps).map (·.name)).Nodup →
      ps.foldl Staged.setProperty s = { s with properties := s.properties ++ ps }
  | [], s, _ => by
    cases s
    simp
  | p :: ps, s, h => by
    have hfresh : p.name ∉ s.properties.map (·.name) := by
      rw [List.map_append, List.map_cons, List.nodup_append] at h
      exact fun hp => h.2.2 _ hp _ List.mem_cons_self rfl
    rw [List.foldl_cons, foldl_setProperty_fresh ps (s.setProperty p)]
    · simp [Staged.setProperty, setPropertyIn_of_fresh hfresh]
    · simpa [Staged.setProperty, setPropertyIn_of_fresh hfresh] using h

/-- The node an element creates before the elements inside it are read: the node without its
children. -/
def started (n : Node) : Staged :=
  { name := n.name, primaryType := some n.primaryType, mixins := n.mixins,
    properties := n.properties, children := [], fresh := true }

theorem freshOf_eq_started (n : Node) :
    freshOf n = { started n with children := n.children.map freshOf } := by
  rw [freshOf_eq]
  rfl

end Staged

/-! ## What the reader takes from an element -/

theorem plainValue_formatProperty_single (k : String) (v : Value) :
    plainValue (formatProperty (Property.single k v)) = .ok v.text := by
  rw [plainValue, decodeTyped_formatProperty _ fun _ => rfl]
  rfl

theorem listValue_formatProperty {p : Property} (hm : p.multi = true) :
    listValue (some (formatProperty p)) = .ok p.valueTexts := by
  rw [listValue, decodeTyped_formatProperty p fun h => by rw [hm] at h; cases h]
  rfl

@[simp] theorem valueTexts_references (k : String) (us : List String) :
    (Property.references k us).valueTexts = us := by
  simp [Property.references, Property.valueTexts, Function.comp_def, Value.text]

@[simp] theorem valueTexts_names (k : String) (ts : List String) :
    (Property.names k ts).valueTexts = ts := by
  simp [Property.names, Property.valueTexts, Function.comp_def, Value.text]

/-- Looking a key up among properties written under their names finds the first property of
that name. -/
theorem lookup_properties_of_find {a : String} {q : Property} (f : Property → String)
    (rest : List (String × String)) :
    ∀ {ps : List Property}, findProperty? a ps = some q →
      ((ps.map fun p => (p.name, f p)) ++ rest).lookup a = some (f q)
  | [], h => by cases h
  | p :: ps, h => by
    unfold findProperty? at h
    rw [List.map_cons, List.cons_append, List.lookup]
    by_cases hp : p.name = a
    · rw [List.find?_cons_of_pos (by simpa using hp)] at h
      cases h
      simp [hp]
    · rw [List.find?_cons_of_neg (by simpa using hp)] at h
      have hne : (a == p.name) = false := by simpa using Ne.symm hp
      rw [hne]
      exact lookup_properties_of_find f rest h

namespace Element

theorem attribute?_primaryType (n : Node) (t : String) :
    (⟨t, n.docViewAttributes⟩ : Element).attribute? Known.primaryType =
      some (formatProperty (Property.single Known.primaryType (.name n.primaryType))) := by
  simp [attribute?, Node.docViewAttributes]

/-- The type of a node's element is the node's primary type. -/
theorem elementType_docViewAttributes (n : Node) (t : String) :
    elementType ⟨t, n.docViewAttributes⟩ = .ok n.primaryType := by
  rw [elementType, attribute?_primaryType]
  exact plainValue_formatProperty_single _ _

theorem docViewAttributes_of_mixins_nil {n : Node} (h : n.mixins = []) :
    n.docViewAttributes =
      (Known.primaryType, formatProperty (Property.single Known.primaryType (.name n.primaryType))) ::
        ((n.properties.map fun p => (p.name, formatProperty p)) ++
          [(Known.nodeNameAttribute, n.name)]) := by
  rw [Node.docViewAttributes, h]
  rfl

/-- An attribute other than the two types is the node's property of that name. -/
theorem attribute?_property {n : Node} {t a : String} {q : Property}
    (ha : a ≠ Known.primaryType) (hm : a ≠ Known.mixinTypes)
    (hq : findProperty? a n.properties = some q) :
    (⟨t, n.docViewAttributes⟩ : Element).attribute? a = some (formatProperty q) := by
  have hne : (a == Known.primaryType) = false := by simpa using ha
  rw [attribute?, Node.docViewAttributes, List.lookup, hne]
  dsimp only
  by_cases hmx : n.mixins.isEmpty = true
  · rw [if_pos hmx, List.nil_append]
    exact lookup_properties_of_find formatProperty _ hq
  · have hne' : (a == Known.mixinTypes) = false := by simpa using hm
    rw [if_neg hmx, List.singleton_append, List.lookup, hne']
    exact lookup_properties_of_find formatProperty _ hq

/-- The node name is read from the last attribute, when no property has its key. -/
theorem attribute?_nodeName {n : Node} (t : String)
    (hn : ∀ p ∈ n.properties, p.name ≠ Known.nodeNameAttribute) :
    (⟨t, n.docViewAttributes⟩ : Element).attribute? Known.nodeNameAttribute = some n.name := by
  have hkeys : ∀ a ∈ (Known.primaryType, formatProperty (Property.single Known.primaryType
      (.name n.primaryType))) :: ((if n.mixins.isEmpty then []
        else [(Known.mixinTypes, formatProperty (Property.names Known.mixinTypes n.mixins))]) ++
        n.properties.map fun p => (p.name, formatProperty p)), a.1 ≠ Known.nodeNameAttribute := by
    intro a ha
    simp only [List.mem_cons, List.mem_append, List.mem_map] at ha
    rcases ha with rfl | ha | ⟨p, hp, rfl⟩
    · show Known.primaryType ≠ Known.nodeNameAttribute
      decide
    · split at ha
      · cases ha
      · rw [List.mem_singleton] at ha
        rw [ha]
        show Known.mixinTypes ≠ Known.nodeNameAttribute
        decide
    · exact hn p hp
  rw [attribute?, Node.docViewAttributes, ← List.append_assoc, ← List.cons_append,
    lookup_append_last hkeys]

theorem require_nodeName {n : Node} (t : String)
    (hn : ∀ p ∈ n.properties, p.name ≠ Known.nodeNameAttribute) :
    (⟨t, n.docViewAttributes⟩ : Element).require Known.nodeNameAttribute = .ok n.name := by
  rw [require, attribute?_nodeName t hn]

theorem require_property {n : Node} {t a : String} {q : Property}
    (ha : a ≠ Known.primaryType) (hm : a ≠ Known.mixinTypes)
    (hq : findProperty? a n.properties = some q) :
    (⟨t, n.docViewAttributes⟩ : Element).require a = .ok (formatProperty q) := by
  rw [require, attribute?_property ha hm hq]

end Element

/-- Steps that each succeed with a known result make a `mapM` that succeeds with their results. -/
theorem mapM_map_of_ok {α β γ ε : Type} {f : γ → Except ε β} {h : α → γ} {g : α → β} :
    ∀ {l : List α}, (∀ a ∈ l, f (h a) = .ok (g a)) → (l.map h).mapM f = .ok (l.map g)
  | [], _ => rfl
  | a :: l, hl => by
    rw [List.map_cons, List.mapM_cons, hl a List.mem_cons_self,
      mapM_map_of_ok fun b hb => hl b (List.mem_cons_of_mem a hb)]
    rfl

/-! ## Frozen elements -/

theorem frozenChange_primaryType (v : String) : frozenChange Known.primaryType v = .ok id := by
  rw [frozenChange, if_pos (Or.inr rfl)]

theorem frozenChange_nodeName (v : String) : frozenChange Known.nodeNameAttribute v = .ok id := by
  rw [frozenChange, if_pos (Or.inl rfl)]

theorem frozenChange_mixinTypes (ms : List String) :
    frozenChange Known.mixinTypes (formatProperty (Property.names Known.mixinTypes ms)) =
      .ok fun s => { s with mixins := ms } := by
  rw [frozenChange, if_neg (by decide), if_pos rfl, listValue_formatProperty rfl, valueTexts_names]
  rfl

/-- A record of a frozen node is set again from its typed text. -/
theorem FrozenRecord.frozenChange_eq {q : Property} (hq : FrozenRecord q) :
    frozenChange q.name (formatProperty q) = .ok (·.setProperty q) := by
  cases hq with
  | uuid u =>
    show frozenChange Known.uuid (formatProperty (Property.single Known.uuid (.string u))) = _
    rw [frozenChange, if_neg (by decide), if_neg (by decide), if_pos (Or.inl rfl),
      plainValue_formatProperty_single]
    rfl
  | frozenUuid u =>
    show frozenChange Known.frozenUuid (formatProperty (Property.single Known.frozenUuid (.string u))) = _
    rw [frozenChange, if_neg (by decide), if_neg (by decide), if_pos (Or.inr rfl),
      plainValue_formatProperty_single]
    rfl
  | frozenPrimaryType t =>
    show frozenChange Known.frozenPrimaryType
      (formatProperty (Property.single Known.frozenPrimaryType (.name t))) = _
    rw [frozenChange, if_neg (by decide), if_neg (by decide), if_neg (by decide), if_pos rfl,
      plainValue_formatProperty_single]
    rfl
  | frozenMixinTypes ts =>
    show frozenChange Known.frozenMixinTypes
      (formatProperty (Property.names Known.frozenMixinTypes ts)) = _
    rw [frozenChange, if_neg (by decide), if_neg (by decide), if_neg (by decide), if_neg (by decide),
      if_pos rfl, listValue_formatProperty rfl, valueTexts_names]
    rfl

/-- Carried content is set again from its typed text, through the codec. -/
theorem Property.Carried.frozenChange_eq {q : Property} (hq : q.Carried) :
    frozenChange q.name (formatProperty q) = .ok (·.setProperty q) := by
  have hk := hq.not_frozenKey
  simp only [frozenKeys, List.mem_cons, List.not_mem_nil, or_false, not_or] at hk
  obtain ⟨hpt, hmx, hnn, hid, hfid, hfpt, hfmx⟩ := hk
  rw [frozenChange, if_neg (by tauto), if_neg hmx, if_neg (by tauto), if_neg hfpt, if_neg hfmx,
    hq.exact.readProperty_eq]
  rfl

/-- The changes of a readable frozen node's element, in order: its type and name change
nothing, the mixins are set if it has some, and each property is set. -/
theorem mapM_frozenChange {n : Node} (hn : n.FrozenReadable) :
    n.docViewAttributes.mapM (fun (k, v) => frozenChange k v) =
      .ok (id :: ((if n.mixins.isEmpty then [] else [fun s => { s with mixins := n.mixins }]) ++
        ((n.properties.map fun q => (·.setProperty q)) ++ [id]))) := by
  have hprops : (n.properties.map fun p => (p.name, formatProperty p)).mapM
      (fun (k, v) => frozenChange k v) = .ok (n.properties.map fun q => (·.setProperty q)) :=
    mapM_map_of_ok fun q hq => by
      rcases hn.property q hq with hr | hc
      · exact hr.frozenChange_eq
      · exact hc.frozenChange_eq
  have hmixins : (if n.mixins.isEmpty then []
      else [(Known.mixinTypes, formatProperty (Property.names Known.mixinTypes n.mixins))]).mapM
        (fun (k, v) => frozenChange k v) =
      .ok (if n.mixins.isEmpty then [] else [fun s => { s with mixins := n.mixins }]) := by
    split
    · rfl
    · rw [List.mapM_cons]
      dsimp only
      rw [frozenChange_mixinTypes]
      rfl
  rw [Node.docViewAttributes, List.mapM_cons, List.mapM_append, List.mapM_append, hmixins, hprops,
    List.mapM_cons]
  dsimp only
  rw [frozenChange_primaryType, frozenChange_nodeName]
  rfl

/-- The changes of a readable frozen node's element, made in order to a node without mixins
or properties, give it the node's type, mixins and properties. -/
theorem foldl_frozenChanges {n : Node} (hn : n.FrozenReadable) (x : Staged)
    (hxm : x.mixins = []) (hxp : x.properties = []) :
    (id :: ((if n.mixins.isEmpty then [] else [fun s : Staged => { s with mixins := n.mixins }]) ++
        ((n.properties.map fun q => (·.setProperty q)) ++ [id]))).foldl (fun s f => f s)
      { x with primaryType := some n.primaryType } =
    { x with primaryType := some n.primaryType, mixins := n.mixins, properties := n.properties } := by
  have hset := foldl_setProperty_fresh n.properties
    { x with primaryType := some n.primaryType, mixins := n.mixins } (by simpa [hxp] using hn.names_nodup)
  simp only [List.foldl_cons, List.foldl_append, List.foldl_map, List.foldl_nil, id]
  cases hm : n.mixins with
  | nil => simpa [hm, hxm, hxp] using hset
  | cons m ms => simpa [hm, hxp] using hset

/-- The element of a readable frozen node, opened at a free place, creates the node there
without its children. -/
theorem startFrozen_started {n : Node} (hn : n.FrozenReadable) (t : String) (S : Staged)
    (p : List String) (hfree : S.along? (p ++ [n.name]) = none) :
    startFrozen S p ⟨t, n.docViewAttributes⟩ n.primaryType =
      .ok (S.updateAlong (p ++ [n.name]) fun _ => started n, p ++ [n.name]) := by
  unfold startFrozen
  rw [Element.require_nodeName t hn.keysWritable.ne_nodeName, Except.ok_bind]
  dsimp only
  rw [mapM_frozenChange hn, Except.ok_bind, updateAlong_of_along?_none p hfree,
    foldl_frozenChanges hn (blank n.name) rfl rfl]
  rfl

/-! ## Label nodes and versions -/

/-- Each label of a readable label node is read back from its text. -/
theorem mapM_labels {L : String → Prop} {l : Node} (hl : l.LabelsReadable L) :
    (l.dropNamespaceLike.properties.map fun q => (q.name, formatProperty q)).mapM
        (fun (k, v) => do return Property.single k (.reference (← plainValue v))) =
      .ok l.dropNamespaceLike.properties := by
  have h := mapM_map_of_ok (g := id) (l := l.dropNamespaceLike.properties)
    (f := fun (kv : String × String) => do
      return Property.single kv.1 (.reference (← plainValue kv.2)))
    (h := fun q => (q.name, formatProperty q)) fun q hq => by
      obtain ⟨u, hu⟩ := (hl.label q (List.mem_of_mem_filter hq)).2.2
      dsimp only
      rw [hu, plainValue_formatProperty_single]
      rfl
  rwa [List.map_id] at h

/-- The attributes a label element sets: all but its type and its name, which are its
properties. -/
theorem filter_labelAttributes {L : String → Prop} {l : Node} (hl : l.LabelsReadable L) :
    (l.dropNamespaceLike.docViewAttributes.filter fun (k, _) =>
        k ≠ Known.nodeNameAttribute ∧ k ≠ Known.primaryType) =
      l.dropNamespaceLike.properties.map fun q => (q.name, formatProperty q) := by
  have hkeys : ∀ q ∈ l.dropNamespaceLike.properties,
      q.name ≠ Known.nodeNameAttribute ∧ q.name ≠ Known.primaryType := fun q hq =>
    have hk := (hl.label q (List.mem_of_mem_filter hq)).2.1
    ⟨hk.ne_nodeName, hk.ne_primaryType⟩
  rw [Element.docViewAttributes_of_mixins_nil (n := l.dropNamespaceLike) hl.mixins, List.filter_cons,
    List.filter_append,
    List.filter_singleton]
  simp only [List.filter_map, Function.comp_def]
  rw [List.filter_eq_self.mpr fun q hq => by simpa using hkeys q hq]
  simp

/-- The element of a readable label node, opened at a free place, creates the node there,
without the properties whose names read as namespace declarations. -/
theorem startLabels_started {L : String → Prop} {l : Node} (hl : l.LabelsReadable L) (t : String)
    (S : Staged) (p : List String) (hfree : S.along? (p ++ [l.name]) = none) :
    startLabels S p ⟨t, l.dropNamespaceLike.docViewAttributes⟩ =
      .ok (S.updateAlong (p ++ [l.name]) fun _ => started l.dropNamespaceLike) := by
  have hname : (⟨t, l.dropNamespaceLike.docViewAttributes⟩ : Element).attribute?
      Known.nodeNameAttribute = some l.name :=
    Element.attribute?_nodeName t fun q hq =>
      (hl.label q (List.mem_of_mem_filter hq)).2.1.ne_nodeName
  have hnodup : (l.dropNamespaceLike.properties.map (·.name)).Nodup :=
    (List.filter_sublist.map _).nodup hl.names_nodup
  have hset := foldl_setProperty_fresh l.dropNamespaceLike.properties
    { blank l.name with primaryType := some Known.ntVersionLabels } (by simpa [blank] using hnodup)
  unfold startLabels
  simp only [hname, Option.getD_some]
  rw [filter_labelAttributes hl, mapM_labels hl, Except.ok_bind,
    updateAlong_of_along?_none p hfree, hset]
  unfold started
  rw [Node.primaryType_dropNamespaceLike, Node.mixins_dropNamespaceLike, hl.type, hl.mixins]
  rfl

/-- The four properties of a version, set in order on a node without properties. -/
theorem setVersionProperties (x : Staged) (hx : x.properties = []) (u : String)
    (t : Time.Timestamp) (preds succs : List String) :
    (((x.setProperty (Property.ofString Known.uuid u)).setProperty
      (Property.single Known.created (.date t))).setProperty
      (Property.references Known.predecessors preds)).setProperty
      (Property.references Known.successors succs) =
    { x with properties := versionProperties u t preds succs } := by
  have h := foldl_setProperty_fresh (versionProperties u t preds succs) x
    (by rw [hx, List.nil_append, versionProperties_names]; decide)
  rw [hx, List.nil_append] at h
  exact h

/-- The element of a readable version, opened at a free place, creates the version there
without its frozen nodes. -/
theorem startVersion_started {v : Node} (hv : v.VersionReadable) (t : String) (S : Staged)
    (p : List String) (hfree : S.along? (p ++ [v.name]) = none) :
    startVersion S p ⟨t, v.docViewAttributes⟩ =
      .ok (S.updateAlong (p ++ [v.name]) fun _ => started v, p ++ [v.name]) := by
  obtain ⟨u, ts, preds, succs, hvalid, hms, hprops⟩ := hv.properties
  have huuid : findProperty? Known.uuid v.properties = some (Property.ofString Known.uuid u) := by
    rw [hprops]
    rfl
  have hcreated : findProperty? Known.created v.properties =
      some (Property.single Known.created (.date ts)) := by
    rw [hprops]
    rfl
  have hpreds : findProperty? Known.predecessors v.properties =
      some (Property.references Known.predecessors preds) := by
    rw [hprops]
    rfl
  have hsuccs : findProperty? Known.successors v.properties =
      some (Property.references Known.successors succs) := by
    rw [hprops]
    rfl
  unfold startVersion
  rw [Element.require_nodeName t hv.keysWritable.ne_nodeName, Except.ok_bind,
    Element.require_property (by decide) (by decide) huuid, Except.ok_bind, Property.ofString,
    plainValue_formatProperty_single, Except.ok_bind,
    Element.require_property (by decide) (by decide) hcreated, Except.ok_bind,
    plainValue_formatProperty_single, Except.ok_bind]
  rw [show (Value.date ts).text = ts.toText from rfl, Value.read_date_text hvalid, Except.ok_bind,
    Time.Timestamp.toMillis_eq_self hms,
    Element.attribute?_property (by decide) (by decide) hpreds, listValue_formatProperty rfl,
    valueTexts_references, Except.ok_bind,
    Element.attribute?_property (by decide) (by decide) hsuccs, listValue_formatProperty rfl,
    valueTexts_references, Except.ok_bind]
  dsimp only
  rw [updateAlong_of_along?_none p hfree, show (Value.string u).text = u from rfl,
    setVersionProperties _ rfl u ts preds succs]
  unfold started
  rw [hv.type, hv.mixins, hprops]
  rfl

/-! ## History elements -/

/-- The first property of a name is kept by a filter that keeps every property of that name. -/
theorem findProperty?_filter {a : String} {q : Property} {keep : Property → Bool}
    (hk : ∀ p : Property, p.name = a → keep p = true) :
    ∀ {ps : List Property}, findProperty? a ps = some q → findProperty? a (ps.filter keep) = some q
  | [], h => by cases h
  | p :: ps, h => by
    unfold findProperty? at h ⊢
    by_cases hp : p.name = a
    · rw [List.find?_cons_of_pos (by simpa using hp)] at h
      rw [List.filter_cons_of_pos (hk p hp), List.find?_cons_of_pos (by simpa using hp), h]
    · rw [List.find?_cons_of_neg (by simpa using hp)] at h
      by_cases hkp : keep p = true
      · rw [List.filter_cons_of_pos hkp, List.find?_cons_of_neg (by simpa using hp)]
        exact findProperty?_filter hk h
      · rw [List.filter_cons_of_neg hkp]
        exact findProperty?_filter hk h

/-- The history node a history element creates before the elements inside it are read: the
type of a history, a new identifier `hid` and the identifier `v` of its versionable node. -/
def historyStarted (name hid v : String) : Staged :=
  { name, primaryType := some Known.ntVersionHistory, mixins := [],
    properties := [Property.ofString Known.uuid hid, Property.ofString Known.versionableUuid v],
    children := [], fresh := true }

theorem setHistoryProperties (x : Staged) (hx : x.properties = []) (hid v : String) :
    ({ x with primaryType := some Known.ntVersionHistory }.setProperty
      (Property.ofString Known.uuid hid)).setProperty
      (Property.ofString Known.versionableUuid v) =
    { x with
      primaryType := some Known.ntVersionHistory
      properties := [Property.ofString Known.uuid hid, Property.ofString Known.versionableUuid v] } := by
  obtain ⟨name, primaryType, mixins, properties, children, fresh⟩ := x
  cases hx
  exact foldl_setProperty_fresh
    [Property.ofString Known.uuid hid, Property.ofString Known.versionableUuid v] _
    (show ([Known.uuid, Known.versionableUuid] : List String).Nodup by decide)

/-- The element of a readable history whose place in the storage is free creates the buckets
on the way and the history node there, with the next identifier of the repository. -/
theorem startHistory_started {L : String → Prop} {h : Node} (hh : h.HistoryReadable L)
    {v : String}
    (hv : h.property? Known.versionableUuid = some (Property.ofString Known.versionableUuid v))
    (t : String) (S : Staged) (r : Repository)
    (hfree : S.along? (Path.versionHistoryPath h.name) = none) :
    startHistory S ⟨t, h.dropNamespaceLike.docViewAttributes⟩ r =
      .ok ((S.typeFreshAlong Known.repVersionStorage (Path.versionBuckets h.name)).updateAlong
          (Path.versionHistoryPath h.name)
          (fun _ => historyStarted h.name (identifierOf (r.issued + 1)) v),
        Path.versionHistoryPath h.name) { r with issued := r.issued + 1 } := by
  have hname := Element.require_nodeName (n := h.dropNamespaceLike) t fun q hq =>
    hh.keys.ne_nodeName q (List.mem_of_mem_filter hq)
  have hne : h.name.isEmpty = false := by simpa using hh.name_ne
  rw [Path.versionHistoryPath] at hfree ⊢
  have hfree' := along?_typeFreshAlong_append_none Known.repVersionStorage h.name _ hfree
  -- the versionable node's identifier is no namespace declaration, and is read
  have hkept : findProperty? Known.versionableUuid h.dropNamespaceLike.properties =
      some (Property.ofString Known.versionableUuid v) := by
    refine findProperty?_filter (fun p hp => ?_) hv
    rw [Property.namespaceLike, hp]
    decide +kernel
  have hattr := Element.attribute?_property (t := t) (by decide) (by decide) hkept
  have hplain : plainValue (formatProperty (Property.ofString Known.versionableUuid v)) = .ok v :=
    plainValue_formatProperty_single Known.versionableUuid (.string v)
  unfold startHistory
  rw [hname]
  simp only [RepoM.ofExcept, pure_bind, Node.name_dropNamespaceLike, hne, Bool.false_eq_true,
    if_false, hfree', Bool.not_true, hattr, hplain]
  rw [bind_of_ok (freshIdentifier_run r), updateAlong_of_along?_none _ hfree',
    setHistoryProperties _ rfl]
  rfl

/-! ## Reading the elements of a history -/

/-- The events of a node's element: its start, with its type and its readable attributes, the
events of its children's elements, and its end. -/
theorem events_fullElement (path : String) (c : Node) :
    (fullElement false path c).events =
      .start ⟨c.primaryType, c.dropNamespaceLike.docViewAttributes⟩ ::
        (XmlElement.eventsOfAll (c.children.map fun d => fullElement false (Path.join path d.name) d) ++
          [.finish]) := by
  have hread := readElement_fullElement_false path c
  rw [← childElements_full]
  obtain ⟨name, primaryType, mixins, properties, children⟩ := c
  rw [fullElement, nodeElement] at hread ⊢
  rw [XmlElement.events, hread]

theorem applyVersionEvents_start {fuel : Nat} {r r₁ : ElementReader} {e : Element}
    {parent : VersionFrame} {stack : List VersionFrame} {seen : Bool} {S : Staged}
    (hnext : r.next = .ok (some (.start e), r₁)) :
    applyVersionEvents (fuel + 1) r (parent :: stack) seen S =
      openFrame S parent e >>= fun (frame, S) =>
        applyVersionEvents fuel r₁ (frame :: parent :: stack) seen S := by
  rw [applyVersionEvents, hnext]
  rfl

theorem applyVersionEvents_finish {fuel : Nat} {r r₁ : ElementReader} {frame : VersionFrame}
    {stack : List VersionFrame} {seen : Bool} {S : Staged}
    (hnext : r.next = .ok (some .finish, r₁)) :
    applyVersionEvents (fuel + 1) r (frame :: stack) seen S =
      applyVersionEvents fuel r₁ stack seen S := by
  rw [applyVersionEvents, hnext]
  rfl

/-- The events of `c`'s element, read inside an element of frame `parent` that stands for the
node at `p`, put `X` in the free place of `c` below `p` and leave the frames as they were. -/
def ImportsAs (parent : VersionFrame) (p : List String) (c : Node) (X : Staged) : Prop :=
  ∀ (path : String) (fuel : Nat) (r r' : ElementReader) (stack : List VersionFrame) (seen : Bool)
    (S : Staged), Reads r (fullElement false path c).events r' → S.along? (p ++ [c.name]) = none →
    applyVersionEvents (fuel + (fullElement false path c).events.length) r (parent :: stack) seen S =
      applyVersionEvents fuel r' (parent :: stack) seen (S.updateAlong (p ++ [c.name]) fun _ => X)

theorem child?_append_children {Y : Staged} {b : String} {xs : List Staged}
    (hY : Y.child? b = none) (hxs : ∀ x ∈ xs, x.name ≠ b) :
    ({ Y with children := Y.children ++ xs } : Staged).child? b = none := by
  unfold Staged.child? at hY ⊢
  rw [List.find?_append, hY, Option.none_or, List.find?_eq_none]
  simpa using hxs

/-- The events of the children's elements, read inside the element of the node `Y` at `p ++ [a]`,
add the nodes they stand for after `Y`'s children, in order. -/
theorem applyVersionEvents_children {frame : VersionFrame} {p : List String} {a : String}
    {g : Node → Staged} (path : String) :
    ∀ {cs : List Node} (Y : Staged) {r r' : ElementReader} (fuel : Nat) (stack : List VersionFrame)
      (seen : Bool) (S : Staged),
      (∀ c ∈ cs, ImportsAs frame (p ++ [a]) c (g c) ∧ (g c).name = c.name) → Y.name = a →
      (∀ c ∈ cs, Y.child? c.name = none) → (cs.map (·.name)).Nodup →
      Reads r (XmlElement.eventsOfAll (cs.map fun d => fullElement false (Path.join path d.name) d))
        r' →
      applyVersionEvents (fuel + (XmlElement.eventsOfAll
          (cs.map fun d => fullElement false (Path.join path d.name) d)).length) r (frame :: stack)
          seen (S.updateAlong (p ++ [a]) fun _ => Y) =
        applyVersionEvents fuel r' (frame :: stack) seen
          (S.updateAlong (p ++ [a]) fun _ => { Y with children := Y.children ++ cs.map g })
  | [], Y, r, r', fuel, stack, seen, S, _, _, _, _, hr => by
    cases hr
    rw [List.map_nil, XmlElement.eventsOfAll, List.length_nil, Nat.add_zero, List.map_nil,
      List.append_nil]
    cases Y
    rfl
  | c :: cs, Y, r, r', fuel, stack, seen, S, hcs, hY, hfree, hnodup, hr => by
    rw [List.map_cons, XmlElement.eventsOfAll] at hr ⊢
    obtain ⟨r₁, hc, hrest⟩ := hr.split
    obtain ⟨hcnot, hnodup'⟩ := List.nodup_cons.mp hnodup
    have hfreec : (S.updateAlong (p ++ [a]) fun _ => Y).along? (p ++ [a] ++ [c.name]) = none := by
      rw [along?_updateAlong_const hY, along?_cons, hfree c List.mem_cons_self, Option.bind_none]
    have hfree' : ∀ d ∈ cs,
        ({ Y with children := Y.children ++ [g c] } : Staged).child? d.name = none := by
      intro d hd
      refine child?_append_children (hfree d (List.mem_cons_of_mem c hd)) fun x hx => ?_
      rw [List.mem_singleton.mp hx, (hcs c List.mem_cons_self).2]
      intro hcd
      exact hcnot (List.mem_map.mpr ⟨d, hd, hcd.symm⟩)
    -- `c` first, then the others below the node `Y` has become
    rw [List.length_append, ← Nat.add_assoc, Nat.add_right_comm fuel,
      (hcs c List.mem_cons_self).1 (Path.join path c.name) _ r r₁ stack seen _ hc hfreec,
      updateAlong_updateAlong_append (fun _ _ => hY) p [c.name] S,
      updateAlong_single_of_child?_none (hfree c List.mem_cons_self),
      applyVersionEvents_children path { Y with children := Y.children ++ [g c] } fuel stack seen S
        (fun d hd => hcs d (List.mem_cons_of_mem c hd)) hY hfree' hnodup' hrest]
    simp only [List.map_cons, List.append_assoc, List.singleton_append]

/-- An element whose start opens a frame and creates a node `Y` without children in a free
place, and whose children's elements each put their node there, puts `Y` with those nodes. -/
theorem importsAs_of_openFrame {parent frame : VersionFrame} {p : List String} {c : Node}
    {Y : Staged} {g : Node → Staged}
    (hopen : ∀ S : Staged, S.along? (p ++ [c.name]) = none →
      openFrame S parent ⟨c.primaryType, c.dropNamespaceLike.docViewAttributes⟩ =
        pure (frame, S.updateAlong (p ++ [c.name]) fun _ => Y))
    (hY : Y.name = c.name) (hYc : Y.children = [])
    (hkids : ∀ d ∈ c.children, ImportsAs frame (p ++ [c.name]) d (g d) ∧ (g d).name = d.name)
    (hnodup : (c.children.map (·.name)).Nodup) :
    ImportsAs parent p c { Y with children := c.children.map g } := by
  intro path fuel r r' stack seen S hr hfree
  rw [events_fullElement] at hr ⊢
  cases hr with
  | step hnext hrest =>
    obtain ⟨r₁, hchildren, hend⟩ := hrest.split
    cases hend with
    | step hfinish hnil =>
      cases hnil
      rw [List.length_cons, List.length_append, List.length_singleton,
        show ∀ k, fuel + (k + 1 + 1) = fuel + 1 + k + 1 from fun k => by omega]
      -- the start opens the frame, the children fill the node, the end closes the frame
      have hnone : ∀ d ∈ c.children, Y.child? d.name = none := fun d _ => by
        rw [Staged.child?, hYc]
        rfl
      rw [applyVersionEvents_start hnext, hopen S hfree, pure_bind]
      dsimp only
      rw [applyVersionEvents_children path Y (fuel + 1) (parent :: stack) seen S hkids hY hnone
        hnodup hchildren, applyVersionEvents_finish hfinish, hYc, List.nil_append]

/-- A property of a readable frozen node reads as no namespace declaration. -/
theorem Node.FrozenReadable.not_xmlns {n : Node} (hn : n.FrozenReadable) :
    ∀ q ∈ n.properties, q.name.startsWith "xmlns" = false := fun q hq =>
  (hn.property q hq).elim (fun hr => (recordNames_facts _ hr.name_mem).2.2.2.2)
    fun hc => hc.not_xmlns

/-- A readable frozen tree, read below a frozen node or as the frozen node of a version, is
put in place as it is. -/
theorem Node.Everywhere.importsAs_frozen {c : Node} (hc : c.Everywhere Node.FrozenReadable) :
    ∀ (parent : VersionFrame) (p : List String),
      (parent = .frozen p ∨ parent = .version p ∧ c.primaryType = Known.ntFrozenNode) →
      ImportsAs parent p c (freshOf c) := by
  induction hc with
  | intro c hself _ ih =>
    intro parent p hparent
    have hopen : ∀ S : Staged, S.along? (p ++ [c.name]) = none →
        openFrame S parent ⟨c.primaryType, c.dropNamespaceLike.docViewAttributes⟩ =
          pure (.frozen (p ++ [c.name]), S.updateAlong (p ++ [c.name]) fun _ => started c) := by
      intro S hfree
      rw [Node.dropNamespaceLike_eq_self hself.not_xmlns]
      unfold openFrame
      rw [Element.elementType_docViewAttributes]
      simp only [RepoM.ofExcept, pure_bind]
      rcases hparent with rfl | ⟨rfl, htype⟩
      · dsimp only
        rw [startFrozen_started hself c.primaryType S p hfree]
        rfl
      · dsimp only
        rw [if_pos htype, startFrozen_started hself c.primaryType S p hfree]
        rfl
    rw [freshOf_eq_started]
    exact importsAs_of_openFrame hopen rfl rfl
      (fun d hd => ⟨ih d hd _ _ (.inl rfl), name_freshOf d⟩) hself.children_nodup

theorem Node.VersionReadable.not_xmlns {v : Node} (hv : v.VersionReadable) :
    ∀ q ∈ v.properties, q.name.startsWith "xmlns" = false := by
  obtain ⟨u, t, preds, succs, -, -, hprops⟩ := hv.properties
  intro q hq
  have hmem : q.name ∈ [Known.uuid, Known.created, Known.predecessors, Known.successors] := by
    rw [← versionProperties_names u t preds succs, ← hprops]
    exact List.mem_map_of_mem hq
  have hnames : ∀ a ∈ [Known.uuid, Known.created, Known.predecessors, Known.successors],
      a.startsWith "xmlns" = false := by
    decide +kernel
  exact hnames _ hmem

/-- A readable version, read inside its history, is put in place with its frozen nodes. -/
theorem Node.VersionReadable.importsAs {v : Node} (hv : v.VersionReadable) (p : List String) :
    ImportsAs (.history p) p v (freshOf v.dropNamespaceLike) := by
  have hopen : ∀ S : Staged, S.along? (p ++ [v.name]) = none →
      openFrame S (.history p) ⟨v.primaryType, v.dropNamespaceLike.docViewAttributes⟩ =
        pure (.version (p ++ [v.name]), S.updateAlong (p ++ [v.name]) fun _ => started v) := by
    intro S hfree
    rw [Node.dropNamespaceLike_eq_self hv.not_xmlns]
    unfold openFrame
    rw [Element.elementType_docViewAttributes, hv.type]
    simp only [RepoM.ofExcept, pure_bind]
    rw [if_pos trivial, startVersion_started hv _ S p hfree]
    rfl
  rw [Node.dropNamespaceLike_eq_self hv.not_xmlns, freshOf_eq_started]
  exact importsAs_of_openFrame hopen rfl rfl
    (fun d hd => ⟨(hv.frozen d hd).2.importsAs_frozen _ _ (.inr ⟨rfl, (hv.frozen d hd).1⟩),
      name_freshOf d⟩) hv.children_nodup

/-- A readable label node, read inside its history, is put in place without the labels whose
names read as namespace declarations. -/
theorem Node.LabelsReadable.importsAs {L : String → Prop} {l : Node} (hl : l.LabelsReadable L)
    (p : List String) : ImportsAs (.history p) p l (freshOf l.dropNamespaceLike) := by
  have hopen : ∀ S : Staged, S.along? (p ++ [l.name]) = none →
      openFrame S (.history p) ⟨l.primaryType, l.dropNamespaceLike.docViewAttributes⟩ =
        pure (.labels, S.updateAlong (p ++ [l.name]) fun _ => started l.dropNamespaceLike) := by
    intro S hfree
    unfold openFrame
    rw [Element.elementType_docViewAttributes, Node.primaryType_dropNamespaceLike, hl.type]
    simp only [RepoM.ofExcept, pure_bind]
    rw [if_pos trivial, startLabels_started hl _ S p hfree]
    rfl
  have h := importsAs_of_openFrame (g := freshOf) hopen rfl rfl
    (fun d hd => by rw [hl.children] at hd; cases hd) (by rw [hl.children]; exact List.nodup_nil)
  rwa [← Node.children_dropNamespaceLike, ← freshOf_eq_started] at h

/-! ## The history element -/

/-- The history a version document of `h` creates, with the new identifier `hid` and the
identifier `v` of its versionable node: the type of a history, those two identifiers, and the
children of `h` without the properties whose names read as namespace declarations. -/
def Node.importedHistory (h : Node) (hid v : String) : Node :=
  { name := h.name, primaryType := Known.ntVersionHistory, mixins := [],
    properties := [Property.ofString Known.uuid hid, Property.ofString Known.versionableUuid v],
    children := h.children.map Node.dropNamespaceLike }

theorem freshOf_importedHistory (h : Node) (hid v : String) :
    freshOf (h.importedHistory hid v) =
      { historyStarted h.name hid v with
        children := h.children.map fun c => freshOf c.dropNamespaceLike } := by
  rw [freshOf_eq_started, Node.importedHistory, List.map_map]
  rfl

/-- The events of a readable history's element, read inside the document's root, draw one
identifier and put the imported history in the free place of its name, below its buckets. -/
theorem Node.HistoryReadable.imports {L : String → Prop} {h : Node} (hh : h.HistoryReadable L)
    {v : String}
    (hv : h.property? Known.versionableUuid = some (Property.ofString Known.versionableUuid v))
    (path : String) (fuel : Nat) {r r' : ElementReader} (stack : List VersionFrame) (seen : Bool)
    (S : Staged) (rep : Repository) (hr : Reads r (fullElement false path h).events r')
    (hfree : S.along? (Path.versionHistoryPath h.name) = none) :
    applyVersionEvents (fuel + (fullElement false path h).events.length) r (.root :: stack) seen S
        rep =
      applyVersionEvents fuel r' (.root :: stack) seen
        ((S.typeFreshAlong Known.repVersionStorage (Path.versionBuckets h.name)).updateAlong
          (Path.versionHistoryPath h.name)
          fun _ => freshOf (h.importedHistory (identifierOf (rep.issued + 1)) v))
        { rep with issued := rep.issued + 1 } := by
  have hopen : openFrame S .root ⟨h.primaryType, h.dropNamespaceLike.docViewAttributes⟩ rep =
      .ok (.history (Path.versionHistoryPath h.name),
        (S.typeFreshAlong Known.repVersionStorage (Path.versionBuckets h.name)).updateAlong
          (Path.versionHistoryPath h.name)
          (fun _ => historyStarted h.name (identifierOf (rep.issued + 1)) v))
        { rep with issued := rep.issued + 1 } := by
    unfold openFrame
    rw [Element.elementType_docViewAttributes, Node.primaryType_dropNamespaceLike, hh.type]
    simp only [RepoM.ofExcept, pure_bind, if_pos trivial]
    rw [bind_of_ok (startHistory_started hh hv _ S rep hfree)]
    rfl
  -- each child is a label node or a version, put in place below the history
  have hkids : ∀ c ∈ h.children,
      ImportsAs (.history (Path.versionBuckets h.name ++ [h.name]))
        (Path.versionBuckets h.name ++ [h.name]) c (freshOf c.dropNamespaceLike) ∧
      (freshOf c.dropNamespaceLike).name = c.name := fun c hc =>
    ⟨(hh.child c hc).elim (fun hl => hl.importsAs _) fun hv => hv.importsAs _,
      name_freshOf _⟩
  rw [events_fullElement] at hr ⊢
  cases hr with
  | step hnext hrest =>
    obtain ⟨r₁, hchildren, hend⟩ := hrest.split
    cases hend with
    | step hfinish hnil =>
      cases hnil
      rw [List.length_cons, List.length_append, List.length_singleton,
        show ∀ k, fuel + (k + 1 + 1) = fuel + 1 + k + 1 from fun k => by omega,
        applyVersionEvents_start hnext, bind_of_ok hopen]
      dsimp only
      rw [Path.versionHistoryPath]
      rw [applyVersionEvents_children path (historyStarted h.name (identifierOf (rep.issued + 1)) v)
        (fuel + 1) (.root :: stack) seen _ hkids rfl (fun _ _ => rfl) hh.children_nodup hchildren,
        applyVersionEvents_finish hfinish, freshOf_importedHistory]
      rfl

/-! ## Importing a version document -/

theorem applyVersionEvents_root {fuel : Nat} {r r₁ : ElementReader} {e : Element} {S : Staged}
    (hnext : r.next = .ok (some (.start e), r₁)) (htag : e.tag = Known.versionsElement) :
    applyVersionEvents (fuel + 1) r [] false S = applyVersionEvents fuel r₁ [.root] true S := by
  rw [applyVersionEvents, hnext]
  simp [htag, RepoM.ofExcept]

theorem applyVersionEvents_end {fuel : Nat} {r r₁ : ElementReader} {stack : List VersionFrame}
    {S : Staged} (hnext : r.next = .ok (none, r₁)) :
    applyVersionEvents (fuel + 1) r stack true S = pure S := by
  rw [applyVersionEvents, hnext]
  rfl

/-- The staged storage of a repository whose storage has no history of a name has no node at
the path of that history. -/
theorem versionStorage_free {r : Repository} {S : Staged} {a : String}
    (hstored : ∀ st, r.root.descendant? Known.versionStoragePath = some st → S = ofNode st)
    (hnil : r.root.descendant? Known.versionStoragePath = none → S.children = [])
    (hfree : storedHistory? r.root a = none) : S.along? (Path.versionHistoryPath a) = none := by
  obtain ⟨b, rest, hpath⟩ := List.exists_cons_of_ne_nil (versionHistoryPath_ne_nil a)
  cases hd : r.root.descendant? Known.versionStoragePath with
  | none =>
    rw [hpath]
    exact along?_of_children_nil (hnil hd) b rest
  | some st =>
    rw [storedHistory?, hd, Option.bind_some] at hfree
    rw [hstored st hd, along?_ofNode, hfree]
    rfl

/-- Importing the version document of a readable history into a repository whose version
storage has no history of that name succeeds and reports a change. It draws one identifier, and
stores there the history with that identifier, the identifier of its versionable node, and its
children as they were, but for the properties whose names read as namespace declarations. -/
theorem importVersions_versionsDocument {L : String → Prop} {h : Node} (hh : h.HistoryReadable L)
    (path : String) (r : Repository) (hfree : storedHistory? r.root h.name = none) :
    ∃ v r', h.property? Known.versionableUuid = some (Property.ofString Known.versionableUuid v) ∧
      importVersions (utf8Bytes (versionsDocument path h)) r = .ok true r' ∧
      r'.issued = r.issued + 1 ∧
      storedHistory? r'.root h.name = some (h.importedHistory (identifierOf (r.issued + 1)) v) := by
  obtain ⟨v, hv⟩ := hh.versionable
  obtain ⟨S₀, hS₀, -, hstored, hnil⟩ := versionStorage_staged r
  have hfree₀ := versionStorage_free hstored hnil hfree
  -- the document reads as its root, the history's element, the root's end, and nothing more
  have hlen := events_length_lt_versionsDocument hh.everywhere path
  obtain ⟨F, hF⟩ : ∃ F, 2 * (utf8Bytes (versionsDocument path h)).length + 2 =
      F + 1 + 1 + (fullElement false h.name h).events.length + 1 :=
    ⟨2 * (utf8Bytes (versionsDocument path h)).length + 2 -
      ((fullElement false h.name h).events.length + 3), by omega⟩
  cases reads_versionsDocument hh.everywhere path with
  | step hroot hrest =>
    obtain ⟨r₁, hhistory, hend⟩ := hrest.split
    cases hend with
    | step hfinish hnil =>
      cases hnil
      set H := h.importedHistory (identifierOf (r.issued + 1)) v
      set B := S₀.typeFreshAlong Known.repVersionStorage (Path.versionBuckets h.name)
      set Fs := B.updateAlong (Path.versionHistoryPath h.name) fun _ => freshOf H with hFs
      have hrun : applyVersionEvents (2 * (utf8Bytes (versionsDocument path h)).length + 2)
          (ofBytes (utf8Bytes (versionsDocument path h))) [] false S₀ r =
            .ok Fs { r with issued := r.issued + 1 } := by
        rw [hF, applyVersionEvents_root hroot rfl, hh.imports hv h.name _ [] true S₀ r hhistory hfree₀,
          applyVersionEvents_finish hfinish, applyVersionEvents_end ElementReader.next_end]
        rfl
      -- the imported history stands in the staged storage, and so in its build
      have hbuilt : Fs.build.descendAlong (Path.versionHistoryPath h.name) = some H := by
        have hat := along?_updateAlong_const (X := freshOf H) (a := h.name) rfl
          (Path.versionBuckets h.name) [] B
        rw [List.append_nil] at hat
        rw [descendAlong_build, hFs, Path.versionHistoryPath, hat]
        exact congrArg some (build_freshOf H)
      -- so the stored storage, which has no such history, is not the same as the build
      have hchanged : ((r.root.descendant? Known.versionStoragePath).any
          (·.same Fs.build)) = false := by
        cases hd : r.root.descendant? Known.versionStoragePath with
        | none => rfl
        | some st =>
          rw [storedHistory?, hd, Option.bind_some] at hfree
          cases hsame : st.same Fs.build with
          | false => exact hsame
          | true =>
            obtain ⟨m, hm, -⟩ := Node.descendAlong_of_same _ hsame hbuilt
            rw [hfree] at hm
            cases hm
      obtain ⟨root', hcommit, hput⟩ := commitVersionStorage_run Fs { r with issued := r.issued + 1 }
      refine ⟨v, { r with issued := r.issued + 1, root := root' }, hv, ?_, rfl, ?_⟩
      · unfold importVersions
        rw [bind_of_ok hS₀, bind_of_ok hrun, bind_of_ok get_run]
        dsimp only
        rw [hchanged, if_neg Bool.false_ne_true, bind_of_ok hcommit]
        rfl
      · obtain ⟨b, rest, hpath⟩ := List.exists_cons_of_ne_nil (versionHistoryPath_ne_nil h.name)
        rw [storedHistory?, hput, Option.bind_some, hpath, descendAlong_rename_cons, ← hpath,
          hbuilt]

end ContentSync
