import ContentSync.Proofs.RescueMerge
import ContentSync.Proofs.HistoryLookup
import Mathlib

/-!
# The up-to-date check of a replacement

Before it replaces a node by new content, the import checks whether the node carries that
content already (`DocViewImport.upToDate`): the same types, as many properties apart from the
ignored ones, each property of the content found on the node under its name, and for every child
the filter contains, a child of that name that carries it. The check counts and looks up by
name, where the replacement merges the content, cut down to the filter, with the node
(`Node.merge`, `Node.restrict`).

The check holds exactly when that merge is alike the node (`Node.Alike`): the same name, types
and mixins, and properties and children matched one to one, in any order, properties by the
program's comparison of values (`Value.same`: doubles as numbers, dates as instants)
(`upToDate_iff_alike_merge`). Together with what a replacement builds, the check skips exactly
the replacements that would leave the node alike, and reports the others
(`upToDate_iff_replacement_keeps_node`).

The comparison of values is part of the statement. A date written at another offset for the same
instant counts as unchanged, so the check skips a replacement that would rewrite it; a NaN double
is the same as no value, not even itself, so the check replaces a node holding one even with its
own content (`sameness_departs_from_identity`). A node without NaN values is alike itself
(`Node.Alike.refl`); that is what the statement asks of the node that is checked.
-/

namespace ContentSync

open Node

/-! ## Comparing values -/

theorem Number.Binary64.same_comm (x y : Number.Binary64) : x.same y = y.same x := by
  unfold Number.Binary64.same
  rw [Bool.or_comm, Bool.and_comm, Bool.beq_comm]

theorem Time.Timestamp.sameInstant_comm (a b : Time.Timestamp) :
    a.sameInstant b = b.sameInstant a := by
  unfold Time.Timestamp.sameInstant
  rw [@Bool.beq_comm _ _ _ a.utcSeconds, @Bool.beq_comm _ _ _ a.nanos]

theorem Value.same_comm (a b : Value) : a.same b = b.same a := by
  cases a <;> cases b <;>
    first
    | rfl
    | exact Number.Binary64.same_comm _ _
    | exact Time.Timestamp.sameInstant_comm _ _
    | exact Bool.beq_comm

/-- A value is the same as itself unless it is a NaN double. -/
theorem Value.same_self_iff (v : Value) :
    v.same v = true ↔ ∀ x, v = .double x → x.isNaN = false := by
  cases v with
  | double x =>
    simp only [Value.same, Number.Binary64.same, Bool.or_self, Value.double.injEq,
      forall_eq']
    cases x.isNaN <;> simp
  | date t => simp [Value.same, Time.Timestamp.sameInstant]
  | _ => simp [Value.same]

namespace Property

theorem sameValues_comm (as bs : List Value) : sameValues as bs = sameValues bs as := by
  induction as generalizing bs with
  | nil => cases bs <;> rfl
  | cons a as ih =>
    cases bs with
    | nil => rfl
    | cons b bs => rw [sameValues, sameValues, Value.same_comm, ih bs]

theorem same_comm (p q : Property) : p.same q = q.same p := by
  unfold Property.same
  rw [@Bool.beq_comm _ _ _ p.name, @Bool.beq_comm _ _ _ p.type, @Bool.beq_comm _ _ _ p.multi,
    sameValues_comm]

theorem name_eq_of_same {p q : Property} (h : p.same q = true) : p.name = q.name := by
  unfold Property.same at h
  simp only [Bool.and_eq_true, beq_iff_eq] at h
  exact h.1.1.1

end Property

/-! ## Trees alike up to order -/

namespace Node

/-- Every property of the node is the same as itself: the node holds no NaN double. -/
def SelfSame (n : Node) : Prop :=
  ∀ p ∈ n.properties, p.same p = true

instance (n : Node) : Decidable n.SelfSame :=
  inferInstanceAs (Decidable (∀ p ∈ n.properties, _))

/-- Two trees alike but for order: the same name, types and mixins, properties matched one to one
by `Property.same` in some order, and children matched one to one, alike, in some order. -/
inductive Alike : Node → Node → Prop
  | intro {m n : Node} (ps : List Property) (cs : List Node) :
      m.name = n.name → m.primaryType = n.primaryType → m.mixins = n.mixins →
      List.Forall₂ (fun p q => p.same q = true) m.properties ps → ps.Perm n.properties →
      List.Forall₂ Alike m.children cs → cs.Perm n.children → Alike m n

theorem alike_iff {m n : Node} :
    Alike m n ↔ m.name = n.name ∧ m.primaryType = n.primaryType ∧ m.mixins = n.mixins ∧
      (∃ ps, List.Forall₂ (fun p q => p.same q = true) m.properties ps ∧ ps.Perm n.properties) ∧
      ∃ cs, List.Forall₂ Alike m.children cs ∧ cs.Perm n.children := by
  constructor
  · rintro ⟨ps, cs, hname, htype, hmix, hp, hps, hc, hcs⟩
    exact ⟨hname, htype, hmix, ⟨ps, hp, hps⟩, cs, hc, hcs⟩
  · rintro ⟨hname, htype, hmix, ⟨ps, hp, hps⟩, cs, hc, hcs⟩
    exact .intro ps cs hname htype hmix hp hps hc hcs

theorem Alike.name_eq {m n : Node} (h : Alike m n) : m.name = n.name :=
  (alike_iff.mp h).1

/-- A tree whose values are each the same as themselves is alike itself. -/
theorem Alike.refl {n : Node} (h : Everywhere SelfSame n) : Alike n n := by
  induction h with
  | intro n hn _ ih =>
    exact .intro n.properties n.children rfl rfl rfl (List.forall₂_same.mpr hn) (List.Perm.refl _)
      (List.forall₂_same.mpr ih) (List.Perm.refl _)

/-- Reordering the properties and children of a node keeps it alike the same trees. -/
theorem Alike.of_sameUpToOrder {m n t : Node} (hmn : SameUpToOrder m n) (h : Alike n t) :
    Alike m t := by
  obtain ⟨hname, htype, hmix, hprops, hkids⟩ := hmn
  obtain ⟨ps, cs, hn, ht, hx, hp, hps, hc, hcs⟩ := h
  obtain ⟨ps', hp', hps'⟩ := List.perm_comp_forall₂ hprops hp
  obtain ⟨cs', hc', hcs'⟩ := List.perm_comp_forall₂ hkids hc
  exact .intro ps' cs' (hname.trans hn) (htype.trans ht) (hmix.trans hx) hp' (hps'.trans hps) hc'
    (hcs'.trans hcs)

theorem SameUpToOrder.symm {m n : Node} (h : SameUpToOrder m n) : SameUpToOrder n m :=
  ⟨h.1.symm, h.2.1.symm, h.2.2.1.symm, h.2.2.2.1.symm, h.2.2.2.2.symm⟩

/-- What holds at every node holds in a weaker form at every node. -/
theorem Everywhere.imp {P Q : Node → Prop} (hPQ : ∀ n, P n → Q n) {n : Node}
    (h : Everywhere P n) : Everywhere Q n := by
  induction h with
  | intro n hn _ ih => exact .intro n (hPQ n hn) ih

/-- What the check asks of new content: distinct names of properties and of children, no
property that sets a type, and no ignored property. -/
def ContentFits (ignored : List String) (n : Node) : Prop :=
  PlainProperties n ∧ DistinctChildren n ∧ ∀ p ∈ n.properties, ignored.contains p.name = false

instance (ignored : List String) (n : Node) : Decidable (n.ContentFits ignored) :=
  inferInstanceAs (Decidable (_ ∧ _ ∧ _))

/-- What the check asks of the node it checks: distinct names of properties and of children,
and every property the same as itself. -/
def StoredFits (n : Node) : Prop :=
  (n.properties.map (·.name)).Nodup ∧ DistinctChildren n ∧ SelfSame n

theorem everywhere_storedFits {n : Node} (hw : Everywhere SiblingsWellNamed n)
    (hp : Everywhere PlainProperties n) (hs : Everywhere SelfSame n) :
    Everywhere StoredFits n := by
  induction hw with
  | intro n hn _ ih =>
    exact .intro n ⟨hp.self.1, hn.1, hs.self⟩ fun c hc => ih c hc (hp.child hc) (hs.child hc)

/-- Among properties with distinct names, a property is the first of its name. -/
theorem findProperty?_of_mem {ps : List Property} {q : Property} (h : (ps.map (·.name)).Nodup)
    (hq : q ∈ ps) : findProperty? q.name ps = some q := by
  obtain ⟨q', hq'⟩ : ∃ q', findProperty? q.name ps = some q' :=
    Option.isSome_iff_exists.mp (List.find?_isSome.mpr ⟨q, hq, by simp⟩)
  have hname : q'.name = q.name := by simpa using List.find?_some hq'
  rw [hq', List.inj_on_of_nodup_map h (List.mem_of_find?_eq_some hq') hq hname]

theorem exists_related_of_mem {α β : Type} {R : α → β → Prop} {l₁ : List α} {l₂ : List β}
    {a : α} (h : List.Forall₂ R l₁ l₂) (ha : a ∈ l₁) : ∃ b ∈ l₂, R a b := by
  induction h with
  | nil => cases ha
  | cons hab _ ih =>
    rcases List.mem_cons.mp ha with rfl | ha
    · exact ⟨_, List.mem_cons_self, hab⟩
    · obtain ⟨b, hb, hr⟩ := ih ha
      exact ⟨b, List.mem_cons_of_mem _ hb, hr⟩

/-- Each child of new content merged with the old child of its name, if there is one. -/
theorem mergeChildren_eq_map (preserved : List String) (cs : List Node) (T : Node) :
    mergeChildren preserved cs T.children =
      cs.map fun c => (T.child? c.name).elim c (merge preserved c) := by
  induction cs with
  | nil => rw [mergeChildren, List.map_nil]
  | cons c cs ih =>
    have hfind : T.children.find? (·.name = c.name) = T.child? c.name := rfl
    rw [mergeChildren_cons, ih, List.map_cons, hfind]
    cases T.child? c.name <;> rfl

theorem name_merge (preserved : List String) (n old : Node) :
    (merge preserved n old).name = old.name := by
  rw [merge_eq]

/-- What holds of every restricted child holds of each child the filter contains, restricted. -/
theorem forall_mem_restrictChildren_iff {f : WorkspaceFilter} {path : String} {P : Node → Prop}
    (cs : List Node) :
    (∀ d ∈ restrictChildren f path cs, P d) ↔
      ∀ c ∈ cs, f.contains (Path.join path c.name) = true → P (restrict f (Path.join path c.name) c) := by
  induction cs with
  | nil => simp [restrictChildren]
  | cons c cs ih =>
    rw [restrictChildren_cons, List.forall_mem_cons]
    by_cases hc : f.contains (Path.join path c.name) = true
    · rw [if_pos hc, List.forall_mem_cons, ih, imp_iff_right hc]
    · rw [if_neg hc, ih]
      exact (and_iff_right fun h => absurd h hc).symm

/-- The merge of restricted content with a node, field by field. -/
theorem merge_restrict_eq (preserved : List String) (f : WorkspaceFilter) (path : String)
    (N T : Node) :
    merge preserved (restrict f path N) T =
      ⟨T.name, N.primaryType, N.mixins,
        N.properties ++ T.properties.filter fun p =>
          preserved.contains p.name && (findProperty? p.name N.properties).isNone,
        mergeChildren preserved (restrictChildren f path N.children) T.children ++
          T.children.filter fun d => !(restrictChildren f path N.children).any (·.name = d.name)⟩ := by
  rw [restrict_eq, merge_eq]
  rfl

/-- The children of the merge match those of the node one to one, alike, exactly when every
child of the content meets a child of its name with which it merges into one alike it. -/
theorem children_alike_merge_iff (preserved : List String) {R : List Node} {T : Node}
    (hR : (R.map (·.name)).Nodup) (hT : DistinctChildren T)
    (hself : ∀ e ∈ T.children, Alike e e) :
    (∃ cs, List.Forall₂ Alike (mergeChildren preserved R T.children ++
        T.children.filter fun d => !R.any (·.name = d.name)) cs ∧ cs.Perm T.children) ↔
      ∀ d ∈ R, ∃ e, T.child? d.name = some e ∧ Alike (merge preserved d e) e := by
  rw [mergeChildren_eq_map]
  constructor
  · rintro ⟨cs, hf, hperm⟩ d hd
    -- the merged child is alike an old child of its name: the one it was merged with
    obtain ⟨t, ht, hmt⟩ := exists_related_of_mem hf
      (List.mem_append_left _ (List.mem_map_of_mem hd))
    have hchild := child?_of_mem hT (hperm.subset ht)
    cases he : T.child? d.name with
    | none =>
      rw [he, Option.elim_none] at hmt
      rw [← hmt.name_eq, he] at hchild
      cases hchild
    | some e =>
      rw [he, Option.elim_some] at hmt
      rw [← hmt.name_eq, name_merge, name_of_child? he, he] at hchild
      cases hchild
      exact ⟨_, rfl, hmt⟩
  · intro h
    obtain ⟨found, hfound⟩ : ∃ found : Node → Node, ∀ d ∈ R,
        T.child? d.name = some (found d) ∧ Alike (merge preserved d (found d)) (found d) := by
      refine ⟨fun d => (T.child? d.name).getD d, fun d hd => ?_⟩
      obtain ⟨e, he, halike⟩ := h d hd
      beta_reduce
      rw [he]
      exact ⟨rfl, halike⟩
    have hname : ∀ d ∈ R, (found d).name = d.name := fun d hd => name_of_child? (hfound d hd).1
    -- the old children met are those of the names of the content, each once
    have hmet : (R.map found).Perm (T.children.filter fun d => R.any (·.name = d.name)) := by
      have hnodup : (R.map found).Nodup := by
        refine List.Nodup.of_map (·.name) ?_
        have hmap : (R.map found).map (·.name) = R.map (·.name) := by
          rw [List.map_map]
          exact List.map_congr_left hname
        rw [hmap]
        exact hR
      refine (List.perm_ext_iff_of_nodup hnodup ((List.Nodup.of_map _ hT).filter _)).mpr
        fun e => ⟨fun he => ?_, fun he => ?_⟩
      · obtain ⟨d, hd, rfl⟩ := List.mem_map.mp he
        refine List.mem_filter.mpr ⟨mem_of_child? (hfound d hd).1, List.any_eq_true.mpr ⟨d, hd, ?_⟩⟩
        rw [hname d hd]
        exact decide_eq_true rfl
      · obtain ⟨heT, hany⟩ := List.mem_filter.mp he
        obtain ⟨d, hd, hde⟩ := List.any_eq_true.mp hany
        have hde : d.name = e.name := of_decide_eq_true hde
        have hfd := (hfound d hd).1
        rw [hde, child?_of_mem hT heT] at hfd
        exact List.mem_map.mpr ⟨d, hd, (Option.some.inj hfd).symm⟩
    have hmerged : (R.map fun d => (T.child? d.name).elim d (merge preserved d)) =
        R.map fun d => merge preserved d (found d) :=
      List.map_congr_left fun d hd => by rw [(hfound d hd).1, Option.elim_some]
    refine ⟨R.map found ++ T.children.filter fun d => !R.any (·.name = d.name),
      List.rel_append ?_ ?_, (hmet.append_right _).trans (List.filter_append_perm _ _)⟩
    · rw [hmerged, List.forall₂_map_left_iff, List.forall₂_map_right_iff, List.forall₂_same]
      exact fun d hd => (hfound d hd).2
    · exact List.forall₂_same.mpr fun e he => hself e (List.mem_filter.mp he).1

end Node

/-! ## The check, field by field -/

namespace DocViewImport

variable (x : DocViewImport)

theorem carries_iff {T : Node} {p : Property} :
    carries T p = true ↔ ∃ q, findProperty? p.name T.properties = some q ∧ q.same p = true := by
  unfold carries Node.property?
  cases findProperty? p.name T.properties <;> simp

theorem childrenUpToDate_iff {T : Node} {path : String} (cs : List Node) :
    x.childrenUpToDate T path cs = true ↔
      ∀ c ∈ cs, x.filter.contains (Path.join path c.name) = true →
        ∃ e, T.child? c.name = some e ∧ x.upToDate e (Path.join path c.name) c = true := by
  induction cs with
  | nil => simp [childrenUpToDate]
  | cons c cs ih =>
    rw [childrenUpToDate, Bool.and_eq_true, ih, List.forall_mem_cons]
    refine and_congr_left' ?_
    cases T.child? c.name <;> cases x.filter.contains (Path.join path c.name) <;> simp

theorem upToDate_iff {T N : Node} {path : String} :
    x.upToDate T path N = true ↔
      T.primaryType = N.primaryType ∧ T.mixins = N.mixins ∧
        (T.properties.filter fun p => !x.ignored.contains p.name).length = N.properties.length ∧
        (∀ p ∈ N.properties, carries T p = true) ∧
        ∀ c ∈ N.children, x.filter.contains (Path.join path c.name) = true →
          ∃ e, T.child? c.name = some e ∧ x.upToDate e (Path.join path c.name) c = true := by
  cases N
  rw [upToDate]
  simp only [Bool.and_eq_true, decide_eq_true_eq, List.all_eq_true, childrenUpToDate_iff, and_assoc]

/-- The properties of the merge match those of the node one to one exactly when the node has as
many properties apart from the ignored ones as the content, and carries each of the content's. -/
theorem properties_alike_merge_iff {T N : Node} (hT : (T.properties.map (·.name)).Nodup)
    (hself : T.SelfSame) (hN : (N.properties.map (·.name)).Nodup)
    (hign : ∀ p ∈ N.properties, x.ignored.contains p.name = false) :
    (∃ qs, List.Forall₂ (fun p q => p.same q = true) (N.properties ++ T.properties.filter
        fun q => x.ignored.contains q.name && (findProperty? q.name N.properties).isNone) qs ∧
      qs.Perm T.properties) ↔
      (T.properties.filter fun q => !x.ignored.contains q.name).length = N.properties.length ∧
        ∀ p ∈ N.properties, carries T p = true := by
  -- the merge keeps exactly the ignored properties of the node: the content has none
  have hkept : (T.properties.filter fun q =>
      x.ignored.contains q.name && (findProperty? q.name N.properties).isNone) =
        T.properties.filter fun q => x.ignored.contains q.name := by
    refine List.filter_congr fun q _ => ?_
    cases hq : x.ignored.contains q.name with
    | false => rfl
    | true =>
      have hnone : findProperty? q.name N.properties = none := by
        rw [findProperty?_eq_none_iff]
        intro hmem
        obtain ⟨p, hp, hpq⟩ := List.mem_map.mp hmem
        have hp := hign p hp
        rw [hpq, hq] at hp
        cases hp
      rw [hnone]
      rfl
  have hlen : T.properties.length =
      (T.properties.filter fun q => x.ignored.contains q.name).length +
        (T.properties.filter fun q => !x.ignored.contains q.name).length :=
    List.length_eq_length_filter_add _
  rw [hkept]
  constructor
  · rintro ⟨qs, hf, hperm⟩
    have hqs := hf.length_eq
    rw [List.length_append, hperm.length_eq] at hqs
    refine ⟨by omega, fun p hp => carries_iff.mpr ?_⟩
    -- the partner of `p` has its name, so it is the node's property of that name
    obtain ⟨q, hq, hpq⟩ := exists_related_of_mem hf (List.mem_append_left _ hp)
    refine ⟨q, ?_, by rw [Property.same_comm]; exact hpq⟩
    rw [Property.name_eq_of_same hpq]
    exact findProperty?_of_mem hT (hperm.subset hq)
  · rintro ⟨hcount, hcarry⟩
    obtain ⟨found, hfound⟩ : ∃ found : Property → Property, ∀ p ∈ N.properties,
        findProperty? p.name T.properties = some (found p) ∧ (found p).same p = true := by
      refine ⟨fun p => (findProperty? p.name T.properties).getD p, fun p hp => ?_⟩
      obtain ⟨q, hq, hqp⟩ := carries_iff.mp (hcarry p hp)
      beta_reduce
      rw [hq]
      exact ⟨rfl, hqp⟩
    have hname : ∀ p ∈ N.properties, (found p).name = p.name := fun p hp => by
      simpa using List.find?_some (hfound p hp).1
    -- the properties found are distinct, none ignored, and as many as those compared
    have hmatched : (N.properties.map found).Perm
        (T.properties.filter fun q => !x.ignored.contains q.name) := by
      have hnodup : (N.properties.map found).Nodup := by
        refine List.Nodup.of_map (·.name) ?_
        have hmap : (N.properties.map found).map (·.name) = N.properties.map (·.name) := by
          rw [List.map_map]
          exact List.map_congr_left hname
        rw [hmap]
        exact hN
      refine (hnodup.subperm fun q hq => ?_).perm_of_length_le (by rw [List.length_map, hcount])
      obtain ⟨p, hp, rfl⟩ := List.mem_map.mp hq
      refine List.mem_filter.mpr ⟨List.mem_of_find?_eq_some (hfound p hp).1, ?_⟩
      rw [hname p hp, hign p hp]
      rfl
    refine ⟨N.properties.map found ++ T.properties.filter fun q => x.ignored.contains q.name,
      List.rel_append ?_ ?_,
      (hmatched.append_right _).trans (List.perm_append_comm.trans (List.filter_append_perm _ _))⟩
    · rw [List.forall₂_map_right_iff, List.forall₂_same]
      intro p hp
      rw [Property.same_comm]
      exact (hfound p hp).2
    · exact List.forall₂_same.mpr fun q hq => hself q (List.mem_filter.mp hq).1

/-- The check holds exactly when the merge of the content, cut down to the filter, with the node
is alike the node. -/
theorem upToDate_iff_alike_merge {N : Node} (hN : Everywhere (ContentFits x.ignored) N) :
    ∀ {T : Node} (path : String), Everywhere StoredFits T →
      (x.upToDate T path N = true ↔ Alike (merge x.ignored (restrict x.filter path N) T) T) := by
  -- induction on the content; at each node its properties and its children are matched apart
  induction hN with
  | intro N hfit _ ih =>
    intro T path hT
    have hprops := x.properties_alike_merge_iff hT.self.1 hT.self.2.2 hfit.1.1 hfit.2.2
    have hchildren := children_alike_merge_iff x.ignored
      ((map_name_restrictChildren_sublist x.filter path N.children).nodup hfit.2.1) hT.self.2.1
      fun e he => Alike.refl (Everywhere.imp (fun _ h => h.2.2) (hT.child he))
    -- a child the filter contains is checked where its restriction is merged
    have hkids : (∀ c ∈ N.children, x.filter.contains (Path.join path c.name) = true →
        ∃ e, T.child? c.name = some e ∧ x.upToDate e (Path.join path c.name) c = true) ↔
        ∀ d ∈ restrictChildren x.filter path N.children,
          ∃ e, T.child? d.name = some e ∧ Alike (merge x.ignored d e) e := by
      rw [forall_mem_restrictChildren_iff]
      refine forall₂_congr fun c hc => imp_congr_right fun _ => ?_
      rw [name_restrict]
      exact exists_congr fun e => and_congr_right fun he => ih c hc _ (hT.child (mem_of_child? he))
    rw [upToDate_iff, merge_restrict_eq, alike_iff]
    dsimp only
    rw [hprops, hchildren, ← hkids]
    constructor
    · rintro ⟨hty, hmx, hcount, hcarry, hkid⟩
      exact ⟨rfl, hty.symm, hmx.symm, ⟨hcount, hcarry⟩, hkid⟩
    · rintro ⟨-, hty, hmx, ⟨hcount, hcarry⟩, hkid⟩
      exact ⟨hty.symm, hmx.symm, hcount, hcarry, hkid⟩

/-- Replacing a node checks the node stored at the path, and then either returns at once or runs
the replacement. -/
theorem replaceNode_run (info : ImportInfo) {path : String} {ps : List String} {N T : Node}
    {r r' : Repository} {out : List String} (hps : Path.segments path = ps)
    (hT : r.root.descendAlong ps = some T)
    (hrun : (do
        let t ← RescueTransformer.begin path x.ignored
        let t ← DocViewImport.streamNode x.filter path t N
        t.finish) r = .ok out r') :
    x.replaceNode path N info r =
      if x.upToDate T path N then .ok info r else .ok (info.onReplaced path) r' := by
  unfold replaceNode
  rw [RepoM.bind_of_ok (RepoM.requireNode_run hps hT)]
  cases x.upToDate T path N with
  | true => rfl
  | false =>
    simp only [Bool.false_eq_true, if_false]
    obtain ⟨t, r₁, hbegin, h₁⟩ := RepoM.bind_eq_ok.mp hrun
    obtain ⟨t', r₂, hstream, hfinish⟩ := RepoM.bind_eq_ok.mp h₁
    rw [RepoM.bind_of_ok hbegin, RepoM.bind_of_ok hstream, RepoM.bind_of_ok hfinish]
    rfl

/-- A replacement is skipped exactly when it would leave the node alike. Take a tree with
well-named siblings and plain properties, its node `T` at `ps` holding no NaN, content that fits
the check, and the replacement of `T` by the content run to its end: the check holds exactly
when that replacement leaves a node alike `T` at `ps`. Replacing the node then returns at once,
with the state untouched; otherwise it reports the path replaced, in the state the replacement
leaves. -/
theorem upToDate_iff_replacement_keeps_node (info : ImportInfo) {ps : List String} {N T : Node}
    {r r' : Repository} {out : List String}
    (hwell : Everywhere SiblingsWellNamed r.root) (hplain : Everywhere PlainProperties r.root)
    (hT : r.root.descendAlong ps = some T) (hself : Everywhere SelfSame T)
    (hN : Everywhere (ContentFits x.ignored) N)
    (hrun : (do
        let t ← RescueTransformer.begin (Path.render ps) x.ignored
        let t ← DocViewImport.streamNode x.filter (Path.render ps) t N
        t.finish) r = .ok out r') :
    (x.upToDate T (Path.render ps) N = true ↔
        ∃ M, r'.root.descendAlong ps = some M ∧ Alike M T) ∧
      ((∃ M, r'.root.descendAlong ps = some M ∧ Alike M T) →
        x.replaceNode (Path.render ps) N info r = .ok info r) ∧
      ((¬ ∃ M, r'.root.descendAlong ps = some M ∧ Alike M T) →
        x.replaceNode (Path.render ps) N info r = .ok (info.onReplaced (Path.render ps)) r') := by
  have hNp : Everywhere PlainProperties N := Everywhere.imp (fun _ h => h.1) hN
  have hNd : Everywhere DistinctChildren N := Everywhere.imp (fun _ h => h.2.1) hN
  obtain ⟨s, hfresh, hroot⟩ := replacement_run_root hwell hNp hT hrun
  have hsame := replacedTarget_sameUpToOrder x.filter (Path.render ps) x.ignored
    (hwell.descendAlong hT) (hplain.descendAlong hT) hNp hNd hfresh
  -- the replacement leaves at `ps` a reordering of the merge, which has the name of `T`
  have hat := descendAlong_updateAlong_const hT (hsame.1.trans (name_merge _ _ _))
  rw [← hroot] at hat
  have hcheck : x.upToDate T (Path.render ps) N = true ↔
      ∃ M, r'.root.descendAlong ps = some M ∧ Alike M T := by
    rw [x.upToDate_iff_alike_merge hN _
      (everywhere_storedFits (hwell.descendAlong hT) (hplain.descendAlong hT) hself)]
    constructor
    · exact fun h => ⟨_, hat, Alike.of_sameUpToOrder hsame h⟩
    · rintro ⟨M, hM, halike⟩
      rw [hat] at hM
      cases hM
      exact Alike.of_sameUpToOrder hsame.symm halike
  have hreplace := x.replaceNode_run info
    (Path.segments_render (validName_of_descendAlong hwell hT)) hT hrun
  refine ⟨hcheck, fun h => ?_, fun h => ?_⟩
  · rw [hreplace, if_pos (hcheck.mpr h)]
  · rw [hreplace, if_neg (mt hcheck.mp h)]

end DocViewImport

/-- The page of `pageTree` with its title and without its child. -/
def keptPage : Node :=
  ⟨"page", "nt:unstructured", [], [⟨"title", .string, false, [.string "Old"]⟩], []⟩

/-- An import that replaces anywhere in the tree and ignores no property. -/
def wholeTreeImport : DocViewImport :=
  ⟨WorkspaceFilter.forRoot "/", []⟩

theorem unchanged_page_replacement_skipped :
    ∃ M out r', (do
        let t ← RescueTransformer.begin (Path.render ["page"]) wholeTreeImport.ignored
        let t ← DocViewImport.streamNode wholeTreeImport.filter (Path.render ["page"]) t keptPage
        t.finish) (Repository.ofRoot pageTree 0 creationMoment) = .ok out r' ∧
      r'.root.descendAlong ["page"] = some M ∧ Alike M oldPage ∧
      wholeTreeImport.replaceNode (Path.render ["page"]) keptPage ImportInfo.empty
          (Repository.ofRoot pageTree 0 creationMoment) =
        .ok ImportInfo.empty (Repository.ofRoot pageTree 0 creationMoment) := by
  obtain ⟨out, r', hrun⟩ : ∃ out r', (do
        let t ← RescueTransformer.begin (Path.render ["page"]) wholeTreeImport.ignored
        let t ← DocViewImport.streamNode wholeTreeImport.filter (Path.render ["page"]) t keptPage
        t.finish) (Repository.ofRoot pageTree 0 creationMoment) = .ok out r' :=
    ⟨_, _, rfl⟩
  obtain ⟨hcheck, hskip, -⟩ := wholeTreeImport.upToDate_iff_replacement_keeps_node ImportInfo.empty
    (by decide) (by decide) rfl (by decide) (by decide) hrun
  obtain ⟨M, hM, halike⟩ := hcheck.mp (by decide)
  exact ⟨M, out, r', hrun, hM, halike, hskip ⟨M, hM, halike⟩⟩

/-- A root holding one page. -/
def pageRoot (page : Node) : Node :=
  ⟨"", "rep:root", [], [], [page]⟩

/-- A page holding one double: a quiet NaN. -/
def nanPage : Node :=
  ⟨"page", "nt:unstructured", [], [⟨"x", .double, false, [.double ⟨0x7FF8000000000000⟩]⟩], []⟩

/-- A page holding one date, midnight of the first of January 2024 UTC, written at `hour` o'clock
`offset` seconds east of UTC. -/
def datedPage (offset : Int) (hour : Nat) : Node :=
  ⟨"page", "nt:unstructured", [],
    [⟨"when", .date, false, [.date ⟨2024, 1, 1, hour, 0, 0, 0, offset⟩]⟩], []⟩

/-- The check compares values as the program does, which is not identity. Replaced by its own
content, a page holding a NaN is reported replaced, though the replacement leaves the tree as it
was; replaced by content with the same date written at another offset, a page is skipped, though
the replacement would rewrite the date. -/
theorem sameness_departs_from_identity :
    (∃ out r', (do
        let t ← RescueTransformer.begin (Path.render ["page"]) wholeTreeImport.ignored
        let t ← DocViewImport.streamNode wholeTreeImport.filter (Path.render ["page"]) t nanPage
        t.finish) (Repository.ofRoot (pageRoot nanPage) 0 creationMoment) = .ok out r' ∧
      r'.root = pageRoot nanPage ∧
      wholeTreeImport.replaceNode (Path.render ["page"]) nanPage ImportInfo.empty
          (Repository.ofRoot (pageRoot nanPage) 0 creationMoment) =
        .ok (ImportInfo.onReplaced ImportInfo.empty (Path.render ["page"])) r') ∧
    (∃ out r', (do
        let t ← RescueTransformer.begin (Path.render ["page"]) wholeTreeImport.ignored
        let t ← DocViewImport.streamNode wholeTreeImport.filter (Path.render ["page"]) t
          (datedPage 3600 1)
        t.finish) (Repository.ofRoot (pageRoot (datedPage 0 0)) 0 creationMoment) = .ok out r' ∧
      r'.root = pageRoot (datedPage 3600 1) ∧
      (datedPage 3600 1).properties ≠ (datedPage 0 0).properties ∧
      wholeTreeImport.replaceNode (Path.render ["page"]) (datedPage 3600 1) ImportInfo.empty
          (Repository.ofRoot (pageRoot (datedPage 0 0)) 0 creationMoment) =
        .ok ImportInfo.empty (Repository.ofRoot (pageRoot (datedPage 0 0)) 0 creationMoment)) :=
  ⟨⟨_, _, rfl, rfl, rfl⟩, ⟨_, _, rfl, rfl, by decide, rfl⟩⟩

end ContentSync
