import ContentSync.Snapshot
import ContentSync.Proofs.JsonReadBack
import ContentSync.Proofs.PropertyText
import ContentSync.Proofs.UpToDateCheck

/-!
# A repository file reads back as its tree

The repository file of a saved tree is the pretty JSON of the tree, and it is read back by the
JSON reader and the decoders of `Snapshot`. The reader gives the value back when its containers
nest less than `nestingLimit` deep (`readDocument_pretty`); each decoder inverts the encoding it
stands for, whatever positions the located value carries (`Decoder.Inverts`), and the node decoder
does so level by level. Every property comes back through its typed text, so the tree comes back
whole when each property reads back as itself (`Property.Exact`).

A node is written as an object inside the array of its parent's children, two levels of nesting
per level of the tree, below the object of the file itself: a tree of more than 63 levels is too
deep for the reader.

Main statement: `openSnapshot_snapshotText`.
-/

namespace ContentSync

open Text

/-! ## Decoders that invert an encoding -/

namespace JsonText

variable {α β : Type}

/-- `d` gives back every `a` with `P a` from any located value whose plain form is `enc a`,
whichever positions it carries. -/
def Decoder.Inverts (d : Decoder α) (enc : α → Json) (P : α → Prop) : Prop :=
  ∀ a, P a → ∀ (fromText : Bool) (L : Located), L.toJson = enc a → d fromText L = .ok a

theorem decodeString_inverts : decodeString.Inverts Json.string fun _ => True := by
  intro s _ fromText L hL
  cases L <;> cases hL
  rfl

theorem decodeU32_inverts : decodeU32.Inverts nat fun n => n < 2 ^ 32 := by
  intro n hn fromText L hL
  cases L <;> cases hL
  exact if_pos hn

theorem decodeItems_inverts {d : Decoder α} {enc : α → Json} {P : α → Prop}
    (hd : d.Inverts enc P) (fromText : Bool) {xs : List α} (hxs : ∀ x ∈ xs, P x) :
    ∀ {items : List (Located × Nat)}, itemsToJson items = xs.map enc →
      decodeItems d fromText items = .ok xs := by
  induction xs with
  | nil =>
    intro items h
    cases items with
    | nil => rfl
    | cons i is => cases h
  | cons x xs ih =>
    intro items h
    cases items with
    | nil => cases h
    | cons i is =>
      obtain ⟨L, endAt⟩ := i
      simp only [itemsToJson, List.map_cons, List.cons.injEq] at h
      have hx := hd x (hxs x List.mem_cons_self) fromText L h.1
      have hrest := ih (fun y hy => hxs y (List.mem_cons_of_mem x hy)) h.2
      rw [decodeItems, hx, hrest]
      rfl

theorem decodeList_inverts {d : Decoder α} {enc : α → Json} {P : α → Prop}
    (hd : d.Inverts enc P) :
    (decodeList d).Inverts (fun xs => .array (xs.map enc)) fun xs => ∀ x ∈ xs, P x := by
  intro xs hxs fromText L hL
  cases L with
  | array items start stop =>
    simp only [Located.toJson, Json.array.injEq] at hL
    show settleAt fromText stop (decodeItems d fromText items) = .ok xs
    rw [decodeItems_inverts hd fromText hxs hL]
    rfl
  | _ => cases hL

theorem membersToJson_eq_cons {ms : List (String × Nat × Nat × Located × Nat)} {k : String}
    {j : Json} {rest : List (String × Json)} (h : membersToJson ms = (k, j) :: rest) :
    ∃ a b v e ms', ms = (k, a, b, v, e) :: ms' ∧ v.toJson = j ∧ membersToJson ms' = rest := by
  cases ms with
  | nil => cases h
  | cons m ms =>
    obtain ⟨k', a, b, v, e⟩ := m
    simp only [membersToJson, List.cons.injEq, Prod.mk.injEq] at h
    obtain ⟨⟨rfl, hv⟩, hrest⟩ := h
    exact ⟨a, b, v, e, ms, rfl, hv, hrest⟩

/-- Visiting the members of an object made of `xs`, each one keyed by `key` and valued by `val`,
with a visitor that appends each `x` it is given, gives `xs` after what was there. -/
theorem visitMembers_append {visit : String → Located → List β → Except JsonFault (List β)}
    {key : β → String} {val : β → Json} (fromText : Bool) {xs : List β}
    (hnull : ∀ x ∈ xs, val x ≠ .null)
    (hvisit : ∀ x ∈ xs, ∀ acc (L : Located), L.toJson = val x → visit (key x) L acc = .ok (acc ++ [x])) :
    ∀ {acc : List β} {members : List (String × Nat × Nat × Located × Nat)},
      membersToJson members = xs.map (fun x => (key x, val x)) →
      visitMembers fromText visit acc members = .ok (acc ++ xs) := by
  induction xs with
  | nil =>
    intro acc members h
    cases members with
    | nil => simp [visitMembers]
    | cons m ms => cases h
  | cons x xs ih =>
    intro acc members h
    obtain ⟨_, _, v, endAt, ms, rfl, hv, hrest⟩ := membersToJson_eq_cons h
    -- the value is no fault: a fault reads as null, and no value of `xs` is null
    have hbroken : ∀ f, v ≠ .broken f := fun f hf => hnull x List.mem_cons_self (by
      rw [← hv, hf]
      rfl)
    have hx := hvisit x List.mem_cons_self acc v hv
    have hrec : visitMembers fromText visit (acc ++ [x]) ms = .ok (acc ++ [x] ++ xs) :=
      ih (fun y hy => hnull y (List.mem_cons_of_mem x hy))
        (fun y hy => hvisit y (List.mem_cons_of_mem x hy)) hrest
    rw [List.append_cons acc x xs, ← hrec]
    cases v with
    | broken f => exact absurd rfl (hbroken f)
    | _ =>
      simp only [visitMembers, hx]

end JsonText

open JsonText

/-! ## Properties and nodes that read back -/

/-- A property that reads back from its written text as itself: made by the value API, with no
NaN double and every date at a whole millisecond. -/
structure Property.Exact (p : Property) : Prop where
  built : p.Built
  noNaN : ∀ x, Value.double x ∈ p.values → x.isNaN = false
  millis : ∀ t, Value.date t ∈ p.values → t.nanos % 1000000 = 0

theorem Property.Exact.readProperty_eq {p : Property} (hp : p.Exact) :
    readProperty p.name (formatProperty p) = .ok p := by
  rw [readProperty_formatProperty_readBack hp.built, Value.map_readBack_eq_self hp.noNaN hp.millis]

/-- Every property of the node reads back as itself. -/
def Node.ExactProperties (n : Node) : Prop :=
  ∀ p ∈ n.properties, p.Exact

mutual
/-- The number of levels of a tree; a node without children has one. -/
def Node.height : Node → Nat
  | ⟨_, _, _, _, children⟩ => Node.childrenHeight children + 1

/-- The number of levels of the highest of some trees; none for no trees. -/
def Node.childrenHeight : List Node → Nat
  | [] => 0
  | c :: cs => max c.height (Node.childrenHeight cs)
end

theorem Node.height_mk (name primaryType : String) (mixins : List String)
    (properties : List Property) (children : List Node) :
    (Node.mk name primaryType mixins properties children).height =
      Node.childrenHeight children + 1 := by
  rw [Node.height]

theorem Node.height_le_childrenHeight {c : Node} {cs : List Node} (hc : c ∈ cs) :
    c.height ≤ Node.childrenHeight cs := by
  induction cs with
  | nil => cases hc
  | cons d ds ih =>
    rw [Node.childrenHeight]
    rcases List.mem_cons.mp hc with rfl | hc
    · exact Nat.le_max_left _ _
    · exact Nat.le_trans (ih hc) (Nat.le_max_right _ _)

theorem nodesToJson_eq_map (cs : List Node) : nodesToJson cs = cs.map Node.toJson := by
  induction cs with
  | nil => rfl
  | cons c cs ih => rw [nodesToJson, ih, List.map_cons]

/-! ## The nesting of a written tree -/

theorem itemsReadableWithin_iff {depth : Nat} {js : List Json} :
    itemsReadableWithin depth js = true ↔ ∀ j ∈ js, j.readableWithin depth = true := by
  induction js with
  | nil => simp [itemsReadableWithin]
  | cons j js ih => simp [itemsReadableWithin, ih]

theorem membersReadableWithin_iff {depth : Nat} {ms : List (String × Json)} :
    membersReadableWithin depth ms = true ↔ ∀ m ∈ ms, m.2.readableWithin depth = true := by
  induction ms with
  | nil => simp [membersReadableWithin]
  | cons m ms ih =>
    obtain ⟨k, v⟩ := m
    simp [membersReadableWithin, ih]

theorem string_readableWithin (depth : Nat) (s : String) :
    (Json.string s).readableWithin depth = true :=
  rfl

/-- The JSON of a tree nests two levels per level of the tree, and one more for the lists of
the deepest nodes. -/
theorem toJson_readableWithin (h : Nat) :
    ∀ (n : Node) (depth : Nat), n.height ≤ h → 2 * h < depth → n.toJson.readableWithin depth = true := by
  induction h with
  | zero =>
    intro n depth hn _
    obtain ⟨_, _, _, _, _⟩ := n
    rw [Node.height_mk] at hn
    omega
  | succ h ih =>
    intro n depth hn hdepth
    obtain ⟨name, primaryType, mixins, properties, children⟩ := n
    rw [Node.height_mk] at hn
    have hchild : ∀ c ∈ children, c.toJson.readableWithin (depth - 1 - 1) = true := fun c hc =>
      ih c _ (by have := Node.height_le_childrenHeight hc; omega) (by omega)
    rw [Node.toJson, Json.readableWithin, Bool.and_eq_true, membersReadableWithin_iff]
    simp only [decide_eq_true_eq, List.mem_cons, List.not_mem_nil, or_false]
    refine ⟨by omega, ?_⟩
    rintro m (rfl | rfl | rfl | rfl | rfl)
    · exact string_readableWithin _ _
    · exact string_readableWithin _ _
    · rw [strings, Json.readableWithin, Bool.and_eq_true, itemsReadableWithin_iff]
      simp only [decide_eq_true_eq, List.mem_map]
      refine ⟨by omega, ?_⟩
      rintro _ ⟨s, _, rfl⟩
      exact string_readableWithin _ _
    · rw [Json.readableWithin, Bool.and_eq_true, membersReadableWithin_iff]
      simp only [decide_eq_true_eq, List.mem_map]
      refine ⟨by omega, ?_⟩
      rintro _ ⟨p, _, rfl⟩
      exact string_readableWithin _ _
    · rw [Json.readableWithin, Bool.and_eq_true, itemsReadableWithin_iff, nodesToJson_eq_map]
      simp only [decide_eq_true_eq, List.mem_map]
      refine ⟨by omega, ?_⟩
      rintro _ ⟨c, hc, rfl⟩
      exact hchild c hc

/-! ## Decoding a written tree -/

theorem propertiesDecoder_inverts :
    propertiesDecoder.Inverts (fun ps => .object (ps.map fun p => (p.name, .string (formatProperty p))))
      fun ps => ∀ p ∈ ps, p.Exact := by
  intro ps hps fromText L hL
  cases L with
  | object members start stop =>
    simp only [Located.toJson, Json.object.injEq] at hL
    unfold propertiesDecoder decodeMap
    dsimp only
    rw [← List.nil_append ps]
    refine visitMembers_append fromText (fun _ _ h => by cases h) (fun p hp acc v hv => ?_) hL
    -- each member is read as the typed text of a property under its name
    rw [decodeString_inverts _ trivial fromText v hv, Except.ok_bind, (hps p hp).readProperty_eq]
    rfl
  | _ => cases hL

theorem structMembers_found {fields : List (FieldSpec α)} {f : FieldSpec α} {fromText : Bool}
    {stop : Nat} {seen : List String} {acc acc' : α} {key : String} {a b e : Nat} {v : Located}
    {rest : List (String × Nat × Nat × Located × Nat)}
    (hf : fields.find? (·.name = key) = some f) (hseen : key ∉ seen)
    (hstore : f.store fromText v acc = .ok acc') {r : Except JsonFault α}
    (hrest : structMembers fromText fields stop (key :: seen) acc' rest = r) :
    structMembers fromText fields stop seen acc ((key, a, b, v, e) :: rest) = r := by
  rw [structMembers, hf]
  simp only [hseen, if_false, hstore, hrest]

theorem nodeDecoderAt_inverts (depth : Nat) :
    (nodeDecoderAt depth).Inverts Node.toJson
      fun n => n.height ≤ depth ∧ n.Everywhere Node.ExactProperties := by
  induction depth with
  | zero =>
    rintro ⟨_, _, _, _, _⟩ ⟨hh, -⟩
    rw [Node.height_mk] at hh
    omega
  | succ depth ih =>
    rintro ⟨name, primaryType, mixins, properties, children⟩ ⟨hh, hexact⟩ fromText L hL
    rw [Node.height_mk] at hh
    have hchildren : ∀ c ∈ children, c.height ≤ depth ∧ c.Everywhere Node.ExactProperties :=
      fun c hc => ⟨by have := Node.height_le_childrenHeight hc; omega, hexact.child hc⟩
    cases L with
    | object members start stop =>
      simp only [Located.toJson, Node.toJson, Json.object.injEq] at hL
      -- the five members, in the order they were written
      obtain ⟨_, _, vName, _, ms, rfl, hName, hL⟩ := membersToJson_eq_cons hL
      obtain ⟨_, _, vType, _, ms, rfl, hType, hL⟩ := membersToJson_eq_cons hL
      obtain ⟨_, _, vMixins, _, ms, rfl, hMixins, hL⟩ := membersToJson_eq_cons hL
      obtain ⟨_, _, vProperties, _, ms, rfl, hProperties, hL⟩ := membersToJson_eq_cons hL
      obtain ⟨_, _, vChildren, _, ms, rfl, hChildren, hL⟩ := membersToJson_eq_cons hL
      cases ms with
      | cons _ _ => cases hL
      | nil =>
        rw [nodeDecoderAt]
        unfold decodeStruct
        dsimp only
        apply structMembers_found
        · rfl
        · decide
        · dsimp only
          rw [decodeString_inverts _ trivial fromText vName hName]
          rfl
        apply structMembers_found
        · rfl
        · decide
        · dsimp only
          rw [decodeString_inverts _ trivial fromText vType hType]
          rfl
        apply structMembers_found
        · rfl
        · decide
        · dsimp only
          rw [decodeList_inverts decodeString_inverts mixins (fun _ _ => trivial) fromText vMixins
            hMixins]
          rfl
        apply structMembers_found
        · rfl
        · decide
        · dsimp only
          rw [propertiesDecoder_inverts properties hexact.self fromText vProperties hProperties]
          rfl
        apply structMembers_found
        · rfl
        · decide
        · dsimp only
          rw [decodeList_inverts ih children hchildren fromText vChildren
            (by rw [hChildren, nodesToJson_eq_map])]
          rfl
        rfl
    | _ => cases hL

theorem snapshotDecoder_inverts :
    snapshotDecoder.Inverts (fun s => .object [("format", nat s.1), ("root", s.2.toJson)])
      fun s => s.1 < 2 ^ 32 ∧ s.2.height ≤ nestingLimit + 2 ∧ s.2.Everywhere Node.ExactProperties := by
  rintro ⟨format, root⟩ ⟨hformat, hh, hexact⟩ fromText L hL
  cases L with
  | object members start stop =>
    simp only [Located.toJson, Json.object.injEq] at hL
    obtain ⟨_, _, vFormat, _, ms, rfl, hFormat, hL⟩ := membersToJson_eq_cons hL
    obtain ⟨_, _, vRoot, _, ms, rfl, hRoot, hL⟩ := membersToJson_eq_cons hL
    cases ms with
    | cons _ _ => cases hL
    | nil =>
      unfold snapshotDecoder decodeStruct
      dsimp only
      apply structMembers_found
      · rfl
      · decide
      · dsimp only
        rw [decodeU32_inverts format hformat fromText vFormat hFormat]
        rfl
      apply structMembers_found
      · rfl
      · decide
      · dsimp only
        rw [nodeDecoder, nodeDecoderAt_inverts _ root ⟨hh, hexact⟩ fromText vRoot hRoot]
        rfl
      rfl
  | _ => cases hL

/-- The file written for a saved tree opens as that tree, when every property of the tree reads
back as itself and the tree has at most 63 levels. -/
theorem openSnapshot_snapshotText {saved : Node} (hexact : saved.Everywhere Node.ExactProperties)
    (hheight : saved.height ≤ 63) (location : String) :
    openSnapshot (utf8Bytes (snapshotText saved)) location = .ok saved := by
  -- the object of the file takes one level of nesting, the tree two per level below it
  have hreadable : (Json.object [("format", nat snapshotFormat), ("root", saved.toJson)]).readableWithin
      nestingLimit = true := by
    rw [Json.readableWithin, Bool.and_eq_true, membersReadableWithin_iff]
    refine ⟨by decide, ?_⟩
    simp only [List.mem_cons, List.not_mem_nil, or_false]
    rintro m (rfl | rfl)
    · rfl
    · exact toJson_readableWithin 63 saved _ hheight (by decide)
  obtain ⟨L, hread, hL, -⟩ := readDocument_pretty hreadable
  unfold openSnapshot decodeBytes
  rw [snapshotText, hread]
  dsimp only
  have hformat : snapshotFormat < 2 ^ 32 := by decide
  rw [snapshotDecoder_inverts (snapshotFormat, saved)
    ⟨hformat, Nat.le_trans hheight (by decide), hexact⟩ true L hL]
  rfl

/-- A string property reads back exactly from its typed text. -/
theorem Property.ofString_exact (name text : String) : (Property.ofString name text).Exact :=
  ⟨⟨fun _ => rfl, by simp [Property.ofString, Property.single], by
      simp only [Property.ofString, Property.single, List.mem_singleton, forall_eq]
      exact ⟨text, rfl⟩⟩,
    by simp [Property.ofString, Property.single], by simp [Property.ofString, Property.single]⟩

/-- A repository with the system node and one page titled by a text property. -/
def titledPageTree : Node :=
  { emptyRoot with
    children := emptyRoot.children ++
      [{ Node.empty "page" "nt:unstructured" with properties := [Property.ofString "title" "Home"] }] }

theorem titled_page_reopens :
    titledPageTree.Everywhere Node.ExactProperties ∧ titledPageTree.height ≤ 63 ∧
      openSnapshot (utf8Bytes (snapshotText titledPageTree)) "repository" = .ok titledPageTree := by
  have htitle := Property.ofString_exact "title" "Home"
  have hexact : titledPageTree.Everywhere Node.ExactProperties := by
    refine Node.Everywhere.imp (P := fun n => ∀ p ∈ n.properties, p = Property.ofString "title" "Home")
      (fun n hn p hp => hn p hp ▸ htitle) ?_
    decide
  have hheight : titledPageTree.height ≤ 63 := by decide
  exact ⟨hexact, hheight, openSnapshot_snapshotText hexact hheight "repository"⟩

end ContentSync
