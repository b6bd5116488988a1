import ContentSync.DocView.Parse
import ContentSync.Xml.Writer
import ContentSync.Proofs.Utf8Text
import ContentSync.Proofs.XmlNames
import ContentSync.Proofs.ExceptRun

/-!
# Written tags read back

A tag is written as `<`, its name, and for each attribute a blank, the key, `="`, the escaped
value and `"`. The reader finds each part again by looking for ASCII delimiters only: blanks
end a name, `=` ends a key, a quote ends a value, `>` outside quotes ends the tag. Names that
hold none of these (`MarkupName`) are therefore read whole, since the bytes of a character
outside ASCII are all at least `0x80`; ISO 9075 escaping writes such names
(`markupName_iso9075Encode`). Escaped values hold no quote and no `>`, and unescaping gives the
value back (`unescapeValue_escapeAttribute`).

Main statements: `readAttributes_written`, `elementOf_written`.
-/

namespace ContentSync.Xml

open Text

/-! ## Names that markup carries whole -/

/-- The characters that end a name in markup or split a tag: blanks, quotes, `/`, `<`, `=`
and `>`, and the `!` and `?` that open other markup than tags. -/
def stopChars : List Char := ['\t', '\n', '\r', ' ', '!', '"', '\'', '/', '<', '=', '>', '?']

/-- A name that markup carries whole: not empty, and free of `stopChars`. -/
structure MarkupName (s : String) : Prop where
  ne_empty : s ≠ ""
  no_stop : ∀ c ∈ stopChars, c ∉ s.toList

theorem ascii_toNat {c : Char} (hc : c.toNat < 0x80) : (ascii c).toNat = c.toNat :=
  toNat_toUInt8_of_lt (by omega)

/-- The byte of an ASCII character is in the UTF-8 bytes of a text only when the character is
in the text: every other character is written with other bytes. -/
theorem ascii_not_mem_utf8Bytes {s : String} {c : Char} (hc : c.toNat < 0x80)
    (h : c ∉ s.toList) : ascii c ∉ utf8Bytes s := by
  intro hb
  rw [utf8Bytes, utf8OfChars, List.mem_flatMap] at hb
  obtain ⟨d, hd, hb⟩ := hb
  by_cases hdc : d.toNat < 0x80
  · rw [encodeChar_of_ascii hdc, List.mem_singleton] at hb
    have hcode : c.toNat = d.toNat := by
      have := congrArg UInt8.toNat hb
      rwa [ascii_toNat hc, toNat_toUInt8_of_lt (by omega)] at this
    exact h (Char.toNat_inj.mp hcode ▸ hd)
  · have := le_of_mem_encodeChar (by omega) hb
    rw [ascii_toNat hc] at this
    omega

theorem stopChars_ascii : stopChars.all (fun c => decide (c.toNat < 0x80)) = true := by decide

/-- A markup name, checked by computation. -/
theorem MarkupName.of_check {s : String} (hne : s ≠ "")
    (h : stopChars.all (fun c => !s.toList.contains c) = true) : MarkupName s :=
  ⟨hne, fun c hc hmem => by simpa [hmem] using List.all_eq_true.mp h c hc⟩

theorem MarkupName.ascii_not_mem {s : String} (h : MarkupName s) {c : Char} (hc : c ∈ stopChars) :
    ascii c ∉ utf8Bytes s :=
  ascii_not_mem_utf8Bytes (by simpa using List.all_eq_true.mp stopChars_ascii c hc)
    (h.no_stop c hc)

theorem MarkupName.bytes_ne_nil {s : String} (h : MarkupName s) : utf8Bytes s ≠ [] := by
  intro hnil
  apply h.ne_empty
  rw [← String.toList_inj, String.toList_empty]
  cases hs : s.toList with
  | nil => rfl
  | cons c cs =>
    rw [utf8Bytes, hs, utf8OfChars_cons] at hnil
    cases hc : encodeChar c with
    | nil =>
      have := congrArg List.length hc
      simp only [encodeChar, List.length_nil] at this
      split at this <;> (try split at this) <;> (try split at this) <;> simp at this
    | cons b bs => rw [hc] at hnil; cases hnil

theorem MarkupName.bytes_eq_cons {s : String} (h : MarkupName s) :
    ∃ b bs, utf8Bytes s = b :: bs := by
  cases hs : utf8Bytes s with
  | nil => exact absurd hs h.bytes_ne_nil
  | cons b bs => exact ⟨b, bs, rfl⟩

/-- No byte of a markup name is a blank. -/
theorem MarkupName.not_blank {s : String} (h : MarkupName s) {b : UInt8} (hb : b ∈ utf8Bytes s) :
    isBlankByte b = false := by
  cases hbl : isBlankByte b with
  | false => rfl
  | true =>
    simp only [isBlankByte, Bool.or_eq_true, decide_eq_true_eq] at hbl
    rcases hbl with ((rfl | rfl) | rfl) | rfl
    · exact absurd hb (h.ascii_not_mem (c := ' ') (by decide))
    · exact absurd hb (h.ascii_not_mem (c := '\t') (by decide))
    · exact absurd hb (h.ascii_not_mem (c := '\r') (by decide))
    · exact absurd hb (h.ascii_not_mem (c := '\n') (by decide))

theorem stopChars_not_nameChar : stopChars.all (fun c => !Name.isNameChar c) = true := by
  decide +kernel

/-- ISO 9075 escaping writes a non-empty name as a markup name. -/
theorem markupName_iso9075Encode {s : String} (hs : s ≠ "") : MarkupName (Name.iso9075Encode s) := by
  obtain ⟨⟨c, rest, hcs, -⟩, hchars⟩ := Name.iso9075Encode_isName hs
  refine ⟨fun h => ?_, fun d hd hmem => ?_⟩
  · rw [h, String.toList_empty] at hcs
    cases hcs
  · have := List.all_eq_true.mp stopChars_not_nameChar d hd
    rw [hchars d hmem] at this
    cases this

/-! ## Escaped values -/

/-- The characters that escaping writes as entities. -/
def entityChars : List Char := ['<', '>', '&', '\'', '"']

theorem toList_escapeChar_of_not_mem {c : Char} (h : c ∉ entityChars) :
    (escapeChar c).toList = [c] := by
  unfold escapeChar
  split <;> simp_all [entityChars]

theorem toList_escapeAttribute (v : String) :
    (escapeAttribute v).toList = v.toList.flatMap fun c => (escapeChar c).toList := by
  rw [escapeAttribute, String.toList_join, List.flatMap_map]

/-- Escaping leaves no quote, apostrophe or `>` in a value. -/
theorem not_mem_escapeAttribute (v : String) {c : Char} (hc : c ∈ ['"', '\'', '>']) :
    c ∉ (escapeAttribute v).toList := by
  rw [toList_escapeAttribute, List.mem_flatMap]
  rintro ⟨d, -, hd⟩
  by_cases hent : d ∈ entityChars
  · simp only [entityChars, List.mem_cons, List.not_mem_nil, or_false] at hent
    simp only [List.mem_cons, List.not_mem_nil, or_false] at hc
    rcases hent with rfl | rfl | rfl | rfl | rfl <;> rcases hc with rfl | rfl | rfl <;>
      revert hd <;> decide
  · rw [toList_escapeChar_of_not_mem hent, List.mem_singleton] at hd
    apply hent
    rw [← hd]
    simp only [List.mem_cons, List.not_mem_nil, or_false] at hc
    rcases hc with rfl | rfl | rfl <;> decide

theorem length_le_length_escapeAttribute (v : String) :
    v.toList.length ≤ (escapeAttribute v).toList.length := by
  rw [toList_escapeAttribute, List.length_flatMap]
  have hpos : ∀ c, 1 ≤ (escapeChar c).toList.length := fun c => by
    unfold escapeChar
    split <;> simp
  induction v.toList with
  | nil => simp
  | cons c cs ih =>
    rw [List.map_cons, List.sum_cons, List.length_cons]
    have := hpos c
    omega

/-- An entity of a name whose text is `t` is read as `t`, and reading goes on after its `;`. -/
theorem unescapeFrom_entity {total fuel i : Nat} {name : List Char} {t : String}
    {rest acc : List Char} (hname : predefinedEntity (String.ofList name) = some t)
    (hbody : name.all (fun d => d != '&' && d != ';') = true) (hhash : name.head? ≠ some '#') :
    unescapeFrom total (fuel + 1) ('&' :: (name ++ ';' :: rest)) i acc =
      unescapeFrom total fuel rest (i + 1 + Text.utf8Length (String.ofList name) + 1)
        (t.toList.reverse ++ acc) := by
  have htake : (name ++ ';' :: rest).takeWhile (fun d => d ≠ '&' ∧ d ≠ ';') = name := by
    rw [List.takeWhile_append_of_pos (by simpa using List.all_eq_true.mp hbody)]
    simp
  have hdrop : (name ++ ';' :: rest).drop name.length = ';' :: rest := by simp
  rw [unescapeFrom, if_pos rfl]
  simp only [htake, hdrop]
  cases name with
  | nil => simp only [hname]
  | cons d ds =>
    have hd : d ≠ '#' := fun h => hhash (by rw [h]; rfl)
    simp only [hname]
    split
    · next heq => exact absurd (List.cons.inj heq).1 hd
    · rfl

/-- Unescaping the escaped form of characters gives them back, with enough fuel. -/
theorem unescapeFrom_escaped (total : Nat) (cs : List Char) :
    ∀ (fuel i : Nat) (acc : List Char), cs.length < fuel →
      unescapeFrom total fuel (cs.flatMap fun c => (escapeChar c).toList) i acc =
        .ok (acc.reverse ++ cs) := by
  induction cs with
  | nil =>
    intro fuel i acc _
    cases fuel <;> simp [unescapeFrom]
  | cons c cs ih =>
    intro fuel i acc hfuel
    obtain ⟨f, rfl⟩ : ∃ f, fuel = f + 1 := ⟨fuel - 1, by simp at hfuel; omega⟩
    have hf : cs.length < f := by simp at hfuel; omega
    rw [List.flatMap_cons]
    by_cases hent : c ∈ entityChars
    · -- an entity: its name is read and the character it stands for put out
      simp only [entityChars, List.mem_cons, List.not_mem_nil, or_false] at hent
      rcases hent with rfl | rfl | rfl | rfl | rfl
      · rw [show (escapeChar '<').toList = '&' :: (['l', 't'] ++ [';']) from rfl, List.cons_append,
          List.append_assoc, List.singleton_append, unescapeFrom_entity (t := "<") rfl (by decide) (by decide), ih f _ _ hf]
        simp
      · rw [show (escapeChar '>').toList = '&' :: (['g', 't'] ++ [';']) from rfl, List.cons_append,
          List.append_assoc, List.singleton_append, unescapeFrom_entity (t := ">") rfl (by decide) (by decide), ih f _ _ hf]
        simp
      · rw [show (escapeChar '&').toList = '&' :: (['a', 'm', 'p'] ++ [';']) from rfl,
          List.cons_append, List.append_assoc, List.singleton_append, unescapeFrom_entity (t := "&") rfl (by decide)
          (by decide), ih f _ _ hf]
        simp
      · rw [show (escapeChar '\'').toList = '&' :: (['a', 'p', 'o', 's'] ++ [';']) from rfl,
          List.cons_append, List.append_assoc, List.singleton_append, unescapeFrom_entity (t := "'") rfl (by decide)
          (by decide), ih f _ _ hf]
        simp
      · rw [show (escapeChar '"').toList = '&' :: (['q', 'u', 'o', 't'] ++ [';']) from rfl,
          List.cons_append, List.append_assoc, List.singleton_append, unescapeFrom_entity (t := "\"") rfl (by decide)
          (by decide), ih f _ _ hf]
        simp
    · -- any other character is put out as it is
      have hamp : c ≠ '&' := fun h => hent (by rw [h]; decide)
      rw [toList_escapeChar_of_not_mem hent, List.singleton_append, unescapeFrom, if_neg hamp,
        ih f _ _ hf]
      simp

/-- Unescaping the bytes of an escaped value gives the value back. -/
theorem unescapeValue_escapeAttribute (v : String) :
    unescapeValue (utf8Bytes (escapeAttribute v)) = .ok v := by
  rw [unescapeValue, utf8Bytes, decodeUtf8_utf8OfChars]
  dsimp only
  rw [toList_escapeAttribute, unescapeFrom_escaped _ v.toList _ 0 []]
  · show Except.ok (String.ofList ([].reverse ++ v.toList)) = _
    rw [List.reverse_nil, List.nil_append, String.ofList_toList]
  · have := length_le_length_escapeAttribute v
    rw [toList_escapeAttribute] at this
    omega

/-! ## Attributes -/

/-- The bytes of one written attribute: a blank, the key, `="`, the escaped value and `"`. -/
def attributeBytes (a : String × String) : List UInt8 :=
  ascii ' ' :: (utf8Bytes a.1 ++ ascii '=' :: ascii '"' ::
    (utf8Bytes (escapeAttribute a.2) ++ [ascii '"']))

theorem utf8Bytes_attributeText (attributes : List (String × String)) :
    utf8Bytes (attributeText attributes) = attributes.flatMap attributeBytes := by
  induction attributes with
  | nil => rfl
  | cons a as ih =>
    obtain ⟨k, v⟩ := a
    rw [attributeText, List.map_cons, String.join_cons, utf8Bytes_append, ← attributeText, ih,
      List.flatMap_cons]
    simp only [utf8Bytes_append, attributeBytes, List.cons_append, List.append_assoc]
    rfl

theorem utf8Bytes_injective : Function.Injective utf8Bytes := fun s t h => by
  have := congrArg stringOfUtf8? h
  rwa [stringOfUtf8_utf8Bytes, stringOfUtf8_utf8Bytes, Option.some.injEq] at this

theorem skipBlanksAt_blank {b : UInt8} (h : isBlankByte b = true) (rest : List UInt8) (i : Nat) :
    skipBlanksAt (b :: rest) i = skipBlanksAt rest (i + 1) := by
  rw [skipBlanksAt, if_pos h]

theorem skipBlanksAt_of_not_blank {b : UInt8} (h : isBlankByte b = false) (rest : List UInt8)
    (i : Nat) : skipBlanksAt (b :: rest) i = (b :: rest, i) := by
  rw [skipBlanksAt, if_neg (by simp [h])]

/-- A key is taken up to the `=` after it when it holds no `=` and no blank. -/
theorem takeKey_name {xs : List UInt8} (hxs : ∀ x ∈ xs, x ≠ ascii '=' ∧ isBlankByte x = false)
    (more : List UInt8) (i : Nat) (acc : List UInt8) :
    takeKey (xs ++ ascii '=' :: more) i acc =
      (acc.reverse ++ xs, ascii '=' :: more, i + xs.length) := by
  induction xs generalizing i acc with
  | nil => simp [takeKey]
  | cons x xs ih =>
    have hx := hxs x List.mem_cons_self
    rw [List.cons_append, takeKey, if_neg (by simp [hx.1, hx.2]),
      ih (fun y hy => hxs y (List.mem_cons_of_mem x hy))]
    simp only [List.reverse_cons, List.append_assoc, List.singleton_append, List.length_cons]
    congr 2
    omega

/-- A value is taken up to the first quote that closes it. -/
theorem takeQuoted_value {q : UInt8} {xs : List UInt8} (hxs : q ∉ xs) (rest : List UInt8)
    (i : Nat) (acc : List UInt8) :
    takeQuoted q (xs ++ q :: rest) i acc = some (acc.reverse ++ xs, rest, i + xs.length + 1) := by
  induction xs generalizing i acc with
  | nil => simp [takeQuoted]
  | cons x xs ih =>
    have hx : x ≠ q := fun h => hxs (h ▸ List.mem_cons_self)
    rw [List.cons_append, takeQuoted, if_neg hx,
      ih (fun h => hxs (List.mem_cons_of_mem x h))]
    simp only [List.reverse_cons, List.append_assoc, List.singleton_append, List.length_cons]
    congr 3
    omega

theorem equalsAfterKey_equals (total : Nat) (more : List UInt8) (i : Nat) :
    equalsAfterKey total (ascii '=' :: more) i = .ok (more, i + 1) := by
  simp [equalsAfterKey]

/-- Reading written attributes gives their keys and escaped values, when the keys are markup
names, each given once, and none among the keys already seen. -/
theorem readAttributesFrom_written {total : Nat} {attributes : List (String × String)}
    (hkeys : ∀ a ∈ attributes, MarkupName a.1) (hnodup : (attributes.map (·.1)).Nodup) :
    ∀ {fuel i : Nat} {seen : List (List UInt8 × Nat)}, attributes.length < fuel →
      (∀ a ∈ attributes, ∀ p ∈ seen, p.1 ≠ utf8Bytes a.1) →
      readAttributesFrom total fuel (attributes.flatMap attributeBytes) i seen =
        (attributes.map fun a => (utf8Bytes a.1, utf8Bytes (escapeAttribute a.2)), none) := by
  induction attributes with
  | nil =>
    intro fuel i seen hfuel _
    obtain ⟨f, rfl⟩ : ∃ f, fuel = f + 1 := ⟨fuel - 1, by simp at hfuel; omega⟩
    rfl
  | cons a as ih =>
    intro fuel i seen hfuel hseen
    obtain ⟨f, rfl⟩ : ∃ f, fuel = f + 1 := ⟨fuel - 1, by simp at hfuel; omega⟩
    obtain ⟨k, v⟩ := a
    have hk : MarkupName k := hkeys (k, v) List.mem_cons_self
    obtain ⟨first, keyRest, hkb⟩ := hk.bytes_eq_cons
    have hfirst : isBlankByte first = false := hk.not_blank (by rw [hkb]; exact List.mem_cons_self)
    have hrestKey : ∀ x ∈ keyRest, x ≠ ascii '=' ∧ isBlankByte x = false := fun x hx => by
      have hx' : x ∈ utf8Bytes k := by rw [hkb]; exact List.mem_cons_of_mem first hx
      exact ⟨fun h => hk.ascii_not_mem (c := '=') (by decide) (h ▸ hx'), hk.not_blank hx'⟩
    have hquote : ascii '"' ∉ utf8Bytes (escapeAttribute v) :=
      ascii_not_mem_utf8Bytes (by decide) (not_mem_escapeAttribute v (by decide))
    have hseen' : ∀ a ∈ as, ∀ p ∈ (first :: keyRest, i + 1) :: seen, p.1 ≠ utf8Bytes a.1 := by
      intro a ha p hp
      rcases List.mem_cons.mp hp with rfl | hp
      · intro heq
        rw [← hkb] at heq
        have hka : k = a.1 := utf8Bytes_injective heq
        have hmem : a.1 ∈ as.map (·.1) := List.mem_map_of_mem ha
        rw [← hka] at hmem
        exact (List.nodup_cons.mp hnodup).1 hmem
      · exact hseen a (List.mem_cons_of_mem _ ha) p hp
    -- the blank, the key up to `=`, the opening quote, the value up to the closing quote
    rw [List.flatMap_cons, attributeBytes]
    simp only [hkb, List.cons_append, List.append_assoc]
    rw [readAttributesFrom, skipBlanksAt_blank (by decide)]
    simp only [skipBlanksAt_of_not_blank hfirst]
    rw [takeKey_name hrestKey]
    simp only [equalsAfterKey_equals, List.reverse_nil, List.nil_append, true_or, if_true,
      skipBlanksAt_of_not_blank (by decide : isBlankByte (ascii '"') = false)]
    rw [takeQuoted_value hquote]
    dsimp only
    rw [ih (fun a ha => hkeys a (List.mem_cons_of_mem _ ha)) (List.nodup_cons.mp hnodup).2
      (by simp at hfuel; omega) hseen']
    -- the key was not seen before
    rw [List.find?_eq_none.mpr]
    · simp [hkb]
    · intro p hp
      simpa [← hkb] using hseen (k, v) List.mem_cons_self p hp

end ContentSync.Xml

namespace ContentSync

open Xml Text

theorem nameText_utf8Bytes (s : String) : nameText (utf8Bytes s) = .ok s := by
  rw [nameText, utf8Bytes, decodeUtf8_utf8OfChars]
  dsimp only
  rw [String.ofList_toList]

theorem length_le_length_flatMap_attributeBytes (attributes : List (String × String)) :
    attributes.length ≤ (attributes.flatMap attributeBytes).length := by
  induction attributes with
  | nil => simp
  | cons a as ih =>
    have ha : 1 ≤ (attributeBytes a).length := by simp [attributeBytes]
    rw [List.flatMap_cons, List.length_append, List.length_cons]
    omega

/-- The name of written content ends at the blank that opens the first attribute. -/
theorem nameLength_written {tag : String} (htag : MarkupName tag)
    (attributes : List (String × String)) :
    nameLength (utf8Bytes tag ++ attributes.flatMap attributeBytes) = (utf8Bytes tag).length := by
  rw [nameLength, List.takeWhile_append_of_pos (fun b hb => by simp [htag.not_blank hb])]
  cases attributes with
  | nil => simp
  | cons a as => simp [List.flatMap_cons, attributeBytes, List.takeWhile_cons]; decide

theorem readAttributes_written {tag : String} {attributes : List (String × String)}
    (htag : MarkupName tag) (hkeys : ∀ a ∈ attributes, MarkupName a.1)
    (hnodup : (attributes.map (·.1)).Nodup) :
    readAttributes (utf8Bytes tag ++ attributes.flatMap attributeBytes) =
      (attributes.map fun a => (utf8Bytes a.1, utf8Bytes (escapeAttribute a.2)), none) := by
  have hfuel := length_le_length_flatMap_attributeBytes attributes
  rw [readAttributes, nameLength_written htag, List.drop_left]
  exact readAttributesFrom_written hkeys hnodup (by rw [List.length_append]; omega) (by simp)

/-- Whether an attribute key declares a namespace; an element read from markup leaves such
attributes out. -/
def isNamespaceKey (k : String) : Bool :=
  decide (k = "xmlns" ∨ k.startsWith "xmlns:" = true)

/-- The attribute an element read from markup keeps for a written key and value. -/
def keptAttribute (a : String × String) : Option (String × String) :=
  if isNamespaceKey a.1 then none else some (Name.iso9075Decode a.1, a.2)

/-- The element read back from a tag written with a name and attributes. -/
def readElement (tag : String) (attributes : List (String × String)) : Element :=
  { tag := Name.iso9075Decode tag, attributes := attributes.filterMap keptAttribute }

theorem forIn_cons_yield {a : α} {l : List α} {init b : β} {f : α → β → Except ε (ForInStep β)}
    (h : f a init = .ok (.yield b)) : forIn (a :: l) init f = forIn l b f := by
  rw [List.forIn_cons, h]
  rfl

/-- Steps that each continue with a known update of the loop's state fold their updates into
the state the rest of the loop starts from. -/
theorem forIn_map_yield_append {l : List α} {h : α → γ} {g : β → α → β}
    {f : γ → β → Except ε (ForInStep β)}
    (hf : ∀ a ∈ l, ∀ b, f (h a) b = .ok (.yield (g b a))) (rest : List γ) (init : β) :
    forIn (l.map h ++ rest) init f = forIn rest (l.foldl g init) f := by
  induction l generalizing init with
  | nil => rfl
  | cons a l ih =>
    rw [List.map_cons, List.cons_append, forIn_cons_yield (hf a List.mem_cons_self init)]
    exact ih (fun a' h' => hf a' (List.mem_cons_of_mem a h')) _

/-- A loop whose every step continues with a known update of its state runs to the fold of the
updates. -/
theorem forIn_map_yield {l : List α} {h : α → γ} {g : β → α → β}
    {f : γ → β → Except ε (ForInStep β)}
    (hf : ∀ a ∈ l, ∀ b, f (h a) b = .ok (.yield (g b a))) (init : β) :
    forIn (l.map h) init f = .ok (l.foldl g init) := by
  rw [← List.append_nil (l.map h), forIn_map_yield_append hf]
  rfl

theorem foldl_append_toList {s : α → Option δ} (l : List α) (init : List δ) :
    l.foldl (fun acc a => acc ++ (s a).toList) init = init ++ l.filterMap s := by
  induction l generalizing init with
  | nil => simp
  | cons a l ih =>
    rw [List.foldl_cons, ih]
    cases hs : s a <;> simp [hs]

/-- A tag written with a markup name and attributes under distinct markup names reads back as its
element: names decoded, values unescaped, namespace declarations left out. -/
theorem elementOf_written {tag : String} {attributes : List (String × String)}
    (htag : MarkupName tag) (hkeys : ∀ a ∈ attributes, MarkupName a.1)
    (hnodup : (attributes.map (·.1)).Nodup) :
    elementOf (utf8Bytes tag ++ attributes.flatMap attributeBytes) =
      .ok (readElement tag attributes) := by
  rw [elementOf, nameLength_written htag, List.take_left, nameText_utf8Bytes, Except.ok_bind,
    readAttributes_written htag hkeys hnodup]
  dsimp only
  rw [forIn_map_yield (g := fun acc a => acc ++ (keptAttribute a).toList), foldl_append_toList]
  · rfl
  · intro a _ acc
    simp only [nameText_utf8Bytes, Except.ok_bind, unescapeValue_escapeAttribute]
    by_cases hk : a.1 = "xmlns" ∨ a.1.startsWith "xmlns:" = true
    · rw [if_pos hk, keptAttribute,
        if_pos (show isNamespaceKey a.1 = true from decide_eq_true hk), Option.toList_none,
        List.append_nil]
      rfl
    · rw [if_neg hk, keptAttribute,
        if_neg (show ¬isNamespaceKey a.1 = true from fun h => hk (of_decide_eq_true h))]
      rfl

end ContentSync

