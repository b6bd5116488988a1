import ContentSync.Proofs.MarkupText

/-!
# Written markup reads back as its elements

A document is written as the declaration and then one tag to a line, each line after a line
break and indented with spaces (`xmlDocument`). The markup reader skips the declaration and the
blanks before each line and finds each tag's end at the `>` that closes its line, so it gives
one token a line: a start tag, an empty-element tag, or an end tag naming the innermost open
one. The element reader turns these tokens into start and end events (`XmlElement.events`).

An element whose tag and attribute keys are markup names, with the keys of each tag distinct,
at every level (`XmlElement.Writable`) is read back as its events, in order, nothing skipped
and no fault. `ElementReader.Reads r evs r'` says that the element reader at `r` gives the
events `evs`, one call of `next` each, and then stands at `r'`.

Main statements: `XmlElement.Writable.readsBack`, `reads_xmlDocument`.
-/

namespace ContentSync

open Xml Text

/-! ## The bytes of written lines -/

/-- The bytes of lines, each after a line break. -/
def lineBytes (lines : List String) : List UInt8 :=
  lines.flatMap fun l => ascii '\n' :: utf8Bytes l

@[simp] theorem lineBytes_nil : lineBytes [] = [] := rfl

@[simp] theorem lineBytes_cons (l : String) (ls : List String) :
    lineBytes (l :: ls) = ascii '\n' :: (utf8Bytes l ++ lineBytes ls) := rfl

@[simp] theorem lineBytes_append (ls ms : List String) :
    lineBytes (ls ++ ms) = lineBytes ls ++ lineBytes ms :=
  List.flatMap_append

theorem utf8Bytes_newline : utf8Bytes "\n" = [ascii '\n'] := by decide

theorem utf8Bytes_intercalate_newline (x : String) (xs : List String) :
    utf8Bytes ("\n".intercalate (x :: xs)) = utf8Bytes x ++ lineBytes xs := by
  induction xs generalizing x with
  | nil => simp [String.intercalate_singleton]
  | cons y ys ih =>
    rw [String.intercalate_cons_cons, utf8Bytes_append, utf8Bytes_append, ih, utf8Bytes_newline]
    simp

/-- A document is its declaration, the lines of its root, and a last line break. -/
theorem utf8Bytes_xmlDocument (root : XmlElement) :
    utf8Bytes (xmlDocument root) =
      utf8Bytes declaration ++ lineBytes (root.lines 0) ++ [ascii '\n'] := by
  rw [xmlDocument, utf8Bytes_append, utf8Bytes_intercalate_newline, utf8Bytes_newline]

theorem utf8Bytes_indent (d : Nat) : utf8Bytes (indent d) = List.replicate (4 * d) (ascii ' ') := by
  rw [indent, utf8Bytes, String.toList_ofList]
  induction 4 * d with
  | zero => rfl
  | succ k ih =>
    rw [List.replicate_succ, utf8OfChars_cons, ih, encodeChar_of_ascii (by decide)]
    rfl

/-- The bytes of a tag's name and attributes, as they stand between `<` and the tag's end. -/
def tagBytes (tag : String) (attributes : List (String × String)) : List UInt8 :=
  utf8Bytes tag ++ attributes.flatMap attributeBytes

theorem utf8Bytes_tagLine (d : Nat) (tag : String) (attributes : List (String × String))
    (close : String) :
    utf8Bytes (indent d ++ "<" ++ tag ++ attributeText attributes ++ close) =
      List.replicate (4 * d) (ascii ' ') ++ ascii '<' :: (tagBytes tag attributes ++ utf8Bytes close) := by
  simp only [utf8Bytes_append, utf8Bytes_indent, utf8Bytes_attributeText, tagBytes,
    List.append_assoc]
  rfl

theorem utf8Bytes_endLine (d : Nat) (tag : String) :
    utf8Bytes (indent d ++ "</" ++ tag ++ ">") =
      List.replicate (4 * d) (ascii ' ') ++ ascii '<' :: ascii '/' :: (utf8Bytes tag ++ [ascii '>']) := by
  simp only [utf8Bytes_append, utf8Bytes_indent, List.append_assoc]
  rfl

/-! ## Finding the end of a tag -/

/-- Outside quotes, bytes with no `>` and no quote are passed over. -/
theorem tagEnd_plain {xs : List UInt8}
    (hxs : ∀ x ∈ xs, x ≠ ascii '>' ∧ x ≠ ascii '\'' ∧ x ≠ ascii '"') (rest acc : List UInt8) :
    tagEnd none (xs ++ rest) acc = tagEnd none rest (xs.reverse ++ acc) := by
  induction xs generalizing acc with
  | nil => rfl
  | cons x xs ih =>
    obtain ⟨hgt, hapos, hquot⟩ := hxs x List.mem_cons_self
    rw [List.cons_append, tagEnd]
    simp only [if_neg hgt, hapos, hquot, or_self, if_false]
    rw [ih (fun y hy => hxs y (List.mem_cons_of_mem x hy))]
    simp

/-- Inside quotes, everything up to the closing quote is passed over. -/
theorem tagEnd_quoted {q : UInt8} {xs : List UInt8} (hq : q ∉ xs) (rest acc : List UInt8) :
    tagEnd (some q) (xs ++ q :: rest) acc = tagEnd none rest (q :: (xs.reverse ++ acc)) := by
  induction xs generalizing acc with
  | nil => simp [tagEnd]
  | cons x xs ih =>
    have hx : x ≠ q := fun h => hq (h ▸ List.mem_cons_self)
    rw [List.cons_append, tagEnd]
    simp only [if_neg hx]
    rw [ih (fun h => hq (List.mem_cons_of_mem x h))]
    simp

theorem Xml.MarkupName.tag_safe {s : String} (h : MarkupName s) {x : UInt8} (hx : x ∈ utf8Bytes s) :
    x ≠ ascii '>' ∧ x ≠ ascii '\'' ∧ x ≠ ascii '"' :=
  ⟨fun e => h.ascii_not_mem (c := '>') (by decide) (e ▸ hx),
    fun e => h.ascii_not_mem (c := '\'') (by decide) (e ▸ hx),
    fun e => h.ascii_not_mem (c := '"') (by decide) (e ▸ hx)⟩

/-- A written attribute is passed over: its key outside quotes, its value inside them. -/
theorem tagEnd_attribute {a : String × String} (hk : MarkupName a.1) (rest acc : List UInt8) :
    tagEnd none (attributeBytes a ++ rest) acc =
      tagEnd none rest ((attributeBytes a).reverse ++ acc) := by
  have hquote : ascii '"' ∉ utf8Bytes (escapeAttribute a.2) :=
    ascii_not_mem_utf8Bytes (by decide) (not_mem_escapeAttribute a.2 (by decide))
  have hplain : ∀ x ∈ ascii ' ' :: (utf8Bytes a.1 ++ [ascii '=']),
      x ≠ ascii '>' ∧ x ≠ ascii '\'' ∧ x ≠ ascii '"' := by
    intro x hx
    simp only [List.mem_cons, List.mem_append, List.not_mem_nil, or_false] at hx
    rcases hx with rfl | hx | rfl
    · decide
    · exact hk.tag_safe hx
    · decide
  have hsplit : attributeBytes a ++ rest = (ascii ' ' :: (utf8Bytes a.1 ++ [ascii '='])) ++
      ascii '"' :: (utf8Bytes (escapeAttribute a.2) ++ ascii '"' :: rest) := by
    simp [attributeBytes]
  rw [hsplit, tagEnd_plain hplain, tagEnd, if_neg (by decide), if_pos (Or.inr rfl),
    tagEnd_quoted hquote]
  simp [attributeBytes]

theorem tagEnd_attributes {attributes : List (String × String)}
    (hkeys : ∀ a ∈ attributes, MarkupName a.1) (rest acc : List UInt8) :
    tagEnd none (attributes.flatMap attributeBytes ++ rest) acc =
      tagEnd none rest ((attributes.flatMap attributeBytes).reverse ++ acc) := by
  induction attributes generalizing acc with
  | nil => rfl
  | cons a as ih =>
    rw [List.flatMap_cons, List.append_assoc, tagEnd_attribute (hkeys a List.mem_cons_self),
      ih (fun b hb => hkeys b (List.mem_cons_of_mem a hb))]
    simp

/-- The end of a written tag is the `>` after its name and attributes. -/
theorem tagEnd_tagBytes {tag : String} {attributes : List (String × String)}
    (htag : MarkupName tag) (hkeys : ∀ a ∈ attributes, MarkupName a.1)
    (close : List UInt8) (hclose : ∀ x ∈ close, x ≠ ascii '>' ∧ x ≠ ascii '\'' ∧ x ≠ ascii '"')
    (more : List UInt8) :
    tagEnd none (tagBytes tag attributes ++ close ++ ascii '>' :: more) [] =
      some (tagBytes tag attributes ++ close, more) := by
  rw [tagBytes, List.append_assoc, List.append_assoc,
    tagEnd_plain (fun x hx => htag.tag_safe hx), tagEnd_attributes hkeys, tagEnd_plain hclose,
    tagEnd, if_pos rfl]
  simp

/-- The last byte of a written tag's name and attributes is not `/`: it is the closing quote of
the last attribute, or the last byte of the name. -/
theorem getLast?_tagBytes {tag : String} (htag : MarkupName tag)
    (attributes : List (String × String)) :
    ∃ l, (tagBytes tag attributes).getLast? = some l ∧ l ≠ ascii '/' := by
  have hattrs : ∀ as : List (String × String),
      (as.flatMap attributeBytes).getLast? = none ∨
        (as.flatMap attributeBytes).getLast? = some (ascii '"') := by
    intro as
    induction as with
    | nil => exact Or.inl rfl
    | cons a as ih =>
      have hlast : (attributeBytes a).getLast? = some (ascii '"') := by
        rw [show attributeBytes a = (ascii ' ' :: (utf8Bytes a.1 ++ ascii '=' :: ascii '"' ::
          utf8Bytes (escapeAttribute a.2))) ++ [ascii '"'] by simp [attributeBytes],
          List.getLast?_concat]
      right
      rw [List.flatMap_cons, List.getLast?_append]
      rcases ih with h | h <;> simp [h, hlast]
  obtain ⟨first, rest, hbytes⟩ := htag.bytes_eq_cons
  have hlast : ∃ l, (utf8Bytes tag).getLast? = some l ∧ l ≠ ascii '/' := by
    refine ⟨(first :: rest).getLast (List.cons_ne_nil _ _), by rw [hbytes, List.getLast?_eq_some_getLast], ?_⟩
    intro h
    apply htag.ascii_not_mem (c := '/') (by decide)
    rw [hbytes, ← h]
    exact List.getLast_mem _
  obtain ⟨l, hl, hne⟩ := hlast
  rw [tagBytes, List.getLast?_append]
  rcases hattrs attributes with h | h
  · exact ⟨l, by simp [h, hl], hne⟩
  · exact ⟨ascii '"', by simp [h], by decide⟩

/-! ## One token a line -/

/-- Between lines the markup reader passes over the line break and the indentation to the
`<`. -/
theorem Scanner.next_line (d : Nat) (body : List UInt8) (opened : List (List UInt8)) :
    Scanner.next ⟨ascii '\n' :: (List.replicate (4 * d) (ascii ' ') ++ ascii '<' :: body),
      .inText, opened⟩ = Scanner.readMarkup ⟨body, .inMarkup, opened⟩ := by
  have hskip : (ascii '\n' :: (List.replicate (4 * d) (ascii ' ') ++ ascii '<' :: body)).dropWhile
      isBlankByte = ascii '<' :: body := by
    rw [List.dropWhile_cons_of_pos (by decide),
      List.dropWhile_append_of_pos (fun b hb => by rw [List.eq_of_mem_replicate hb]; decide),
      List.dropWhile_cons_of_neg (by decide)]
  rw [Scanner.next]
  dsimp only
  rw [hskip]
  rfl

theorem first_byte {tag : String} (htag : MarkupName tag) (attributes : List (String × String))
    (tail : List UInt8) :
    ∃ b more, tagBytes tag attributes ++ tail = b :: more ∧
      b ≠ ascii '!' ∧ b ≠ ascii '/' ∧ b ≠ ascii '?' := by
  obtain ⟨first, rest, hbytes⟩ := htag.bytes_eq_cons
  have hmem : first ∈ utf8Bytes tag := by rw [hbytes]; exact List.mem_cons_self
  refine ⟨first, rest ++ attributes.flatMap attributeBytes ++ tail, by simp [tagBytes, hbytes],
    fun h => ?_, fun h => ?_, fun h => ?_⟩
  · exact htag.ascii_not_mem (c := '!') (by decide) (h ▸ hmem)
  · exact htag.ascii_not_mem (c := '/') (by decide) (h ▸ hmem)
  · exact htag.ascii_not_mem (c := '?') (by decide) (h ▸ hmem)

/-- A written start tag is read as a start token, and its name is opened. -/
theorem Scanner.readMarkup_start {tag : String} {attributes : List (String × String)}
    (htag : MarkupName tag) (hkeys : ∀ a ∈ attributes, MarkupName a.1) (more : List UInt8)
    (phase : Phase) (opened : List (List UInt8)) :
    Scanner.readMarkup ⟨tagBytes tag attributes ++ ascii '>' :: more, phase, opened⟩ =
      .ok (.start (tagBytes tag attributes), ⟨more, .inText, utf8Bytes tag :: opened⟩) := by
  obtain ⟨b, rest, hsplit, hbang, hslash, hquest⟩ := first_byte htag attributes (ascii '>' :: more)
  obtain ⟨l, hl, hne⟩ := getLast?_tagBytes htag attributes
  have hend := tagEnd_tagBytes htag hkeys [] (by simp) more
  rw [List.append_nil] at hend
  rw [Scanner.readMarkup]
  dsimp only
  rw [hsplit]
  dsimp only
  rw [if_neg hbang, if_neg hslash, if_neg hquest, ← hsplit, hend]
  dsimp only
  rw [hl]
  dsimp only
  rw [if_neg hne, tagBytes, nameLength_written htag, List.take_left]

/-- A written empty-element tag is read as an empty token. -/
theorem Scanner.readMarkup_empty {tag : String} {attributes : List (String × String)}
    (htag : MarkupName tag) (hkeys : ∀ a ∈ attributes, MarkupName a.1) (more : List UInt8)
    (phase : Phase) (opened : List (List UInt8)) :
    Scanner.readMarkup ⟨tagBytes tag attributes ++ ascii '/' :: ascii '>' :: more, phase, opened⟩ =
      .ok (.empty (tagBytes tag attributes), ⟨more, .inText, opened⟩) := by
  obtain ⟨b, rest, hsplit, hbang, hslash, hquest⟩ :=
    first_byte htag attributes (ascii '/' :: ascii '>' :: more)
  have hend := tagEnd_tagBytes htag hkeys [ascii '/'] (by simp; decide) more
  rw [List.append_assoc, List.singleton_append] at hend
  rw [Scanner.readMarkup]
  dsimp only
  rw [hsplit]
  dsimp only
  rw [if_neg hbang, if_neg hslash, if_neg hquest, ← hsplit, hend]
  dsimp only
  rw [List.getLast?_concat]
  dsimp only
  rw [if_pos rfl, List.dropLast_concat]

theorem trimEndBlanks_of_markupName {tag : String} (htag : MarkupName tag) :
    trimEndBlanks (utf8Bytes tag) = utf8Bytes tag := by
  obtain ⟨last, rest, hrev⟩ : ∃ last rest, (utf8Bytes tag).reverse = last :: rest := by
    cases h : (utf8Bytes tag).reverse with
    | nil => exact absurd (List.reverse_eq_nil_iff.mp h) htag.bytes_ne_nil
    | cons b bs => exact ⟨b, bs, rfl⟩
  have hlast : isBlankByte last = false :=
    htag.not_blank (List.mem_reverse.mp (by rw [hrev]; exact List.mem_cons_self))
  rw [trimEndBlanks, hrev, List.dropWhile_cons_of_neg (by simp [hlast]), ← hrev,
    List.reverse_reverse]

/-- A written end tag is read as an end token when it names the innermost open tag. -/
theorem Scanner.readMarkup_end {tag : String} (htag : MarkupName tag) (more : List UInt8)
    (phase : Phase) (outer : List (List UInt8)) :
    Scanner.readMarkup ⟨ascii '/' :: (utf8Bytes tag ++ ascii '>' :: more), phase,
      utf8Bytes tag :: outer⟩ = .ok (.finish (utf8Bytes tag), ⟨more, .inText, outer⟩) := by
  have hend : tagEnd none (ascii '/' :: (utf8Bytes tag ++ ascii '>' :: more)) [] =
      some (ascii '/' :: utf8Bytes tag, more) := by
    have hplain : ∀ x ∈ ascii '/' :: utf8Bytes tag,
        x ≠ ascii '>' ∧ x ≠ ascii '\'' ∧ x ≠ ascii '"' := by
      intro x hx
      rcases List.mem_cons.mp hx with rfl | hx
      · decide
      · exact htag.tag_safe hx
    rw [← List.cons_append, tagEnd_plain hplain, tagEnd, if_pos rfl]
    simp
  rw [Scanner.readMarkup]
  dsimp only
  rw [if_neg (by decide), if_pos rfl, hend]
  dsimp only
  rw [List.drop_one, List.tail_cons, trimEndBlanks_of_markupName htag, if_pos rfl]

/-! ## One event a line -/

/-- The element reader between lines: the bytes left, the names of the open tags and the
depth. -/
def ElementReader.atLine (rest : List UInt8) (opened : List (List UInt8)) (depth : Nat) :
    ElementReader :=
  { scanner := { rest, phase := .inText, opened }, depth, pendingEnd := false }

/-- The bytes of a line after the one before: the line break, the indentation of its level,
and `<`. -/
def lineStart (d : Nat) (body : List UInt8) : List UInt8 :=
  ascii '\n' :: (List.replicate (4 * d) (ascii ' ') ++ ascii '<' :: body)

namespace ElementReader

variable {tag : String} {attributes : List (String × String)}

/-- A start tag's line gives the start of its element and opens one level. -/
theorem nextWith_startLine (htag : MarkupName tag) (hkeys : ∀ a ∈ attributes, MarkupName a.1)
    (hnodup : (attributes.map (·.1)).Nodup) (d depth fuel : Nat) (opened : List (List UInt8))
    (more : List UInt8) :
    (atLine (lineStart d (tagBytes tag attributes ++ ascii '>' :: more)) opened depth).nextWith
        (fuel + 1) =
      .ok (some (.start (readElement tag attributes)),
        atLine more (utf8Bytes tag :: opened) (depth + 1)) := by
  rw [nextWith, if_neg (by simp [atLine])]
  dsimp only [atLine, lineStart]
  rw [Scanner.next_line, Scanner.readMarkup_start htag hkeys]
  dsimp only
  rw [tagBytes, elementOf_written htag hkeys hnodup]
  rfl

/-- An empty-element tag's line gives the start of its element, with its end owed. -/
theorem nextWith_emptyLine (htag : MarkupName tag) (hkeys : ∀ a ∈ attributes, MarkupName a.1)
    (hnodup : (attributes.map (·.1)).Nodup) (d depth fuel : Nat) (opened : List (List UInt8))
    (more : List UInt8) :
    (atLine (lineStart d (tagBytes tag attributes ++ ascii '/' :: ascii '>' :: more)) opened
        depth).nextWith (fuel + 1) =
      .ok (some (.start (readElement tag attributes)),
        { atLine more opened (depth + 1) with pendingEnd := true }) := by
  rw [nextWith, if_neg (by simp [atLine])]
  dsimp only [atLine, lineStart]
  rw [Scanner.next_line, Scanner.readMarkup_empty htag hkeys]
  dsimp only
  rw [tagBytes, elementOf_written htag hkeys hnodup]
  rfl

/-- The end owed for an empty element comes next, without reading. -/
theorem nextWith_pending (rest : List UInt8) (opened : List (List UInt8)) (depth fuel : Nat) :
    ({ atLine rest opened (depth + 1) with pendingEnd := true } : ElementReader).nextWith
        (fuel + 1) = .ok (some .finish, atLine rest opened depth) := by
  rw [nextWith, if_pos rfl]
  rfl

/-- An end tag's line gives the end of the innermost open element. -/
theorem nextWith_endLine (htag : MarkupName tag) (d depth fuel : Nat)
    (opened : List (List UInt8)) (more : List UInt8) :
    (atLine (lineStart d (ascii '/' :: (utf8Bytes tag ++ ascii '>' :: more)))
        (utf8Bytes tag :: opened) (depth + 1)).nextWith (fuel + 1) =
      .ok (some .finish, atLine more opened depth) := by
  rw [nextWith, if_neg (by simp [atLine])]
  dsimp only [atLine, lineStart]
  rw [Scanner.next_line, Scanner.readMarkup_end htag]
  dsimp only
  rw [if_neg (Nat.succ_ne_zero depth)]
  rfl

/-- More fuel does not change an event the reader gives: fuel only bounds the tokens skipped
before it. -/
theorem nextWith_mono {r r₁ : ElementReader} {ev : ElementEvent} {fuel fuel' : Nat}
    (h : r.nextWith fuel = .ok (some ev, r₁)) (hle : fuel ≤ fuel') :
    r.nextWith fuel' = .ok (some ev, r₁) := by
  induction fuel generalizing r fuel' with
  | zero => simp [nextWith] at h
  | succ f ih =>
    obtain ⟨f', rfl⟩ : ∃ f', fuel' = f' + 1 := ⟨fuel' - 1, by omega⟩
    rw [nextWith] at h ⊢
    by_cases hp : r.pendingEnd = true
    · rwa [if_pos hp] at h ⊢
    · rw [if_neg hp] at h ⊢
      cases hs : r.scanner.next with
      | error f => rw [hs] at h; cases h
      | ok p =>
        obtain ⟨token, scanner⟩ := p
        rw [hs] at h
        -- a skipped token reads on, with one less fuel on either side
        cases token with
        | skipped => exact ih h (by omega)
        | start c => exact h
        | empty c => exact h
        | finish c => exact h
        | eof => exact h

/-- The element reader at `r` gives the events `evs`, one call of `next` each, and then stands
at `r'`. -/
inductive Reads : ElementReader → List ElementEvent → ElementReader → Prop
  | nil (r : ElementReader) : Reads r [] r
  | step {r r₁ r' : ElementReader} {ev : ElementEvent} {evs : List ElementEvent} :
      r.next = .ok (some ev, r₁) → Reads r₁ evs r' → Reads r (ev :: evs) r'

theorem Reads.append {r r₁ r₂ : ElementReader} {evs evs' : List ElementEvent}
    (h₁ : Reads r evs r₁) (h₂ : Reads r₁ evs' r₂) : Reads r (evs ++ evs') r₂ := by
  induction h₁ with
  | nil => exact h₂
  | step hnext _ ih => exact .step hnext (ih h₂)

/-- Reading a run of events in two parts passes through a reader in between. -/
theorem Reads.split {r r' : ElementReader} {evs evs' : List ElementEvent}
    (h : Reads r (evs ++ evs') r') : ∃ r₁, Reads r evs r₁ ∧ Reads r₁ evs' r' := by
  induction evs generalizing r with
  | nil => exact ⟨r, .nil r, h⟩
  | cons ev evs ih =>
    cases h with
    | step hnext hrest =>
      obtain ⟨r₁, h₁, h₂⟩ := ih hrest
      exact ⟨r₁, .step hnext h₁, h₂⟩

/-- A step that gives its event whatever the fuel is a step of `next`. -/
theorem next_eq {r r₁ : ElementReader} {ev : ElementEvent}
    (h : ∀ fuel, r.nextWith (fuel + 1) = .ok (some ev, r₁)) : r.next = .ok (some ev, r₁) :=
  h _

end ElementReader

/-! ## Written elements read as their events -/

open ElementReader

/-- An element whose tag and attribute keys are markup names, the keys of each tag distinct,
at every level. -/
inductive Xml.XmlElement.Writable : XmlElement → Prop
  | intro (e : XmlElement) : MarkupName e.tag → (∀ a ∈ e.attributes, MarkupName a.1) →
      (e.attributes.map (·.1)).Nodup → (∀ c ∈ e.children, Writable c) → Writable e

mutual
/-- The events the element reader gives for a written element: its start, the events of its
children, its end. -/
def Xml.XmlElement.events : XmlElement → List ElementEvent
  | ⟨tag, attributes, children⟩ =>
    .start (readElement tag attributes) :: (Xml.XmlElement.eventsOfAll children ++ [.finish])

/-- The events of written elements, one after another. -/
def Xml.XmlElement.eventsOfAll : List XmlElement → List ElementEvent
  | [] => []
  | e :: es => Xml.XmlElement.events e ++ Xml.XmlElement.eventsOfAll es
end

/-- The lines of `e` at any level are read as its events, whatever follows them. -/
def Xml.XmlElement.ReadsBack (e : XmlElement) : Prop :=
  ∀ d depth opened more, Reads (atLine (lineBytes (e.lines d) ++ more) opened depth) e.events
    (atLine more opened depth)

theorem readsBack_linesOfAll {es : List XmlElement} (h : ∀ e ∈ es, e.ReadsBack)
    (d depth : Nat) (opened : List (List UInt8)) (more : List UInt8) :
    Reads (atLine (lineBytes (XmlElement.linesOfAll d es) ++ more) opened depth)
      (XmlElement.eventsOfAll es) (atLine more opened depth) := by
  induction es with
  | nil =>
    rw [XmlElement.linesOfAll, XmlElement.eventsOfAll]
    exact .nil _
  | cons e es ih =>
    rw [XmlElement.linesOfAll, XmlElement.eventsOfAll, lineBytes_append, List.append_assoc]
    exact (h e List.mem_cons_self d depth opened _).append
      (ih fun e' he' => h e' (List.mem_cons_of_mem e he'))

/-- A writable element is read back as its events: a start and an end for each element, in
the order of the tree. -/
theorem Xml.XmlElement.Writable.readsBack {e : XmlElement} (he : e.Writable) : e.ReadsBack := by
  induction he with
  | intro e htag hkeys hnodup _ ih =>
    intro d depth opened more
    obtain ⟨tag, attributes, children⟩ := e
    cases children with
    | nil =>
      -- an empty-element tag: its start, then the end owed for it
      have hline : lineBytes (XmlElement.lines d ⟨tag, attributes, []⟩) ++ more =
          lineStart d (tagBytes tag attributes ++ ascii '/' :: ascii '>' :: more) := by
        rw [XmlElement.lines, lineBytes_cons, lineBytes_nil, utf8Bytes_tagLine]
        simp [lineStart]
        rfl
      rw [hline, XmlElement.events, XmlElement.eventsOfAll]
      exact .step (next_eq (nextWith_emptyLine htag hkeys hnodup d depth · opened more))
        (.step (next_eq (nextWith_pending more opened depth)) (.nil _))
    | cons c cs =>
      -- a start tag, the children one level deeper, and the end tag
      have hline : lineBytes (XmlElement.lines d ⟨tag, attributes, c :: cs⟩) ++ more =
          lineStart d (tagBytes tag attributes ++ ascii '>' ::
            (lineBytes (XmlElement.linesOfAll (d + 1) (c :: cs)) ++
              lineStart d (ascii '/' :: (utf8Bytes tag ++ ascii '>' :: more)))) := by
        rw [XmlElement.lines, lineBytes_cons, lineBytes_append, utf8Bytes_tagLine, lineBytes_cons,
          lineBytes_nil, utf8Bytes_endLine]
        simp [lineStart]
        rfl
      rw [hline, XmlElement.events]
      refine .step (next_eq (nextWith_startLine htag hkeys hnodup d depth · opened _)) ?_
      refine (readsBack_linesOfAll ih (d + 1) (depth + 1) (utf8Bytes tag :: opened) _).append ?_
      exact .step (next_eq (nextWith_endLine htag d depth · opened more)) (.nil _)

/-! ## Whole documents -/

/-- The declaration at the start of a document is skipped. -/
theorem Scanner.next_declaration (rest : List UInt8) :
    Scanner.next (Scanner.ofBytes (utf8Bytes declaration ++ rest)) =
      .ok (.skipped, ⟨rest, .inText, []⟩) := by
  rfl

theorem ElementReader.nextWith_declaration (rest : List UInt8) (fuel : Nat) :
    (ElementReader.ofBytes (utf8Bytes declaration ++ rest)).nextWith (fuel + 1) =
      (atLine rest [] 0).nextWith fuel := by
  rw [nextWith, if_neg (by simp [ofBytes])]
  dsimp only [ofBytes]
  rw [Scanner.next_declaration]
  rfl

/-- Events read after the declaration are read from the start of the document. -/
theorem ElementReader.Reads.of_declaration {rest : List UInt8} {ev : ElementEvent}
    {evs : List ElementEvent} {r' : ElementReader} (h : Reads (atLine rest [] 0) (ev :: evs) r') :
    Reads (ofBytes (utf8Bytes declaration ++ rest)) (ev :: evs) r' := by
  cases h with
  | step hnext hrest =>
    refine .step ?_ hrest
    have hlen : (utf8Bytes declaration).length = 38 := by decide
    rw [next, nextWith_declaration]
    refine nextWith_mono hnext ?_
    show rest.length + 2 ≤ (utf8Bytes declaration ++ rest).length + 1
    rw [List.length_append, hlen]
    omega

/-- After the root's last line, only the last line break is left: the document ends. -/
theorem ElementReader.next_end :
    (atLine [ascii '\n'] [] 0).next = .ok (none, ⟨⟨[], .done, []⟩, 0, false⟩) := by
  rfl

/-- A writable root is read back from its document as its events, and the document ends
there. -/
theorem reads_xmlDocument {root : XmlElement} (hroot : root.Writable) :
    Reads (ofBytes (utf8Bytes (xmlDocument root))) root.events (atLine [ascii '\n'] [] 0) := by
  have hreads := hroot.readsBack 0 0 [] [ascii '\n']
  obtain ⟨tag, attributes, children⟩ := root
  rw [XmlElement.events] at hreads ⊢
  rw [utf8Bytes_xmlDocument, List.append_assoc]
  exact hreads.of_declaration

/-! ## How many events a document holds -/

theorem eventsOfAll_length_le {es : List XmlElement}
    (h : ∀ e ∈ es, ∀ d, e.events.length ≤ (lineBytes (e.lines d)).length) (d : Nat) :
    (XmlElement.eventsOfAll es).length ≤ (lineBytes (XmlElement.linesOfAll d es)).length := by
  induction es with
  | nil => simp [XmlElement.eventsOfAll, XmlElement.linesOfAll]
  | cons e es ih =>
    rw [XmlElement.linesOfAll, XmlElement.eventsOfAll, lineBytes_append, List.length_append,
      List.length_append]
    have he := h e List.mem_cons_self d
    have hes := ih fun e' he' => h e' (List.mem_cons_of_mem e he')
    omega

/-- Each element gives two events and is written on lines of at least two bytes each: the
element reader gives no more events than the bytes of the lines. -/
theorem Xml.XmlElement.Writable.events_length_le {e : XmlElement} (he : e.Writable) (d : Nat) :
    e.events.length ≤ (lineBytes (e.lines d)).length := by
  induction he generalizing d with
  | intro e _ _ _ _ ih =>
    obtain ⟨tag, attributes, children⟩ := e
    cases children with
    | nil =>
      rw [XmlElement.lines, XmlElement.events, XmlElement.eventsOfAll, lineBytes_cons,
        utf8Bytes_tagLine]
      simp
      omega
    | cons c cs =>
      have hchildren := eventsOfAll_length_le ih (d + 1)
      dsimp only at hchildren
      rw [XmlElement.lines, XmlElement.events, lineBytes_cons, lineBytes_append, lineBytes_cons,
        utf8Bytes_tagLine, utf8Bytes_endLine]
      simp only [List.length_cons, List.length_append, List.length_replicate, lineBytes_nil,
        List.length_nil]
      omega

end ContentSync

