import ContentSync.DocView.Parse

/-!
# Balanced element events

The element reader reports a start for every start tag and every empty-element tag, and an end
for every end tag and, right after its start, for every empty-element tag. Its depth counts the
tags the markup reader holds open, plus one while the end of an empty element is due
(`ElementReader.Tracks`); the markup reader opens a tag with each start tag and closes one with
each end tag, which must close the innermost open tag (`Xml.Scanner.next_inv`). So the depth
is the number of starts less the number of ends so far, an end is only reported while an
element is open, and the document only ends at depth zero.

Text, comments, declarations and instructions are skipped inside one call, each one spending
some of the bytes left (`Xml.Scanner.budget`), so the fuel a call is given always suffices.

Main statements: `ElementReader.next_some`, `ElementReader.next_none`, `elementEvents_nested`.
-/

namespace ContentSync

namespace Xml

/-- The bytes a reader has left, and one more while it has not met the end of the input: every
skipped token spends some of it. -/
def Scanner.budget (s : Scanner) : Nat :=
  s.rest.length + if s.phase = .done then 0 else 1

/-! ## Markup that is stepped over ends inside the bytes -/

theorem cdataEnd_shorter : ∀ {bytes acc body rest : List UInt8},
    cdataEnd bytes acc = some (body, rest) → rest.length < bytes.length
  | [], _, _, _, h => by simp [cdataEnd] at h
  | b :: more, acc, body, rest, h => by
    rw [cdataEnd] at h
    split at h
    · cases h
      simp
    · have := cdataEnd_shorter h
      simp only [List.length_cons]
      omega

theorem instructionEnd_shorter : ∀ {bytes acc body rest : List UInt8},
    instructionEnd bytes acc = some (body, rest) → rest.length < bytes.length
  | [], _, _, _, h => by simp [instructionEnd] at h
  | b :: more, acc, body, rest, h => by
    rw [instructionEnd] at h
    split at h
    · cases h
      simp
    · have := instructionEnd_shorter h
      simp only [List.length_cons]
      omega

theorem commentEnd_shorter : ∀ {index : Nat} {bytes acc body rest : List UInt8},
    commentEnd index bytes acc = some (body, rest) → rest.length < bytes.length
  | _, [], _, _, _, h => by simp [commentEnd] at h
  | index, b :: more, acc, body, rest, h => by
    rw [commentEnd] at h
    split at h
    · cases h
      simp
    · have := commentEnd_shorter h
      simp only [List.length_cons]
      omega

theorem doctypeEnd_shorter : ∀ {balance : Nat} {bytes acc body rest : List UInt8},
    doctypeEnd balance bytes acc = some (body, rest) → rest.length < bytes.length
  | _, [], _, _, _, h => by simp [doctypeEnd] at h
  | balance, b :: more, acc, body, rest, h => by
    rw [doctypeEnd] at h
    -- every way on reads one byte more, and the end is found after it
    have hmore : ∀ {k : Nat} {acc' : List UInt8},
        doctypeEnd k more acc' = some (body, rest) → rest.length < (b :: more).length :=
      fun h' => by
        have := doctypeEnd_shorter h'
        simp only [List.length_cons]
        omega
    split at h
    · exact hmore h
    · split at h
      · split at h
        · cases h
          simp
        · exact hmore h
      · exact hmore h

theorem readBang_shorter {bytes rest : List UInt8} (h : readBang bytes = .ok rest) :
    rest.length < bytes.length := by
  unfold readBang at h
  split at h
  · split at h
    · split at h
      · cases h
      · split at h
        · cases h
          exact cdataEnd_shorter ‹_›
        · cases h
    · split at h
      · split at h
        · cases h
        · split at h
          · cases h
            exact commentEnd_shorter ‹_›
          · cases h
      · split at h
        · split at h
          · cases h
          · split at h
            · split at h
              · cases h
              · cases h
                exact doctypeEnd_shorter ‹_›
            · cases h
        · cases h
  · cases h

theorem splitAtFirst_shorter {p : UInt8 → Bool} {bytes pre after : List UInt8}
    (h : splitAtFirst p bytes = some (pre, after)) : after.length < bytes.length := by
  unfold splitAtFirst at h
  split at h
  · next i hi =>
    cases h
    have := (List.findIdx?_eq_some_iff_findIdx_eq.mp hi).1
    simp only [List.length_drop]
    omega
  · cases h

/-! ## What one token does -/

/-- What reading after `<` can do: open a tag, close the innermost open tag, or leave the open
tags alone while stepping over markup inside the bytes or reading an empty-element tag. -/
theorem Scanner.readMarkup_inv {s s' : Scanner} {tok : Token} (h : s.readMarkup = .ok (tok, s')) :
    (∃ c, tok = .start c ∧ ∃ n, s'.opened = n :: s.opened) ∨
      (∃ n, tok = .finish n ∧ s.opened = n :: s'.opened) ∨
      (((tok = .skipped ∧ s'.rest.length < s.rest.length ∧ s'.phase = .inText) ∨
        ∃ c, tok = .empty c) ∧ s'.opened = s.opened) := by
  unfold Scanner.readMarkup at h
  dsimp only at h
  split at h
  · cases h
  · next b more hrest =>
    split at h
    · -- `<!`: a comment, character data or a declaration
      split at h
      · next rest hb =>
        cases h
        refine .inr (.inr ⟨.inl ⟨rfl, ?_, rfl⟩, rfl⟩)
        have := readBang_shorter hb
        simpa [hrest] using this
      · cases h
    · split at h
      · -- `</`: an end tag, which must close the innermost open tag
        split at h
        · cases h
        · split at h
          · cases h
          · next expected outer hopened =>
            split at h
            · next hname =>
              cases h
              exact .inr (.inl ⟨_, rfl, hname ▸ hopened⟩)
            · cases h
      · split at h
        · -- `<?`: a declaration or instruction
          split at h
          · next content rest hend =>
            split at h
            · cases h
              refine .inr (.inr ⟨.inl ⟨rfl, ?_, rfl⟩, rfl⟩)
              have := instructionEnd_shorter hend
              simpa [hrest] using this
            · cases h
          · cases h
        · -- a start or empty-element tag
          split at h
          · cases h
          · split at h
            · split at h
              · cases h
                exact .inr (.inr ⟨.inr ⟨_, rfl⟩, rfl⟩)
              · cases h
                exact .inl ⟨_, rfl, _, rfl⟩
            · cases h
              exact .inl ⟨_, rfl, _, rfl⟩

/-- A reader at the very start reads on as one between markup, with the byte order mark
dropped. -/
theorem Scanner.next_init {s : Scanner} (hph : s.phase = .init) :
    ∃ bytes : List UInt8, bytes.length ≤ s.rest.length ∧
      s.next = { s with rest := bytes, phase := .inText }.next := by
  simp only [Scanner.next, hph]
  refine ⟨_, ?_, rfl⟩
  split
  · next more hrest =>
    rw [hrest]
    simp only [List.length_cons]
    omega
  · exact Nat.le_refl _

/-- What reading between markup can do: step over text, reach the end, or read the markup after
the next `<`. -/
theorem Scanner.next_inText_inv {s s' : Scanner} {tok : Token} (hph : s.phase = .inText)
    (h : s.next = .ok (tok, s')) :
    (∃ c, tok = .start c ∧ ∃ n, s'.opened = n :: s.opened) ∨
      (∃ n, tok = .finish n ∧ s.opened = n :: s'.opened) ∨
      (((tok = .skipped ∧ s'.budget < s.rest.length + 1) ∨ tok = .eof ∨ ∃ c, tok = .empty c) ∧
        s'.opened = s.opened) := by
  simp only [Scanner.next, hph] at h
  -- blanks before markup are dropped first
  have hblank : (s.rest.dropWhile isBlankByte).length ≤ s.rest.length :=
    (List.dropWhile_suffix _).length_le
  split at h
  · cases h
    exact .inr (.inr ⟨.inr (.inl rfl), rfl⟩)
  · next b more hdrop =>
    rw [hdrop, List.length_cons] at hblank
    split at h
    · rcases readMarkup_inv h with hs | hf | ⟨hk, ho⟩
      · exact .inl hs
      · exact .inr (.inl hf)
      · refine .inr (.inr ⟨?_, ho⟩)
        rcases hk with ⟨rfl, hlt, hph'⟩ | he
        · refine .inl ⟨rfl, ?_⟩
          simp only [budget, hph']
          simp only [reduceCtorEq, if_false] at hlt ⊢
          omega
        · exact .inr (.inr he)
    · split at h
      · next pre after hsplit =>
        cases h
        refine .inr (.inr ⟨.inl ⟨rfl, ?_⟩, rfl⟩)
        have := splitAtFirst_shorter hsplit
        rw [hdrop, List.length_cons] at this
        simp only [budget, reduceCtorEq, if_false]
        omega
      · cases h
        exact .inr (.inr ⟨.inl ⟨rfl, by simp [budget]⟩, rfl⟩)

/-- What one token does to the open tags, and that a skipped token spends some of the budget. -/
theorem Scanner.next_inv {s s' : Scanner} {tok : Token} (h : s.next = .ok (tok, s')) :
    (∃ c, tok = .start c ∧ ∃ n, s'.opened = n :: s.opened) ∨
      (∃ n, tok = .finish n ∧ s.opened = n :: s'.opened) ∨
      (((tok = .skipped ∧ s'.budget < s.budget) ∨ tok = .eof ∨ ∃ c, tok = .empty c) ∧
        s'.opened = s.opened) := by
  cases hph : s.phase with
  | done =>
    simp only [Scanner.next, hph] at h
    cases h
    exact .inr (.inr ⟨.inr (.inl rfl), rfl⟩)
  | inMarkup =>
    simp only [Scanner.next, hph] at h
    rcases readMarkup_inv h with hs | hf | ⟨hk, ho⟩
    · exact .inl hs
    · exact .inr (.inl hf)
    · refine .inr (.inr ⟨?_, ho⟩)
      rcases hk with ⟨rfl, hlt, hph'⟩ | he
      · refine .inl ⟨rfl, ?_⟩
        simp only [budget, hph, hph', reduceCtorEq, if_false]
        omega
      · exact .inr (.inr he)
  | inText =>
    have := next_inText_inv hph h
    simpa only [budget, hph, reduceCtorEq, if_false] using this
  | init =>
    -- the byte order mark goes first, and the rest is read as between markup
    obtain ⟨bytes, hlen, heq⟩ := next_init hph
    rw [heq] at h
    have := next_inText_inv rfl h
    simp only [budget, hph, reduceCtorEq, if_false] at this ⊢
    rcases this with hs | hf | ⟨hk, ho⟩
    · exact .inl hs
    · exact .inr (.inl hf)
    · refine .inr (.inr ⟨?_, ho⟩)
      rcases hk with ⟨rfl, hlt⟩ | he
      · exact .inl ⟨rfl, by omega⟩
      · exact .inr he

end Xml

/-! ## The element reader -/

namespace ElementReader

open Xml

/-- The reader's depth counts the tags the markup reader holds open, and one more while the end
of an empty element is due. -/
def Tracks (r : ElementReader) : Prop :=
  r.depth = r.scanner.opened.length + if r.pendingEnd then 1 else 0

theorem tracks_ofBytes (bytes : List UInt8) : (ofBytes bytes).Tracks := rfl

/-- An event read from a reader that tracks its tags: the reader after it tracks them too, an
end closes an open element, and a start opens one more. -/
theorem nextWith_some {fuel : Nat} {r r' : ElementReader} {ev : ElementEvent} (hr : r.Tracks)
    (h : r.nextWith fuel = .ok (some ev, r')) :
    r'.Tracks ∧ (ev = .finish → r.depth = r'.depth + 1) ∧
      (ev ≠ .finish → r'.depth = r.depth + 1) := by
  induction fuel generalizing r with
  | zero => cases h
  | succ fuel ih =>
    unfold nextWith at h
    split at h
    · -- the end of an empty element that was due
      next hpend =>
      cases h
      simp only [Tracks, hpend, if_true] at hr
      refine ⟨?_, fun _ => ?_, fun hne => absurd rfl hne⟩
      · simp only [Tracks, Bool.false_eq_true, if_false]
        omega
      · show r.depth = r.depth - 1 + 1
        omega
    · next hpend =>
      have hpend : r.pendingEnd = false := by simpa using hpend
      simp only [Tracks, hpend, Bool.false_eq_true, if_false, Nat.add_zero] at hr
      split at h
      · cases h
      · next token scanner hnext =>
        rcases Scanner.next_inv hnext with ⟨c, rfl, n, hopen⟩ | ⟨n, rfl, hclose⟩ |
          ⟨hk, hsame⟩
        · -- a start tag opens one more
          dsimp only at h
          cases he : elementOf c with
          | error e => rw [he] at h; cases h
          | ok e =>
            rw [he] at h
            cases h
            refine ⟨?_, (fun hf => by cases hf), fun _ => rfl⟩
            simp only [Tracks, hpend, hopen, List.length_cons, Bool.false_eq_true, if_false]
            omega
        · -- an end tag closes the innermost
          dsimp only at h
          split at h
          · cases h
          · cases h
            have : r.depth = scanner.opened.length + 1 := by
              rw [hr, hclose, List.length_cons]
            refine ⟨?_, fun _ => ?_, fun hne => absurd rfl hne⟩
            · simp only [Tracks, hpend, Bool.false_eq_true, if_false]
              show r.depth - 1 = scanner.opened.length + 0
              omega
            · show r.depth = r.depth - 1 + 1
              omega
        · rcases hk with ⟨rfl, -⟩ | rfl | ⟨c, rfl⟩
          · -- a skipped token reads on
            dsimp only at h
            have hT : Tracks { r with scanner := scanner } := by
              show r.depth = scanner.opened.length + if r.pendingEnd then 1 else 0
              rw [hpend, hsame]
              simpa using hr
            exact ih (r := { r with scanner := scanner }) hT h
          · dsimp only at h
            split at h
            · cases h
            · cases h
          · -- an empty-element tag: its end is due next
            dsimp only at h
            cases he : elementOf c with
            | error e => rw [he] at h; cases h
            | ok e =>
              rw [he] at h
              cases h
              refine ⟨?_, (fun hf => by cases hf), fun _ => rfl⟩
              simp only [Tracks, hsame, if_true]
              omega

/-- A reader that tracks its tags and has fuel beyond its budget only reports the end of the
document at depth zero. -/
theorem nextWith_none {fuel : Nat} {r r' : ElementReader} (hr : r.Tracks)
    (hfuel : r.scanner.budget < fuel) (h : r.nextWith fuel = .ok (none, r')) : r.depth = 0 := by
  induction fuel generalizing r with
  | zero => omega
  | succ fuel ih =>
    unfold nextWith at h
    split at h
    · cases h
    · next hpend =>
      have hpend : r.pendingEnd = false := by simpa using hpend
      split at h
      · cases h
      · next token scanner hnext =>
        rcases Scanner.next_inv hnext with ⟨c, rfl, -⟩ | ⟨n, rfl, -⟩ | ⟨hk, hsame⟩
        · dsimp only at h
          cases he : elementOf c with
          | error e => rw [he] at h; cases h
          | ok e => rw [he] at h; cases h
        · dsimp only at h
          split at h
          · cases h
          · cases h
        · rcases hk with ⟨rfl, hlt⟩ | rfl | ⟨c, rfl⟩
          · -- a skipped token spends some of the budget, and reading goes on
            dsimp only at h
            have hT : Tracks { r with scanner := scanner } := by
              show r.depth = scanner.opened.length + if r.pendingEnd then 1 else 0
              rw [hsame]
              exact hr
            have hbudget : scanner.budget < fuel := by omega
            exact ih (r := { r with scanner := scanner }) hT hbudget h
          · dsimp only at h
            split at h
            · cases h
            · next hz =>
              simpa using hz
          · dsimp only at h
            cases he : elementOf c with
            | error e => rw [he] at h; cases h
            | ok e => rw [he] at h; cases h

theorem budget_lt_fuel (r : ElementReader) : r.scanner.budget < r.scanner.rest.length + 2 := by
  unfold Scanner.budget
  split <;> omega

theorem next_some {r r' : ElementReader} {ev : ElementEvent} (hr : r.Tracks)
    (h : r.next = .ok (some ev, r')) :
    r'.Tracks ∧ (ev = .finish → r.depth = r'.depth + 1) ∧
      (ev ≠ .finish → r'.depth = r.depth + 1) :=
  nextWith_some hr h

theorem next_none {r r' : ElementReader} (hr : r.Tracks) (h : r.next = .ok (none, r')) :
    r.depth = 0 :=
  nextWith_none hr (budget_lt_fuel r) h

end ElementReader

/-! ## Runs of events -/

namespace ElementEvent

/-- The number of starts among events. -/
def starts (evs : List ElementEvent) : Nat := evs.countP (· != .finish)

/-- The number of ends among events. -/
def ends (evs : List ElementEvent) : Nat := evs.count .finish

/-- Events in which no end comes before its start: every prefix has at least as many starts as
ends. -/
def Nested (evs : List ElementEvent) : Prop :=
  ∀ p, p <+: evs → ends p ≤ starts p

@[simp] theorem starts_reverse (evs : List ElementEvent) : starts evs.reverse = starts evs :=
  List.countP_reverse

@[simp] theorem ends_reverse (evs : List ElementEvent) : ends evs.reverse = ends evs :=
  List.count_reverse

theorem starts_cons (ev : ElementEvent) (evs : List ElementEvent) :
    starts (ev :: evs) = starts evs + if ev = .finish then 0 else 1 := by
  by_cases h : ev = .finish <;> simp [starts, h]

theorem ends_cons (ev : ElementEvent) (evs : List ElementEvent) :
    ends (ev :: evs) = ends evs + if ev = .finish then 1 else 0 := by
  by_cases h : ev = .finish <;> simp [ends, h]

theorem nested_nil : Nested [] := fun p hp => by
  rw [List.prefix_nil.mp hp]
  simp [starts, ends]

theorem Nested.concat {evs : List ElementEvent} (h : Nested evs) {ev : ElementEvent}
    (hlast : ends (evs ++ [ev]) ≤ starts (evs ++ [ev])) : Nested (evs ++ [ev]) := by
  intro p hp
  rcases List.prefix_concat_iff.mp hp with rfl | hp
  · exact hlast
  · exact h p hp

end ElementEvent

open ElementEvent

/-- Reading events one after the other keeps them nested, and when the document ends before
the limit the starts and ends balance; `acc` holds the events read so far, last first. -/
theorem events_go {n : Nat} {r : ElementReader} {acc : List ElementEvent} (hr : r.Tracks)
    (hdepth : r.depth + ends acc = starts acc) (hnest : Nested acc.reverse) :
    Nested (elementEvents.go n r acc).1 ∧
      ((elementEvents.go n r acc).1.length < acc.length + n →
        (elementEvents.go n r acc).2 = none →
        starts (elementEvents.go n r acc).1 = ends (elementEvents.go n r acc).1) := by
  induction n generalizing r acc with
  | zero =>
    refine ⟨hnest, fun hlt _ => ?_⟩
    simp [elementEvents.go] at hlt
  | succ n ih =>
    rw [elementEvents.go]
    split
    · exact ⟨hnest, fun _ hnone => by cases hnone⟩
    · next r' hnext =>
      refine ⟨hnest, fun _ _ => ?_⟩
      have := ElementReader.next_none hr hnext
      simp only [starts_reverse, ends_reverse]
      omega
    · next ev r' hnext =>
      -- the event read is counted, and the depth follows it
      obtain ⟨hr', hfin, hstart⟩ := ElementReader.next_some hr hnext
      have hdepth' : r'.depth + ends (ev :: acc) = starts (ev :: acc) := by
        rw [starts_cons, ends_cons]
        by_cases hev : ev = .finish
        · have := hfin hev
          simp only [hev, if_true]
          omega
        · have := hstart hev
          simp only [hev, if_false]
          omega
      have hnest' : Nested (ev :: acc).reverse := by
        rw [List.reverse_cons]
        refine hnest.concat ?_
        rw [← List.reverse_cons, starts_reverse, ends_reverse]
        omega
      obtain ⟨h1, h2⟩ := ih hr' hdepth' hnest'
      refine ⟨h1, fun hlt hnone => h2 ?_ hnone⟩
      simp only [List.length_cons]
      omega

/-- The events of a document are nested: no prefix has more ends than starts. When reading
stops without a fault before the limit, the document has ended, and its starts and ends
balance. -/
theorem elementEvents_nested (bytes : List UInt8) (limit : Nat) :
    Nested (elementEvents bytes limit).1 ∧
      ((elementEvents bytes limit).1.length < limit → (elementEvents bytes limit).2 = none →
        starts (elementEvents bytes limit).1 = ends (elementEvents bytes limit).1) := by
  have := @events_go limit _ [] (ElementReader.tracks_ofBytes bytes)
    (by simp [starts, ends]; rfl) nested_nil
  simpa [elementEvents] using this

end ContentSync
