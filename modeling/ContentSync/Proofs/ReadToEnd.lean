import ContentSync.Proofs.ElementBalance
import ContentSync.Proofs.ExceptRun
import ContentSync.Import.Versions

/-!
# The readers read to the end

Three loops drive the element reader to the end of a document: the content-document parser,
the list of a document's events, and the version importer. Each is given fuel, the document's
length and two more (twice the length for the importer), where the source reads until the
reader ends. The fuel always suffices: every event the reader reports spends a byte it has left,
or the end that was due after an empty-element tag (`ElementReader.left`), so the reader reports
the end of the document or a fault before any loop runs dry, and more fuel gives the same answer
(`parseDocView_fuel`, `elementEvents_fuel`, `applyVersionEvents_fuel`).

Main statements: `ElementReader.nextWith_left`, `parseDocView_fuel`, `elementEvents_length`,
`elementEvents_fuel`, `applyVersionEvents_fuel`.
-/

namespace ContentSync

namespace Xml

/-- The bytes a token surely spends: the closing `>` of a tag, and the `/` of an empty-element
tag too. -/
def Token.weight : Token → Nat
  | .start _ => 1
  | .finish _ => 1
  | .empty _ => 2
  | _ => 0

/-- The end of a tag is found inside the bytes, after the content read. -/
theorem tagEnd_length : ∀ {q : Option UInt8} {bytes acc content rest : List UInt8},
    tagEnd q bytes acc = some (content, rest) →
      content.length + rest.length + 1 = acc.length + bytes.length := by
  intro q bytes
  induction bytes generalizing q with
  | nil => intro acc content rest h; cases h
  | cons b more ih =>
    intro acc content rest h
    unfold tagEnd at h
    have hstep : ∀ q', tagEnd q' more (b :: acc) = some (content, rest) →
        content.length + rest.length + 1 = acc.length + (b :: more).length := by
      intro q' h'
      have := ih h'
      simp only [List.length_cons] at this ⊢
      omega
    split at h
    · split at h
      · cases h
        simp only [List.length_reverse, List.length_cons]
        omega
      · split at h
        · exact hstep _ h
        · exact hstep _ h
    · split at h
      · exact hstep _ h
      · exact hstep _ h

/-- Reading after `<` spends what its token surely spends, and never adds bytes. -/
theorem Scanner.readMarkup_spends {s s' : Scanner} {tok : Token}
    (h : s.readMarkup = .ok (tok, s')) : s'.rest.length + tok.weight ≤ s.rest.length := by
  unfold Scanner.readMarkup at h
  dsimp only at h
  split at h
  · cases h
  · next b more hrest =>
    split at h
    · -- `<!`: stepped over
      split at h
      · next rest hb =>
        cases h
        exact Nat.le_of_lt (readBang_shorter hb)
      · cases h
    · split at h
      · -- `</`: the end tag closes at a `>` inside the bytes
        split at h
        · cases h
        · next content rest hend =>
          have hlen := tagEnd_length hend
          split at h
          · cases h
          · split at h
            · cases h
              simp only [Token.weight, List.length_nil] at hlen ⊢
              omega
            · cases h
      · split at h
        · -- `<?`: stepped over
          split at h
          · next content rest hend =>
            split at h
            · cases h
              exact Nat.le_of_lt (instructionEnd_shorter hend)
            · cases h
          · cases h
        · -- a start tag, or an empty-element tag whose content ends in `/`
          split at h
          · cases h
          · next content rest hend =>
            have hlen := tagEnd_length hend
            simp only [List.length_nil] at hlen
            split at h
            · next l hl =>
              have hpos : 0 < content.length := by
                cases content with
                | nil => simp at hl
                | cons => simp
              split at h
              · cases h
                simp only [Token.weight]
                omega
              · cases h
                simp only [Token.weight]
                omega
            · cases h
              simp only [Token.weight]
              omega

/-- Reading between markup spends what its token surely spends. -/
theorem Scanner.next_inText_spends {s s' : Scanner} {tok : Token} (hph : s.phase = .inText)
    (h : s.next = .ok (tok, s')) : s'.rest.length + tok.weight ≤ s.rest.length := by
  simp only [Scanner.next, hph] at h
  have hblank : (s.rest.dropWhile isBlankByte).length ≤ s.rest.length :=
    (List.dropWhile_suffix _).length_le
  split at h
  · cases h
    simpa [Token.weight] using hblank
  · next b more hdrop =>
    rw [hdrop, List.length_cons] at hblank
    split at h
    · have := readMarkup_spends h
      dsimp only at this
      omega
    · split at h
      · next pre after hsplit =>
        cases h
        have := splitAtFirst_shorter hsplit
        rw [hdrop, List.length_cons] at this
        simp only [Token.weight]
        omega
      · cases h
        simp [Token.weight]

/-- Every token spends what it surely spends of the bytes left. -/
theorem Scanner.next_spends {s s' : Scanner} {tok : Token} (h : s.next = .ok (tok, s')) :
    s'.rest.length + tok.weight ≤ s.rest.length := by
  cases hph : s.phase with
  | done =>
    simp only [Scanner.next, hph] at h
    cases h
    simp [Token.weight]
  | inMarkup =>
    simp only [Scanner.next, hph] at h
    exact readMarkup_spends h
  | inText => exact next_inText_spends hph h
  | init =>
    -- the byte order mark goes first
    obtain ⟨bytes, hlen, heq⟩ := next_init hph
    rw [heq] at h
    have := next_inText_spends rfl h
    dsimp only at this
    omega

end Xml

namespace ElementReader

open Xml

/-- What the reader has left to report: the bytes it has not read, and the end due after an
empty-element tag. -/
def left (r : ElementReader) : Nat :=
  r.scanner.rest.length + if r.pendingEnd then 1 else 0

/-- Every event the reader reports spends some of what it has left. -/
theorem nextWith_left {fuel : Nat} {r r' : ElementReader} {ev : ElementEvent}
    (h : r.nextWith fuel = .ok (some ev, r')) : r'.left < r.left := by
  induction fuel generalizing r with
  | zero => cases h
  | succ fuel ih =>
    unfold nextWith at h
    split at h
    · -- the end that was due
      next hpend =>
      cases h
      simp [left, hpend]
    · next hpend =>
      have hpend : r.pendingEnd = false := by simpa using hpend
      split at h
      · cases h
      · next token scanner hnext =>
        have hspent := Scanner.next_spends hnext
        cases token with
        | start c =>
          dsimp only at h
          obtain ⟨e, -, h⟩ := Except.bind_eq_ok_iff.mp h
          cases h
          simp only [Token.weight] at hspent
          simp only [left, hpend, Bool.false_eq_true, if_false]
          omega
        | empty c =>
          dsimp only at h
          obtain ⟨e, -, h⟩ := Except.bind_eq_ok_iff.mp h
          cases h
          simp only [Token.weight] at hspent
          simp only [left, hpend, Bool.false_eq_true, if_false, if_true]
          omega
        | finish n =>
          dsimp only at h
          split at h
          · cases h
          · cases h
            simp only [Token.weight] at hspent
            simp only [left, hpend, Bool.false_eq_true, if_false]
            omega
        | skipped =>
          -- reading goes on from a reader that has no more left
          dsimp only at h
          have hlt := ih h
          simp only [left, hpend, Bool.false_eq_true, if_false] at hlt ⊢
          simp only [Token.weight] at hspent
          omega
        | eof =>
          dsimp only at h
          split at h
          · cases h
          · cases h

theorem next_left {r r' : ElementReader} {ev : ElementEvent} (h : r.next = .ok (some ev, r')) :
    r'.left < r.left :=
  nextWith_left h

theorem left_ofBytes (bytes : List UInt8) : (ofBytes bytes).left = bytes.length := by
  simp [left, ofBytes, Scanner.ofBytes]

end ElementReader

open ElementReader

/-! ## The loops -/

/-- The parser gives the same answer for every fuel beyond what the reader has left. -/
theorem parseDocView_go_fuel : ∀ {fuel fuel' : Nat} {r : ElementReader} {stack : List Node}
    {root : Option Node}, r.left < fuel → r.left < fuel' →
      parseDocView.go fuel r stack root = parseDocView.go fuel' r stack root := by
  intro fuel
  induction fuel with
  | zero => intro _ _ _ _ h; omega
  | succ fuel ih =>
    intro fuel' r stack root h h'
    obtain ⟨fuel', rfl⟩ : ∃ f, fuel' = f + 1 := ⟨fuel' - 1, by omega⟩
    simp only [parseDocView.go]
    cases hn : r.next with
    | error e => rfl
    | ok p =>
      obtain ⟨ev, r'⟩ := p
      -- after an event the reader has less left, within both fuels
      cases ev with
      | none => rfl
      | some ev =>
        have hlt := next_left hn
        have hrec : ∀ stack root, parseDocView.go fuel r' stack root =
            parseDocView.go fuel' r' stack root := fun _ _ => ih (by omega) (by omega)
        cases ev with
        | start e => simp only [Except.ok_bind, hrec]
        | finish => simp only [Except.ok_bind, hrec]

/-- The fuel the parser is given, the bytes and two more, never runs out: more gives the same
answer. -/
theorem parseDocView_fuel (bytes : List UInt8) {fuel : Nat} (h : bytes.length < fuel) :
    parseDocView.go fuel (ofBytes bytes) [] none = parseDocView bytes :=
  parseDocView_go_fuel (by rw [left_ofBytes]; exact h) (by rw [left_ofBytes]; omega)

/-- The events are the same for every limit beyond what the reader has left. -/
theorem elementEvents_go_fuel : ∀ {limit limit' : Nat} {r : ElementReader}
    {acc : List ElementEvent}, r.left < limit → r.left < limit' →
      elementEvents.go limit r acc = elementEvents.go limit' r acc := by
  intro limit
  induction limit with
  | zero => intro _ _ _ h; omega
  | succ limit ih =>
    intro limit' r acc h h'
    obtain ⟨limit', rfl⟩ : ∃ l, limit' = l + 1 := ⟨limit' - 1, by omega⟩
    simp only [elementEvents.go]
    cases hn : r.next with
    | error e => rfl
    | ok p =>
      obtain ⟨ev, r'⟩ := p
      cases ev with
      | none => rfl
      | some ev =>
        have hlt := next_left hn
        exact ih (by omega) (by omega)

/-- A limit beyond the document's length reads all its events. -/
theorem elementEvents_fuel (bytes : List UInt8) {limit : Nat} (h : bytes.length < limit) :
    elementEvents bytes limit = elementEvents bytes (bytes.length + 1) :=
  elementEvents_go_fuel (by rw [left_ofBytes]; exact h) (by rw [left_ofBytes]; omega)

/-- A reader reports no more events than it has left. -/
theorem elementEvents_go_length : ∀ {limit : Nat} {r : ElementReader} {acc : List ElementEvent},
    (elementEvents.go limit r acc).1.length ≤ acc.length + r.left := by
  intro limit
  induction limit with
  | zero => intro r acc; simp [elementEvents.go]
  | succ limit ih =>
    intro r acc
    simp only [elementEvents.go]
    cases hn : r.next with
    | error e => simp
    | ok p =>
      obtain ⟨ev, r'⟩ := p
      cases ev with
      | none => simp
      | some ev =>
        -- each event spends some of what the reader has left
        have hlt := next_left hn
        have hrest := @ih r' (ev :: acc)
        rw [List.length_cons] at hrest
        dsimp only
        omega

/-- A document has no more events than bytes, so a limit beyond its length is never reached:
reading stops where the reader ends or fails. -/
theorem elementEvents_length (bytes : List UInt8) (limit : Nat) :
    (elementEvents bytes limit).1.length ≤ bytes.length := by
  have h := @elementEvents_go_length limit (ofBytes bytes) []
  rw [left_ofBytes, List.length_nil, Nat.zero_add] at h
  exact h

theorem RepoM.ofExcept_ok_bind {α β : Type} (a : α) (f : α → RepoM β) :
    RepoM.ofExcept (.ok a) >>= f = f a :=
  rfl

/-- Applying a version document's events does the same for every fuel beyond what the reader
has left. -/
theorem applyVersionEvents_go_fuel : ∀ {fuel fuel' : Nat} {r : ElementReader}
    {stack : List VersionFrame} {seenRoot : Bool} {storage : Staged}, r.left < fuel →
      r.left < fuel' → applyVersionEvents fuel r stack seenRoot storage =
        applyVersionEvents fuel' r stack seenRoot storage := by
  intro fuel
  induction fuel with
  | zero => intro _ _ _ _ _ h; omega
  | succ fuel ih =>
    intro fuel' r stack seenRoot storage h h'
    obtain ⟨fuel', rfl⟩ : ∃ f, fuel' = f + 1 := ⟨fuel' - 1, by omega⟩
    rw [applyVersionEvents, applyVersionEvents]
    cases hn : r.next with
    | error e => rfl
    | ok p =>
      obtain ⟨ev, r'⟩ := p
      cases ev with
      | none => rfl
      | some ev =>
        have hlt := next_left hn
        have hrec : ∀ stack seenRoot storage,
            applyVersionEvents fuel r' stack seenRoot storage =
              applyVersionEvents fuel' r' stack seenRoot storage :=
          fun _ _ _ => ih (by omega) (by omega)
        rw [RepoM.ofExcept_ok_bind, RepoM.ofExcept_ok_bind]
        cases ev <;> simp only [hrec]

/-- The fuel a version import is given, twice the bytes and two more, never runs out: more
gives the same run. -/
theorem applyVersionEvents_fuel (data : List UInt8) {fuel : Nat} (h : data.length < fuel)
    (storage : Staged) :
    applyVersionEvents fuel (ofBytes data) [] false storage =
      applyVersionEvents (2 * data.length + 2) (ofBytes data) [] false storage :=
  applyVersionEvents_go_fuel (by rw [left_ofBytes]; exact h) (by rw [left_ofBytes]; omega)

end ContentSync
