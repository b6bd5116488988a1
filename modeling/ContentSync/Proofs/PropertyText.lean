import ContentSync.Proofs.TypedText
import ContentSync.Proofs.DateText
import ContentSync.Proofs.DoubleText
import ContentSync.Proofs.IntegerText
import ContentSync.Proofs.Base64Text

/-!
# A property reads back from its typed text

Writing a property puts its type in braces and the escaped text of each value after it; reading
undoes the escapes (`decodeTyped_formatProperty`) and then reads each text as a value of that
type. This module proves the second half: every value the value API makes is read back from its
own text, the same except for what the text does not carry, the sign and payload of a NaN and
the digits of a date past the millisecond (`Value.readBack`). Every written text is visible
ASCII, so the white space trimmed before reading never touches it.

Main statement: `readProperty_formatProperty`.
-/

namespace ContentSync

open Text

/-! ## Written values are visible text -/

theorem isVisibleAscii_of_mem_toString {n : Int} {c : Char} (hc : c ∈ (toString n).toList) :
    IsVisibleAscii c := by
  have hdigits : ∀ m : Nat, ∀ c ∈ (Nat.repr m).toList, IsVisibleAscii c := fun m c hc => by
    rw [Nat.toList_repr] at hc
    exact Number.isVisibleAscii_of_isDigit (Nat.isDigit_of_mem_toDigits (by decide) (by decide) hc)
  cases n with
  | ofNat m => exact hdigits m c hc
  | negSucc m =>
    change c ∈ ("-" ++ Nat.repr (m + 1)).toList at hc
    rw [String.toList_append, List.mem_append] at hc
    rcases hc with hc | hc
    · rw [show "-".toList = ['-'] from rfl, List.mem_singleton] at hc
      subst hc
      decide
    · exact hdigits _ c hc

theorem mem_positional {d : Nat} {e : Int} {c : Char} (hc : c ∈ (Number.positional d e).toList) :
    c = '0' ∨ c = '.' ∨ c ∈ Nat.toDigits 10 d := by
  unfold Number.positional at hc
  dsimp only at hc
  split_ifs at hc <;> rw [String.toList_ofList] at hc
  · simp only [List.mem_cons, List.mem_append, List.mem_replicate] at hc
    rcases hc with (h | h | ⟨-, h⟩) | h
    · exact .inl h
    · exact .inr (.inl h)
    · exact .inl h
    · exact .inr (.inr h)
  · simp only [List.mem_cons, List.mem_append] at hc
    rcases hc with h | h | h
    · exact .inr (.inr (List.mem_of_mem_take h))
    · exact .inr (.inl h)
    · exact .inr (.inr (List.mem_of_mem_drop h))
  · simp only [List.mem_append, List.mem_replicate] at hc
    rcases hc with h | ⟨-, h⟩
    · exact .inr (.inr h)
    · exact .inl h

theorem isVisibleAscii_of_mem_toPositional (x : Number.Binary64) :
    ∀ c ∈ x.toPositional.toList, IsVisibleAscii c := by
  have hpositional : ∀ d e, ∀ c ∈ (Number.positional d e).toList, IsVisibleAscii c := by
    intro d e c hc
    rcases mem_positional hc with rfl | rfl | hc
    · decide
    · decide
    · exact Number.isVisibleAscii_of_isDigit (Nat.isDigit_of_mem_toDigits (by decide) (by decide) hc)
  -- every text but NaN is a sign, then a word or a positional numeral
  have hsigned : ∀ w : String, (∀ c ∈ w.toList, IsVisibleAscii c) →
      ∀ c ∈ ((if x.negative = true then "-" else "") ++ w).toList, IsVisibleAscii c := by
    intro w hw c hc
    rw [String.toList_append, List.mem_append] at hc
    rcases hc with hc | hc
    · split at hc <;> revert c <;> simp [IsVisibleAscii]
    · exact hw c hc
  unfold Number.Binary64.toPositional
  dsimp only
  by_cases hnan : x.isNaN = true
  · rw [if_pos hnan]
    simp [IsVisibleAscii]
  rw [if_neg hnan]
  by_cases hinf : x.isInfinite = true
  · rw [if_pos hinf]
    exact hsigned "inf" (by simp [IsVisibleAscii])
  rw [if_neg hinf]
  by_cases hzero : x.isZero = true
  · rw [if_pos hzero]
    exact hsigned "0" (by simp [IsVisibleAscii])
  rw [if_neg hzero]
  exact hsigned _ (hpositional _ _)

theorem isVisibleAscii_digitChar (n : Nat) : IsVisibleAscii (Time.digitChar (n % 10)) := by
  have h : ∀ k < 10, IsVisibleAscii (Time.digitChar k) := by decide
  exact h _ (Nat.mod_lt _ (by omega))

theorem isVisibleAscii_of_mem_toText {t : Time.Timestamp} :
    ∀ c ∈ t.toText.toList, IsVisibleAscii c := by
  generalize hw : (if t.nanos ≥ 1000000000 then (t.second + 1, t.nanos - 1000000000)
    else (t.second, t.nanos)) = written
  obtain ⟨sec, frac⟩ := written
  have hsign : IsVisibleAscii (if t.offset < 0 then '-' else '+') := by split <;> decide
  rw [Time.toText_toList hw]
  simp only [List.forall_mem_cons, isVisibleAscii_digitChar, hsign, List.not_mem_nil,
    IsEmpty.forall_iff, implies_true, and_true, true_and]
  decide

/-! ## Reading a value's own text -/

namespace Value

-- Most lemmas below read through the reader; tagging it here has Lean state its equations
-- once, before those proofs, checked side by side, all ask for them at the same moment.
attribute [local simp] Value.read

/-- A value as the value API makes it: read from some text as a value of its type. -/
def Parsed (v : Value) : Prop := ∃ s, Value.read v.type s = .ok v

/-- What reading the text of a value gives: the text names every NaN the same way, so a NaN
comes back as the positive quiet one, and a date is written to the millisecond. -/
def readBack : Value → Value
  | .double x => .double (if x.isNaN then Number.Binary64.nan false else x)
  | .date t => .date t.toMillis
  | v => v

theorem readBack_eq_self {v : Value} (hnan : ∀ x, v = .double x → x.isNaN = false)
    (hms : ∀ t, v = .date t → t.nanos % 1000000 = 0) : v.readBack = v := by
  cases v with
  | double x => simp only [readBack, hnan x rfl, Bool.false_eq_true, if_false]
  | date t => rw [readBack, Time.Timestamp.toMillis_eq_self (hms t rfl)]
  | _ => rfl

@[simp]
theorem type_readBack (v : Value) : v.readBack.type = v.type := by
  cases v <;> rfl

theorem read_binary_text (bytes : List UInt8) :
    Value.read .binary (base64Text bytes) = .ok (.binary bytes) := by
  have htrim : trimWhiteSpace (base64Text bytes) = base64Text bytes := by
    refine trimWhiteSpace_of_visible fun c hc => ?_
    rw [base64Text, String.toList_ofList] at hc
    exact isVisibleAscii_of_mem_encodeBase64 c hc
  simp only [Value.read, htrim, decodeBase64_base64Text]

theorem read_long_text (n : Int) (hlo : -2 ^ 63 ≤ n) (hhi : n ≤ 2 ^ 63 - 1) :
    Value.read .long (toString n) = .ok (.long n) := by
  have htrim : trimWhiteSpace (toString n) = toString n :=
    trimWhiteSpace_of_visible fun _ hc => isVisibleAscii_of_mem_toString hc
  simp only [Value.read, htrim, Number.readInteger_toString n hlo hhi]

theorem read_double_text (x : Number.Binary64) :
    Value.read .double x.toPositional = .ok (Value.double x).readBack := by
  have htrim := trimWhiteSpace_of_visible (isVisibleAscii_of_mem_toPositional x)
  simp only [Value.read, htrim, Number.readBinary64_toPositional, readBack]

theorem read_date_text {t : Time.Timestamp} (h : t.Valid) :
    Value.read .date t.toText = .ok (.date t.toMillis) := by
  have htrim : trimWhiteSpace t.toText = t.toText :=
    trimWhiteSpace_of_visible isVisibleAscii_of_mem_toText
  simp only [Value.read, htrim, Time.readRfc3339_toText h]

theorem read_boolean_text (b : Bool) :
    Value.read .boolean (if b then "true" else "false") = .ok (.boolean b) := by
  have hwords : ∀ w ∈ ["true", "false"], trimWhiteSpace w = w := by
    intro w hw
    refine trimWhiteSpace_of_visible fun c hc => ?_
    simp only [List.mem_cons, List.not_mem_nil, or_false] at hw
    rcases hw with rfl | rfl <;> revert c <;> simp [IsVisibleAscii]
  cases b
  · simp only [Value.read, hwords "false" (by simp), Bool.false_eq_true, if_false]
    rfl
  · simp only [Value.read, hwords "true" (by simp), if_true]
    rfl

theorem range_of_read_long {s : String} {n : Int} (h : Value.read .long s = .ok (.long n)) :
    -2 ^ 63 ≤ n ∧ n ≤ 2 ^ 63 - 1 := by
  simp only [Value.read] at h
  split at h
  · cases h
    exact Number.readInteger_range ‹_›
  · cases h

theorem valid_of_read_date {s : String} {t : Time.Timestamp}
    (h : Value.read .date s = .ok (.date t)) : t.Valid := by
  simp only [Value.read] at h
  split at h
  · cases h
    exact Time.valid_of_readRfc3339 ‹_›
  · cases h

theorem eq_trim_of_read_decimal {s d : String} (h : Value.read .decimal s = .ok (.decimal d)) :
    d = trimWhiteSpace s ∧ Number.isDecimalNumeral d = true := by
  simp only [Value.read] at h
  split at h
  · cases h
    exact ⟨rfl, ‹_›⟩
  · cases h

/-- A value read from some text is read back from its own text, as `readBack` says. -/
theorem read_text {v : Value} (hv : v.Parsed) : Value.read v.type v.text = .ok v.readBack := by
  obtain ⟨s, hs⟩ := hv
  cases v with
  | binary bytes => exact read_binary_text bytes
  | long n =>
    obtain ⟨hlo, hhi⟩ := range_of_read_long hs
    exact read_long_text n hlo hhi
  | double x => exact read_double_text x
  | date t => exact read_date_text (valid_of_read_date hs)
  | boolean b => exact read_boolean_text b
  | decimal d =>
    obtain ⟨rfl, hd⟩ := eq_trim_of_read_decimal hs
    simp only [type, text, readBack, Value.read, trimWhiteSpace_trimWhiteSpace, hd, if_true]
  | string | name | path | reference | weakReference | uri => rfl

end Value

/-! ## Reading a property's own text -/

namespace Property

/-- A property as the value API builds it: a single-valued one has exactly one value, and every
value has the property's type and is read from some text. -/
structure Built (p : Property) : Prop where
  single : p.multi = false → p.values.length = 1
  typed : ∀ v ∈ p.values, v.type = p.type
  parsed : ∀ v ∈ p.values, v.Parsed

theorem readAll_map_text (t : PropertyType) (vs : List Value)
    (h : ∀ v ∈ vs, v.type = t ∧ v.Parsed) :
    readAll t (vs.map Value.text) = .ok (vs.map Value.readBack) := by
  induction vs with
  | nil => rfl
  | cons v vs ih =>
    obtain ⟨ht, hv⟩ := h v List.mem_cons_self
    have hrest := ih fun w hw => h w (List.mem_cons_of_mem _ hw)
    rw [List.map_cons, readAll, ← ht, Value.read_text hv, ContentSync.Except.ok_bind, ht, hrest]
    rfl

/-- The value texts of a built property make it again, each value read back. -/
theorem ofTexts_valueTexts {p : Property} (hp : p.Built) :
    ofTexts p.name p.type p.multi p.valueTexts =
      .ok { p with values := p.values.map Value.readBack } := by
  have hread := readAll_map_text p.type p.values fun v hv => ⟨hp.typed v hv, hp.parsed v hv⟩
  unfold ofTexts
  rw [valueTexts, hread, ContentSync.Except.ok_bind]
  obtain ⟨name, t, multi, vs⟩ := p
  cases multi with
  | true =>
    -- reading keeps each value's type, so the type check of a multi value passes
    have hnone : (vs.map Value.readBack).find? (·.type ≠ t) = none := by
      rw [List.find?_eq_none]
      intro v hv
      obtain ⟨w, hw, rfl⟩ := List.mem_map.mp hv
      simpa using hp.typed w hw
    simp only [if_true, multiple, hnone]
  | false =>
    obtain ⟨v, rfl⟩ := List.length_eq_one_iff.mp (hp.single rfl)
    have ht : v.type = t := hp.typed v List.mem_cons_self
    simp only [Bool.false_eq_true, if_false, List.map_cons, List.map_nil, single,
      Value.type_readBack, ht]
    rfl

end Property

theorem readProperty_formatProperty_readBack {p : Property} (hp : p.Built) :
    readProperty p.name (formatProperty p) =
      .ok { p with values := p.values.map Value.readBack } := by
  rw [readProperty, decodeTyped_formatProperty p hp.single, ContentSync.Except.ok_bind]
  exact Property.ofTexts_valueTexts hp

/-- Values with no NaN double and only dates at whole milliseconds are their own read-back. -/
theorem Value.map_readBack_eq_self {vs : List Value}
    (hnan : ∀ x, Value.double x ∈ vs → x.isNaN = false)
    (hms : ∀ t, Value.date t ∈ vs → t.nanos % 1000000 = 0) : vs.map Value.readBack = vs := by
  have hsame : vs.map Value.readBack = vs.map id := List.map_congr_left fun v hv =>
    Value.readBack_eq_self (fun x hx => hnan x (hx ▸ hv)) (fun t ht => hms t (ht ▸ hv))
  rw [hsame, List.map_id]

/-- Writing a property built by the value API and reading it back under its name gives the
property again, each value as `readBack` gives it: a NaN double as the positive quiet NaN, a date
cut to the millisecond. A property with no NaN double and only dates at whole milliseconds reads
back as itself. -/
theorem readProperty_formatProperty {p : Property} (hp : p.Built) :
    readProperty p.name (formatProperty p) =
        .ok { p with values := p.values.map Value.readBack } ∧
      ((∀ x, Value.double x ∈ p.values → x.isNaN = false) →
        (∀ t, Value.date t ∈ p.values → t.nanos % 1000000 = 0) →
        readProperty p.name (formatProperty p) = .ok p) := by
  refine ⟨readProperty_formatProperty_readBack hp, fun hnan hms => ?_⟩
  rw [readProperty_formatProperty_readBack hp, Value.map_readBack_eq_self hnan hms]

/-- A creation date given to the nanosecond. -/
def preciseCreation : Time.Timestamp :=
  { year := 2001, month := 2, day := 3, hour := 4, minute := 5, second := 6,
    nanos := 789123456, offset := 3600 }

/-- A date read from its text with nine digits of fraction reads back cut to the millisecond. -/
theorem precise_date_property_reads_back :
    (Property.single "created" (.date preciseCreation)).Built ∧
      readProperty "created" (formatProperty (Property.single "created" (.date preciseCreation))) =
        .ok (Property.single "created" (.date { preciseCreation with nanos := 789000000 })) := by
  have hbuilt : (Property.single "created" (.date preciseCreation)).Built := by
    refine ⟨fun _ => rfl, by decide, ?_⟩
    simp only [Property.single, List.mem_singleton, forall_eq]
    exact ⟨"2001-02-03T04:05:06.789123456+01:00", by decide +kernel⟩
  exact ⟨hbuilt, (readProperty_formatProperty hbuilt).1⟩

end ContentSync
