import ContentSync.Proofs.ExceptRun
import ContentSync.Value
import Mathlib.Data.List.TakeWhile
import Mathlib.Data.String.Basic
import Mathlib.Tactic.Ring

/-!
# The text of a timestamp reads back

A timestamp is written `YYYY-MM-DDThh:mm:ss.fff±hh:mm` (`Timestamp.toText`): four digits of the
year, the fraction cut to milliseconds, a leap second as second 60, and the offset in hours and
minutes. Reading that text (`readRfc3339`) gives the timestamp back cut to milliseconds
(`readRfc3339_toText`), for every timestamp whose fields are within what reading itself produces
(`Timestamp.Valid`, which every timestamp read satisfies: `valid_of_readRfc3339`).

The text is a fixed sequence of twenty-nine characters, digits and separators; reading it is
read field by field with one lemma per reader (`fixedDigits_two`, `fixedDigits_four`,
`readFraction_three`, `readOffset_written`).
-/

namespace ContentSync.Time

/-! ## Digits -/

/-- The character of the decimal digit `k`. -/
def digitChar (k : Nat) : Char := Char.ofNat (48 + k)

/-- The ten digit characters: between `0` and `9`, of value `k`, one byte each. -/
theorem digitChar_facts : ∀ k < 10,
    (('0' ≤ digitChar k ∧ digitChar k ≤ '9') ∧ (digitChar k).toNat - 48 = k) ∧
      (digitChar k).utf8Size = 1 := by
  decide

theorem isDigit_digitChar (n : Nat) : ('0' ≤ digitChar (n % 10) ∧ digitChar (n % 10) ≤ '9') :=
  (digitChar_facts (n % 10) (Nat.mod_lt _ (by omega))).1.1

theorem value_digitChar (n : Nat) : (digitChar (n % 10)).toNat - 48 = n % 10 :=
  (digitChar_facts (n % 10) (Nat.mod_lt _ (by omega))).1.2

theorem utf8Size_digitChar (n : Nat) : (digitChar (n % 10)).utf8Size = 1 :=
  (digitChar_facts (n % 10) (Nat.mod_lt _ (by omega))).2

/-! ## Reading each field -/

/-- Reading as many digits as are written gives their value and leaves what follows. -/
theorem fixedDigits_digits (ks : List Nat) (hks : ∀ k ∈ ks, k < 10) (rest : List Char) :
    fixedDigits ks.length (ks.map digitChar ++ rest) =
      .ok (ks.foldl (fun acc k => acc * 10 + k) 0, rest) := by
  have hlen : (ks.map digitChar).length = ks.length := List.length_map _
  have htake : (ks.map digitChar ++ rest).take ks.length = ks.map digitChar :=
    List.take_left' hlen
  have hwhile : (ks.map digitChar).takeWhile (fun c => decide ('0' ≤ c ∧ c ≤ '9')) =
      ks.map digitChar := by
    refine List.takeWhile_eq_self_iff.mpr fun c hc => ?_
    obtain ⟨k, hk, rfl⟩ := List.mem_map.mp hc
    exact decide_eq_true (digitChar_facts k (hks k hk)).1.1
  have hfold : ∀ acc, (ks.map digitChar).foldl (fun acc c => acc * 10 + (c.toNat - 48)) acc =
      ks.foldl (fun acc k => acc * 10 + k) acc := by
    clear htake hwhile hlen
    induction ks with
    | nil => intro acc; rfl
    | cons k ks ih =>
      intro acc
      rw [List.map_cons, List.foldl_cons, List.foldl_cons,
        (digitChar_facts k (hks k List.mem_cons_self)).1.2]
      exact ih (fun k hk => hks k (List.mem_cons_of_mem _ hk)) _
  unfold fixedDigits
  simp only [htake, hwhile, hlen, Nat.lt_irrefl, if_false, hfold, List.drop_left' hlen]

/-- Two digits of `n` read as `n` below a hundred. -/
theorem fixedDigits_two (n : Nat) (rest : List Char) :
    fixedDigits 2 (digitChar (n / 10 % 10) :: digitChar (n % 10) :: rest) = .ok (n % 100, rest) := by
  have h := fixedDigits_digits [n / 10 % 10, n % 10] (by simp; omega) rest
  simp only [List.length_cons, List.length_nil, List.map_cons, List.map_nil, List.cons_append,
    List.nil_append, List.foldl_cons, List.foldl_nil] at h
  rw [h]
  congr 2
  omega

/-- The four digits of a year, written as two pairs, read as the year below ten thousand. -/
theorem fixedDigits_four (n : Nat) (rest : List Char) :
    fixedDigits 4 (digitChar (n / 100 / 10 % 10) :: digitChar (n / 100 % 10) ::
        digitChar (n % 100 / 10 % 10) :: digitChar (n % 100 % 10) :: rest) = .ok (n % 10000, rest) := by
  have h := fixedDigits_digits [n / 100 / 10 % 10, n / 100 % 10, n % 100 / 10 % 10, n % 100 % 10]
    (by simp; omega) rest
  simp only [List.length_cons, List.length_nil, List.map_cons, List.map_nil, List.cons_append,
    List.nil_append, List.foldl_cons, List.foldl_nil] at h
  rw [h]
  congr 2
  omega

/-- Three digits of milliseconds before a sign read as that many milliseconds in nanoseconds. -/
theorem readFraction_three (n : Nat) {sign : Char} (hsign : ¬('0' ≤ sign ∧ sign ≤ '9'))
    (rest : List Char) :
    readFraction (digitChar (n / 100 % 10) :: digitChar (n / 10 % 10) :: digitChar (n % 10) ::
      sign :: rest) = .ok (n % 1000 * 1000000, sign :: rest) := by
  unfold readFraction
  simp [isDigit_digitChar, hsign, value_digitChar]
  omega

/-- A sign, two digits of hours and two of minutes read as the offset in seconds. -/
theorem readOffset_written (negative : Prop) [Decidable negative] (h m : Nat) (hh : h < 100)
    (hm : m < 60) :
    readOffset ((if negative then '-' else '+') :: digitChar (h / 10 % 10) :: digitChar (h % 10) ::
      ':' :: digitChar (m / 10 % 10) :: digitChar (m % 10) :: []) =
      .ok (if negative then -((h * 3600 + m * 60 : Nat) : Int) else ((h * 3600 + m * 60 : Nat) : Int),
        []) := by
  have hm1 : digitChar (m / 10 % 10) ≤ '5' := by
    have : ∀ k < 6, digitChar k ≤ '5' := by decide
    exact this _ (by omega)
  have hcolon : (':').utf8Size = 1 := rfl
  by_cases hneg : negative <;>
    simp [hneg, readOffset, byteCount, utf8Size_digitChar, isDigit_digitChar, value_digitChar,
      expectChar, hm1, hcolon, ContentSync.Except.ok_bind] <;>
    exact congrArg (fun v : Int => (Except.ok (v, []) : Except DateFault (Int × List Char))) (by omega)

/-! ## What reading produces -/

theorem toNat_of_digit {c : Char} (h : '0' ≤ c ∧ c ≤ '9') : 48 ≤ c.toNat ∧ c.toNat ≤ 57 := by
  obtain ⟨h0, h9⟩ := h
  simp only [Char.le_def, UInt32.le_iff_toNat_le] at h0 h9
  exact ⟨h0, h9⟩

/-- Digits read from the left after `acc` stay below `acc + 1` followed by as many zeros. -/
theorem foldl_digits_lt : ∀ (ds : List Char) (acc : Nat), (∀ c ∈ ds, '0' ≤ c ∧ c ≤ '9') →
    ds.foldl (fun acc c => acc * 10 + (c.toNat - 48)) acc < (acc + 1) * 10 ^ ds.length := by
  intro ds
  induction ds with
  | nil => intro acc _; simp
  | cons c ds ih =>
    intro acc hds
    have hc := toNat_of_digit (hds c List.mem_cons_self)
    have hrest := ih (acc * 10 + (c.toNat - 48)) fun d hd => hds d (List.mem_cons_of_mem c hd)
    rw [List.foldl_cons, List.length_cons, pow_succ]
    calc _ < (acc * 10 + (c.toNat - 48) + 1) * 10 ^ ds.length := hrest
      _ ≤ (acc + 1) * 10 * 10 ^ ds.length := Nat.mul_le_mul_right _ (by omega)
      _ = (acc + 1) * (10 ^ ds.length * 10) := by ring

/-- A field of `count` digits is below `10 ^ count`. -/
theorem fixedDigits_lt {count : Nat} {cs rest : List Char} {v : Nat}
    (h : fixedDigits count cs = .ok (v, rest)) : v < 10 ^ count := by
  unfold fixedDigits at h
  dsimp only at h
  split at h
  · split at h <;> cases h
  · simp only [Except.ok.injEq, Prod.mk.injEq] at h
    obtain ⟨rfl, -⟩ := h
    have hlen : ((cs.take count).takeWhile fun c => decide ('0' ≤ c ∧ c ≤ '9')).length ≤ count :=
      (List.takeWhile_sublist _).length_le.trans (List.length_take_le _ _)
    have hlt := foldl_digits_lt ((cs.take count).takeWhile fun c => decide ('0' ≤ c ∧ c ≤ '9')) 0
      fun c hc => by simpa using List.mem_takeWhile_imp hc
    rw [Nat.zero_add, Nat.one_mul] at hlt
    exact lt_of_lt_of_le hlt (Nat.pow_le_pow_right (by omega) hlen)

/-- A fraction read is a count of nanoseconds below a second. -/
theorem readFraction_lt {cs rest : List Char} {v : Nat}
    (h : readFraction cs = .ok (v, rest)) : v < 10 ^ 9 := by
  unfold readFraction at h
  dsimp only at h
  split at h
  · split at h <;> cases h
  · simp only [Except.ok.injEq, Prod.mk.injEq] at h
    obtain ⟨rfl, -⟩ := h
    have hlen : ((cs.take 9).takeWhile fun c => decide ('0' ≤ c ∧ c ≤ '9')).length ≤ 9 :=
      (List.takeWhile_sublist _).length_le.trans (List.length_take_le _ _)
    have hlt := foldl_digits_lt ((cs.take 9).takeWhile fun c => decide ('0' ≤ c ∧ c ≤ '9')) 0
      fun c hc => by simpa using List.mem_takeWhile_imp hc
    rw [Nat.zero_add, Nat.one_mul] at hlt
    calc _ < 10 ^ ((cs.take 9).takeWhile fun c => decide ('0' ≤ c ∧ c ≤ '9')).length *
          Nat.pow 10 (9 - ((cs.take 9).takeWhile fun c => decide ('0' ≤ c ∧ c ≤ '9')).length) :=
        Nat.mul_lt_mul_of_pos_right hlt (Nat.pow_pos (by omega))
      _ = 10 ^ 9 := by rw [Nat.pow_eq, ← Nat.pow_add, Nat.add_sub_cancel' hlen]

/-- An offset read is a whole number of minutes. -/
theorem readOffset_whole {cs rest : List Char} {off : Int}
    (h : readOffset cs = .ok (off, rest)) : off.natAbs % 60 = 0 := by
  unfold readOffset at h
  simp only [bind, Except.bind, pure, Except.pure, throw, throwThe, MonadExceptOf.throw] at h
  repeat' (first | (split at h) | (cases h))
  all_goals omega

/-- The fields of a timestamp as reading leaves them. -/
structure Timestamp.Valid (t : Timestamp) : Prop where
  year_lt : t.year < 10000
  month_pos : 1 ≤ t.month
  month_le : t.month ≤ 12
  day_pos : 1 ≤ t.day
  day_le : t.day ≤ daysInMonth t.year t.month
  hour_le : t.hour ≤ 23
  minute_le : t.minute ≤ 59
  second_le : t.second ≤ 59
  nanos_lt : t.nanos < 2000000000
  leap : 1000000000 ≤ t.nanos → t.second = 59
  offset_le : t.offset.natAbs ≤ 23 * 3600 + 59 * 60
  offset_whole : t.offset.natAbs % 60 = 0

/-- Every timestamp read has its fields within range. -/
theorem valid_of_readRfc3339 {s : String} {t : Timestamp} (h : readRfc3339 s = .ok t) :
    t.Valid := by
  unfold readRfc3339 at h
  simp only [bind, Except.bind, pure, Except.pure, throw, throwThe, MonadExceptOf.throw] at h
  -- each path through the checks ends in the timestamp read, its fields within the checks
  repeat' (first | (split at h) | (cases h))
  all_goals
    have hyear := fixedDigits_lt ‹fixedDigits 4 _ = _›
    have hwhole := readOffset_whole ‹readOffset _ = _›
    try have hfraction := readFraction_lt ‹readFraction _ = _›
    constructor <;> dsimp only <;> omega

/-! ## Reading the written text -/

/-- The timestamp cut to milliseconds, as its text keeps it. -/
def Timestamp.toMillis (t : Timestamp) : Timestamp :=
  { t with nanos := t.nanos / 1000000 * 1000000 }

theorem Timestamp.toMillis_eq_self {t : Timestamp} (h : t.nanos % 1000000 = 0) :
    t.toMillis = t := by
  rw [Timestamp.toMillis, Nat.div_mul_cancel (Nat.dvd_of_mod_eq_zero h)]

/-- The characters of the written text: the twenty-nine of the format, the second and its
fraction as written (a leap second as second 60). -/
theorem toText_toList {t : Timestamp} {sec frac : Nat}
    (hw : (if t.nanos ≥ 1000000000 then (t.second + 1, t.nanos - 1000000000)
      else (t.second, t.nanos)) = (sec, frac)) :
    t.toText.toList =
      digitChar (t.year / 100 / 10 % 10) :: digitChar (t.year / 100 % 10) ::
      digitChar (t.year % 100 / 10 % 10) :: digitChar (t.year % 100 % 10) :: '-' ::
      digitChar (t.month / 10 % 10) :: digitChar (t.month % 10) :: '-' ::
      digitChar (t.day / 10 % 10) :: digitChar (t.day % 10) :: 'T' ::
      digitChar (t.hour / 10 % 10) :: digitChar (t.hour % 10) :: ':' ::
      digitChar (t.minute / 10 % 10) :: digitChar (t.minute % 10) :: ':' ::
      digitChar (sec / 10 % 10) :: digitChar (sec % 10) :: '.' ::
      digitChar (frac / 1000000 / 100 % 10) :: digitChar (frac / 1000000 / 10 % 10) ::
      digitChar (frac / 1000000 % 10) :: (if t.offset < 0 then '-' else '+') ::
      digitChar (t.offset.natAbs / 3600 / 10 % 10) :: digitChar (t.offset.natAbs / 3600 % 10) ::
      ':' :: digitChar (t.offset.natAbs / 60 % 60 / 10 % 10) ::
      digitChar (t.offset.natAbs / 60 % 60 % 10) :: [] := by
  unfold Timestamp.toText
  rw [hw]
  by_cases ho : t.offset < 0 <;> simp [ho, twoDigits, threeDigits, digitChar, String.toList_append]

theorem length_le_utf8Len (cs : List Char) : cs.length ≤ String.utf8Len cs := by
  induction cs with
  | nil => exact Nat.le_refl 0
  | cons c cs ih =>
    rw [String.utf8Len_cons, List.length_cons]
    have := Char.utf8Size_pos c
    omega

/-- Reading the text of a timestamp whose fields are in range gives it back cut to
milliseconds. -/
theorem readRfc3339_toText {t : Timestamp} (h : t.Valid) :
    readRfc3339 t.toText = .ok t.toMillis := by
  generalize hw : (if t.nanos ≥ 1000000000 then (t.second + 1, t.nanos - 1000000000)
    else (t.second, t.nanos)) = written
  obtain ⟨sec, frac⟩ := written
  have htext := toText_toList hw
  -- the second written is 60 exactly on a leap second, and reading folds it back
  have hsec : sec ≤ 60 ∧ (if sec = 60 then (59, frac / 1000000 % 1000 * 1000000 + 1000000000)
      else (sec, frac / 1000000 % 1000 * 1000000)) = (t.second, t.nanos / 1000000 * 1000000) := by
    have := h.second_le
    have := h.nanos_lt
    split at hw
    · rename_i hleap
      obtain ⟨rfl, rfl⟩ := Prod.mk.inj hw
      have := h.leap hleap
      rw [if_pos (by omega), Prod.mk.injEq]
      omega
    · obtain ⟨rfl, rfl⟩ := Prod.mk.inj hw
      rw [if_neg (by omega), Prod.mk.injEq]
      omega
  have hsize : ¬ t.toText.utf8ByteSize < 19 := by
    have hbytes : t.toText.utf8ByteSize = String.utf8Len t.toText.toList := by
      conv_lhs => rw [← @String.ofList_toList t.toText]
      exact String.utf8ByteSize_ofList _
    have hlen := length_le_utf8Len t.toText.toList
    rw [htext] at hlen hbytes
    simp only [List.length_cons, List.length_nil] at hlen
    omega
  have hsign : ¬('0' ≤ (if t.offset < 0 then '-' else '+') ∧
      (if t.offset < 0 then '-' else '+') ≤ '9') := by
    split <;> decide
  have hoff := readOffset_written (t.offset < 0) (t.offset.natAbs / 3600) (t.offset.natAbs / 60 % 60)
    (by have := h.offset_le; omega) (by omega)
  have hoffset : (if t.offset < 0 then
      -((t.offset.natAbs / 3600 * 3600 + t.offset.natAbs / 60 % 60 * 60 : Nat) : Int)
      else ((t.offset.natAbs / 3600 * 3600 + t.offset.natAbs / 60 % 60 * 60 : Nat) : Int)) =
      t.offset := by
    have := h.offset_whole
    split <;> omega
  have hy : t.year % 10000 = t.year := Nat.mod_eq_of_lt h.year_lt
  have hmo : t.month % 100 = t.month := Nat.mod_eq_of_lt (by have := h.month_le; omega)
  have hd : t.day % 100 = t.day := Nat.mod_eq_of_lt (by
    have := h.day_le
    have : daysInMonth t.year t.month ≤ 31 := by unfold daysInMonth; split <;> (try split) <;> omega
    omega)
  have hh : t.hour % 100 = t.hour := Nat.mod_eq_of_lt (by have := h.hour_le; omega)
  have hmi : t.minute % 100 = t.minute := Nat.mod_eq_of_lt (by have := h.minute_le; omega)
  have hs : sec % 100 = sec := Nat.mod_eq_of_lt (by omega)
  have hdate : ¬(t.month < 1 ∨ 12 < t.month ∨ t.day < 1 ∨ daysInMonth t.year t.month < t.day) := by
    have := h.month_pos; have := h.month_le; have := h.day_pos; have := h.day_le
    omega
  have htime : ¬(23 < t.hour ∨ 59 < t.minute ∨ 60 < sec) := by
    have := h.hour_le; have := h.minute_le
    omega
  have hrange : ¬(t.offset.natAbs > 23 * 3600 + 59 * 60) := Nat.not_lt.mpr h.offset_le
  unfold readRfc3339
  simp only [htext, hsize, if_false, if_true, true_or, fixedDigits_four, fixedDigits_two,
    ContentSync.Except.ok_bind, pure_bind, expectChar, readFraction_three _ hsign, hoff, hoffset,
    hy, hmo, hd, hh, hmi, hs, hdate, htime, hrange, hsec.2, List.isEmpty_nil, Bool.not_true,
    Bool.false_eq_true]
  rfl

/-- A timestamp whose fields are in range, written and read back, is cut to milliseconds. -/
theorem Timestamp.throughText_of_valid {t : Timestamp} (h : t.Valid) :
    t.throughText = t.toMillis := by
  rw [Timestamp.throughText, readRfc3339_toText h]

/-- A timestamp whose fields are in range, written and read back, keeps them in range and counts
whole milliseconds. -/
theorem Timestamp.throughText_valid {t : Timestamp} (h : t.Valid) :
    t.throughText.Valid ∧ t.throughText.nanos % 1000000 = 0 := by
  rw [throughText_of_valid h]
  refine ⟨valid_of_readRfc3339 (readRfc3339_toText h), ?_⟩
  show t.nanos / 1000000 * 1000000 % 1000000 = 0
  omega

end ContentSync.Time
