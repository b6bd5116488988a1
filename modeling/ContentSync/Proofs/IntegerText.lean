import ContentSync.Number.Integer
import ContentSync.Proofs.PlainText
import Mathlib

/-!
# Integers read back

A signed 64-bit integer is written in decimal, with a minus sign when it is negative
(`toString`), and read digit by digit (`readInteger`).

Main statements: `readInteger_toString`, reading the text of an integer of the range gives it
back, and `readInteger_range`, whatever reading gives lies in the range.
-/

namespace ContentSync.Number

theorem digit_bounds {c : Char} (hc : c.isDigit = true) : 48 ≤ c.toNat ∧ c.toNat ≤ 57 := by
  simp [Char.isDigit] at hc
  exact ⟨hc.1, hc.2⟩

theorem isVisibleAscii_of_isDigit {c : Char} (hc : c.isDigit = true) : Text.IsVisibleAscii c := by
  have := digit_bounds hc
  exact ⟨by omega, by omega⟩

theorem digitValue_of_isDigit {c : Char} (hc : c.isDigit = true) :
    digitValue 10 c.toNat.toUInt8 = some (c.toNat - 48) := by
  have ⟨h₁, h₂⟩ := digit_bounds hc
  have hb : c.toNat.toUInt8.toNat = c.toNat := by
    rw [Nat.toUInt8, UInt8.toNat_ofNat', Nat.mod_eq_of_lt (by omega)]
  unfold digitValue
  simp only [hb, show 48 ≤ c.toNat ∧ c.toNat ≤ 57 from ⟨h₁, h₂⟩, and_self, if_true]
  rw [if_pos (by omega)]

/-- Digits read from the left only make the value grow. -/
theorem le_ofDigitChars : ∀ (cs : List Char) (acc : Nat), acc ≤ Nat.ofDigitChars 10 cs acc
  | [], _ => Nat.le_refl _
  | c :: cs, acc => by
    rw [Nat.ofDigitChars_cons]
    exact Nat.le_trans (by omega) (le_ofDigitChars cs _)

/-- Reading decimal digits whose value stays within the bound gives their value, upwards as
downwards. -/
theorem accumulate_digits (bound : Nat) : ∀ (cs : List Char) (acc : Nat), (∀ c ∈ cs, c.isDigit) →
    Nat.ofDigitChars 10 cs acc ≤ bound →
      accumulateUp 10 bound acc (cs.map (·.toNat.toUInt8)) = .ok (Nat.ofDigitChars 10 cs acc) ∧
      accumulateDown 10 bound acc (cs.map (·.toNat.toUInt8)) = .ok (Nat.ofDigitChars 10 cs acc)
  | [], _, _, _ => ⟨rfl, rfl⟩
  | c :: cs, acc, hd, hb => by
    have hc := hd c List.mem_cons_self
    rw [Nat.ofDigitChars_cons, show '0'.toNat = 48 from rfl] at hb
    -- every prefix of the digits has a value below the whole
    have hstep : acc * 10 + (c.toNat - 48) ≤ bound :=
      Nat.le_trans (by rw [Nat.mul_comm]) (Nat.le_trans (le_ofDigitChars cs _) hb)
    have ih := accumulate_digits bound cs (acc * 10 + (c.toNat - 48))
      (fun d hd' => hd d (List.mem_cons_of_mem c hd')) (by rwa [Nat.mul_comm])
    rw [List.map_cons, accumulateUp, accumulateDown, digitValue_of_isDigit hc]
    dsimp only
    rw [if_pos hstep, if_pos hstep, Nat.ofDigitChars_cons, show '0'.toNat = 48 from rfl,
      Nat.mul_comm 10 acc]
    exact ih

theorem accumulateUp_le {radix bound : Nat} :
    ∀ {acc : Nat} {l : List UInt8} {v : Nat}, accumulateUp radix bound acc l = .ok v →
      acc ≤ bound → v ≤ bound
  | _, [], _, h, hacc => by cases h; exact hacc
  | acc, b :: rest, v, h, _ => by
    rw [accumulateUp] at h
    split at h
    · cases h
    · dsimp only at h
      split at h
      · exact accumulateUp_le h ‹_›
      · cases h

theorem accumulateDown_le {radix bound : Nat} :
    ∀ {acc : Nat} {l : List UInt8} {v : Nat}, accumulateDown radix bound acc l = .ok v →
      acc ≤ bound → v ≤ bound
  | _, [], _, h, hacc => by cases h; exact hacc
  | acc, b :: rest, v, h, _ => by
    rw [accumulateDown] at h
    split at h
    · cases h
    · dsimp only at h
      split at h
      · exact accumulateDown_le h ‹_›
      · cases h

/-- Text that starts with a digit is read without a sign. -/
theorem readIntegerBytes_of_digit {b : UInt8} (hb : 48 ≤ b.toNat ∧ b.toNat ≤ 57) (rest : List UInt8)
    (radix : Nat) (signed : Bool) (lo hi : Nat) :
    readIntegerBytes radix signed lo hi (b :: rest) = (accumulateUp radix hi 0 (b :: rest)).map Int.ofNat := by
  have h43 : b ≠ 43 := by rintro rfl; simp at hb
  have h45 : b ≠ 45 := by rintro rfl; simp at hb
  unfold readIntegerBytes
  split
  case h_1 heq => cases heq
  case h_2 heq => exact absurd (List.cons.inj heq).1 h43
  case h_3 heq => exact absurd (List.cons.inj heq).1 h45
  case h_4 heq => exact absurd (List.cons.inj heq).1 h43
  case h_5 heq => exact absurd (List.cons.inj heq).1 h45
  case h_6 => rfl

/-- The bytes of the decimal digits of `m`: visible, and the first a digit. -/
theorem utf8Bytes_repr (m : Nat) :
    Text.utf8Bytes (Nat.repr m) = (Nat.toDigits 10 m).map (·.toNat.toUInt8) := by
  rw [Text.utf8Bytes, Nat.toList_repr]
  exact Text.utf8OfChars_of_visible fun c hc =>
    isVisibleAscii_of_isDigit (Nat.isDigit_of_mem_toDigits (by decide) (by decide) hc)

/-- Reading an integer of the signed 64-bit range from its decimal text gives it back. -/
theorem readInteger_toString (n : Int) (hlo : -2 ^ 63 ≤ n) (hhi : n ≤ 2 ^ 63 - 1) :
    readInteger (toString n) = .ok n := by
  have hdigits : ∀ m : Nat, ∀ c ∈ Nat.toDigits 10 m, c.isDigit = true := fun m c hc =>
    Nat.isDigit_of_mem_toDigits (by decide) (by decide) hc
  cases n with
  | ofNat m =>
    show readIntegerBytes 10 true (Nat.pow 2 63) (Nat.pow 2 63 - 1) (Text.utf8Bytes (Nat.repr m)) = _
    rw [utf8Bytes_repr]
    have hm : Nat.ofDigitChars 10 (Nat.toDigits 10 m) 0 ≤ Nat.pow 2 63 - 1 := by
      rw [Nat.ofDigitChars_ten_toDigits]
      rw [Int.ofNat_eq_natCast] at hhi
      simp only [Nat.pow_eq]
      omega
    have hup := (accumulate_digits _ _ 0 (hdigits m) hm).1
    rw [Nat.ofDigitChars_ten_toDigits] at hup
    -- the first byte is a digit, neither sign
    obtain ⟨c, cs, hcs⟩ := List.exists_cons_of_ne_nil (Nat.toDigits_ne_nil (n := m) (b := 10))
    have ⟨h₁, h₂⟩ := digit_bounds (hdigits m c (by rw [hcs]; exact List.mem_cons_self))
    have hb : c.toNat.toUInt8.toNat = c.toNat := by
      rw [Nat.toUInt8, UInt8.toNat_ofNat', Nat.mod_eq_of_lt (by omega)]
    rw [hcs] at hup ⊢
    rw [List.map_cons] at hup ⊢
    rw [readIntegerBytes_of_digit (by rw [hb]; exact ⟨h₁, h₂⟩), hup]
    rfl
  | negSucc m =>
    show readIntegerBytes 10 true (Nat.pow 2 63) (Nat.pow 2 63 - 1)
      (Text.utf8Bytes ("-" ++ Nat.repr (m + 1))) = _
    have hvis : ∀ c ∈ '-' :: Nat.toDigits 10 (m + 1), Text.IsVisibleAscii c := by
      intro c hc
      rcases List.mem_cons.mp hc with rfl | hc
      · decide
      · exact isVisibleAscii_of_isDigit (hdigits _ c hc)
    rw [Text.utf8Bytes, String.toList_append, Nat.toList_repr, show "-".toList = ['-'] from rfl,
      List.singleton_append, Text.utf8OfChars_of_visible hvis, List.map_cons]
    have hm : Nat.ofDigitChars 10 (Nat.toDigits 10 (m + 1)) 0 ≤ Nat.pow 2 63 := by
      rw [Nat.ofDigitChars_ten_toDigits]
      rw [Int.negSucc_eq] at hlo
      simp only [Nat.pow_eq]
      omega
    have hdown := (accumulate_digits _ _ 0 (hdigits (m + 1)) hm).2
    rw [Nat.ofDigitChars_ten_toDigits] at hdown
    obtain ⟨c, cs, hcs⟩ := List.exists_cons_of_ne_nil (Nat.toDigits_ne_nil (n := m + 1) (b := 10))
    rw [hcs] at hdown ⊢
    rw [List.map_cons] at hdown ⊢
    show readIntegerBytes 10 true (Nat.pow 2 63) (Nat.pow 2 63 - 1)
      (45 :: c.toNat.toUInt8 :: cs.map (·.toNat.toUInt8)) = _
    rw [readIntegerBytes, if_pos rfl, hdown]
    · rfl
    · simp

/-- Whatever reading an integer gives lies in the signed 64-bit range. -/
theorem readInteger_range {s : String} {n : Int} (h : readInteger s = .ok n) :
    -2 ^ 63 ≤ n ∧ n ≤ 2 ^ 63 - 1 := by
  unfold readInteger readIntegerBytes at h
  have hlow : (0 : Nat) ≤ Nat.pow 2 63 := Nat.zero_le _
  have hhigh : (0 : Nat) ≤ Nat.pow 2 63 - 1 := Nat.zero_le _
  -- every branch maps a value read upwards, or downwards and negated, within its bound
  have up : ∀ {l : List UInt8}, (accumulateUp 10 (Nat.pow 2 63 - 1) 0 l).map Int.ofNat = .ok n →
      -2 ^ 63 ≤ n ∧ n ≤ 2 ^ 63 - 1 := by
    intro l hl
    cases hv : accumulateUp 10 (Nat.pow 2 63 - 1) 0 l with
    | error e => rw [hv] at hl; cases hl
    | ok v =>
      rw [hv] at hl
      cases hl
      have := accumulateUp_le hv hhigh
      simp only [Int.ofNat_eq_natCast, Nat.pow_eq] at this ⊢
      omega
  split at h
  · cases h
  · cases h
  · cases h
  · exact up h
  · split at h
    · cases hv : accumulateDown 10 (Nat.pow 2 63) 0 _ with
      | error e => rw [hv] at h; cases h
      | ok v =>
        rw [hv] at h
        cases h
        have := accumulateDown_le hv hlow
        simp only [Int.ofNat_eq_natCast, Nat.pow_eq] at this ⊢
        omega
    · exact up h
  · exact up h

end ContentSync.Number
