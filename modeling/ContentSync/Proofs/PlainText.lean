import ContentSync.Text.WhiteSpace
import ContentSync.Text.Utf8
import Mathlib.Data.List.TakeWhile
import Mathlib.Tactic.Set

/-!
# Plain text

The written forms of numbers, dates and base64 are made of visible ASCII characters: each is
one UTF-8 byte, and none is white space, so trimming leaves such a text as it is. Trimming is
also idempotent, since what it leaves starts and ends with a character that is no white space.
Reading a typed value trims its text first; these facts let a written value be read back.
-/

namespace ContentSync.Text

/-- A visible ASCII character: neither a control character nor a space. -/
def IsVisibleAscii (c : Char) : Prop := 0x21 ≤ c.toNat ∧ c.toNat ≤ 0x7E

instance (c : Char) : Decidable (IsVisibleAscii c) := inferInstanceAs (Decidable (_ ∧ _))

theorem isWhiteSpace_of_visible {c : Char} (h : IsVisibleAscii c) : isWhiteSpace c = false := by
  -- ninety-four characters, each looked up once
  have all : ∀ n < 94, isWhiteSpace (Char.ofNat (n + 0x21)) = false := by decide +kernel
  have hc := all (c.toNat - 0x21) (by unfold IsVisibleAscii at h; omega)
  rwa [Nat.sub_add_cancel h.1, Char.ofNat_toNat] at hc

theorem utf8OfChars_of_visible :
    ∀ {cs : List Char}, (∀ c ∈ cs, IsVisibleAscii c) → utf8OfChars cs = cs.map (·.toNat.toUInt8)
  | [], _ => rfl
  | c :: cs, h => by
    have hc : c.toNat < 0x80 := by have := (h c List.mem_cons_self).2; omega
    rw [utf8OfChars, List.flatMap_cons, ← utf8OfChars,
      utf8OfChars_of_visible fun d hd => h d (List.mem_cons_of_mem c hd), encodeChar, if_pos hc]
    rfl

/-! ## Trimming -/

/-- Characters that neither start nor end with white space. -/
def Trimmed (cs : List Char) : Prop :=
  (∀ h : cs ≠ [], isWhiteSpace (cs.head h) = false) ∧
    ∀ h : cs ≠ [], isWhiteSpace (cs.getLast h) = false

theorem trimWhiteSpaceChars_of_trimmed {cs : List Char} (h : Trimmed cs) :
    trimWhiteSpaceChars cs = cs := by
  have hfront : cs.dropWhile isWhiteSpace = cs := List.dropWhile_eq_self_iff.mpr fun hl => by
    have := h.1 (List.ne_nil_of_length_pos hl)
    rw [List.head_eq_getElem] at this
    simp [this]
  have hback : cs.reverse.dropWhile isWhiteSpace = cs.reverse :=
    List.dropWhile_eq_self_iff.mpr fun hl => by
      have hne : cs ≠ [] := by simpa using List.ne_nil_of_length_pos hl
      have := h.2 hne
      rw [List.getLast_eq_getElem] at this
      simp [List.getElem_reverse, this]
  rw [trimWhiteSpaceChars, hfront, hback, List.reverse_reverse]

theorem trimmed_of_visible {cs : List Char} (h : ∀ c ∈ cs, IsVisibleAscii c) : Trimmed cs :=
  ⟨fun hne => isWhiteSpace_of_visible (h _ (List.head_mem hne)),
    fun hne => isWhiteSpace_of_visible (h _ (List.getLast_mem hne))⟩

/-- What trimming leaves is trimmed: its last character ends the part after the leading white
space, and its first starts it. -/
theorem trimmed_trimWhiteSpaceChars (cs : List Char) : Trimmed (trimWhiteSpaceChars cs) := by
  set a := cs.dropWhile isWhiteSpace
  set b := a.reverse.dropWhile isWhiteSpace
  have htrim : trimWhiteSpaceChars cs = b.reverse := rfl
  have hpre : b.reverse <+: a := by
    have := List.reverse_prefix.mpr (List.dropWhile_suffix isWhiteSpace (l := a.reverse))
    rwa [List.reverse_reverse] at this
  rw [htrim]
  refine ⟨fun hne => ?_, fun hne => ?_⟩
  · have ha : a ≠ [] := fun ha => hne (List.eq_nil_of_prefix_nil (ha ▸ hpre))
    rw [hpre.head hne]
    exact List.head_dropWhile_not isWhiteSpace ha
  · have hb : b ≠ [] := by simpa using hne
    rw [List.getLast_reverse]
    exact List.head_dropWhile_not isWhiteSpace hb

theorem trimWhiteSpace_of_visible {s : String} (h : ∀ c ∈ s.toList, IsVisibleAscii c) :
    trimWhiteSpace s = s := by
  rw [trimWhiteSpace, trimWhiteSpaceChars_of_trimmed (trimmed_of_visible h), String.ofList_toList]

theorem trimWhiteSpace_trimWhiteSpace (s : String) :
    trimWhiteSpace (trimWhiteSpace s) = trimWhiteSpace s := by
  rw [trimWhiteSpace, trimWhiteSpace, String.toList_ofList,
    trimWhiteSpaceChars_of_trimmed (trimmed_trimWhiteSpaceChars _)]

end ContentSync.Text
