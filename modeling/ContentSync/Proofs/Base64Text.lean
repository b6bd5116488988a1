import ContentSync.Text.Base64
import ContentSync.Proofs.PlainText

/-!
# Base64 read back

Writing turns each group of three bytes into four symbols of the alphabet and pads a last
group of one or two bytes with `=`; reading decodes the full groups, then the last one, and
checks its padding and its unused low bits. Every symbol is visible ASCII, so a base64 text is
its own bytes, and reading them gives back exactly the bytes written.

Main statement: `decodeBase64_base64Text`.
-/

namespace ContentSync.Text

/-- The byte of the symbol of a six-bit value. -/
def symbolByte (v : Nat) : UInt8 := (base64Symbol v).toNat.toUInt8

/-- The sixty-four symbols, each looked up once. -/
theorem symbolByte_facts :
    ∀ v < 64, base64Value (symbolByte v) = some v ∧ symbolByte v ≠ padByte ∧
      IsVisibleAscii (base64Symbol v) := by
  decide +kernel

theorem base64Value_symbolByte {v : Nat} (h : v < 64) : base64Value (symbolByte v) = some v :=
  (symbolByte_facts v h).1

theorem symbolByte_ne_padByte {v : Nat} (h : v < 64) : symbolByte v ≠ padByte :=
  (symbolByte_facts v h).2.1

/-- Past the alphabet the symbol is `/`, so every symbol is visible. -/
theorem isVisibleAscii_base64Symbol (v : Nat) : IsVisibleAscii (base64Symbol v) := by
  by_cases h : v < 64
  · exact (symbolByte_facts v h).2.2
  · rw [base64Symbol, if_neg (by omega), if_neg (by omega), if_neg (by omega),
      if_neg (by omega)]
    decide

theorem isVisibleAscii_of_mem_encodeBase64 {bytes : List UInt8} :
    ∀ c ∈ encodeBase64 bytes, IsVisibleAscii c := by
  have hpad : IsVisibleAscii '=' := by decide
  fun_induction encodeBase64 bytes <;> simp_all [isVisibleAscii_base64Symbol]

/-- The bytes of a base64 text are its symbols, one byte each. -/
theorem utf8Bytes_base64Text (bytes : List UInt8) :
    utf8Bytes (base64Text bytes) = (encodeBase64 bytes).map (·.toNat.toUInt8) := by
  rw [utf8Bytes, base64Text, String.toList_ofList,
    utf8OfChars_of_visible isVisibleAscii_of_mem_encodeBase64]

theorem length_encodeBase64 (bytes : List UInt8) :
    (encodeBase64 bytes).length = 4 * ((bytes.length + 2) / 3) := by
  fun_induction encodeBase64 bytes with
  | case1 => rfl
  | case2 => simp
  | case3 => simp
  | case4 a b c tail n ih =>
    simp only [List.length_append, List.length_cons, List.length_nil, ih]
    omega

/-- Bytes that fill whole groups are written group by group, so what follows them is written
on its own. -/
theorem encodeBase64_append {full : List UInt8} (h : full.length % 3 = 0) (rest : List UInt8) :
    encodeBase64 (full ++ rest) = encodeBase64 full ++ encodeBase64 rest := by
  fun_induction encodeBase64 full with
  | case1 => rfl
  | case2 => simp at h
  | case3 => simp at h
  | case4 a b c tail n ih =>
    rw [List.cons_append, List.cons_append, List.cons_append, encodeBase64,
      ih (by simp at h; omega), List.append_assoc]

/-! ## Three bytes and their four symbols -/

/-- The four six-bit parts of a 24-bit number make it up again. -/
theorem sextets_sum {n : Nat} :
    n < 16777216 → n / 262144 * 262144 + n / 4096 % 64 * 4096 + n / 64 % 64 * 64 + n % 64 = n := by
  omega

theorem ofNat_eq_of_mod {x : Nat} {a : UInt8} (h : x % 256 = a.toNat) : UInt8.ofNat x = a :=
  UInt8.toNat_inj.mp (by rw [UInt8.toNat_ofNat']; exact h)

/-! ## Full groups -/

/-- Reading the symbols of bytes that fill whole groups gives the bytes. -/
theorem decodeGroups_encodeBase64 {bytes : List UInt8} (h : bytes.length % 3 = 0)
    (offset : Nat) :
    decodeGroups offset ((encodeBase64 bytes).map (·.toNat.toUInt8)) = .ok bytes := by
  fun_induction encodeBase64 bytes generalizing offset with
  | case1 => rfl
  | case2 => simp at h
  | case3 => simp at h
  | case4 a b c tail n ih =>
    have hn : n < 16777216 := by
      have := UInt8.toNat_lt a; have := UInt8.toNat_lt b; have := UInt8.toNat_lt c; omega
    show decodeGroups offset (symbolByte (n / 262144) :: symbolByte (n / 4096 % 64) ::
      symbolByte (n / 64 % 64) :: symbolByte (n % 64) ::
        (encodeBase64 tail).map (·.toNat.toUInt8)) = _
    rw [decodeGroups, base64Value_symbolByte (by omega), base64Value_symbolByte (by omega),
      base64Value_symbolByte (by omega), base64Value_symbolByte (by omega)]
    dsimp only
    have hbytes : [(n / 65536).toUInt8, (n / 256 % 256).toUInt8, (n % 256).toUInt8] = [a, b, c] := by
      have := UInt8.toNat_lt a; have := UInt8.toNat_lt b; have := UInt8.toNat_lt c
      simp only [n, Nat.toUInt8_eq, List.cons.injEq, and_true]
      exact ⟨ofNat_eq_of_mod (by omega), ofNat_eq_of_mod (by omega), ofNat_eq_of_mod (by omega)⟩
    rw [ih (by simp at h; omega), sextets_sum hn, hbytes]
    rfl

/-! ## The last group -/

/-- Symbols of the alphabet before any padding add their values to the last group. -/
theorem readSuffix_symbols (offset : Nat) :
    ∀ (vs : List Nat) (i : Nat) (st : Suffix) (rest : List UInt8), (∀ v ∈ vs, v < 64) →
      st.padding = 0 →
      ∃ st' : Suffix, st'.values = st.values ++ vs ∧ st'.padding = 0 ∧
        readSuffix offset i st (vs.map symbolByte ++ rest) =
          readSuffix offset (i + vs.length) st' rest
  | [], i, st, rest, _, hst => ⟨st, by simp, hst, rfl⟩
  | v :: vs, i, st, rest, hvs, hst => by
    have hv := hvs v List.mem_cons_self
    obtain ⟨st', hval, hpad, hread⟩ := readSuffix_symbols offset vs (i + 1)
      { st with values := st.values ++ [v], lastSymbol := symbolByte v } rest
      (fun w hw => hvs w (List.mem_cons_of_mem v hw)) hst
    refine ⟨st', by simpa using hval, hpad, ?_⟩
    rw [List.map_cons, List.cons_append, readSuffix, if_neg (symbolByte_ne_padByte hv),
      if_neg (by omega), base64Value_symbolByte hv]
    dsimp only
    rw [hread, List.length_cons, Nat.add_assoc, Nat.add_comm 1]

/-- Padding after the second symbol is counted and keeps the values. -/
theorem readSuffix_pads (offset : Nat) :
    ∀ (p i : Nat) (st : Suffix), 2 ≤ i →
      ∃ st' : Suffix, st'.values = st.values ∧ st'.padding = st.padding + p ∧
        readSuffix offset i st (List.replicate p padByte) = .ok st'
  | 0, _, st, _ => ⟨st, rfl, rfl, rfl⟩
  | p + 1, i, st, hi => by
    rw [List.replicate_succ, readSuffix, if_pos rfl, if_neg (by omega)]
    dsimp only
    -- whether this pad is the first changes only where padding starts
    generalize hst₁ : (if st.padding = 0 then { st with firstPad := i } else st) = st₁
    have hval₁ : st₁.values = st.values := by rw [← hst₁]; split <;> rfl
    have hpad₁ : st₁.padding = st.padding := by rw [← hst₁]; split <;> rfl
    obtain ⟨st', hval, hpad, hread⟩ :=
      readSuffix_pads offset p (i + 1) { st₁ with padding := st₁.padding + 1 } (by omega)
    refine ⟨st', by rw [hval, hval₁], ?_, hread⟩
    simp only [hpad, hpad₁]
    omega

/-- The last group: `vs` values of symbols, then `p` pads. -/
theorem readSuffix_last (offset : Nat) (vs : List Nat) (p : Nat) (hvs : ∀ v ∈ vs, v < 64)
    (hlen : 2 ≤ vs.length) :
    ∃ st : Suffix, st.values = vs ∧ st.padding = p ∧
      readSuffix offset 0 {} (vs.map symbolByte ++ List.replicate p padByte) = .ok st := by
  obtain ⟨st₁, hval₁, hpad₁, hread₁⟩ := readSuffix_symbols offset vs 0 {} _ hvs rfl
  obtain ⟨st, hval, hpad, hread⟩ := readSuffix_pads offset p (0 + vs.length) st₁ (by omega)
  refine ⟨st, by rw [hval, hval₁]; rfl, by rw [hpad, hpad₁, Nat.zero_add], ?_⟩
  rw [hread₁, hread]

/-- A last group of symbols and padding that passes every check gives the bytes its values
hold, as many as its symbols fill. -/
theorem decodeSuffix_symbols (offset : Nat) (vs : List Nat) (p : Nat) (hvs : ∀ v ∈ vs, v < 64)
    (hlen : 2 ≤ vs.length) (hgroup : (p + vs.length) % 4 = 0)
    (hbits : (vs.getD 0 0 * 262144 + vs.getD 1 0 * 4096 + vs.getD 2 0 * 64 + vs.getD 3 0) %
      Nat.pow 2 (24 - 8 * (vs.length * 6 / 8)) = 0) :
    decodeSuffix false offset (vs.map symbolByte ++ List.replicate p padByte) =
      .ok (let n := vs.getD 0 0 * 262144 + vs.getD 1 0 * 4096 + vs.getD 2 0 * 64 + vs.getD 3 0
        [(n / 65536).toUInt8, (n / 256 % 256).toUInt8, (n % 256).toUInt8].take
          (vs.length * 6 / 8)) := by
  obtain ⟨st, hval, hpad, hread⟩ := readSuffix_last offset vs p hvs hlen
  rw [decodeSuffix, hread]
  simp only [bind, Except.bind, hval, hpad]
  rw [if_neg (by simp; omega), if_neg (not_not.mpr hgroup), if_neg (not_not.mpr hbits)]
  rfl

/-- A last group of one, two or three bytes is read back from its four symbols. -/
theorem decodeSuffix_encodeBase64 {last : List UInt8} (h₁ : 1 ≤ last.length)
    (h₃ : last.length ≤ 3) (offset : Nat) :
    decodeSuffix false offset ((encodeBase64 last).map (·.toNat.toUInt8)) = .ok last := by
  obtain _ | ⟨a, _ | ⟨b, _ | ⟨c, _ | ⟨d, rest⟩⟩⟩⟩ := last
  case nil => simp at h₁
  case cons.nil =>
    have ha := UInt8.toNat_lt a
    have hsyms : (encodeBase64 [a]).map (·.toNat.toUInt8) =
        [a.toNat * 65536 / 262144, a.toNat * 65536 / 4096 % 64].map symbolByte ++
          List.replicate 2 padByte := rfl
    rw [hsyms, decodeSuffix_symbols _ _ _ (by intro v hv; simp at hv; omega) (by simp) (by simp)
      (by simp; omega)]
    simp
    exact ofNat_eq_of_mod (by omega)
  case cons.cons.nil =>
    have ha := UInt8.toNat_lt a
    have hb := UInt8.toNat_lt b
    have hsyms : (encodeBase64 [a, b]).map (·.toNat.toUInt8) =
        [(a.toNat * 65536 + b.toNat * 256) / 262144, (a.toNat * 65536 + b.toNat * 256) / 4096 % 64,
          (a.toNat * 65536 + b.toNat * 256) / 64 % 64].map symbolByte ++
          List.replicate 1 padByte := rfl
    rw [hsyms, decodeSuffix_symbols _ _ _ (by intro v hv; simp at hv; omega) (by simp) (by simp)
      (by simp; omega)]
    simp
    exact ⟨ofNat_eq_of_mod (by omega), ofNat_eq_of_mod (by omega)⟩
  case cons.cons.cons.nil =>
    have ha := UInt8.toNat_lt a
    have hb := UInt8.toNat_lt b
    have hc := UInt8.toNat_lt c
    have hsyms : (encodeBase64 [a, b, c]).map (·.toNat.toUInt8) =
        [(a.toNat * 65536 + b.toNat * 256 + c.toNat) / 262144,
          (a.toNat * 65536 + b.toNat * 256 + c.toNat) / 4096 % 64,
          (a.toNat * 65536 + b.toNat * 256 + c.toNat) / 64 % 64,
          (a.toNat * 65536 + b.toNat * 256 + c.toNat) % 64].map symbolByte ++
          List.replicate 0 padByte := rfl
    rw [hsyms, decodeSuffix_symbols _ _ _ (by intro v hv; simp at hv; omega) (by simp) (by simp)
      (by simp; omega)]
    simp
    exact ⟨ofNat_eq_of_mod (by omega), ofNat_eq_of_mod (by omega), ofNat_eq_of_mod (by omega)⟩
  case cons.cons.cons.cons =>
    have hlen : (a :: b :: c :: d :: rest).length = rest.length + 4 := rfl
    omega

/-- Whole groups followed by a last group of one to three bytes are read back. -/
theorem decodeBase64_groups {full last : List UInt8} (hfull : full.length % 3 = 0)
    (h₁ : 1 ≤ last.length) (h₃ : last.length ≤ 3) :
    decodeBase64 ((encodeBase64 full ++ encodeBase64 last).map (·.toNat.toUInt8)) =
      .ok (full ++ last) := by
  have hA : ((encodeBase64 full).map (·.toNat.toUInt8)).length = 4 * (full.length / 3) := by
    rw [List.length_map, length_encodeBase64]
    omega
  have hB : ((encodeBase64 last).map (·.toNat.toUInt8)).length = 4 := by
    rw [List.length_map, length_encodeBase64]
    omega
  have hbody : 4 * (full.length / 3) + 4 - (4 * (full.length / 3) + 4) % 4 -
      (if (4 * (full.length / 3) + 4) % 4 = 0 then 4 else 0) = 4 * (full.length / 3) := by
    split <;> omega
  have hne : ((encodeBase64 full).map (·.toNat.toUInt8) ++
      (encodeBase64 last).map (·.toNat.toUInt8)).isEmpty = false := by
    rw [List.isEmpty_eq_false_iff, ← List.length_pos_iff, List.length_append, hB]
    omega
  rw [List.map_append, decodeBase64]
  simp only [List.length_append, hA, hB]
  rw [if_neg (by omega), hbody, List.take_left' hA, List.drop_left' hA, hne,
    decodeGroups_encodeBase64 hfull, decodeSuffix_encodeBase64 h₁ h₃]
  rfl

/-- Any bytes are read back from their base64 symbols: whole groups, then a last group of one to
three bytes, if any. -/
theorem decodeBase64_encodeBase64 (bytes : List UInt8) :
    decodeBase64 ((encodeBase64 bytes).map (·.toNat.toUInt8)) = .ok bytes := by
  cases hb : bytes with
  | nil => rfl
  | cons b rest =>
    rw [← hb]
    -- the bytes before the last group fill whole groups
    have hlen : 1 ≤ bytes.length := by rw [hb]; exact Nat.succ_pos _
    have hfull : (bytes.take ((bytes.length - 1) / 3 * 3)).length % 3 = 0 := by
      rw [List.length_take]
      omega
    have h₁ : 1 ≤ (bytes.drop ((bytes.length - 1) / 3 * 3)).length := by
      rw [List.length_drop]
      omega
    have h₃ : (bytes.drop ((bytes.length - 1) / 3 * 3)).length ≤ 3 := by
      rw [List.length_drop]
      omega
    conv => lhs; rw [← List.take_append_drop ((bytes.length - 1) / 3 * 3) bytes]
    rw [encodeBase64_append hfull, decodeBase64_groups hfull h₁ h₃, List.take_append_drop]


/-- Reading the base64 text of bytes gives them back. -/
theorem decodeBase64_base64Text (bytes : List UInt8) :
    decodeBase64 (utf8Bytes (base64Text bytes)) = .ok bytes := by
  rw [utf8Bytes_base64Text, decodeBase64_encodeBase64]

end ContentSync.Text
