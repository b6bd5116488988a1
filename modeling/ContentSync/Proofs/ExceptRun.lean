/-!
# Runs in `Except`

A computation in `Except` that succeeds went through every step of its `do` block with a
success. These lemmas take such a run apart (`bind_eq_ok_iff`, `map_eq_ok_iff`) and say where a
failure comes from (`bind_eq_error_iff`), so that proofs about the model walk its `do` blocks
step by step and never unfold the monad.
-/

namespace ContentSync

namespace Except

variable {ε α β : Type} {x : Except ε α} {f : α → Except ε β}

/-- A run of two steps succeeds exactly when both do. -/
theorem bind_eq_ok_iff {b : β} : x >>= f = .ok b ↔ ∃ a, x = .ok a ∧ f a = .ok b := by
  cases x with
  | error e =>
    constructor
    · intro h
      cases h
    · rintro ⟨_, h, _⟩
      cases h
  | ok a =>
    constructor
    · intro h
      exact ⟨a, rfl, h⟩
    · rintro ⟨a', h, hf⟩
      cases h
      exact hf

/-- A run of two steps fails with the failure of the first, or of the second after the
first succeeded. -/
theorem bind_eq_error_iff {e : ε} :
    x >>= f = .error e ↔ x = .error e ∨ ∃ a, x = .ok a ∧ f a = .error e := by
  cases x with
  | error e' =>
    constructor
    · intro h
      cases h
      exact .inl rfl
    · rintro (h | ⟨_, h, _⟩)
      · cases h
        rfl
      · cases h
  | ok a =>
    constructor
    · intro h
      exact .inr ⟨a, rfl, h⟩
    · rintro (h | ⟨a', h, hf⟩)
      · cases h
      · cases h
        exact hf

/-- A mapped run succeeds exactly when the run does. -/
theorem map_eq_ok_iff {g : α → β} {b : β} : x.map g = .ok b ↔ ∃ a, x = .ok a ∧ g a = b := by
  cases x with
  | error e =>
    constructor
    · intro h
      cases h
    · rintro ⟨_, h, _⟩
      cases h
  | ok a =>
    constructor
    · intro h
      cases h
      exact ⟨a, rfl, rfl⟩
    · rintro ⟨a', h, rfl⟩
      cases h
      rfl

theorem ok_bind (a : α) : (Except.ok a : Except ε α) >>= f = f a := rfl

theorem bind_of_ok {a : α} (h : x = .ok a) : x >>= f = f a := by
  rw [h]
  rfl

theorem bind_of_error {e : ε} (h : x = .error e) : x >>= f = .error e := by
  rw [h]
  rfl

end Except

end ContentSync
