/-!
# Outcomes and chains of operations

An operation has an outcome, a value or an error, and most operations also change a state. These
are the rules by which outcomes are opened: what a mapped outcome is, and what a chain of two
operations does to the state (`bind_run`).
-/

namespace SqlAccess

section

variable {ε σ α β γ : Type}

/-! ## Outcomes -/

theorem map_eq_ok_iff {f : α → β} {r : Except ε α} {b : β} :
    r.map f = .ok b ↔ ∃ a, r = .ok a ∧ f a = b := by
  cases r <;> simp [Except.map]

theorem map_eq_error_iff {f : α → β} {r : Except ε α} {e : ε} :
    r.map f = .error e ↔ r = .error e := by
  cases r <;> simp [Except.map]

theorem map_map_eq (r : Except ε α) (f : α → β) (g : β → γ) :
    (r.map f).map g = r.map (g ∘ f) := by
  cases r <;> rfl

theorem eq_ok_of_toOption_eq_some {r : Except ε α} {a : α} (h : r.toOption = some a) :
    r = .ok a := by
  cases r with
  | error e => cases h
  | ok b =>
    cases h
    rfl

theorem mapError_eq_ok_iff {δ : Type} {f : ε → δ} {r : Except ε α} {a : α} :
    r.mapError f = .ok a ↔ r = .ok a := by
  cases r with
  | error e => exact iff_of_false (fun given => by cases given) nofun
  | ok b =>
    constructor
    · intro given
      cases given
      rfl
    · intro given
      cases given
      rfl

theorem bind_eq_ok_iff {r : Except ε α} {f : α → Except ε β} {b : β} :
    (r >>= f) = .ok b ↔ ∃ a, r = .ok a ∧ f a = .ok b := by
  cases r <;> simp [bind, Except.bind]

/-! ## Chains -/

/-- What a chain does: the second part runs on the state that the first one leaves, and only if
the first one has succeeded. -/
theorem bind_run (m : ExceptT ε (StateM σ) α) (f : α → ExceptT ε (StateM σ) β) (s : σ) :
    (m >>= f) s =
      match m s with
      | (.ok a, s') => f a s'
      | (.error e, s') => (.error e, s') := by
  simp only [bind, ExceptT.bind, ExceptT.mk, StateT.bind]
  rcases m s with ⟨_ | a, s'⟩
  · rfl
  · rfl

/-- A chain succeeds if both parts do. -/
theorem bind_run_eq_ok_iff {m : ExceptT ε (StateM σ) α} {f : α → ExceptT ε (StateM σ) β} {b : β}
    {s s' : σ} :
    (m >>= f) s = (.ok b, s') ↔ ∃ a s₁, m s = (.ok a, s₁) ∧ f a s₁ = (.ok b, s') := by
  rw [bind_run]
  constructor
  · intro ran
    split at ran
    · exact ⟨_, _, ‹_›, ran⟩
    · cases ran
  · intro ⟨a, s₁, first, second⟩
    rw [first]
    exact second

theorem pure_run_eq_ok_iff {a b : α} {s s' : σ} :
    (pure a : ExceptT ε (StateM σ) α) s = (.ok b, s') ↔ b = a ∧ s' = s := by
  constructor
  · intro ran
    cases ran
    exact ⟨rfl, rfl⟩
  · intro ⟨same, unchanged⟩
    rw [same, unchanged]
    rfl

end

end SqlAccess
