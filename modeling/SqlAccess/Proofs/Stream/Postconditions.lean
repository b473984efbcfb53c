import SqlAccess.Proofs.Outcome
import SqlAccess.Stream

/-!
# What a computation gives and what it fails with

A computation that may read streams gives a value or fails, and both may depend on the streams.
`StreamM.Ensures` says what holds of whatever it gives, `StreamM.Raises` what holds of whatever it
fails with. The rules follow the way computations are put together.
-/

namespace SqlAccess

theorem StreamM.ofExcept_run_eq_ok_iff {ε α : Type} {r : Except ε α} {a : α} {ss ss' : Streams} :
    (ofExcept r ss = (.ok a, ss')) ↔ r = .ok a ∧ ss = ss' :=
  Iff.of_eq (Prod.mk.injEq r ss (.ok a) ss')

theorem StreamM.mapError_run_eq_ok_iff {ε ε' α : Type} {f : ε → ε'} {m : StreamM ε α} {a : α}
    {ss ss' : Streams} : mapError f m ss = (.ok a, ss') ↔ m ss = (.ok a, ss') := by
  unfold mapError
  rcases m ss with ⟨e | b, ss₁⟩
  · exact iff_of_false nofun nofun
  · constructor
    · rintro ⟨⟩
      rfl
    · rintro ⟨⟩
      rfl

/-- Whatever the computation gives has the property. -/
def StreamM.Ensures {ε α : Type} (m : StreamM ε α) (P : α → Prop) : Prop :=
  ∀ ss a ss', m ss = (.ok a, ss') → P a

namespace StreamM.Ensures

variable {ε ε' α β : Type} {P : α → Prop} {Q : β → Prop}

theorem pure {a : α} (holds : P a) : Ensures (Pure.pure a : StreamM ε α) P := by
  intro ss b ss' given
  cases given
  exact holds

theorem throw {e : ε} : Ensures (MonadExcept.throw e : StreamM ε α) P := by
  intro ss a ss' given
  cases given

theorem ofExcept {r : Except ε α} (holds : ∀ a, r = .ok a → P a) : Ensures (ofExcept r) P := by
  intro ss a ss' given
  exact holds a (congrArg Prod.fst given)

theorem mapError {m : StreamM ε α} (f : ε → ε') (ensures : Ensures m P) :
    Ensures (mapError f m) P := by
  intro ss a ss' given
  exact ensures ss a ss' (mapError_run_eq_ok_iff.mp given)

theorem bind {m : StreamM ε α} {f : α → StreamM ε β} (first : Ensures m P)
    (second : ∀ a, P a → Ensures (f a) Q) : Ensures (m >>= f) Q := by
  intro ss b ss' given
  rw [bind_run] at given
  split at given
  · rename_i a ss'' ran
    exact second a (first ss a ss'' ran) ss'' b ss' given
  · cases given

theorem trivial (m : StreamM ε α) : Ensures m fun _ => True := fun _ _ _ _ => True.intro

end StreamM.Ensures

/-- Whatever the computation fails with has the property. -/
def StreamM.Raises {ε α : Type} (m : StreamM ε α) (P : ε → Prop) : Prop :=
  ∀ ss e ss', m ss = (.error e, ss') → P e

namespace StreamM.Raises

variable {ε ε' α β : Type} {P : ε → Prop} {Q : α → Prop}

theorem pure {a : α} : Raises (Pure.pure a : StreamM ε α) P := by
  intro ss e ss' failed
  cases failed

theorem throw {e : ε} (holds : P e) : Raises (MonadExcept.throw e : StreamM ε α) P := by
  intro ss e' ss' failed
  cases failed
  exact holds

theorem mapError {P : ε' → Prop} {m : StreamM ε α} {f : ε → ε'}
    (raises : Raises m fun e => P (f e)) : Raises (mapError f m) P := by
  intro ss e ss' failed
  rw [StreamM.mapError] at failed
  split at failed
  · cases failed
  · rename_i cause ss'' ran
    cases failed
    exact raises ss cause ss' ran

/-- The second part is only reached with what the first one gives. -/
theorem bind {m : StreamM ε α} {f : α → StreamM ε β} (first : Raises m P)
    (gives : StreamM.Ensures m Q) (second : ∀ a, Q a → Raises (f a) P) : Raises (m >>= f) P := by
  intro ss e ss' failed
  rw [bind_run] at failed
  split at failed
  · rename_i a ss'' ran
    exact second a (gives ss a ss'' ran) ss'' e ss' failed
  · rename_i cause ss'' ran
    cases failed
    exact first ss e ss' ran

end StreamM.Raises

end SqlAccess
