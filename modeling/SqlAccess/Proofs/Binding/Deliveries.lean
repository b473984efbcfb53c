import SqlAccess.Proofs.Binding.Conversions
import SqlAccess.Proofs.Memory.Positions
import SqlAccess.Proofs.Postgres.Positions
import SqlAccess.Proofs.Registry.BinaryStreams

/-!
# What binding values hands out of a stream

A setter may keep a stream that it is given, or take its bytes and keep these. What it hands to its
binder is told by a `Receipt`, from the position, the value and what comes of the call. Binding
several values hands out what its setter calls do, one after the other, up to the first one that is
refused.

* `bindFrom_delivers`: what binding hands out, if each setter call keeps to its receipt.
* `Memory.set_delivers`: a statement in memory keeps the stream.
* `Postgres.set_delivers`: a PostgreSQL statement is given all the bytes. If it has no such
  position, they are taken nevertheless.
-/

namespace SqlAccess

open StreamM (Hands Spares)

namespace Binding

/-- What a setter call hands to its binder, by its position, its value and its outcome. -/
abbrev Receipt (β : Type) := Nat → Value → Except Error β → Delivery

/-- Every call of the setter hands out what the receipt says. -/
def SetterDelivers {β : Type} (id : StreamId) (set : Setter β) (receipt : Receipt β) : Prop :=
  ∀ ⦃b : β⦄ ⦃position : Nat⦄ ⦃v : Value⦄ ⦃r : Except Error β⦄ ⦃ss ss' : Streams⦄, v ≠ .clob id →
    ss.Holds id → set b position v ss = (r, ss') → ss.Delivers id (receipt position v r) ss'

variable {β : Type} {id : StreamId} {position : Nat} {v w : Value} {ss ss' : Streams}

/-- What binding values from a position on hands out. -/
def delivery (r : Registry) (set : Setter β) (receipt : Receipt β) :
    Nat → List Value → β → Streams → Delivery
  | _, [], _, _ => .nothing
  | position, v :: vs, b, ss =>
    match captured r position v ss with
    | (.error _, _) => .nothing
    | (.ok w, ss₁) =>
      match set b position w ss₁ with
      | (.error e, _) => receipt position w (.error e)
      | (.ok b', ss₂) =>
        receipt position w (.ok b') ++ delivery r set receipt (position + 1) vs b' ss₂

/-- Setter calls that hand out nothing. -/
theorem delivery_of_nothing {receipt : Receipt β} (nothing : ∀ position v r,
    receipt position v r = .nothing) (r : Registry) (set : Setter β) (position : Nat)
    (vs : List Value) (b : β) (ss : Streams) :
    delivery r set receipt position vs b ss = .nothing := by
  induction vs generalizing position b ss with
  | nil => rfl
  | cons v vs ih =>
    rw [delivery]
    split
    · rfl
    · split
      · exact nothing _ _ _
      · rw [nothing, ih]
        rfl

/-- Converting a value for its setter leaves the stream alone. -/
theorem captured_spares (id : StreamId) (position : Nat) (v : Value) :
    Spares id (captured .standard position v) := by
  unfold captured
  split
  · exact .ofExcept fun _ _ => rfl
  · rename_i cs
    have converted : Spares id (Registry.standard.coerce (.chars cs) .char (.host .text)) :=
      (Registry.standard_coerce_hands (v := .chars cs) nofun .char _).congr
        fun _ => Value.handed_of_ne (v := .chars cs) nofun
    exact converted.of_spares fun _ => rfl
  · exact .pure rfl

theorem Converted.ne_clob {r : Registry} (converted : Converted r v ss w ss')
    (binary : v ≠ .clob id) : w ≠ .clob id := by
  cases converted with
  | plain => exact binary
  | wide => nofun
  | characters => nofun

/-- Binding values hands out what its setter calls do. -/
theorem bindFrom_delivers {r : Registry} (standard : r = .standard) {set : Setter β}
    {receipt : Receipt β} (delivers : SetterDelivers id set receipt) (position : Nat)
    {vs : List Value} (binary : .clob id ∉ vs) (b : β) (holds : ss.Holds id) :
    ss.Delivers id (delivery r set receipt position vs b ss)
      (bindFrom r set position vs b ss).2 := by
  subst standard
  induction vs generalizing position b ss with
  | nil => exact .refl holds
  | cons v vs ih =>
    obtain ⟨other, others⟩ := not_or.mp fun mem => binary (List.mem_cons.mpr mem)
    have spares := captured_spares id position v
    rw [bindFrom_cons_run, delivery]
    rcases given : captured .standard position v ss with ⟨e | w, ss₁⟩
    · exact .of_drains (spares.fails holds given) false
    · have spared := spares.gives holds given
      have first := Streams.Delivers.of_drains spared false
      dsimp only
      have w_ne := (captured_eq_ok_iff.mp given).ne_clob (Ne.symm other)
      rcases ran : set b position w ss₁ with ⟨e | b', ss₂⟩
      · exact first.trans (delivers w_ne spared.holds ran)
      · have second := delivers w_ne spared.holds ran
        exact first.trans (second.trans (ih (position + 1) others b' second.holds))

end Binding

open Binding (Receipt SetterDelivers)

namespace Memory

variable {id : StreamId}

/-- A statement in memory keeps a stream as it is. -/
theorem set_delivers : SetterDelivers id (Database.set Server) fun _ _ _ => .nothing := by
  intro s position v r ss ss' _ holds ran
  change s.set position v ss = _ at ran
  unfold Statement.set at ran
  split at ran
  · cases ran
    exact .refl holds
  · cases ran
    exact .refl holds

end Memory

namespace Postgres

variable {id : StreamId} {position : Nat} {v w : Value} {ss ss' : Streams}

/-- What a call hands to the statement: the bytes that stand for the stream at its position. A
position that the statement does not have is found out after the stream is read. -/
def receipt (id : StreamId) : Receipt Statement := fun position v outcome =>
  match outcome with
  | .ok s => ⟨v.handed id (.host .bytes) ((valueAt s position).getD .null), false⟩
  | .error _ => ⟨[], v = .blob id⟩

theorem capture_hands (binary : v ≠ .clob id) (position : Nat) :
    Hands id (Statement.capture position v) (v.handed id (.host .bytes)) := by
  unfold Statement.capture
  split
  · rename_i s
    by_cases here : s = id
    · subst here
      exact (StreamM.readAll_hands.mapError _).map fun _ => Value.handed_blob s _
    · have other : Value.blob s ≠ .blob id := fun same => here (Value.blob.inj same)
      exact ((StreamM.onStream_spares here _).mapError _).bind
        fun _ _ => .pure (Value.handed_of_ne other)
  · rename_i s
    have other : s ≠ id := fun same => binary (congrArg Value.clob same)
    exact ((StreamM.onStream_spares other _).mapError _).bind
      fun _ _ => .pure (Value.handed_of_ne nofun)
  · rename_i notBytes notText
    exact .pure (Value.handed_of_ne fun same => notBytes id same)

theorem set_delivers : SetterDelivers id (Database.set Server) (receipt id) := by
  intro s position v r ss ss' binary holds ran
  have hands := capture_hands binary position
  change s.set position v ss = _ at ran
  unfold Statement.set at ran
  rw [bind_run] at ran
  split at ran
  · rename_i w ss₁ captured
    have drains := hands.gives holds captured
    split at ran
    · cases ran
      refine ⟨_, drains.forfeit_all, fun some => decide_eq_true ?_⟩
      by_contra other
      rw [Value.handed_of_ne other] at some
      exact some rfl
    · rename_i valid
      cases ran
      have within : position - 1 < s.params.length := by omega
      have kept := valueAt_set s within w position
      rw [if_pos (by omega)] at kept
      show ss.Delivers id ⟨v.handed id _ ((valueAt _ position).getD .null), false⟩ ss'
      rw [kept]
      exact .of_drains drains false
  · rename_i failed
    cases ran
    exact .of_drains (hands.fails holds failed) _

end Postgres

end SqlAccess
