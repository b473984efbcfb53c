import SqlAccess.Connection

/-!
# The history of a statement

A statement is used by one call after the other: values are set, it is run for rows or as an update,
and identities are taken from it. Others may use the connection in between, so every call of a
history comes with the connection it finds, whatever that is; and the server may come to answer the
statement in another way than before.

* `Occurrence.left`: the statement that a call leaves.
* `History.read_eq`: what is read off a statement is what the last call that writes it has written,
  or else what was there from the start.
-/

namespace SqlAccess

/-- What is done with a statement while it is in use. -/
inductive Call where
  | set (position : Nat) (value : Value)
  | query
  | update
  | identities
  deriving DecidableEq

/-- A call with the statement and the connection that it finds. -/
structure Occurrence (σ S : Type) where
  call : Call
  statement : S
  connection : Connection σ

namespace Occurrence

variable {σ S : Type} [Database σ S]

/-- The call does not fail. -/
def succeeds (o : Occurrence σ S) : Bool :=
  match o.call with
  | .set position v => (Database.set σ o.statement position v o.connection.streams).1.isOk
  | .query => (Database.query o.statement o.connection.server).1.isOk
  | .update => (Database.update o.statement o.connection.server).1.isOk
  | .identities => true

/-- The statement after the call. One that fails leaves it as it was, and so does a query. -/
def left (o : Occurrence σ S) : S :=
  match o.call with
  | .set position v =>
    match (Database.set σ o.statement position v o.connection.streams).1 with
    | .ok s => s
    | .error _ => o.statement
  | .query => o.statement
  | .update =>
    match (Database.update o.statement o.connection.server).1 with
    | .ok (_, s) => s
    | .error _ => o.statement
  | .identities => (Database.identities σ o.statement).2

/-- A call that fails leaves the statement as it was. -/
theorem left_of_failed {o : Occurrence σ S} (failed : o.succeeds = false) :
    o.left = o.statement := by
  unfold succeeds at failed
  unfold left
  split
  · rename_i position v called
    rw [called] at failed
    dsimp only at failed
    split
    · rename_i s accepted
      rw [accepted] at failed
      cases failed
    · rfl
  · rfl
  · rename_i called
    rw [called] at failed
    dsimp only at failed
    split
    · rename_i count s ran
      rw [ran] at failed
      cases failed
    · rfl
  · rename_i called
    rw [called] at failed
    cases failed

end Occurrence

/-- From the statement `start` these calls have led to the statement at the end. `changes` is what
the server may do to a statement between two calls. -/
inductive History {σ S : Type} [Database σ S] (changes : S → S → Prop) (start : S) :
    List (Occurrence σ S) → S → Prop where
  | nil : History changes start [] start
  | call {os : List (Occurrence σ S)} {s : S} (before : History changes start os s) (call : Call)
    (connection : Connection σ) :
    History changes start (os ++ [⟨call, s, connection⟩])
      (Occurrence.left ⟨call, s, connection⟩)
  | change {os : List (Occurrence σ S)} {s s' : S} (before : History changes start os s)
    (changed : changes s s') : History changes start os s'

/-- What is read off a statement is what the last call that writes it has written, and if there is
none, what was read at the start. -/
theorem History.read_eq {σ S α : Type} [Database σ S] {changes : S → S → Prop} {start s : S}
    {os : List (Occurrence σ S)} {valid : S → Prop} {read : S → α}
    {writes : Occurrence σ S → Option α}
    (step : ∀ o : Occurrence σ S, valid o.statement →
      valid o.left ∧ read o.left = (writes o).getD (read o.statement))
    (keep : ∀ s s', changes s s' → valid s → valid s' ∧ read s' = read s)
    (history : History changes start os s) (startValid : valid start) :
    valid s ∧ read s = (os.reverse.findSome? writes).getD (read start) := by
  induction history with
  | nil => exact ⟨startValid, rfl⟩
  | @call os s before call connection ih =>
    have wrote := step ⟨call, s, connection⟩ ih.1
    refine ⟨wrote.1, ?_⟩
    rw [wrote.2, List.reverse_append, List.reverse_singleton, List.singleton_append,
      List.findSome?_cons]
    cases writes ⟨call, s, connection⟩ with
    | some written => rfl
    | none => exact ih.2
  | change before changed ih =>
    have kept := keep _ _ changed ih.1
    exact ⟨kept.1, kept.2.trans ih.2⟩

end SqlAccess
