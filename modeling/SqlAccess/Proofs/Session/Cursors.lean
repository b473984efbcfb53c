import SqlAccess.Proofs.Session.Named

/-!
# Which command touches which cursor

A session keeps many cursors, and most commands are about none of them. The lemmas of this module
hold for every kind of server.

* `sameCursors_step`: a command that is about no cursor leaves all cursors alone.
* `lookup_step_of_ne`: a command that is about one cursor leaves the others alone.
-/

namespace SqlAccess

/-- The name of the cursor that a command makes, changes or takes away. -/
def Command.cursor : Command → Option String
  | .select name .. | .rows name .. | .advance name | .closeCursor name | .dropCursor name =>
    some name
  | _ => none

/-- The command makes a cursor under this name. -/
def Command.makesCursor (name : String) : Command → Bool
  | .select used .. | .rows used .. => used == name
  | _ => false

/-- The command closes the cursor of this name, or gives it up. -/
def Command.releasesCursor (name : String) : Command → Bool
  | .closeCursor used | .dropCursor used => used == name
  | _ => false

/-- Whoever gives a cursor up is about that cursor. -/
theorem Command.cursor_of_releasesCursor {name : String} {command : Command}
    (h : command.releasesCursor name = true) : command.cursor = some name := by
  cases command with
  | closeCursor used | dropCursor used => exact congrArg some (beq_iff_eq.1 h)
  | _ => cases h

namespace Session

variable {σ S : Type} [Database σ S]

theorem closeCursor_fst (s : Session σ S) (c : Cursor S) : (s.closeCursor c).1 = c.close.2 := by
  unfold closeCursor Cursor.close
  cases c.statement with
  | none => rfl
  | some statement => rfl

/-- Closing a cursor goes to the server and does nothing else to the session. -/
theorem closeCursor_eq (s : Session σ S) (c : Cursor S) :
    (s.closeCursor c).2 = { s with connection := (s.closeCursor c).2.connection } := by
  unfold Session.closeCursor Cursor.close
  cases c.statement with
  | none => rfl
  | some statement => rfl

theorem closeCursor_cursors (s : Session σ S) (c : Cursor S) :
    (s.closeCursor c).2.cursors = s.cursors := by
  rw [closeCursor_eq]

theorem putCursor_cursors (s : Session σ S) (name : String) (c : Cursor S) :
    (s.putCursor name c).cursors = s.cursors.put name c := by
  unfold Session.putCursor
  cases s.cursors.lookup name with
  | none => rfl
  | some old => exact congrArg (Named.put · name c) (s.closeCursor_cursors old)

/-- The sessions run templates in the same way and have the same cursors. -/
def SameCursors (s s' : Session σ S) : Prop := s'.dao = s.dao ∧ s'.cursors = s.cursors

theorem sameCursors_putStatement (s : Session σ S) (name : String) (statement : S) :
    SameCursors s (s.putStatement name statement) := by
  unfold Session.putStatement
  cases s.statements.lookup name with
  | none => exact ⟨rfl, rfl⟩
  | some old => exact ⟨rfl, rfl⟩

omit [Database σ S] in
theorem sameCursors_withStatement (s : Session σ S) (name : String)
    {f : S → Answer × Session σ S} (same : ∀ statement, SameCursors s (f statement).2) :
    SameCursors s (s.withStatement name f).2 := by
  unfold Session.withStatement
  split
  · exact same _
  · exact ⟨rfl, rfl⟩

/-- A command that is about no cursor leaves all cursors alone. -/
theorem sameCursors_step (s : Session σ S) {command : Command} (h : command.cursor = none) :
    SameCursors s (s.step command).2 := by
  cases command with
  | select | rows | advance | closeCursor | dropCursor => cases h
  | update | insert | insertOne | source => exact ⟨rfl, rfl⟩
  | read name | next name | cell name | closeSource name =>
    simp only [step, withCursor, withSource]
    split <;> exact ⟨rfl, rfl⟩
  | prepare name sql keys =>
    simp only [step, perform, Access.ofServer]
    rcases (Database.prepare sql keys : ServerM σ S) s.connection.server with
      ⟨_ | statement, server⟩
    · exact ⟨rfl, rfl⟩
    · exact sameCursors_putStatement _ name statement
  | set name position value =>
    refine sameCursors_withStatement s name fun statement => ?_
    simp only [perform, Access.ofStreams]
    rcases Database.set σ statement position value s.connection.streams with ⟨_ | _, streams⟩
    · exact ⟨rfl, rfl⟩
    · exact ⟨rfl, rfl⟩
  | query name rows =>
    refine sameCursors_withStatement s name fun statement => ?_
    simp only [perform, Access.ofServer]
    rcases Database.query statement s.connection.server with ⟨_ | _, server⟩
    · exact ⟨rfl, rfl⟩
    · exact ⟨rfl, rfl⟩
  | execute name =>
    refine sameCursors_withStatement s name fun statement => ?_
    simp only [perform, Access.ofServer]
    rcases Database.update statement s.connection.server with ⟨_ | ⟨_, _⟩, server⟩
    · exact ⟨rfl, rfl⟩
    · exact ⟨rfl, rfl⟩
  | identities name rows =>
    refine sameCursors_withStatement s name fun statement => ?_
    rcases Database.identities σ statement with ⟨_ | _, _⟩
    · exact ⟨rfl, rfl⟩
    · exact ⟨rfl, rfl⟩
  | bindAll name | closeStatement name =>
    exact sameCursors_withStatement s name fun statement => ⟨rfl, rfl⟩
  | dropStatement name =>
    rw [step]
    cases s.statements.lookup name with
    | none => exact ⟨rfl, rfl⟩
    | some statement => exact ⟨rfl, rfl⟩

/-- A command that is about one cursor leaves the others alone. -/
theorem lookup_step_of_ne (s : Session σ S) {command : Command} {name : String}
    (other : command.cursor ≠ some name) :
    (s.step command).2.cursors.lookup name = s.cursors.lookup name := by
  cases about : command.cursor with
  | none => rw [(s.sameCursors_step about).2]
  | some used =>
    have ne : used ≠ name := fun same => other (about.trans (congrArg some same))
    cases command with
    | select _ template values groups =>
      cases about
      simp only [step, perform]
      rcases (s.dao.select template values groups : Access σ (Cursor S)) s.connection with
        ⟨_ | c, connection⟩
      · rfl
      · simp only [putCursor_cursors]
        exact Named.lookup_put_of_ne ne _ _
    | rows =>
      cases about
      simp only [step, putCursor_cursors]
      exact Named.lookup_put_of_ne ne _ _
    | advance =>
      cases about
      simp only [step, withCursor]
      split
      · exact Named.lookup_put_of_ne ne _ _
      · rfl
    | closeCursor =>
      cases about
      simp only [step, withCursor]
      split
      · simp only [closeCursor_cursors]
        exact Named.lookup_put_of_ne ne _ _
      · rfl
    | dropCursor =>
      cases about
      simp only [step]
      split
      · rfl
      · simp only [closeCursor_cursors]
        exact Named.lookup_erase_of_ne ne _
    | _ => cases about

end Session

end SqlAccess
