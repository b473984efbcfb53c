import SqlAccess.Memory.Server
import SqlAccess.Proofs.Cursor.Walk
import SqlAccess.Proofs.Session.Cursors
import SqlAccess.Proofs.Session.Readings

/-!
# The life of a cursor in a session

Whatever a session does, a cursor over a stored result is where the calls of `advance` have
brought it, until it is closed. Reading it changes nothing of the session but streams.

* `Follows.step` and `Follows.run`: what a command does to a cursor that keeps its name.
* `read_of_state_ne`, `read_of_sameRow`: what a reading gives outside a row and on one.
* `cursor_lifecycle`: the whole life of a cursor.
-/

namespace SqlAccess

/-- The command goes on with the cursor of this name. -/
def Command.advancesCursor (name : String) : Command → Bool
  | .advance used => used == name
  | _ => false

theorem Command.cursor_of_advancesCursor {name : String} {command : Command}
    (h : command.advancesCursor name = true) : command.cursor = some name := by
  cases command with
  | advance used => exact congrArg some (beq_iff_eq.1 h)
  | _ => cases h

/-- The cursor of this name stays, closed or not. -/
def Command.keepsCursor (name : String) : Command → Bool
  | .select used .. | .rows used .. | .dropCursor used => used != name
  | _ => true

namespace Session

variable {σ S : Type} [Database σ S] {s : Session σ S} {name : String} {c d : Cursor S}

/-! ## Readings -/

omit [Database σ S] in
/-- Outside a row every reading fails, whatever it asks for. -/
theorem read_of_state_ne (outside : c.state ≠ .onRow) (reading : Reading) :
    Session.read c reading = throw (.cursor c.state) := by
  cases single : reading.column? with
  | some ref => exact read_of_resolve_eq_error (Cursor.resolve_of_state_ne outside ref) single
  | none =>
    cases reading with
    | record fields reads =>
      rw [Session.read, Cursor.getRecord_of_state_ne outside]
      rfl
    | _ => cases single

omit [Database σ S] in
/-- A reading depends on the row alone. -/
theorem read_of_sameRow (same : Cursor.SameRow c d) (reading : Reading) :
    Session.read c reading = Session.read d reading :=
  read_of_sameColumns same.sameColumns reading

/-- A reading is the answer, and what it has read of the streams is read. -/
theorem step_read (found : s.cursors.lookup name = some c) (reading : Reading) :
    s.step (.read name reading) =
      (.ofOutcome id (Session.read c reading s.connection.streams).1,
        { s with
          connection :=
            { s.connection with
              streams := (Session.read c reading s.connection.streams).2 } }) := by
  rw [step, withCursor, found]
  rfl

/-! ## Steps -/

/-- The cursor of the name goes over these rows, was asked for one `asked` times, and then closed
or not. -/
def Follows (name : String) (columns : List Column) (rows : List (List Value))
    (registry : Registry) (allowNulls : Bool) (asked : Nat) (closed : Bool)
    (s : Session σ S) : Prop :=
  ∃ c, s.cursors.lookup name = some c ∧
    match closed with
    | true => c.IsClosed
    | false => c.Asked columns rows registry allowNulls asked

variable {columns : List Column} {rows : List (List Value)} {registry : Registry}
  {allowNulls : Bool} {asked : Nat} {closed : Bool}

theorem Follows.step (follows : Follows name columns rows registry allowNulls asked closed s)
    {command : Command} (kept : command.keepsCursor name = true) :
    Follows name columns rows registry allowNulls
      (asked + if command.advancesCursor name then 1 else 0)
      (closed || command.releasesCursor name) (s.step command).2 := by
  obtain ⟨c, found, at_⟩ := follows
  by_cases about : command.cursor = some name
  · cases command with
    | select used | rows used | dropCursor used =>
      cases about
      rw [Command.keepsCursor, bne_self_eq_false] at kept
      cases kept
    | advance used =>
      cases about
      rw [Session.step, withCursor, found]
      refine ⟨c.advance.2, Named.lookup_put_self _ _ _, ?_⟩
      cases closed with
      | true =>
        have same : c.advance.2 = c := congrArg Prod.snd at_.advance
        rw [same]
        exact at_
      | false =>
        rw [Command.advancesCursor, beq_self_eq_true]
        exact at_.advance.2
    | closeCursor used =>
      cases about
      rw [Command.releasesCursor, beq_self_eq_true, Bool.or_true, Session.step, withCursor, found]
      exact ⟨c.close.2, s.closeCursor_fst c ▸ Named.lookup_put_self _ _ _, c.isClosed_close⟩
    | _ => cases about
  · have still : command.advancesCursor name = false :=
      Bool.eq_false_iff.2 fun advances => about (Command.cursor_of_advancesCursor advances)
    have unclosed : command.releasesCursor name = false :=
      Bool.eq_false_iff.2 fun releases => about (Command.cursor_of_releasesCursor releases)
    rw [still, unclosed, Bool.or_false]
    exact ⟨c, (s.lookup_step_of_ne about).trans found, at_⟩

theorem Follows.run (follows : Follows name columns rows registry allowNulls asked closed s)
    {commands : List Command} (kept : ∀ command ∈ commands, command.keepsCursor name = true) :
    Follows name columns rows registry allowNulls
      (asked + commands.countP (·.advancesCursor name))
      (closed || commands.any (·.releasesCursor name)) (s.run commands).2 := by
  induction commands generalizing s asked closed with
  | nil =>
    rw [List.countP_nil, List.any_nil, Nat.add_zero, Bool.or_false]
    exact follows
  | cons command commands ih =>
    have here := follows.step (kept command List.mem_cons_self)
    have later := ih here fun command mem => kept command (List.mem_cons_of_mem _ mem)
    rw [List.countP_cons, List.any_cons, Nat.add_comm (commands.countP _), ← Nat.add_assoc,
      ← Bool.or_assoc]
    exact later

omit [Database σ S] in
theorem Follows.state (follows : Follows name columns rows registry allowNulls asked closed s) :
    ∃ c, s.cursors.lookup name = some c ∧
      c.state = if closed then .closed else .after rows.length asked := by
  obtain ⟨c, found, at_⟩ := follows
  refine ⟨c, found, ?_⟩
  cases closed with
  | true => exact at_.state
  | false => exact at_.state

theorem Follows.advance (follows : Follows name columns rows registry allowNulls asked closed s) :
    (s.step (.advance name)).1 =
      if closed then .failed (.cursor .closed) else .truth (decide (asked + 1 ≤ rows.length)) := by
  obtain ⟨c, found, at_⟩ := follows
  rw [Session.step, withCursor, found]
  show Answer.ofOutcome .truth c.advance.1 = _
  cases closed with
  | true =>
    rw [at_.advance]
    rfl
  | false =>
    rw [at_.advance.1]
    rfl

omit [Database σ S] in
/-- On a row, a reading sees the values of that row, as if there were no others. -/
theorem Follows.read (follows : Follows name columns rows registry allowNulls asked false s)
    (onRow : CursorState.after rows.length asked = .onRow) :
    ∃ c row, s.cursors.lookup name = some c ∧ rows[asked - 1]? = some row ∧
      (∀ i, c.source.value i = (row[i]?).elim (.error (.notFound (.cell i))) .ok) ∧
      ∀ reading,
        Session.read c reading =
          Session.read (Cursor.ofSource (S := S) (.ofValues columns [row]) none registry
            allowNulls).advance.2 reading := by
  obtain ⟨c, found, asks⟩ := follows
  have state : c.state = .onRow := asks.state.trans onRow
  obtain ⟨row, reached, current⟩ := asks.onRow state
  refine ⟨c, row, found, reached, fun i => ?_, read_of_sameRow (asks.sameRow state current)⟩
  unfold RowSource.value
  rw [current]
  dsimp only
  rw [List.getElem?_map]
  cases row[i]? with
  | none => rfl
  | some v => rfl

/-- Closing a closed cursor leaves everything as it is. -/
theorem Follows.close (follows : Follows name columns rows registry allowNulls asked true s) :
    (s.step (.closeCursor name)).2.connection = s.connection ∧
      ∀ other, (s.step (.closeCursor name)).2.cursors.lookup other = s.cursors.lookup other := by
  obtain ⟨c, found, closed⟩ := follows
  have same : s.closeCursor c = (c, s) := by
    unfold Session.closeCursor
    rw [closed]
  rw [Session.step, withCursor, found]
  dsimp only
  rw [same]
  refine ⟨rfl, fun other => ?_⟩
  by_cases here : other = name
  · rw [here, found]
    exact Named.lookup_put_self _ _ _
  · exact Named.lookup_put_of_ne (Ne.symm here) _ _

/-- **The life of a cursor.** A cursor over a stored result of some rows has just been made, and the
session does any commands that leave the cursor its name. It was asked for a row `asked` times.

* Until it is closed, it is in front of the rows, on a row, or behind them, as `asked` says, and the
  next call of `advance` says whether there is one more row. Once closed, it stays closed, and going
  on fails.
* Outside a row every reading fails with the state of the cursor, whatever it asks for, and changes
  nothing.
* On a row every reading gives what it gives on a result of just the row that was reached, and
  changes nothing but the streams it reads.
* Closing it again changes nothing. -/
theorem cursor_lifecycle (s : Session σ S) (name : String) (columns : List Column)
    (rows : List (List Value)) (statement : Option S) (registry : Registry) (allowNulls : Bool)
    (commands : List Command)
    (made : s.cursors.lookup name =
      some (.ofSource (.ofValues columns rows) statement registry allowNulls))
    (kept : ∀ command ∈ commands, command.keepsCursor name = true) :
    let s' := (s.run commands).2
    let asked := commands.countP (·.advancesCursor name)
    let closed := commands.any (·.releasesCursor name)
    let state : CursorState := if closed then .closed else .after rows.length asked
    (∃ c, s'.cursors.lookup name = some c ∧ c.state = state) ∧
      (s'.step (.advance name)).1 =
        (if closed then .failed (.cursor .closed)
          else .truth (decide (asked + 1 ≤ rows.length))) ∧
      (state ≠ .onRow →
        ∀ reading, s'.step (.read name reading) = (.failed (.cursor state), s')) ∧
      (state = .onRow →
        ∃ c row, s'.cursors.lookup name = some c ∧ rows[asked - 1]? = some row ∧
          (∀ i, c.source.value i = (row[i]?).elim (.error (.notFound (.cell i))) .ok) ∧
          ∀ reading,
            let alone : Cursor S :=
              (Cursor.ofSource (.ofValues columns [row]) none registry allowNulls).advance.2
            let read := Session.read alone reading s'.connection.streams
            s'.step (.read name reading) =
              (.ofOutcome id read.1,
                { s' with connection := { s'.connection with streams := read.2 } })) ∧
      (closed = true →
        (s'.step (.closeCursor name)).2.connection = s'.connection ∧
          ∀ other,
            (s'.step (.closeCursor name)).2.cursors.lookup other = s'.cursors.lookup other) := by
  intro s' asked closed state
  have start : Follows name columns rows registry allowNulls 0 false s :=
    ⟨_, made, .start statement⟩
  have follows : Follows name columns rows registry allowNulls asked closed s' := by
    have ran := start.run kept
    rwa [Nat.zero_add, Bool.false_or] at ran
  refine ⟨follows.state, follows.advance, ?_, ?_, ?_⟩
  · intro outside reading
    obtain ⟨c, found, at_⟩ := follows.state
    have nowhere : c.state ≠ .onRow := fun onRow => outside (at_.symm.trans onRow)
    rw [step_read found, read_of_state_ne nowhere, at_]
    rfl
  · intro onRow
    cases unclosed : closed with
    | true =>
      have ended : state = .closed := if_pos unclosed
      rw [ended] at onRow
      cases onRow
    | false =>
      have open_ : state = .after rows.length asked := if_neg (by rw [unclosed]; nofun)
      rw [unclosed] at follows
      obtain ⟨c, row, found, reached, values, reads⟩ := follows.read (open_.symm.trans onRow)
      refine ⟨c, row, found, reached, values, fun reading => ?_⟩
      rw [step_read found, reads]
  · intro ended
    rw [ended] at follows
    exact follows.close

/-- A cursor over two rows that was asked for a row three times, read in between, and closed. -/
theorem cursor_lifecycle_two_rows :
    let connection : Connection Memory.Server := ⟨.empty, ⟨[], ⟨⟨[], []⟩, 0, none, none⟩, [], 0⟩⟩
    let column : Column := ⟨"id", .integer, none⟩
    let rows : List (List Value) := [[.text "a"], [.null]]
    let s : Session Memory.Server Memory.Statement :=
      ((Session.start connection ⟨.empty, default⟩).step (.rows "r" [column] rows true)).2
    let walk : List Command :=
      [.advance "r", .read "r" (.getValue (.index 7)), .advance "r", .advance "r"]
    s.cursors.lookup "r" = some (.ofSource (.ofValues [column] rows) none .empty true) ∧
      (∀ command ∈ walk ++ [.closeCursor "r"], command.keepsCursor "r" = true) ∧
      (((s.run (walk.take 3)).2).step (.advance "r")).1 = .truth false ∧
      (((s.run (walk ++ [.closeCursor "r"])).2).step (.advance "r")).1 =
        .failed (.cursor .closed) := by
  intro connection column rows s walk
  have made : s.cursors.lookup "r" = some (.ofSource (.ofValues [column] rows) none .empty true) :=
    rfl
  have kept : ∀ command ∈ walk ++ [.closeCursor "r"], command.keepsCursor "r" = true := by
    simp [walk, Command.keepsCursor]
  have keptBefore : ∀ command ∈ walk.take 3, command.keepsCursor "r" = true := by
    simp [walk, Command.keepsCursor]
  obtain ⟨-, ended, -⟩ :=
    cursor_lifecycle s "r" [column] rows none .empty true (walk.take 3) made keptBefore
  obtain ⟨-, closed, -⟩ :=
    cursor_lifecycle s "r" [column] rows none .empty true (walk ++ [.closeCursor "r"]) made kept
  exact ⟨made, kept, ended, closed⟩

end Session

end SqlAccess
