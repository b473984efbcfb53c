import SqlAccess.Proofs.Postgres.Messages
import SqlAccess.Proofs.Postgres.ResultRows
import SqlAccess.Proofs.Session.Lifecycle

/-!
# An error between rows

A server may send an error in place of a row. The cursor over its rows then fails to go on, and is
where it was before: going to the next row changes the current one only when there is a next one,
and the state of the cursor only after that.

* `lookup_run`: in a session, a cursor is where its calls of `advance` have brought it.
* `advanced_interrupted`: where that is, up to the row in front of the error.
* `advance_of_error`: the call that meets the error.
* `lookup_of_select`: the cursor that a query makes.
* `error_between_rows`: a cursor in a session, from its query on.
-/

namespace SqlAccess

/-! ## Calls of a session -/

namespace Session

variable {σ S : Type} [Database σ S] {s : Session σ S} {name : String} {c : Cursor S}

theorem step_advance (found : s.cursors.lookup name = some c) :
    s.step (.advance name) =
      (.ofOutcome .truth c.advance.1, { s with cursors := s.cursors.put name c.advance.2 }) := by
  rw [step, withCursor, found]

theorem step_closeCursor (found : s.cursors.lookup name = some c) :
    (s.step (.closeCursor name)).2.cursors =
      (s.closeCursor c).2.cursors.put name c.close.2 := by
  rw [step, withCursor, found, ← s.closeCursor_fst c]

/-- A cursor keeps its name, and unless it is closed only `advance` changes it. -/
theorem lookup_step (found : s.cursors.lookup name = some c) {command : Command}
    (kept : command.keepsCursor name = true) :
    ∃ d, (s.step command).2.cursors.lookup name = some d ∧
      (command.releasesCursor name = false →
        d = c.advanced (if command.advancesCursor name then 1 else 0)) := by
  by_cases about : command.cursor = some name
  · cases command with
    | select used | rows used | dropCursor used =>
      cases about
      rw [Command.keepsCursor, bne_self_eq_false] at kept
      cases kept
    | advance used =>
      cases about
      rw [step_advance found, Command.advancesCursor, beq_self_eq_true]
      exact ⟨c.advance.2, Named.lookup_put_self _ _ _, fun _ => rfl⟩
    | closeCursor used =>
      cases about
      rw [step, withCursor, found, Command.releasesCursor, beq_self_eq_true]
      refine ⟨_, Named.lookup_put_self _ _ _, fun unreleased => ?_⟩
      cases unreleased
    | _ => cases about
  · have still : command.advancesCursor name = false :=
      Bool.eq_false_iff.2 fun advances => about (Command.cursor_of_advancesCursor advances)
    rw [still]
    exact ⟨c, (s.lookup_step_of_ne about).trans found, fun _ => rfl⟩

theorem lookup_run (found : s.cursors.lookup name = some c) {commands : List Command}
    (kept : ∀ command ∈ commands, command.keepsCursor name = true) :
    ∃ d, (s.run commands).2.cursors.lookup name = some d ∧
      ((∀ command ∈ commands, command.releasesCursor name = false) →
        d = c.advanced (commands.countP (·.advancesCursor name))) := by
  induction commands generalizing s c with
  | nil => exact ⟨c, found, fun _ => rfl⟩
  | cons command commands ih =>
    obtain ⟨d, here, same⟩ := lookup_step found (kept command List.mem_cons_self)
    obtain ⟨d', later, sameLater⟩ :=
      ih here fun command mem => kept command (List.mem_cons_of_mem _ mem)
    refine ⟨d', later, fun unreleased => ?_⟩
    rw [sameLater fun command mem => unreleased command (List.mem_cons_of_mem _ mem),
      same (unreleased command List.mem_cons_self), List.countP_cons]
    cases command.advancesCursor name with
    | false => rfl
    | true => exact (c.advanced_succ _).symm

end Session

/-! ## Rows and an error -/

namespace Cursor

variable {S : Type} {c : Cursor S} {rows : List Row} {e : QueryError}
  {rest : List (Except QueryError Row)} {asked : Nat}

/-- The cursor over some rows, an error, and whatever comes after it, when it was asked for a row so
many times, but not more often than there are rows. -/
def interrupted (c : Cursor S) (rows : List Row) (e : QueryError)
    (rest : List (Except QueryError Row)) (asked : Nat) : Cursor S :=
  { c with
    source :=
      ⟨c.columns, .incoming ((rows.drop asked).map .ok ++ .error e :: rest),
        (rows.take asked).getLast?⟩
    state := .after rows.length asked }

theorem interrupted_going (within : asked ≤ rows.length) :
    (c.interrupted rows e rest asked).state = .unopened ∨
      (c.interrupted rows e rest asked).state = .onRow := by
  show CursorState.after rows.length asked = _ ∨ CursorState.after rows.length asked = _
  unfold CursorState.after
  rw [if_pos within]
  split
  · exact .inl rfl
  · exact .inr rfl

/-- In front of the error, going on brings the cursor to the next row. -/
theorem advance_interrupted (more : asked < rows.length) :
    (c.interrupted rows e rest asked).advance =
      (.ok true, c.interrupted rows e rest (asked + 1)) := by
  have next : (c.interrupted rows e rest asked).source.next =
      (.ok true, (c.interrupted rows e rest (asked + 1)).source) := by
    unfold interrupted
    rw [List.drop_eq_getElem_cons more, List.take_succ_eq_append_getElem more, List.getLast?_concat]
    rfl
  rw [advance_of_next (interrupted_going (Nat.le_of_lt more)) next]
  unfold interrupted
  rw [CursorState.after_succ, if_pos (Nat.succ_le_of_lt more)]
  rfl

theorem interrupted_onRow (c : Cursor S) (e : QueryError) (rest : List (Except QueryError Row))
    {row : Row} (found : rows[asked]? = some row) :
    (c.interrupted rows e rest (asked + 1)).state = .onRow ∧
      (c.interrupted rows e rest (asked + 1)).source.current = some row := by
  obtain ⟨within, here⟩ := List.getElem?_eq_some_iff.mp found
  refine ⟨(CursorState.after_succ _ _).trans (if_pos within), ?_⟩
  show (rows.take (asked + 1)).getLast? = some row
  rw [List.take_succ_eq_append_getElem within, List.getLast?_concat, here]

/-- Up to the error, the cursor is on the row that the last call has reached. -/
theorem advanced_interrupted
    (source : c.source = .ofReplies c.columns (rows.map .ok ++ .error e :: rest))
    (state : c.state = .unopened) (within : asked ≤ rows.length) :
    c.advanced asked = c.interrupted rows e rest asked := by
  induction asked with
  | zero =>
    show c = { c with
      source := .ofReplies c.columns (rows.map .ok ++ .error e :: rest), state := .unopened }
    rw [← source, ← state]
  | succ asked ih =>
    rw [advanced, ih (Nat.le_of_succ_le within), advance_interrupted (Nat.lt_of_succ_le within)]

/-- The state in front of the error. -/
theorem interrupted_state (c : Cursor S) (rows : List Row) (e : QueryError)
    (rest : List (Except QueryError Row)) :
    (c.interrupted rows e rest rows.length).state = if rows = [] then .unopened else .onRow := by
  show CursorState.after rows.length rows.length = _
  unfold CursorState.after
  rw [if_pos (Nat.le_refl _)]
  simp only [List.length_eq_zero_iff]

/-- At the error, going on fails and leaves the cursor where it is. -/
theorem advance_of_error (c : Cursor S) (rows : List Row) (e : QueryError)
    (rest : List (Except QueryError Row)) :
    ∃ d, (c.interrupted rows e rest rows.length).advance = (.error (.query e), d) ∧
      SameRow d (c.interrupted rows e rest rows.length) := by
  have next : (c.interrupted rows e rest rows.length).source.next =
      (.error (.query e), ⟨c.columns, .incoming rest, (rows.take rows.length).getLast?⟩) := by
    unfold interrupted
    rw [List.drop_length]
    exact RowSource.next_incoming_error _ _ _ _
  exact ⟨_, advance_of_next_error (interrupted_going (Nat.le_refl _)) next, rfl, rfl, rfl, rfl, rfl⟩

end Cursor

namespace Postgres

/-! ## The cursor of a query -/

theorem script_of_set {s s' : Statement} {position : Nat} {v : Value} {ss ss' : Streams}
    (accepted : s.set position v ss = (.ok s', ss')) : s'.script = s.script := by
  unfold Statement.set at accepted
  obtain ⟨w, ss₁, -, put⟩ := bind_run_eq_ok_iff.mp accepted
  split at put
  · cases put
  · cases put
    rfl

/-- Binding values keeps what the server does with the statement. -/
theorem script_bindAll (r : Registry) (values : List Value) (s : Statement) (ss : Streams) :
    (Binding.bindAll r (Database.set Server) values s ss).1.2.script = s.script :=
  Binding.bindFrom_keeps (P := fun s' => s'.script = s.script)
    (fun ran same => (script_of_set ran).trans same) r 1 values s ss rfl

section

variable {s : Session Server Statement} {name template : String} {values : List Value}
  {groups : List (List Value)}

theorem script_of_ready {q : Request} {statement : Statement} {c : Connection Server}
    (prepared : s.ready q = (.ok statement, c)) : statement.script = s.connection.server.next := by
  cases rewritten : Template.rewrite q.template q.values q.groups with
  | error e =>
    rw [Session.ready_of_rewrite_error rewritten] at prepared
    cases prepared
  | ok query =>
    rw [Session.ready_run rewritten, prepare_run] at prepared
    split at prepared
    · cases prepared
    · rename_i statement₁ server ran
      have fresh : statement₁ = .prepared s.connection.server.next q.keys := by
        split at ran
        · cases ran
        · split at ran
          · cases ran
          · cases ran
            rfl
      have kept := script_bindAll s.dao.registry query.values statement₁ s.connection.streams
      split at prepared
      · rename_i statement₂ streams bound
        cases prepared
        rw [bound] at kept
        exact kept.trans (congrArg Statement.script fresh)
      · cases prepared

/-- A query that succeeds makes a cursor over what the server does with the next statement. -/
theorem lookup_of_select {n : Nat}
    (selected : (s.step (.select name template values groups)).1 = .width n) :
    ∃ statement, (s.step (.select name template values groups)).2.cursors.lookup name =
      some (.ofSource (.ofReplies s.connection.server.next.columnList
        s.connection.server.next.replies) statement s.dao.registry
          (!s.dao.features.nullResultsDisabled)) := by
  have asks : (Command.select name template values groups).request s.dao.features =
      some ⟨template, values, groups, .none⟩ := rfl
  rcases prepared : s.ready ⟨template, values, groups, .none⟩ with ⟨e | statement, c⟩
  · rw [Session.step_of_prepare_error asks prepared] at selected
    cases selected
  · rw [Session.step_select_of_ready prepared asks] at selected ⊢
    rcases queried : Database.query statement c.server with ⟨e | source, server⟩
    · rw [queried] at selected
      cases selected
    · dsimp only
      rw [Session.putCursor_cursors, query_eq_ok queried, script_of_ready prepared]
      exact ⟨_, Named.lookup_put_self _ _ _⟩

/-- **An error between rows loses nothing.** A query has succeeded, and the server sends some rows
and then an error, whatever follows. The session does any commands that leave the cursor its name.

* As long as the cursor is not closed and was asked for fewer rows than there are, going on finds
  the next one, in order, and reads it as if there were no others.
* Asked once more, going on fails with the error. The cursor is where it was: in front of the rows
  if there are none, and on the last one otherwise. It has the same columns, and every reading gives
  the same.
* It can always be closed. -/
theorem error_between_rows {rows : List Row} {e : QueryError} {rest : List (Except QueryError Row)}
    {n : Nat} (selected : (s.step (.select name template values groups)).1 = .width n)
    (sends : s.connection.server.next.replies = rows.map .ok ++ .error e :: rest)
    (commands : List Command) (kept : ∀ command ∈ commands, command.keepsCursor name = true) :
    let s' := ((s.step (.select name template values groups)).2.run commands).2
    let asked := commands.countP (·.advancesCursor name)
    let next := s'.step (.advance name)
    (∃ c, (s'.step (.closeCursor name)).2.cursors.lookup name = some c ∧ c.state = .closed) ∧
    ((∀ command ∈ commands, command.releasesCursor name = false) →
      ∃ c d, s'.cursors.lookup name = some c ∧ next.2.cursors.lookup name = some d ∧
        d.columns = s.connection.server.next.columnList ∧
        next.2.connection = s'.connection ∧
        (∀ row, rows[asked]? = some row →
          next.1 = .truth true ∧ d.state = .onRow ∧ d.source.current = some row ∧
          ∀ reading, Session.read d reading =
            Session.read (Cursor.ofSource (S := Statement)
              (.ofRows s.connection.server.next.columnList [row]) none s.dao.registry
                (!s.dao.features.nullResultsDisabled)).advance.2 reading) ∧
        (asked = rows.length →
          next.1 = .failed (.query e) ∧
          c.state = (if rows = [] then .unopened else .onRow) ∧ d.state = c.state ∧
          d.columns = c.columns ∧ c.source.current = rows.getLast? ∧
          ∀ reading, Session.read d reading = Session.read c reading)) := by
  intro s' asked next
  obtain ⟨statement, made⟩ := lookup_of_select selected
  let start : Cursor Statement :=
    .ofSource (.ofReplies s.connection.server.next.columnList s.connection.server.next.replies)
      statement s.dao.registry (!s.dao.features.nullResultsDisabled)
  obtain ⟨c, found, same⟩ := Session.lookup_run made kept
  refine ⟨⟨c.close.2, ?_, rfl⟩, fun unreleased => ?_⟩
  · rw [Session.step_closeCursor found]
    exact Named.lookup_put_self _ _ _
  · have went : next = _ := Session.step_advance found
    have receives : c.Receives s.connection.server.next.columnList s.dao.registry _ :=
      same unreleased ▸ (receives_replies _ statement _ _).advanced asked
    have upTo (within : asked ≤ rows.length) : c = start.interrupted rows e rest asked :=
      (same unreleased).trans
        (Cursor.advanced_interrupted (congrArg (RowSource.ofReplies _) sends) rfl within)
    refine ⟨c, c.advance.2, found, ?_, receives.advance.columns, ?_, fun row reached => ?_,
      fun all => ?_⟩
    · rw [went]
      exact Named.lookup_put_self _ _ _
    · rw [went]
    · have more : asked < rows.length := (List.getElem?_eq_some_iff.mp reached).1
      have advanced : c.advance = (.ok true, start.interrupted rows e rest (asked + 1)) :=
        upTo (Nat.le_of_lt more) ▸ Cursor.advance_interrupted more
      obtain ⟨onRow, current⟩ := start.interrupted_onRow e rest reached
      rw [went, advanced]
      exact ⟨rfl, onRow, current, Session.read_of_sameRow ⟨rfl, current, rfl, rfl, onRow⟩⟩
    · have here : c = start.interrupted rows e rest rows.length := all ▸ upTo (Nat.le_of_eq all)
      obtain ⟨d, failed, sameRow⟩ := start.advance_of_error rows e rest
      rw [← here] at failed sameRow
      rw [went, failed]
      refine ⟨rfl, ?_, sameRow.state, sameRow.columns, ?_, Session.read_of_sameRow sameRow⟩
      · rw [here]
        exact start.interrupted_state rows e rest
      · rw [here]
        show (rows.take rows.length).getLast? = _
        rw [List.take_length]

end

/-- One of two rows is sent, and then an error: the first call finds the row, the second one fails,
and the row is still there. -/
theorem error_between_rows_after_one :
    let script : Script :=
      { Script.empty with
        columns := [("id", .int4)]
        rows := [[some [0, 0, 0, 7]], [some [0, 0, 0, 8]]]
        errorAfter := some 1 }
    let s : Session Server Statement := .start ⟨.empty, ⟨[script], []⟩⟩ ⟨.standard, default⟩
    let opened := (s.step (.select "r" "select id from t" [] [])).2
    let s' := (opened.run [.advance "r", .read "r" (.getValue (.label "ID"))]).2
    (s.step (.select "r" "select id from t" [] [])).1 = .width 1 ∧
      (opened.step (.advance "r")).1 = .truth true ∧
      (s'.step (.advance "r")).1 = .failed (.query .server) ∧
      ∃ c d, s'.cursors.lookup "r" = some c ∧
        (s'.step (.advance "r")).2.cursors.lookup "r" = some d ∧ d.state = .onRow ∧
        c.source.current = some [.ok (.int .w32 (.clamp 32 7))] ∧
        ∀ reading, Session.read d reading = Session.read c reading := by
  intro script s opened s'
  have rewritten : Template.rewrite "select id from t" ([] : List Value) [] =
      .ok ⟨"select id from t", []⟩ := eq_ok_of_toOption_eq_some (by decide +kernel)
  have sendable : Char.ofNat 0 ∉ (nativeSql "select id from t" .none).toList := by decide +kernel
  have prepared : s.ready ⟨"select id from t", [], [], .none⟩ = (.ok (.prepared script .none),
      ⟨.empty, s.connection.server.parsed (nativeSql "select id from t" .none)⟩) := by
    rw [Session.ready_run rewritten, prepare_run, if_neg sendable]
    rfl
  have selected : (s.step (.select "r" "select id from t" [] [])).1 = .width 1 := by
    rw [Session.step_select_of_ready prepared rfl]
    rfl
  have sends : s.connection.server.next.replies =
      [[.ok (.int .w32 (.clamp 32 7))]].map .ok ++ .error .server :: [] := rfl
  obtain ⟨-, beforeFirst⟩ := error_between_rows selected sends [] (List.forall_mem_nil _)
  obtain ⟨_, _, _, _, _, _, goesOn, -⟩ := beforeFirst (List.forall_mem_nil _)
  obtain ⟨-, onFirst⟩ := error_between_rows selected sends
    [.advance "r", .read "r" (.getValue (.label "ID"))] (by simp [Command.keepsCursor])
  obtain ⟨c, d, found, went, -, -, -, fails⟩ := onFirst (by simp [Command.releasesCursor])
  obtain ⟨failed, onRow, same, -, current, reads⟩ := fails rfl
  exact ⟨selected, (goesOn _ rfl).1, failed, c, d, found, went, same.trans onRow, current, reads⟩

end Postgres

end SqlAccess
