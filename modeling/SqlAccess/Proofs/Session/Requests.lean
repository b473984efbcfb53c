import SqlAccess.Proofs.Dao.Runs
import SqlAccess.Proofs.Session.Cursors

/-!
# The commands that run a template

Four commands of a session run a template: they differ in what they do with the outcome, but all of
them prepare a statement, bind values to it and run it once. `Command.request` is what they have in
common.

* `ready_run`: what preparing and binding come to, once the template is rewritten.
* `step_of_prepare_error`: if the statement is not prepared and bound, that is the answer.
* `view_step`: what the server has noticed after such a command, where closing a statement goes
  unnoticed; `view_step_of_no_request` says it of all the others.
* `dao_step`: no command changes how templates are run.
-/

namespace SqlAccess

/-- A template with its values, and the identities that are asked for. -/
structure Request where
  template : String
  values : List Value
  groups : List (List Value)
  keys : Keys

/-- The identities that an insert with these fields asks for: those of the fields if any are named,
and else those of all columns if the features say so. -/
def Features.requestedKeys (features : Features) : List String → Keys
  | [] => if features.useGeneratedKeys then .all else .none
  | field :: fields => .columns (field :: fields)

/-- The request of a command that runs a template. -/
def Command.request (features : Features) : Command → Option Request
  | .select _ template values groups => some ⟨template, values, groups, .none⟩
  | .update template values conditions groups =>
    some ⟨template, values ++ conditions, groups, .none⟩
  | .insert template values fields | .insertOne template values fields =>
    some ⟨template, values, [], features.requestedKeys fields⟩
  | _ => none

theorem Dao.keys_eq (dao : Dao) (fields : List String) :
    dao.keys fields = dao.features.requestedKeys fields := by
  cases fields with
  | nil => rfl
  | cons field fields => rfl

namespace Session

variable {σ S : Type} [Database σ S] {s : Session σ S} {command : Command} {q : Request}

/-- The statement of a request, prepared and bound. -/
def ready (s : Session σ S) (q : Request) : Except Error S × Connection σ :=
  (s.dao.prepare q.template q.values q.groups q.keys : Access σ S) s.connection

/-- Nothing is prepared if the template does not fit its values. -/
theorem ready_of_rewrite_error {e : Template.TemplateError}
    (failed : Template.rewrite q.template q.values q.groups = .error e) :
    s.ready q = (.error (.template e), s.connection) := by
  unfold ready
  rw [Dao.prepare_run, failed]

/-- A rewritten text is prepared, and its values are bound to the statement. -/
theorem ready_run {query : Template.Query Value}
    (rewritten : Template.rewrite q.template q.values q.groups = .ok query) :
    s.ready q =
      match (Database.prepare query.sql q.keys : ServerM σ S) s.connection.server with
      | (.error e, server) => (.error e, { s.connection with server := server })
      | (.ok statement, server) =>
        match Binding.bindAll s.dao.registry (Database.set σ) query.values statement
          s.connection.streams with
        | ((.ok (), statement), streams) => (.ok statement, ⟨streams, server⟩)
        | ((.error e, statement), streams) =>
          (.error e, ⟨streams, (Database.close statement server).2⟩) := by
  have prepared := Dao.prepare_run (σ := σ) s.dao q.template q.values q.groups q.keys s.connection
  rw [rewritten] at prepared
  exact prepared

/-- If the statement is not prepared and bound, the command fails with the reason. -/
theorem step_of_prepare_error (asks : command.request s.dao.features = some q) {e : Error}
    {connection : Connection σ} (failed : s.ready q = (.error e, connection)) :
    s.step command = (.failed e, { s with connection := connection }) := by
  unfold ready at failed
  cases command with
  | select name template values groups =>
    cases asks
    rw [step, perform, Dao.select_run, failed]
  | update template values conditions groups =>
    cases asks
    rw [step, runDao, perform, Dao.updateWhere, Dao.update_run, failed]
    rfl
  | insert template values fields =>
    cases asks
    rw [step, runDao, perform, Dao.insert_run, Dao.keys_eq, failed]
    rfl
  | insertOne template values fields =>
    cases asks
    rw [step, runDao, perform, Dao.insertOne_run, Dao.insert_run, Dao.keys_eq, failed]
    rfl
  | _ => cases asks

theorem putCursor_dao (s : Session σ S) (name : String) (c : Cursor S) :
    (s.putCursor name c).dao = s.dao := by
  unfold putCursor
  cases s.cursors.lookup name with
  | none => rfl
  | some old =>
    show (s.closeCursor old).2.dao = s.dao
    rw [closeCursor_eq]

/-- No command changes how templates are run. -/
theorem dao_step (s : Session σ S) (command : Command) : (s.step command).2.dao = s.dao := by
  cases about : command.cursor with
  | none => exact (s.sameCursors_step about).1
  | some used =>
    cases command with
    | select name template values groups =>
      rw [step, perform]
      rcases (s.dao.select template values groups : Access σ (Cursor S)) s.connection with
        ⟨_ | c, connection⟩
      · rfl
      · exact putCursor_dao _ name c
    | rows name columns rows allowNulls => exact putCursor_dao s name _
    | advance name =>
      simp only [step, withCursor]
      split <;> rfl
    | closeCursor name =>
      simp only [step, withCursor]
      split
      · rw [closeCursor_eq]
      · rfl
    | dropCursor name =>
      simp only [step]
      split
      · rfl
      · rw [closeCursor_eq]
    | _ => cases about

/-! ## Once the statement is bound -/

section

variable {statement : S} {c : Connection σ} (prepared : s.ready q = (.ok statement, c))
include prepared

/-- A query fails, or its rows go to a cursor. -/
theorem step_select_of_ready {name template : String} {values : List Value}
    {groups : List (List Value)}
    (asks : Command.request s.dao.features (.select name template values groups) = some q) :
    s.step (.select name template values groups) =
      match Database.query statement c.server with
      | (.error e, server) =>
        (.failed e,
          { s with connection := { c with server := (Database.close statement server).2 } })
      | (.ok source, server) =>
        (.width source.columns.length,
          Session.putCursor { s with connection := { c with server := server } } name
            (.ofSource source (some statement) s.dao.registry
              (!s.dao.features.nullResultsDisabled))) := by
  cases asks
  unfold ready at prepared
  rw [step, perform, Dao.select_run, prepared]
  dsimp only
  rcases Database.query statement c.server with ⟨_ | source, server⟩
  · rfl
  · rfl

theorem step_update_of_ready {template : String} {values conditions : List Value}
    {groups : List (List Value)}
    (asks : Command.request s.dao.features (.update template values conditions groups) = some q) :
    s.step (.update template values conditions groups) =
      match Database.update statement c.server with
      | (.error e, server) =>
        (.failed e,
          { s with connection := { c with server := (Database.close statement server).2 } })
      | (.ok (count, statement), server) =>
        (.count count,
          { s with connection := { c with server := (Database.close statement server).2 } }) := by
  cases asks
  unfold ready at prepared
  rw [step, runDao, perform, Dao.updateWhere, Dao.update_run, prepared]
  dsimp only
  rcases Database.update statement c.server with ⟨_ | ⟨count, statement'⟩, server⟩
  · rfl
  · rfl

theorem step_insert_of_ready {template : String} {values : List Value} {fields : List String}
    (asks : Command.request s.dao.features (.insert template values fields) = some q) :
    s.step (.insert template values fields) =
      match Database.update statement c.server with
      | (.error e, server) =>
        (.failed e,
          { s with connection := { c with server := (Database.close statement server).2 } })
      | (.ok (count, statement), server) =>
        if q.keys.isRequested then
          (.ofOutcome .inserted
              ((Dao.collect (Database.identities σ statement).1).map fun ids => ⟨count, some ids⟩),
            { s with
              connection :=
                { c with
                  server := (Database.close (Database.identities σ statement).2 server).2 } })
        else
          (.inserted ⟨count, none⟩,
            { s with connection := { c with server := (Database.close statement server).2 } }) := by
  cases asks
  unfold ready at prepared
  rw [step, runDao, perform, Dao.insert_run, Dao.keys_eq, prepared]
  dsimp only
  rcases Database.update statement c.server with ⟨_ | ⟨count, statement'⟩, server⟩
  · rfl
  · dsimp only
    cases (s.dao.features.requestedKeys fields).isRequested with
    | true => rfl
    | false => rfl

end

/-- An insert for a number does to the server what the insert does, fails if that fails, and gives
its count if no identities were asked for. -/
theorem step_insertOne (s : Session σ S) (template : String) (values : List Value)
    (fields : List String) :
    (s.step (.insertOne template values fields)).2.connection.server =
        (s.step (.insert template values fields)).2.connection.server ∧
      (∀ e, (s.step (.insert template values fields)).1 = .failed e →
        (s.step (.insertOne template values fields)).1 = .failed e) ∧
      ∀ count, (s.step (.insert template values fields)).1 = .inserted ⟨count, none⟩ →
        (s.step (.insertOne template values fields)).1 = .number (.clamp 64 count) := by
  rw [step, step, runDao, runDao, perform, perform, Dao.insertOne_run]
  rcases (s.dao.insert template values fields : Access σ InsertResult) s.connection with
    ⟨e | ⟨count, identities⟩, c⟩
  · dsimp only
    refine ⟨rfl, fun _ failed => failed, ?_⟩
    intro _ given
    cases given
  · cases identities with
    | none =>
      dsimp only
      refine ⟨rfl, ?_, ?_⟩
      · intro _ failed
        cases failed
      · intro _ given
        cases given
        rfl
    | some identities =>
      dsimp only
      refine ⟨?_, ?_, ?_⟩
      · cases identities.entries.isEmpty with
        | true => rfl
        | false => rfl
      · intro _ failed
        cases failed
      · intro _ given
        cases given

/-- Otherwise it is the insert with an identity read behind it, if there is one. -/
theorem step_insertOne_session (s : Session σ S) (template : String) (values : List Value)
    (fields : List String) :
    let inserted := s.step (.insert template values fields)
    let after := (s.step (.insertOne template values fields)).2
    after = inserted.2 ∨ ∃ count ids, inserted.1 = .inserted ⟨count, some ids⟩ ∧
      after = { inserted.2 with
        connection := { inserted.2.connection with
          streams := (ids.asInteger s.dao.registry 0 inserted.2.connection.streams).2 } } := by
  intro inserted after
  simp only [inserted, after]
  rw [step, step, runDao, runDao, perform, perform, Dao.insertOne_run]
  rcases (s.dao.insert template values fields : Access σ InsertResult) s.connection with
    ⟨e | ⟨count, _ | ids⟩, c⟩
  · exact .inl rfl
  · exact .inl rfl
  · dsimp only
    cases ids.entries.isEmpty with
    | true => exact .inl rfl
    | false => exact .inr ⟨count, ids, rfl, rfl⟩

/-! ## What the server notices -/

section

variable {β : Type} {view : σ → β}
  (unnoticed : ∀ (statement : S) server, view (Database.close statement server).2 = view server)
include unnoticed

theorem view_closeCursor (s : Session σ S) (c : Cursor S) :
    view (s.closeCursor c).2.connection.server = view s.connection.server := by
  unfold closeCursor Cursor.close
  cases c.statement with
  | none => rfl
  | some statement => exact unnoticed statement _

/-- The cursor that loses its name to another one is closed, and nothing else happens. -/
theorem view_putCursor (s : Session σ S) (name : String) (c : Cursor S) :
    view (s.putCursor name c).connection.server = view s.connection.server := by
  unfold putCursor
  cases s.cursors.lookup name with
  | none => rfl
  | some old => exact view_closeCursor unnoticed s old

theorem view_putStatement (s : Session σ S) (name : String) (statement : S) :
    view (s.putStatement name statement).connection.server = view s.connection.server := by
  unfold putStatement
  cases s.statements.lookup name with
  | none => rfl
  | some old => exact unnoticed old _

/-- Where closing a statement goes unnoticed, a request whose statement is bound does to the server
what running the statement does. -/
theorem view_step (asks : command.request s.dao.features = some q) {statement : S}
    {c : Connection σ} (prepared : s.ready q = (.ok statement, c)) {after : β}
    (queried : view (Database.query statement c.server).2 = after)
    (updated : view (Database.update statement c.server).2 = after) :
    view (s.step command).2.connection.server = after := by
  have inserted (template : String) (values : List Value) (fields : List String)
      (asks : Command.request s.dao.features (.insert template values fields) = some q) :
      view (s.step (.insert template values fields)).2.connection.server = after := by
    rw [step_insert_of_ready prepared asks]
    rcases ran : Database.update statement c.server with ⟨_ | ⟨count, statement'⟩, server⟩
    · rw [ran] at updated
      exact (unnoticed _ _).trans updated
    · rw [ran] at updated
      dsimp only
      split
      · exact (unnoticed _ _).trans updated
      · exact (unnoticed _ _).trans updated
  cases command with
  | select name template values groups =>
    rw [step_select_of_ready prepared asks]
    rcases ran : Database.query statement c.server with ⟨_ | source, server⟩
    · rw [ran] at queried
      exact (unnoticed _ _).trans queried
    · rw [ran] at queried
      exact (view_putCursor unnoticed _ _ _).trans queried
  | update template values conditions groups =>
    rw [step_update_of_ready prepared asks]
    rcases ran : Database.update statement c.server with ⟨_ | ⟨count, statement'⟩, server⟩
    · rw [ran] at updated
      exact (unnoticed _ _).trans updated
    · rw [ran] at updated
      exact (unnoticed _ _).trans updated
  | insert template values fields => exact inserted template values fields asks
  | insertOne template values fields =>
    rw [(s.step_insertOne template values fields).1]
    exact inserted template values fields asks
  | _ => cases asks

/-- Where preparing and closing go unnoticed, a command that runs no template does nothing to the
server, or what running a statement does. -/
theorem view_step_of_no_request
    (unprepared : ∀ sql keys (server : σ),
      view ((Database.prepare sql keys : ServerM σ S) server).2 = view server)
    (s : Session σ S) (other : command.request s.dao.features = none) :
    let after := view (s.step command).2.connection.server
    after = view s.connection.server ∨
      ∃ statement : S,
        after = view (Database.query statement s.connection.server).2 ∨
          after = view (Database.update statement s.connection.server).2 := by
  intro after
  cases command with
  | select | update | insert | insertOne => cases other
  | query name rows =>
    simp only [after, step, withStatement]
    split
    · rename_i statement _
      refine .inr ⟨statement, .inl ?_⟩
      simp only [perform, Access.ofServer]
      rcases Database.query statement s.connection.server with ⟨_ | _, server⟩
      · rfl
      · rfl
    · exact .inl rfl
  | execute name =>
    simp only [after, step, withStatement]
    split
    · rename_i statement _
      refine .inr ⟨statement, .inr ?_⟩
      simp only [perform, Access.ofServer]
      rcases Database.update statement s.connection.server with ⟨_ | ⟨_, _⟩, server⟩
      · rfl
      · rfl
    · exact .inl rfl
  | source => exact .inl rfl
  | rows name columns rows allowNulls => exact .inl (view_putCursor unnoticed s name _)
  | advance name | read name | next name | cell name | closeSource name =>
    simp only [after, step, withCursor, withSource]
    split <;> exact .inl rfl
  | closeCursor name =>
    simp only [after, step, withCursor]
    split
    · exact .inl (view_closeCursor unnoticed s _)
    · exact .inl rfl
  | dropCursor name =>
    simp only [after, step]
    split
    · exact .inl rfl
    · exact .inl (view_closeCursor unnoticed s _)
  | prepare name sql keys =>
    have same := unprepared sql keys s.connection.server
    simp only [after, step, perform, Access.ofServer]
    rcases prepared : (Database.prepare sql keys : ServerM σ S) s.connection.server with
      ⟨_ | statement, server⟩
    · rw [prepared] at same
      exact .inl same
    · rw [prepared] at same
      exact .inl ((view_putStatement unnoticed _ name statement).trans same)
  | set name position value =>
    simp only [after, step, withStatement]
    split
    · rename_i statement _
      simp only [perform, Access.ofStreams]
      rcases Database.set σ statement position value s.connection.streams with ⟨_ | _, streams⟩
      · exact .inl rfl
      · exact .inl rfl
    · exact .inl rfl
  | bindAll name values =>
    simp only [after, step, withStatement]
    split
    · exact .inl rfl
    · exact .inl rfl
  | identities name rows =>
    simp only [after, step, withStatement]
    split
    · rename_i statement _
      rcases Database.identities σ statement with ⟨_ | _, _⟩
      · exact .inl rfl
      · exact .inl rfl
    · exact .inl rfl
  | closeStatement name =>
    simp only [after, step, withStatement]
    split
    · rename_i statement _
      exact .inl (unnoticed statement _)
    · exact .inl rfl
  | dropStatement name =>
    simp only [after, step]
    split
    · exact .inl rfl
    · exact .inl (unnoticed _ _)

end

end Session

end SqlAccess
