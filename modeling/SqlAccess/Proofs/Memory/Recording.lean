import SqlAccess.Proofs.Binding.Conversions
import SqlAccess.Proofs.Memory.Statements
import SqlAccess.Proofs.Session.Requests
import SqlAccess.Proofs.Template.Independence

/-!
# What the database in memory notes

Every execution leaves a note on the server and takes the next response. This module says which
commands get as far as that and what they note, however many of them come one after the other.

* `bindFrom_eq_ok_iff`: binding accepts exactly the values that can be converted, and the
  parameters are the converted values in their order.
* `ready_of_rewrite`: what binding the rewritten values comes to.
* `step_exchange`: what one request notes and takes, and how its answer shows the response.
* `executions_recorded`: a run of requests.
-/

namespace SqlAccess.Memory

open Binding (Converted InOrder)

/-! ## Parameters -/

/-- Values with the positions from `position` on. -/
def numbered : Nat → List Value → List (Nat × Value)
  | _, [] => []
  | position, v :: vs => (position, v) :: numbered (position + 1) vs

theorem map_numbered (position : Nat) (vs : List Value) :
    (numbered position vs).map (·.2) = vs := by
  induction vs generalizing position with
  | nil => rfl
  | cons v vs ih => exact congrArg (v :: ·) (ih (position + 1))

/-- A position behind all others goes to the end. -/
theorem setParam_of_lt {position : Nat} {v : Value} {params : List (Nat × Value)}
    (behind : ∀ p ∈ params, p.1 < position) :
    setParam position v params = params ++ [(position, v)] := by
  induction params with
  | nil => rfl
  | cons p params ih =>
    have before : p.1 < position := behind p List.mem_cons_self
    have others := ih fun p mem => behind p (List.mem_cons_of_mem _ mem)
    rw [setParam, if_neg (Nat.not_lt_of_lt before), if_neg (Nat.ne_of_gt before), others]
    rfl

theorem set_run {s : Statement} {position : Nat} (positive : position ≠ 0) (v : Value)
    (ss : Streams) :
    s.set position v ss = (.ok { s with params := setParam position v s.params }, ss) := by
  unfold Statement.set
  rw [if_neg positive]
  rfl

theorem set_eq_error {s : Statement} {position : Nat} {v : Value} {ss ss' : Streams} {e : Error}
    (refused : s.set position v ss = (.error e, ss')) : ∃ reason, e = .bind position reason := by
  unfold Statement.set at refused
  split at refused
  · cases refused
    exact ⟨_, rfl⟩
  · cases refused

/-- Binding accepts the values that can be converted, and sets them in their order. -/
theorem bindFrom_eq_ok_iff {r : Registry} {position : Nat} (positive : position ≠ 0)
    {vs : List Value} {s s' : Statement} (behind : ∀ p ∈ s.params, p.1 < position)
    {ss ss' : Streams} :
    Binding.bindFrom r Statement.set position vs s ss = ((.ok (), s'), ss') ↔
      ∃ ws, InOrder (Converted r) vs ss ws ss' ∧
        s' = { s with params := s.params ++ numbered position ws } := by
  induction vs generalizing position s ss with
  | nil =>
    constructor
    · intro bound
      cases bound
      refine ⟨[], .nil, ?_⟩
      rw [numbered, List.append_nil]
    · rintro ⟨ws, ⟨⟩, rfl⟩
      rw [numbered, List.append_nil]
      rfl
  | cons v vs ih =>
    have set_eq (w : Value) (ss₁ : Streams) : s.set position w ss₁ =
        (.ok { s with params := s.params ++ [(position, w)] }, ss₁) := by
      rw [set_run positive, setParam_of_lt behind]
    have next (w : Value) (ss₁ : Streams) :
        Binding.bindFrom r Statement.set (position + 1) vs
            { s with params := s.params ++ [(position, w)] } ss₁ = ((.ok (), s'), ss') ↔
          ∃ ws, InOrder (Converted r) vs ss₁ ws ss' ∧
            s' = { s with
              params := s.params ++ [(position, w)] ++ numbered (position + 1) ws } := by
      refine ih (Nat.succ_ne_zero position) fun p mem => ?_
      rcases List.mem_append.1 mem with mem | mem
      · exact Nat.lt_succ_of_lt (behind p mem)
      · rw [List.mem_singleton.1 mem]
        exact Nat.lt_succ_self position
    rw [Binding.bindFrom_cons_eq_ok_iff]
    constructor
    · rintro ⟨w, ss₁, s₁, ss₂, converted, accepted, bound⟩
      rw [set_eq] at accepted
      cases accepted
      obtain ⟨ws, ordered, rfl⟩ := (next w ss₁).1 bound
      refine ⟨w :: ws, .cons converted ordered, ?_⟩
      simp only [numbered, List.append_assoc, List.cons_append, List.nil_append]
    · rintro ⟨ws, ⟨⟩ | ⟨converted, ordered⟩, rfl⟩
      rename_i w ws ss₁
      refine ⟨w, ss₁, _, ss₁, converted, set_eq w ss₁, (next w ss₁).2 ⟨ws, ordered, ?_⟩⟩
      simp only [numbered, List.append_assoc, List.cons_append, List.nil_append]

theorem bindAll_eq_ok_iff {r : Registry} {vs : List Value} {sql : String} {keys : Keys}
    {s : Statement} {ss ss' : Streams} :
    Binding.bindAll r (Database.set Server) vs (.prepared sql keys) ss = ((.ok (), s), ss') ↔
      ∃ ws, InOrder (Converted r) vs ss ws ss' ∧
        s = { Statement.prepared sql keys with params := numbered 1 ws } :=
  bindFrom_eq_ok_iff Nat.one_ne_zero (List.forall_mem_nil _)

/-! ## Notes and responses -/

/-- The part of a server that executions change. -/
structure Exchange where
  recorded : List Recorded
  responses : List Response
  defaultResponse : Response

def Server.exchange (server : Server) : Exchange :=
  ⟨server.recorded, server.responses, server.defaultResponse⟩

/-- What an execution of the statement notes. -/
def Statement.note (s : Statement) : Recorded := ⟨s.sql, s.params.map (·.2), s.keys⟩

namespace Exchange

/-- The response that the next execution takes: the first of the queue, and the default one if the
queue is empty. -/
def next (x : Exchange) : Response := x.responses.headD x.defaultResponse

/-- What several executions leave, which note this. -/
def after (x : Exchange) (log : List Recorded) : Exchange :=
  ⟨x.recorded ++ log, x.responses.drop log.length, x.defaultResponse⟩

theorem after_nil (x : Exchange) : x.after [] = x := by
  rw [after, List.append_nil]
  rfl

theorem after_after (x : Exchange) (log later : List Recorded) :
    (x.after log).after later = x.after (log ++ later) := by
  simp only [after, List.append_assoc, List.drop_drop, List.length_append]

theorem next_after (x : Exchange) (log : List Recorded) :
    (x.after log).next = x.responses.getD log.length x.defaultResponse := by
  simp only [next, after, List.headD_eq_head?_getD, List.head?_drop, List.getD_eq_getElem?_getD]

end Exchange

/-- The outcome of an execution that takes this response. -/
def Response.outcome (r : Response) : Except Error Response :=
  match r.error with
  | some message => .error (.query (.reported message))
  | none => .ok r

/-- An open statement notes its execution and takes the next response, also if that is a failure. -/
theorem Statement.execute_run {s : Statement} (isOpen : s.closed = false) (server : Server) :
    (s.execute server).1 = server.exchange.next.outcome ∧
      (s.execute server).2.exchange = server.exchange.after [s.note] := by
  unfold Statement.execute
  rw [isOpen]
  constructor
  · rfl
  · show Exchange.mk _ server.responses.tail _ = Exchange.mk _ (server.responses.drop 1) _
    rw [List.drop_one]
    rfl

/-- A closed one does not get as far. -/
theorem Statement.execute_exchange (s : Statement) (server : Server) :
    ∃ log, (s.execute server).2.exchange = server.exchange.after log := by
  cases closed : s.closed with
  | false => exact ⟨_, (execute_run closed server).2⟩
  | true =>
    refine ⟨[], ?_⟩
    unfold Statement.execute
    rw [closed, Exchange.after_nil]
    rfl

theorem query_run (s : Statement) (server : Server) :
    Database.query s server =
      ((s.execute server).1.map fun r => r.table.source, (s.execute server).2) := by
  show (s.execute >>= fun r => pure r.table.source) server = _
  rw [bind_run]
  rcases s.execute server with ⟨_ | r, server'⟩
  · rfl
  · rfl

theorem update_run (s : Statement) (server : Server) :
    Database.update s server =
      ((s.execute server).1.map fun r =>
        (r.updateCount,
          { s with identities := if s.keys.isRequested then r.identities else none }),
        (s.execute server).2) := by
  show s.update server = _
  rw [Statement.update, bind_run]
  rcases s.execute server with ⟨_ | r, server'⟩
  · rfl
  · rfl

theorem close_exchange (s : Statement) (server : Server) :
    (Database.close s server).2.exchange = server.exchange := by
  show (s.close server).2.exchange = _
  unfold Statement.close
  split
  · rfl
  · rfl

/-! ## One request -/

section

variable {s : Session Server Statement} {q : Request} {query : Template.Query Value}

/-- The notes and responses of a session's server. -/
def exchange (s : Session Server Statement) : Exchange := s.connection.server.exchange

/-- Preparing and binding leave no note. -/
theorem ready_of_rewrite (rewritten : Template.rewrite q.template q.values q.groups = .ok query) :
    (∃ params statement streams server,
      InOrder (Converted s.dao.registry) query.values s.connection.streams params streams ∧
        s.ready q = (.ok statement, ⟨streams, server⟩) ∧
        statement.closed = false ∧ statement.note = ⟨query.sql, params, q.keys⟩ ∧
        server.exchange = exchange s) ∨
    ((¬ ∃ params streams,
      InOrder (Converted s.dao.registry) query.values s.connection.streams params streams) ∧
      ∃ position reason connection, s.ready q = (.error (.bind position reason), connection) ∧
        connection.server.exchange = exchange s) := by
  have prepared := Session.ready_run (s := s) rewritten
  rw [prepare_call] at prepared
  dsimp only at prepared
  have kept := closed_bindAll s.dao.registry query.values (.prepared query.sql q.keys)
    s.connection.streams
  rcases bound : Binding.bindAll s.dao.registry (Database.set Server) query.values
    (Statement.prepared query.sql q.keys) s.connection.streams with ⟨⟨e | _, s'⟩, streams⟩
  · rw [bound] at prepared
    dsimp only at prepared
    obtain ⟨position, reason, rfl⟩ := Binding.bindFrom_eq_error set_eq_error bound
    refine .inr ⟨?_, position, reason, _, prepared, close_exchange _ _⟩
    rintro ⟨params, streams', ordered⟩
    cases bound.symm.trans (bindAll_eq_ok_iff.2 ⟨params, ordered, rfl⟩)
  · rw [bound] at prepared kept
    dsimp only at prepared kept
    obtain ⟨params, ordered, rfl⟩ := bindAll_eq_ok_iff.1 bound
    refine .inl ⟨params, _, streams, _, ordered, prepared, kept, ?_, rfl⟩
    show Recorded.mk _ ((numbered 1 params).map (·.2)) _ = _
    rw [map_numbered]
    rfl

end

/-- The answer to a request says what the response says, or a new cursor does. -/
def Shown (keys : Keys) (response : Response) (answer : Answer) (after : Session Server Statement) :
    Command → Prop
  | .select name .. =>
    answer = .width response.table.columns.length ∧
      ∃ statement, after.cursors.lookup name =
        some (.ofSource response.table.source (some statement) after.dao.registry
          (!after.dao.features.nullResultsDisabled))
  | .update .. => answer = .count response.updateCount
  | .insert .. =>
    answer =
      if keys.isRequested then
        .ofOutcome .inserted ((Dao.collect (response.identities.map Table.source)).map fun ids =>
          ⟨response.updateCount, some ids⟩)
      else .inserted ⟨response.updateCount, none⟩
  | .insertOne .. => keys.isRequested = false → answer = .number (.clamp 64 response.updateCount)
  | _ => False

/-- A failing response fails the request in its words, and every other one is shown. -/
def Answered (keys : Keys) (response : Response) (answer : Answer)
    (after : Session Server Statement) (command : Command) : Prop :=
  match response.error with
  | some message => answer = .failed (.query (.reported message))
  | none => Shown keys response answer after command

section

variable {s : Session Server Statement} {command : Command} {q : Request} {statement : Statement}
  {c : Connection Server}

/-- A request whose statement is bound notes one execution and takes one response. -/
theorem exchange_step (asks : command.request s.dao.features = some q)
    (prepared : s.ready q = (.ok statement, c)) (isOpen : statement.closed = false) :
    exchange (s.step command).2 = c.server.exchange.after [statement.note] := by
  have executed := (statement.execute_run isOpen c.server).2
  refine Session.view_step close_exchange asks prepared ?_ ?_
  · rw [query_run]
    exact executed
  · rw [update_run]
    exact executed

theorem answered_insert {template : String} {values : List Value} {fields : List String}
    (asks : Command.request s.dao.features (.insert template values fields) = some q)
    (prepared : s.ready q = (.ok statement, c)) (isOpen : statement.closed = false)
    (keys : statement.keys = q.keys) :
    Answered q.keys c.server.exchange.next (s.step (.insert template values fields)).1
      (s.step (.insert template values fields)).2 (.insert template values fields) := by
  rw [Session.step_insert_of_ready prepared asks, update_run,
    (statement.execute_run isOpen c.server).1]
  unfold Answered Response.outcome
  cases c.server.exchange.next.error with
  | some message => rfl
  | none =>
    dsimp only [Except.map, Shown]
    rw [keys]
    cases q.keys.isRequested with
    | true => rfl
    | false => rfl

/-- The answer shows that response. -/
theorem answered_step (asks : command.request s.dao.features = some q)
    (prepared : s.ready q = (.ok statement, c)) (isOpen : statement.closed = false)
    (keys : statement.keys = q.keys) :
    Answered q.keys c.server.exchange.next (s.step command).1 (s.step command).2 command := by
  cases command with
  | insert template values fields => exact answered_insert asks prepared isOpen keys
  | select name template values groups =>
    rw [Session.step_select_of_ready prepared asks, query_run,
      (statement.execute_run isOpen c.server).1]
    unfold Answered Response.outcome
    cases c.server.exchange.next.error with
    | some message => rfl
    | none =>
      refine ⟨rfl, statement, ?_⟩
      dsimp only [Except.map]
      rw [Session.putCursor_cursors, Session.putCursor_dao]
      exact Named.lookup_put_self _ _ _
  | update template values conditions groups =>
    rw [Session.step_update_of_ready prepared asks, update_run,
      (statement.execute_run isOpen c.server).1]
    unfold Answered Response.outcome
    cases c.server.exchange.next.error with
    | some message => rfl
    | none => exact rfl
  | insertOne template values fields =>
    have inserted : Answered q.keys _ _ _ (.insert template values fields) :=
      answered_insert asks prepared isOpen keys
    obtain ⟨-, failed, counted⟩ := s.step_insertOne template values fields
    unfold Answered at inserted ⊢
    cases failing : c.server.exchange.next.error with
    | some message =>
      rw [failing] at inserted
      exact failed _ inserted
    | none =>
      rw [failing] at inserted
      intro unasked
      dsimp only [Shown] at inserted
      rw [unasked] at inserted
      exact counted _ inserted
  | _ => cases asks

/-- A request that fails before its statement is bound leaves notes and responses as they are;
every other one notes its text, its converted values and its identities, and takes the next
response. -/
theorem step_exchange (asks : command.request s.dao.features = some q) :
    let answer := (s.step command).1
    let after := (s.step command).2
    match Template.rewrite q.template q.values q.groups with
    | .error e => answer = .failed (.template e) ∧ exchange after = exchange s
    | .ok query =>
      (∃ params streams,
        InOrder (Converted s.dao.registry) query.values s.connection.streams params streams ∧
          exchange after = (exchange s).after [⟨query.sql, params, q.keys⟩] ∧
          Answered q.keys (exchange s).next answer after command) ∨
      ((¬ ∃ params streams,
        InOrder (Converted s.dao.registry) query.values s.connection.streams params streams) ∧
        (∃ position reason, answer = .failed (.bind position reason)) ∧
        exchange after = exchange s) := by
  intro answer after
  cases rewritten : Template.rewrite q.template q.values q.groups with
  | error e =>
    have stepped := Session.step_of_prepare_error asks (Session.ready_of_rewrite_error rewritten)
    exact ⟨congrArg Prod.fst stepped, congrArg (exchange ·.2) stepped⟩
  | ok query =>
    rcases ready_of_rewrite rewritten with
      ⟨params, statement, streams, server, ordered, prepared, isOpen, note, same⟩ |
      ⟨unordered, position, reason, connection, failed, same⟩
    · have noted := exchange_step asks prepared isOpen
      have answered := answered_step asks prepared isOpen (congrArg Recorded.keys note)
      rw [same, note] at noted
      rw [same] at answered
      exact .inl ⟨params, streams, ordered, noted, answered⟩
    · have stepped := Session.step_of_prepare_error asks failed
      have unchanged : exchange after = connection.server.exchange :=
        congrArg (exchange ·.2) stepped
      exact .inr ⟨unordered, ⟨position, reason, congrArg Prod.fst stepped⟩, unchanged.trans same⟩

end

/-! ## Runs -/

/-- Whatever a command does, notes are only added, and each of them takes one response. -/
theorem exchange_step_append (s : Session Server Statement) (command : Command) :
    ∃ log, exchange (s.step command).2 = (exchange s).after log := by
  have unchanged {x : Exchange} (same : x = exchange s) : ∃ log, x = (exchange s).after log :=
    ⟨[], same.trans (Exchange.after_nil _).symm⟩
  cases asks : command.request s.dao.features with
  | none =>
    have stepped := Session.view_step_of_no_request close_exchange (fun _ _ _ => rfl) s asks
    rcases stepped with same | ⟨statement, queried | updated⟩
    · exact unchanged same
    · rw [query_run] at queried
      obtain ⟨log, executed⟩ := statement.execute_exchange s.connection.server
      exact ⟨log, queried.trans executed⟩
    · rw [update_run] at updated
      obtain ⟨log, executed⟩ := statement.execute_exchange s.connection.server
      exact ⟨log, updated.trans executed⟩
  | some q =>
    have stepped := step_exchange asks
    dsimp only at stepped
    split at stepped
    · exact unchanged stepped.2
    · rcases stepped with ⟨params, streams, -, noted, -⟩ | ⟨-, -, same⟩
      · exact ⟨_, noted⟩
      · exact unchanged same

theorem run_append (s : Session Server Statement) (commands : List Command) :
    (s.run commands).2.dao = s.dao ∧
      ∃ log, exchange (s.run commands).2 = (exchange s).after log := by
  induction commands generalizing s with
  | nil => exact ⟨rfl, [], (Exchange.after_nil _).symm⟩
  | cons command commands ih =>
    obtain ⟨first, noted⟩ := exchange_step_append s command
    obtain ⟨same, others, later⟩ := ih (s.step command).2
    refine ⟨same.trans (s.dao_step command), first ++ others, ?_⟩
    rw [← Exchange.after_after, ← noted]
    exact later

/-- **Every execution is noted once and takes one response.** After any run of commands the notes
are those from before the run and a log of the run, and as many responses have been taken as the
log is long. A request that comes then leaves both as they are if its template does not fit its
values, or if one of the values cannot be converted. Otherwise it adds one note, of the rewritten
text, the converted values in their order and the identities it asks for, and its answer shows the
one response it takes: the next of the queue, also if that is a failure, and the default one when
the queue has run out. -/
theorem executions_recorded (s : Session Server Statement) (commands : List Command)
    (command : Command) (q : Request) (asks : command.request s.dao.features = some q) :
    let before := (s.run commands).2
    let answer := (before.step command).1
    let after := (before.step command).2
    ∃ log, exchange before = (exchange s).after log ∧
      match Template.rewrite q.template q.values q.groups with
      | .error e => answer = .failed (.template e) ∧ exchange after = (exchange s).after log
      | .ok query =>
        let Binds params streams :=
          InOrder (Converted s.dao.registry) query.values before.connection.streams params streams
        (∃ params streams, Binds params streams ∧
          exchange after = (exchange s).after (log ++ [⟨query.sql, params, q.keys⟩]) ∧
          Answered q.keys ((exchange s).responses.getD log.length (exchange s).defaultResponse)
            answer after command) ∨
        ((¬ ∃ params streams, Binds params streams) ∧
          (∃ position reason, answer = .failed (.bind position reason)) ∧
          exchange after = (exchange s).after log) := by
  obtain ⟨same, log, noted⟩ := run_append s commands
  have asks' : command.request (s.run commands).2.dao.features = some q := by
    rw [same]
    exact asks
  have stepped := step_exchange asks'
  dsimp only at stepped ⊢
  simp only [noted, same, Exchange.after_after, Exchange.next_after] at stepped
  exact ⟨log, noted, stepped⟩

/-- An update without text takes nothing, and the insert after it takes the one failure that is
queued, with its number noted as a decimal. -/
theorem executions_recorded_insert :
    let last : Response := ⟨⟨[], []⟩, 1, none, none⟩
    let server : Server := ⟨[{ last with error := some "lost" }], last, [], 0⟩
    let s : Session Server Statement := .start ⟨.empty, server⟩ ⟨.empty, ⟨true, false⟩⟩
    let number : Value := .int .w128 (.clamp 128 5)
    let text := "insert into t values (?)"
    let outcome := (s.run [.update "" [] [] []]).2.step (.insert text [number] [])
    (Command.insert text [number] []).request s.dao.features = some ⟨text, [number], [], .all⟩ ∧
      outcome.1 = .failed (.query (.reported "lost")) ∧
      ∃ d : Decimal, d.scale = 0 ∧ d.negative = false ∧ d.magnitude = 5 ∧
        exchange outcome.2 = ⟨[⟨text, [.decimal d], .all⟩], [], last⟩ := by
  intro last server s number text outcome
  have asks : (Command.insert text [number] []).request s.dao.features =
      some ⟨text, [number], [], .all⟩ := rfl
  have rewritten : Template.rewrite text [number] [] = .ok ⟨text, [number]⟩ := by
    have onPlaces : Template.rewrite text [0] [] = .ok ⟨text, [0]⟩ :=
      eq_ok_of_toOption_eq_some (by decide +kernel)
    have replaced := Template.rewrite_replaced (fun _ => number) text [0] []
    rw [onPlaces] at replaced
    exact replaced
  obtain ⟨log, noted, ran⟩ := executions_recorded s [.update "" [] [] []] _ _ asks
  have nothing : log = [] := (congrArg Exchange.recorded noted).symm
  subst nothing
  dsimp only at ran
  rw [rewritten] at ran
  rcases ran with ⟨params, streams, ordered, exchanged, answered⟩ | ⟨refused, -⟩
  · refine ⟨asks, answered, ?_⟩
    rcases ordered with _ | ⟨converted, ⟨⟩⟩
    change Converted _ (.int .w128 (.clamp 128 5)) _ _ _ at converted
    rcases converted with ⟨notWide, -⟩ | ⟨scale, sign, size⟩
    · exact absurd rfl (notWide _)
    · exact ⟨_, scale, sign, size, exchanged⟩
  · let five : Decimal := ⟨false, 5, 0, by decide, by decide⟩
    have converted : Converted .empty number .empty (.decimal five) .empty := .wide rfl rfl rfl
    exact absurd ⟨_, _, .cons converted .nil⟩ refused

end SqlAccess.Memory
