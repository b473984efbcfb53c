import SqlAccess.Proofs.Postgres.Parameters
import SqlAccess.Proofs.Session.Requests
import SqlAccess.Proofs.Template.Independence

/-!
# What the server is sent

A request comes to at most two messages: its text, and then the values of the server's parameters.
This module says which requests get as far as either of them, and what the messages hold. The
queries by which the client looks up types that are not built in are not counted; a statement with
built-in types only has none.

* `prepare_run`: the text, and the one text that cannot be sent.
* `Statement.execute_log`: the values, once they all have entries.
* `Binds`: when they have, and `Binds.unique`: the entries are settled then.
* `messages_sent`: all that a request sends.
-/

namespace SqlAccess.Postgres

open Binding (InOrder)

/-- The clause that asks for identities. -/
def returning : Keys → String
  | .none => ""
  | .all => " RETURNING *"
  | .columns names => " RETURNING " ++ String.intercalate ", " names

theorem nativeSql_eq (sql : String) (keys : Keys) :
    nativeSql sql keys = numberPlaceholders sql ++ returning keys := by
  cases keys with
  | none => exact (String.append_empty).symm
  | all => rfl
  | columns names => exact String.append_assoc

/-- What the server does with the next statement. -/
def Server.next (server : Server) : Script := server.scripts.headD .empty

/-- The server when it has been sent a text. -/
def Server.parsed (server : Server) (text : String) : Server :=
  { scripts := server.scripts.tail, log := server.log ++ [.parse text] }

/-- A text goes to the server unless it holds a NUL character. -/
theorem prepare_run (sql : String) (keys : Keys) (server : Server) :
    (Database.prepare sql keys : ServerM Server Statement) server =
      if Char.ofNat 0 ∈ (nativeSql sql keys).toList then (.error (.query .unsendable), server)
      else if server.next.refusesPrepare then
        (.error (.query .server), server.parsed (nativeSql sql keys))
      else (.ok (.prepared server.next keys), server.parsed (nativeSql sql keys)) := by
  show prepare sql keys server = _
  unfold prepare
  simp only [List.contains_iff_mem]
  rfl

/-- The rows of a query are what the script sends. -/
theorem query_eq_ok {s : Statement} {server server' : Server} {source : RowSource}
    (queried : Database.query s server = (.ok source, server')) :
    source = .ofReplies s.script.columnList s.script.replies := by
  change s.query server = _ at queried
  unfold Statement.query at queried
  obtain ⟨_, _, -, given⟩ := bind_run_eq_ok_iff.mp queried
  exact (pure_run_eq_ok_iff.mp given).1

/-- Closing a statement sends nothing. -/
theorem close_log (s : Statement) (server : Server) :
    (Database.close s server).2.log = server.log := rfl

/-- What is sent when the statement is run. -/
def Statement.bindMessage (s : Statement) : List Message :=
  match s.encodeParams with
  | .ok entries => [.bind entries]
  | .error _ => []

theorem Statement.execute_log (s : Statement) (server : Server) :
    (s.execute server).2.log = server.log ++ s.bindMessage := by
  unfold execute bindMessage
  cases s.encodeParams with
  | error e => exact (List.append_nil _).symm
  | ok entries => rfl

/-- What comes after an execution sends nothing more. -/
theorem query_log (s : Statement) (server : Server) :
    (Database.query s server).2.log = server.log ++ s.bindMessage := by
  have executed := s.execute_log server
  show (s.query server).2.log = _
  rw [Statement.query, bind_run]
  rcases ran : s.execute server with ⟨_ | _, server'⟩
  · rw [ran] at executed
    exact executed
  · rw [ran] at executed
    exact executed

theorem update_log (s : Statement) (server : Server) :
    (Database.update s server).2.log = server.log ++ s.bindMessage := by
  have executed := s.execute_log server
  show (s.update server).2.log = _
  rw [Statement.update, bind_run]
  rcases ran : s.execute server with ⟨_ | _, server'⟩
  · rw [ran] at executed
    exact executed
  · rw [ran] at executed
    dsimp only
    cases s.keys.isRequested with
    | true =>
      cases s.script.allRows with
      | ok rows => exact executed
      | error e => exact executed
    | false =>
      cases s.script.errorAfter.isSome with
      | true => exact executed
      | false => exact executed

/-! ## One request -/

section

variable {s : Session Server Statement} {command : Command} {q : Request}
  {query : Template.Query Value}

/-- The messages that a session has sent. -/
def sent (s : Session Server Statement) : List Message := s.connection.server.log

theorem sent_of_failed (asks : command.request s.dao.features = some q) {e : Error}
    {connection : Connection Server} (failed : s.ready q = (.error e, connection)) :
    sent (s.step command).2 = connection.server.log :=
  congrArg (sent ·.2) (Session.step_of_prepare_error asks failed)

/-- A text that cannot be sent ends the request. -/
theorem ready_of_nul (rewritten : Template.rewrite q.template q.values q.groups = .ok query)
    (nul : Char.ofNat 0 ∈ (nativeSql query.sql q.keys).toList) :
    s.ready q = (.error (.query .unsendable), s.connection) := by
  rw [Session.ready_run rewritten, prepare_run, if_pos nul]

/-- The server takes the text, the values are received in their order, and the parameters of the
server take them one by one. -/
def Binds (s : Session Server Statement) (values : List Value)
    (entries : List (Option (List UInt8))) : Prop :=
  s.connection.server.next.refusesPrepare = false ∧
    ∃ received streams,
      InOrder (Received s.dao.registry) values s.connection.streams received streams ∧
        Encoded s.connection.server.next.params received entries

variable (rewritten : Template.rewrite q.template q.values q.groups = .ok query)
  (sendable : Char.ofNat 0 ∉ (nativeSql query.sql q.keys).toList)
include rewritten sendable

theorem ready_of_refused (refused : s.connection.server.next.refusesPrepare = true) :
    s.ready q =
      (.error (.query .server),
        { s.connection with
          server := s.connection.server.parsed (nativeSql query.sql q.keys) }) := by
  rw [Session.ready_run rewritten, prepare_run, if_neg sendable, if_pos refused]

theorem ready_of_accepted (accepted : s.connection.server.next.refusesPrepare = false) :
    s.ready q =
      match Binding.bindAll s.dao.registry Statement.set query.values
        (.prepared s.connection.server.next q.keys) s.connection.streams with
      | ((.ok (), statement), streams) =>
        (.ok statement, ⟨streams, s.connection.server.parsed (nativeSql query.sql q.keys)⟩)
      | ((.error e, _), streams) =>
        (.error e, ⟨streams, s.connection.server.parsed (nativeSql query.sql q.keys)⟩) := by
  have notRefused : ¬ s.connection.server.next.refusesPrepare = true := by
    rw [accepted]
    nofun
  have setter : (Database.set Server : Setter Statement) = Statement.set := rfl
  rw [Session.ready_run rewritten, prepare_run, if_neg sendable, if_neg notRefused, setter]
  dsimp only
  rcases Binding.bindAll s.dao.registry Statement.set query.values
    (.prepared s.connection.server.next q.keys) s.connection.streams with
    ⟨⟨_ | _, statement⟩, streams⟩
  · rfl
  · rfl

/-- Preparing and binding send the text and nothing else. -/
theorem ready_log :
    (s.ready q).2.server.log = sent s ++ [.parse (nativeSql query.sql q.keys)] := by
  cases refused : s.connection.server.next.refusesPrepare with
  | true =>
    rw [ready_of_refused rewritten sendable refused]
    rfl
  | false =>
    rw [ready_of_accepted rewritten sendable refused]
    rcases Binding.bindAll s.dao.registry Statement.set query.values
      (.prepared s.connection.server.next q.keys) s.connection.streams with
      ⟨⟨_ | _, statement⟩, streams⟩
    · rfl
    · rfl

/-- The statement of a request is prepared, bound and encoded exactly if its values bind. -/
theorem binds_iff {entries : List (Option (List UInt8))} :
    Binds s query.values entries ↔
      ∃ statement c, s.ready q = (.ok statement, c) ∧ statement.encodeParams = .ok entries := by
  constructor
  · rintro ⟨accepted, received, streams, ordered, encoded⟩
    have ran := ready_of_accepted rewritten sendable accepted
    have count : received.length = query.values.length := ordered.length_eq
    have fits : received.length ≤ s.connection.server.next.params.length :=
      Nat.le_of_eq encoded.length_eq
    have bound : Binding.bindAll s.dao.registry Statement.set query.values
        (.prepared s.connection.server.next q.keys) s.connection.streams =
          ((.ok (), .bound s.connection.server.next q.keys received), streams) :=
      bindAll_eq_ok_iff.2 ⟨count ▸ fits, received, ordered, rfl⟩
    rw [bound] at ran
    exact ⟨_, _, ran, (encodeParams_bound_iff fits).2 encoded⟩
  · rintro ⟨statement, c, prepared, encoded⟩
    cases refused : s.connection.server.next.refusesPrepare with
    | true =>
      rw [ready_of_refused rewritten sendable refused] at prepared
      cases prepared
    | false =>
      have ran := ready_of_accepted rewritten sendable refused
      rcases bound : Binding.bindAll s.dao.registry Statement.set query.values
        (.prepared s.connection.server.next q.keys) s.connection.streams with
        ⟨⟨_ | _, statement'⟩, streams⟩
      · rw [bound, prepared] at ran
        cases ran
      · rw [bound, prepared] at ran
        cases ran
        obtain ⟨fits, received, ordered, rfl⟩ := bindAll_eq_ok_iff.1 bound
        have count : received.length = query.values.length := ordered.length_eq
        exact ⟨refused, received, streams, ordered,
          (encodeParams_bound_iff (count ▸ fits)).1 encoded⟩

/-- The values and the streams settle what is sent for the values. -/
theorem Binds.unique {entries entries' : List (Option (List UInt8))}
    (first : Binds s query.values entries) (second : Binds s query.values entries') :
    entries = entries' := by
  obtain ⟨statement, c, ready, encoded⟩ := (binds_iff rewritten sendable).1 first
  obtain ⟨statement', c', ready', encoded'⟩ := (binds_iff rewritten sendable).1 second
  cases ready.symm.trans ready'
  exact Except.ok.inj (encoded.symm.trans encoded')

end

/-- **Text and parameters meet again in step.** If the template of a request does not fit its
values, or if its text cannot be sent, the server is sent nothing. Otherwise it is sent the
rewritten text, with numbered placeholders and the clause for the identities. The entries of the
parameters follow exactly if the server takes the text, every value is received, and every
parameter takes the value of its position: one message, with one entry for each parameter.

These are the messages of the request's own statement, whatever types its parameters and columns
have. What the client asks after the text, to look up types that are not built in, is left out. -/
theorem messages_sent (s : Session Server Statement) (command : Command) (q : Request)
    (asks : command.request s.dao.features = some q) :
    let after := sent (s.step command).2
    match Template.rewrite q.template q.values q.groups with
    | .error _ => after = sent s
    | .ok query =>
      let text := numberPlaceholders query.sql ++ returning q.keys
      if Char.ofNat 0 ∈ text.toList then after = sent s
      else
        (∃ entries, Binds s query.values entries ∧
          after = sent s ++ [.parse text, .bind entries]) ∨
        ((¬ ∃ entries, Binds s query.values entries) ∧ after = sent s ++ [.parse text]) := by
  intro after
  cases rewritten : Template.rewrite q.template q.values q.groups with
  | error e => exact sent_of_failed asks (Session.ready_of_rewrite_error rewritten)
  | ok query =>
    dsimp only
    rw [← nativeSql_eq]
    split
    · rename_i nul
      exact sent_of_failed asks (ready_of_nul rewritten nul)
    · rename_i sendable
      have noted := ready_log (s := s) rewritten sendable
      have binds (entries : List (Option (List UInt8))) :
          Binds s query.values entries ↔
            ∃ statement c, s.ready q = (.ok statement, c) ∧
              statement.encodeParams = .ok entries :=
        binds_iff rewritten sendable
      rcases prepared : s.ready q with ⟨e | statement, c⟩
      · rw [prepared] at noted
        refine .inr ⟨?_, (sent_of_failed asks prepared).trans noted⟩
        rintro ⟨entries, bound⟩
        obtain ⟨statement, c', ready, -⟩ := (binds entries).1 bound
        cases prepared.symm.trans ready
      · rw [prepared] at noted
        have executed : after = c.server.log ++ statement.bindMessage :=
          Session.view_step close_log asks prepared (query_log statement c.server)
            (update_log statement c.server)
        rw [noted, List.append_assoc] at executed
        cases encoded : statement.encodeParams with
        | ok entries =>
          refine .inl ⟨entries, (binds entries).2 ⟨statement, c, prepared, encoded⟩, ?_⟩
          rw [executed, Statement.bindMessage, encoded]
          rfl
        | error e =>
          refine .inr ⟨?_, ?_⟩
          · rintro ⟨entries, bound⟩
            obtain ⟨statement', c', ready, encoded'⟩ := (binds entries).1 bound
            cases prepared.symm.trans ready
            cases encoded.symm.trans encoded'
          · rw [executed, Statement.bindMessage, encoded]
            rfl

/-- An insert of a stream and of the label of a tree, with all identities asked for. The stream has
two bytes left, and the text goes behind the number of its format. -/
theorem messages_sent_stream :
    let script : Script := { Script.empty with params := [.bytea, .other "ltree" 16500] }
    let connection : Connection Server := ⟨⟨[.ofBytes [1, 2]]⟩, ⟨[script], []⟩⟩
    let s : Session Server Statement := .start connection ⟨.empty, ⟨true, false⟩⟩
    let q : Request := ⟨"insert into t values (?, ?)", [.blob 0, .text "a"], [], .all⟩
    let command : Command := .insert q.template q.values []
    command.request s.dao.features = some q ∧
      sent (s.step command).2 =
        [.parse "insert into t values ($1, $2) RETURNING *", .bind [some [1, 2], some [1, 97]]] := by
  intro script connection s q command
  have asks : command.request s.dao.features = some q := rfl
  have rewritten : Template.rewrite q.template q.values q.groups =
      .ok ⟨"insert into t values (?, ?)", q.values⟩ := by
    have onPlaces : Template.rewrite q.template [true, false] [] =
        .ok ⟨"insert into t values (?, ?)", [true, false]⟩ :=
      eq_ok_of_toOption_eq_some (by decide +kernel)
    have replaced := Template.rewrite_replaced
      (fun first => if first then Value.blob 0 else .text "a") q.template [true, false] []
    rw [onPlaces] at replaced
    exact replaced
  have text : numberPlaceholders "insert into t values (?, ?)" ++ returning .all =
      "insert into t values ($1, $2) RETURNING *" := by decide +kernel
  have sendable : Char.ofNat 0 ∉ "insert into t values ($1, $2) RETURNING *".toList := by
    decide +kernel
  have binds : Binds s q.values [some [1, 2], some [1, 97]] := by
    have first : Received .empty (.blob 0) connection.streams (.bytes [1, 2]) _ :=
      ⟨.plain (fun _ => Value.noConfusion) (fun _ => Value.noConfusion), .bytes rfl⟩
    have second (ss : Streams) : Received .empty (.text "a") ss (.text "a") ss :=
      ⟨.plain (fun _ => Value.noConfusion) (fun _ => Value.noConfusion),
        .plain (fun _ => Value.noConfusion) (fun _ => Value.noConfusion)⟩
    have encoded : Encoded script.params [.bytes [1, 2], .text "a"] [some [1, 2], some [1, 97]] :=
      .cons ⟨.bytea [1, 2], rfl, rfl, rfl⟩
        (.cons ⟨.text "a", rfl, by decide, by decide⟩ .nil)
    exact ⟨rfl, _, _, .cons first (.cons (second _) .nil), encoded⟩
  have messages := messages_sent s command q asks
  dsimp only at messages
  rw [rewritten] at messages
  dsimp only at messages
  rw [text, if_neg sendable] at messages
  refine ⟨asks, ?_⟩
  rcases messages with ⟨entries, binds', sentBoth⟩ | ⟨unbound, -⟩
  · have sendable' : Char.ofNat 0 ∉
        (nativeSql "insert into t values (?, ?)" q.keys).toList := by
      rw [nativeSql_eq, text]
      exact sendable
    rw [binds'.unique rewritten sendable' binds] at sentBoth
    exact sentBoth
  · exact absurd ⟨_, binds⟩ unbound

/-- A text with a NUL character is rewritten, and yet not sent. -/
theorem nul_text_not_sent :
    let s : Session Server Statement := .start ⟨.empty, ⟨[.empty], []⟩⟩ ⟨.empty, default⟩
    Template.rewrite "a\x00b" ([] : List Value) [] = .ok ⟨"a\x00b", []⟩ ∧
      Message.parse (numberPlaceholders "a\x00b" ++ returning .none) ∉
        sent (s.step (.update "a\x00b" [] [] [])).2 := by
  intro s
  have rewritten : Template.rewrite "a\x00b" ([] : List Value) [] = .ok ⟨"a\x00b", []⟩ := by
    have onPlaces : Template.rewrite "a\x00b" ([] : List Nat) [] = .ok ⟨"a\x00b", []⟩ :=
      eq_ok_of_toOption_eq_some (by decide +kernel)
    have replaced := Template.rewrite_replaced Value.blob "a\x00b" [] []
    rw [onPlaces] at replaced
    exact replaced
  have nul : Char.ofNat 0 ∈ (nativeSql "a\x00b" .none).toList := by decide +kernel
  have asks : (Command.update "a\x00b" [] [] []).request s.dao.features =
      some ⟨"a\x00b", [], [], .none⟩ := rfl
  have unsent := sent_of_failed asks (ready_of_nul rewritten nul)
  constructor
  · exact rewritten
  · rw [unsent]
    exact List.not_mem_nil

end SqlAccess.Postgres
