import SqlAccess.Proofs.Binding.Deliveries
import SqlAccess.Proofs.Database.BinaryResults
import SqlAccess.Proofs.Session.Requests
import SqlAccess.Proofs.Template.Independence

/-!
# What a session hands out of a stream

Among the commands of a session, some read a row and some bind values; all the others leave streams
alone. What a command hands out is told from the session that it finds, and the session that it
leaves does not have the stream for one of text, if it was not given it as one.

* `Session.delivery`: what a command hands out.
* `Session.Delivers`: a session comes to another one and hands this out.
* `step_delivers`: every command does what its delivery says.
-/

namespace SqlAccess

/-- The values that a command brings. -/
def Command.values : Command → List Value
  | .select _ _ values groups => values ++ groups.flatten
  | .update _ values conditions groups => values ++ conditions ++ groups.flatten
  | .insert _ values _ | .insertOne _ values _ => values
  | .rows _ _ table _ | .source _ _ table => table.flatten
  | .set _ _ v => [v]
  | .bindAll _ values => values
  | _ => []

/-- The command does not bring the stream as one of text. -/
def Command.Binary (id : StreamId) (command : Command) : Prop := .clob id ∉ command.values

/-- Neither does what it asks for. -/
theorem Command.Binary.request {id : StreamId} {command : Command} (binary : command.Binary id)
    {features : Features} {q : Request} (asks : command.request features = some q) :
    .clob id ∉ q.values ∧ ∀ group ∈ q.groups, .clob id ∉ group := by
  unfold Command.Binary at binary
  cases command with
  | select | update =>
    cases asks
    rw [Command.values, List.mem_append, not_or] at binary
    exact ⟨binary.1, fun group mem there => binary.2 (List.mem_flatten_of_mem mem there)⟩
  | insert | insertOne =>
    cases asks
    exact ⟨binary, List.forall_mem_nil _⟩
  | _ => cases asks

namespace Session

variable {σ S : Type} [Database σ S] {id : StreamId} {receipt : Binding.Receipt S}
  {clean : σ → Prop} {s s' : Session σ S} {d : Delivery} {name : String}

/-! ## Deliveries -/

/-- What is handed out when a request is bound. -/
def requestDelivery (receipt : Binding.Receipt S) (s : Session σ S) (q : Request) : Delivery :=
  match Template.rewrite q.template q.values q.groups with
  | .error _ => .nothing
  | .ok query =>
    match (Database.prepare query.sql q.keys : ServerM σ S) s.connection.server with
    | (.error _, _) => .nothing
    | (.ok statement, _) => Binding.delivery s.dao.registry (Database.set σ) receipt 1 query.values
        statement s.connection.streams

/-- What a command hands out of a stream. -/
def delivery (receipt : Binding.Receipt S) (id : StreamId) (s : Session σ S) : Command → Delivery
  | .read name reading =>
    match s.cursors.lookup name with
    | some c => c.delivery id reading (read c reading s.connection.streams).1
    | none => .nothing
  | .set name position v =>
    match s.statements.lookup name with
    | some statement =>
      receipt position v (Database.set σ statement position v s.connection.streams).1
    | none => .nothing
  | .bindAll name values =>
    match s.statements.lookup name with
    | some statement => Binding.delivery s.dao.registry (Database.set σ) receipt 1 values statement
        s.connection.streams
    | none => .nothing
  | command =>
    match command.request s.dao.features with
    | some q => s.requestDelivery receipt q
    | none => .nothing

/-- A session with the standard conversions that does not have the stream for one of text. -/
structure Binary (clean : σ → Prop) (id : StreamId) (s : Session σ S) : Prop where
  standard : s.dao.registry = .standard
  cursors : Named.All (Cursor.Binary id) s.cursors
  server : clean s.connection.server

/-- The session comes to another such one and hands this out. -/
structure Delivers (clean : σ → Prop) (id : StreamId) (s : Session σ S) (d : Delivery)
    (s' : Session σ S) : Prop where
  binary : s'.Binary clean id
  streams : s.connection.streams.Delivers id d s'.connection.streams

/-! ## What hands out nothing -/

/-- A command that reads no row, or one that is refused or does not ask for the bytes. -/
def Passes (id : StreamId) (s : Session σ S) : Command → Prop
  | .read name reading => ∀ c, s.cursors.lookup name = some c → c.passes id reading = true
  | _ => True

theorem delivery_read_of_passes {reading : Reading} (passes : s.Passes id (.read name reading)) :
    s.delivery receipt id (.read name reading) = .nothing := by
  rw [delivery]
  split
  · rename_i c found
    exact Cursor.delivery_of_passes (passes c found) _
  · rfl

/-- If setters hand out nothing, only a read may hand out bytes. -/
theorem delivery_of_passes {command : Command} (passes : s.Passes id command)
    (nothing : ∀ position v r, receipt position v r = .nothing) :
    s.delivery receipt id command = .nothing := by
  have request (q : Request) : s.requestDelivery receipt q = .nothing := by
    unfold requestDelivery
    split
    · rfl
    · split
      · rfl
      · exact Binding.delivery_of_nothing nothing _ _ _ _ _ _
  cases command with
  | read name reading => exact delivery_read_of_passes passes
  | set name position v =>
    rw [delivery]
    split
    · exact nothing _ _ _
    · rfl
  | bindAll name values =>
    rw [delivery]
    split
    · exact Binding.delivery_of_nothing nothing _ _ _ _ _ _
    · rfl
  | select | update | insert | insertOne => exact request _
  | _ => rfl

/-! ## What changes besides the streams -/

omit [Database σ S] in
theorem Delivers.refl (binary : s.Binary clean id) (holds : s.connection.streams.Holds id) :
    s.Delivers clean id .nothing s := ⟨binary, .refl holds⟩

omit [Database σ S] in
theorem Delivers.toServer (delivers : s.Delivers clean id d s') {server : σ}
    (kept : clean server) :
    s.Delivers clean id d { s' with connection := { s'.connection with server := server } } :=
  ⟨⟨delivers.binary.standard, delivers.binary.cursors, kept⟩, delivers.streams⟩

omit [Database σ S] in
theorem Delivers.toCursors (delivers : s.Delivers clean id d s') {cursors : Named (Cursor S)}
    (binary : Named.All (Cursor.Binary id) cursors) :
    s.Delivers clean id d { s' with cursors := cursors } :=
  ⟨⟨delivers.binary.standard, binary, delivers.binary.server⟩, delivers.streams⟩

omit [Database σ S] in
theorem Delivers.toStatements (delivers : s.Delivers clean id d s') (statements : Named S) :
    s.Delivers clean id d { s' with statements := statements } :=
  ⟨⟨delivers.binary.standard, delivers.binary.cursors, delivers.binary.server⟩, delivers.streams⟩

omit [Database σ S] in
theorem Delivers.putSource (delivers : s.Delivers clean id d s') (name : String)
    (source : RowSource) : s.Delivers clean id d (s'.putSource name source) :=
  ⟨⟨delivers.binary.standard, delivers.binary.cursors, delivers.binary.server⟩, delivers.streams⟩

omit [Database σ S] in
theorem Delivers.spare (delivers : s.Delivers clean id d s') {streams : Streams}
    (spared : s'.connection.streams.Drains id [] [] streams) :
    s.Delivers clean id d
      { s' with connection := { s'.connection with streams := streams } } :=
  ⟨⟨delivers.binary.standard, delivers.binary.cursors, delivers.binary.server⟩,
    delivers.streams.spare spared⟩

omit [Database σ S] in
theorem Delivers.withCursor (start : s.Delivers clean id .nothing s)
    {f : Cursor S → Answer × Session σ S}
    (keeps : ∀ c, s.cursors.lookup name = some c → s.Delivers clean id .nothing (f c).2) :
    s.Delivers clean id .nothing (s.withCursor name f).2 := by
  unfold Session.withCursor
  split
  · exact keeps _ ‹_›
  · exact start

omit [Database σ S] in
theorem Delivers.withStatement (start : s.Delivers clean id .nothing s)
    {f : S → Answer × Session σ S}
    (keeps : ∀ statement, s.Delivers clean id .nothing (f statement).2) :
    s.Delivers clean id .nothing (s.withStatement name f).2 := by
  unfold Session.withStatement
  split
  · exact keeps _
  · exact start

omit [Database σ S] in
theorem Delivers.withSource (start : s.Delivers clean id .nothing s)
    {f : RowSource → Answer × Session σ S}
    (keeps : ∀ source, s.Delivers clean id .nothing (f source).2) :
    s.Delivers clean id .nothing (s.withSource name f).2 := by
  unfold Session.withSource
  split
  · exact keeps _
  · exact start

omit [Database σ S] in
/-- The streams of a session that hands this out. -/
theorem Delivers.toStreams (binary : s.Binary clean id) {streams : Streams}
    (delivers : s.connection.streams.Delivers id d streams) :
    s.Delivers clean id d { s with connection := { s.connection with streams := streams } } :=
  ⟨⟨binary.standard, binary.cursors, binary.server⟩, delivers⟩

section

variable (results : BinaryResults σ id clean)
include results

theorem Delivers.release (delivers : s.Delivers clean id d s') (statement : S) :
    s.Delivers clean id d (s'.release statement) :=
  delivers.toServer (results.close statement delivers.binary.server)

theorem Delivers.closeCursor (delivers : s.Delivers clean id d s') (c : Cursor S) :
    s.Delivers clean id d (s'.closeCursor c).2 := by
  unfold Session.closeCursor Cursor.close
  cases c.statement with
  | none => exact delivers
  | some statement => exact delivers.release results statement

theorem Delivers.putCursor (delivers : s.Delivers clean id d s') (name : String) {c : Cursor S}
    (binary : c.Binary id) : s.Delivers clean id d (s'.putCursor name c) := by
  unfold Session.putCursor
  cases s'.cursors.lookup name with
  | none => exact delivers.toCursors (delivers.binary.cursors.put name binary)
  | some old =>
    have closed := delivers.closeCursor results old
    exact closed.toCursors (closed.binary.cursors.put name binary)

theorem Delivers.putStatement (delivers : s.Delivers clean id d s') (name : String)
    (statement : S) : s.Delivers clean id d (s'.putStatement name statement) := by
  unfold Session.putStatement
  cases s'.statements.lookup name with
  | none => exact delivers.toStatements _
  | some old => exact (delivers.release results old).toStatements _

end

/-! ## Requests -/

section

variable (results : BinaryResults σ id clean)
  (setter : Binding.SetterDelivers id (Database.set σ) receipt)
  (binary : s.Binary clean id) (holds : s.connection.streams.Holds id)
include results setter binary holds

/-- What binding the values of a request hands out, and that its statement does not report the
stream as one of text. -/
theorem ready_delivers {q : Request} (given : .clob id ∉ q.values)
    (grouped : ∀ group ∈ q.groups, .clob id ∉ group) {r : Except Error S} {c : Connection σ}
    (ran : s.ready q = (r, c)) :
    s.Delivers clean id (s.requestDelivery receipt q) { s with connection := c } ∧
      ∀ statement, r = .ok statement → ReportsBinary σ id statement := by
  have start := Delivers.refl binary holds
  unfold requestDelivery
  cases rewritten : Template.rewrite q.template q.values q.groups with
  | error e =>
    rw [ready_of_rewrite_error rewritten] at ran
    cases ran
    exact ⟨start, nofun⟩
  | ok query =>
    have values := Template.not_mem_rewrite given grouped rewritten
    rw [ready_run rewritten] at ran
    dsimp only
    obtain ⟨kept, reports⟩ := results.prepare query.sql q.keys binary.server
    rcases prepared : (Database.prepare query.sql q.keys : ServerM σ S) s.connection.server with
      ⟨e | statement, server⟩
    · rw [prepared] at ran kept
      cases ran
      exact ⟨start.toServer kept, nofun⟩
    · rw [prepared] at ran kept reports
      dsimp only at ran ⊢
      have delivers := Binding.bindFrom_delivers binary.standard setter 1 values statement holds
      have stillReports := results.bindAll s.dao.registry query.values s.connection.streams
        (reports statement rfl)
      rcases bound : Binding.bindAll s.dao.registry (Database.set σ) query.values statement
        s.connection.streams with ⟨⟨e | _, statement'⟩, streams⟩
      · rw [bound] at ran
        cases ran
        rw [Binding.bindAll] at bound
        rw [bound] at delivers
        exact ⟨((Delivers.toStreams binary delivers).toServer kept).toServer
          (results.close statement' kept), nofun⟩
      · rw [bound] at ran
        cases ran
        rw [bound] at stillReports
        rw [Binding.bindAll] at bound
        rw [bound] at delivers
        exact ⟨(Delivers.toStreams binary delivers).toServer kept, fun _ same =>
          Except.ok.inj same ▸ stillReports⟩

/-- An insert, and the identities that it gives. -/
theorem insert_delivers (template : String) (fields : List String) {values : List Value}
    (given : .clob id ∉ values) :
    let inserted := s.step (.insert template values fields)
    s.Delivers clean id (s.requestDelivery receipt
        ⟨template, values, [], s.dao.features.requestedKeys fields⟩) inserted.2 ∧
      ∀ count ids, inserted.1 = .inserted ⟨count, some ids⟩ → ids.Binary id := by
  intro inserted
  simp only [inserted]
  have asks : Command.request s.dao.features (.insert template values fields) =
    some ⟨template, values, [], s.dao.features.requestedKeys fields⟩ := rfl
  rcases ran : s.ready ⟨template, values, [], s.dao.features.requestedKeys fields⟩ with
    ⟨e | statement, c⟩
  · rw [step_of_prepare_error asks ran]
    exact ⟨(ready_delivers results setter binary holds given (List.forall_mem_nil _) ran).1, nofun⟩
  · obtain ⟨bound, reports⟩ :=
      ready_delivers results setter binary holds given (List.forall_mem_nil _) ran
    obtain ⟨kept, later⟩ := results.update statement bound.binary.server
    rw [step_insert_of_ready ran asks]
    rcases updated : Database.update statement c.server with ⟨e | ⟨count, statement'⟩, server⟩
    · rw [updated] at kept
      exact ⟨bound.toServer (results.close statement kept), nofun⟩
    · rw [updated] at kept later
      have taken := later count statement' rfl (reports statement rfl)
      dsimp only
      split
      · refine ⟨bound.toServer (results.close _ kept), fun count' ids given => ?_⟩
        cases collected : Dao.collect (Database.identities σ statement').1 with
        | error e =>
          rw [collected] at given
          cases given
        | ok ids' =>
          rw [collected] at given
          cases given
          exact .collect taken collected
      · exact ⟨bound.toServer (results.close statement' kept), nofun⟩

/-- A request hands out what binding its values does. What comes after that leaves the stream
alone. -/
theorem request_delivers {command : Command} (given : command.Binary id) {q : Request}
    (asks : command.request s.dao.features = some q) :
    s.Delivers clean id (s.requestDelivery receipt q) (s.step command).2 := by
  obtain ⟨values, groups⟩ := given.request asks
  cases command with
  | select name template values' groups' =>
    rcases ran : s.ready q with ⟨e | statement, c⟩
    · rw [step_of_prepare_error asks ran]
      exact (ready_delivers results setter binary holds values groups ran).1
    · obtain ⟨bound, -⟩ := ready_delivers results setter binary holds values groups ran
      obtain ⟨kept, rows⟩ := results.query statement bound.binary.server
      rw [step_select_of_ready ran asks]
      rcases queried : Database.query statement c.server with ⟨e | source, server⟩
      · rw [queried] at kept
        exact bound.toServer (results.close statement kept)
      · rw [queried] at kept rows
        exact (bound.toServer kept).putCursor results name ⟨binary.standard, rows source rfl⟩
  | update template values' conditions groups' =>
    rcases ran : s.ready q with ⟨e | statement, c⟩
    · rw [step_of_prepare_error asks ran]
      exact (ready_delivers results setter binary holds values groups ran).1
    · obtain ⟨bound, -⟩ := ready_delivers results setter binary holds values groups ran
      obtain ⟨kept, -⟩ := results.update statement bound.binary.server
      rw [step_update_of_ready ran asks]
      rcases updated : Database.update statement c.server with ⟨e | ⟨count, statement'⟩, server⟩
      · rw [updated] at kept
        exact bound.toServer (results.close statement kept)
      · rw [updated] at kept
        exact bound.toServer (results.close statement' kept)
  | insert template values' fields =>
    cases asks
    exact (insert_delivers results setter binary holds template fields given).1
  | insertOne template values' fields =>
    cases asks
    obtain ⟨inserted, identities⟩ :=
      insert_delivers results setter binary holds template fields given
    rcases s.step_insertOne_session template values' fields with same | ⟨count, ids, gave, after⟩
    · rw [same]
      exact inserted
    · have spares := (identities count ids gave).asInteger_spares 0
      rw [after, binary.standard]
      exact inserted.spare (spares.spares inserted.streams.holds)
  | _ => cases asks

/-! ## Steps -/

/-- **Every command hands out what its delivery says,** and takes nothing else, except where the
delivery says so. -/
theorem step_delivers {command : Command} (given : command.Binary id) :
    s.Delivers clean id (s.delivery receipt id command) (s.step command).2 := by
  have start := Delivers.refl binary holds
  cases command with
  | select | update | insert | insertOne =>
    exact request_delivers results setter binary holds given rfl
  | rows name columns rows allowNulls =>
    have table : (RowSource.ofValues columns rows).Binary id := .ofValues fun row mem there =>
      given (List.mem_flatten_of_mem mem there)
    exact start.putCursor results name ⟨binary.standard, table⟩
  | advance name =>
    refine start.withCursor fun c found => ?_
    exact start.toCursors (binary.cursors.put name (binary.cursors.of_lookup found).advance)
  | read name reading =>
    rw [step, withCursor, delivery]
    cases found : s.cursors.lookup name with
    | none => exact start
    | some c =>
      have here := binary.cursors.of_lookup found
      exact .toStreams binary (Cursor.read_delivers here reading holds rfl)
  | closeCursor name =>
    refine start.withCursor fun c found => ?_
    have closed := start.closeCursor results c
    refine closed.toCursors (closed.binary.cursors.put name ?_)
    rw [closeCursor_fst]
    exact (binary.cursors.of_lookup found).close
  | dropCursor name =>
    rw [step]
    cases found : s.cursors.lookup name with
    | none => exact start
    | some c =>
      have closed := start.closeCursor results c
      exact closed.toCursors (closed.binary.cursors.erase name)
  | prepare name sql keys =>
    obtain ⟨kept, -⟩ := results.prepare sql keys binary.server
    rw [step, perform, Access.ofServer]
    rcases prepared : (Database.prepare sql keys : ServerM σ S) s.connection.server with
      ⟨e | statement, server⟩
    · rw [prepared] at kept
      exact start.toServer kept
    · rw [prepared] at kept
      exact (start.toServer kept).putStatement results name statement
  | set name position value =>
    rw [step, withStatement, delivery]
    cases found : s.statements.lookup name with
    | none => exact start
    | some statement =>
      dsimp only
      rw [perform, Access.ofStreams]
      have other : value ≠ .clob id := fun same => given (List.mem_singleton.mpr same.symm)
      rcases ran : Database.set σ statement position value s.connection.streams with
        ⟨e | statement', streams⟩
      · exact .toStreams binary (setter other holds ran)
      · exact (Delivers.toStreams binary (setter other holds ran)).toStatements _
  | bindAll name values =>
    rw [step, withStatement, delivery]
    cases found : s.statements.lookup name with
    | none => exact start
    | some statement =>
      have bound := Binding.bindFrom_delivers binary.standard setter 1 given statement holds
      exact (Delivers.toStreams binary bound).toStatements _
  | query name rows =>
    refine start.withStatement fun statement => ?_
    obtain ⟨kept, -⟩ := results.query statement binary.server
    rw [perform, Access.ofServer]
    rcases queried : Database.query statement s.connection.server with ⟨e | source, server⟩
    · rw [queried] at kept
      exact start.toServer kept
    · rw [queried] at kept
      exact (start.toServer kept).putSource rows source
  | execute name =>
    refine start.withStatement fun statement => ?_
    obtain ⟨kept, -⟩ := results.update statement binary.server
    rw [perform, Access.ofServer]
    rcases updated : Database.update statement s.connection.server with
      ⟨e | ⟨count, statement'⟩, server⟩
    · rw [updated] at kept
      exact start.toServer kept
    · rw [updated] at kept
      exact (start.toServer kept).toStatements _
  | identities name rows =>
    refine start.withStatement fun statement => ?_
    rcases Database.identities σ statement with ⟨_ | source, statement'⟩
    · exact start.toStatements _
    · exact (start.toStatements _).putSource rows source
  | closeStatement name =>
    refine start.withStatement fun statement => ?_
    exact (start.toServer (results.close statement binary.server)).toStatements _
  | dropStatement name =>
    rw [step]
    cases found : s.statements.lookup name with
    | none => exact start
    | some statement => exact (start.release results statement).toStatements _
  | source name columns rows => exact start.putSource name _
  | next name => exact start.withSource fun source => start.putSource name _
  | cell name i => exact start.withSource fun source => start
  | closeSource name => exact start.withSource fun source => start.putSource name _

end

end Session

end SqlAccess
