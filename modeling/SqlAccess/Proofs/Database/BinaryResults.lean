import SqlAccess.Proofs.Cursor.Deliveries
import SqlAccess.Proofs.Database.Reports
import SqlAccess.Proofs.Postgres.ResultRows

/-!
# Results without a stream of text

A stream of bytes is never met as one of text, unless somebody puts it there. For the rows that a
database sends, this is a matter of the database: one in memory sends back the responses that it was
given, and PostgreSQL sends no streams at all.

* `BinaryResults`: what the calls of a database keep, so that its rows do not have the stream for
  one of text.
* `Identities.Binary.asInteger_spares`: reading a generated identity leaves the stream alone.
* `Memory.binaryResults` and `Postgres.binaryResults`: the two kinds of database.
-/

namespace SqlAccess

open StreamM (Spares)

section

variable {σ S : Type} [Database σ S]

/-- The identities that are taken next do not have the stream for one of text. -/
def ReportsBinary (σ : Type) {S : Type} [Database σ S] (id : StreamId) (s : S) : Prop :=
  ∀ source, handedOut σ s = some source → source.Binary id

/-- As long as the server is `clean`, no rows have the stream for one of text. -/
structure BinaryResults (σ : Type) {S : Type} [Database σ S] (id : StreamId)
    (clean : σ → Prop) : Prop where
  prepare : ∀ (sql : String) (keys : Keys) {server : σ}, clean server →
    clean (Database.prepare sql keys server).2 ∧
      ∀ s, (Database.prepare sql keys server).1 = .ok s → ReportsBinary σ id s
  set : ∀ {s s' : S} {position : Nat} {v : Value} {ss ss' : Streams}, ReportsBinary σ id s →
    Database.set σ s position v ss = (.ok s', ss') → ReportsBinary σ id s'
  query : ∀ (s : S) {server : σ}, clean server → clean (Database.query s server).2 ∧
    ∀ source, (Database.query s server).1 = .ok source → source.Binary id
  update : ∀ (s : S) {server : σ}, clean server → clean (Database.update s server).2 ∧
    ∀ count s', (Database.update s server).1 = .ok (count, s') → ReportsBinary σ id s →
      ReportsBinary σ id s'
  close : ∀ (s : S) {server : σ}, clean server → clean (Database.close s server).2

/-- Binding values does not change what is reported. -/
theorem BinaryResults.bindAll {id : StreamId} {clean : σ → Prop}
    (results : BinaryResults σ id clean) (r : Registry) (values : List Value) {s : S}
    (ss : Streams) (reports : ReportsBinary σ id s) :
    ReportsBinary σ id (Binding.bindAll r (Database.set σ) values s ss).1.2 :=
  Binding.bindFrom_keeps (P := ReportsBinary σ id)
    (fun accepted reports => results.set reports accepted) r 1 values s ss reports

end

/-! ## Identities -/

namespace Identities

variable {id : StreamId}

/-- No identity has the stream for one of text. -/
def Binary (id : StreamId) (ids : Identities) : Prop := ∀ e ∈ ids.entries, e.2 ≠ .clob id

theorem ofRows_ne_clob {type : ColumnType} {source : RowSource} (binary : source.Binary id)
    {fuel : Nat} {entries : List (ColumnType × Value)}
    (read : ofRows type source fuel = .ok entries) : ∀ e ∈ entries, e.2 ≠ .clob id := by
  induction fuel generalizing source entries with
  | zero =>
    cases read
    exact List.forall_mem_nil _
  | succ fuel ih =>
    rw [ofRows] at read
    split at read
    · cases read
    · cases read
      exact List.forall_mem_nil _
    · rename_i source' ran
      have next := binary.next
      rw [ran] at next
      obtain ⟨v, value, following⟩ := bind_eq_ok_iff.mp read
      obtain ⟨others, readOthers, together⟩ := bind_eq_ok_iff.mp following
      cases together
      intro e mem
      rcases List.mem_cons.mp mem with rfl | later
      · rintro rfl
        exact next.value_ne 0 value
      · exact ih next readOthers e later

theorem Binary.collect {reported : Option RowSource}
    (binary : ∀ source, reported = some source → source.Binary id) {ids : Identities}
    (collected : Dao.collect reported = .ok ids) : ids.Binary id := by
  cases reported with
  | none =>
    cases collected
    exact List.forall_mem_nil _
  | some source =>
    obtain ⟨entries, read, rfl⟩ := map_eq_ok_iff.mp collected
    exact ofRows_ne_clob (binary source rfl) read

theorem Binary.present_ne {ids : Identities} (binary : ids.Binary id) {i : Nat} {t : Target}
    {c : ColumnType} {v : Value} (found : ids.present i t = .ok (c, v)) : v ≠ .clob id := by
  obtain ⟨⟨c', v'⟩, entry, given⟩ := bind_eq_ok_iff.mp found
  unfold Identities.entry at entry
  split at entry
  · rename_i e here
    cases entry
    dsimp only at given
    by_cases missing : v'.isNull = true
    · rw [if_pos missing] at given
      cases given
    · rw [if_neg missing] at given
      cases given
      exact binary (c, v) (List.mem_of_getElem? here)
  · cases entry

/-- Reading an identity leaves the stream alone. -/
theorem Binary.coerce_spares {v : Value} (binary : v ≠ .clob id) (c : ColumnType) {t : Target}
    (other : t ≠ .host .bytes) : Spares id (StreamM.mapError Error.coercion
      (Registry.standard.coerce v c t)) :=
  ((Registry.standard_coerce_hands binary c t).congr
    fun _ => Value.handed_of_target_ne other).mapError _

theorem Binary.asText_spares {ids : Identities} (binary : ids.Binary id) (i : Nat) :
    Spares id (ids.asText .standard i) := by
  unfold asText
  split
  · exact .throw
  · rename_i c v found
    refine (coerce_spares (t := .host .text) (binary.present_ne found) c nofun).bind fun _ _ => ?_
    split
    · exact .pure rfl
    · exact .throw

theorem Binary.asInteger_spares {ids : Identities} (binary : ids.Binary id) (i : Nat) :
    Spares id (ids.asInteger .standard i) := by
  unfold asInteger
  split
  · exact .throw
  · rename_i c v found
    split
    · refine (coerce_spares (t := .host (.int .w64)) (binary.present_ne found) c nofun).bind
        fun {ss w ss'} _ _ => ?_
      cases w with
      | int width n =>
        cases width with
        | w64 => exact .pure rfl
        | _ => exact .throw
      | _ => exact .throw
    · refine (binary.asText_spares i).bind fun _ _ => ?_
      split
      · exact .pure rfl
      · exact .throw

end Identities

/-! ## The database in memory -/

namespace Memory

variable {id : StreamId} {server : Server}

/-- The table does not have the stream for one of text. -/
def Table.Binary (id : StreamId) (t : Table) : Prop := ∀ row ∈ t.rows, .clob id ∉ row

/-- Neither do the tables of a response. -/
structure Response.Binary (id : StreamId) (r : Response) : Prop where
  table : r.table.Binary id
  identities : ∀ t, r.identities = some t → t.Binary id

/-- Nor do those of all responses that the server may give. -/
def Server.Binary (id : StreamId) (server : Server) : Prop :=
  ∀ r ∈ server.defaultResponse :: server.responses, r.Binary id

theorem Table.Binary.source {t : Table} (binary : t.Binary id) : t.source.Binary id :=
  .ofValues binary

/-- Executions only take responses away. -/
theorem Server.Binary.of_exchange {server' : Server} (binary : server.Binary id)
    {log : List Recorded} (left : server'.exchange = server.exchange.after log) :
    server'.Binary id := by
  have default_ : server'.defaultResponse = server.defaultResponse :=
    congrArg Exchange.defaultResponse left
  have responses : server'.responses = server.responses.drop log.length :=
    congrArg Exchange.responses left
  intro r mem
  rw [default_, responses] at mem
  rcases List.mem_cons.mp mem with same | later
  · exact binary r (List.mem_cons.mpr (.inl same))
  · exact binary r (List.mem_cons_of_mem _ (List.mem_of_mem_drop later))

theorem Server.Binary.execute (binary : server.Binary id) (s : Statement) :
    (s.execute server).2.Binary id := by
  obtain ⟨log, left⟩ := s.execute_exchange server
  exact binary.of_exchange left

theorem Server.Binary.next (binary : server.Binary id) : server.exchange.next.Binary id := by
  show (server.responses.headD server.defaultResponse).Binary id
  cases responses : server.responses with
  | nil => exact binary _ List.mem_cons_self
  | cons r rs =>
    refine binary r (List.mem_cons_of_mem _ ?_)
    rw [responses]
    exact List.mem_cons_self

theorem Statement.execute_eq_ok {s : Statement} {r : Response}
    (ran : (s.execute server).1 = .ok r) : r = server.exchange.next := by
  cases closed : s.closed with
  | true =>
    unfold Statement.execute at ran
    rw [closed] at ran
    cases ran
  | false =>
    rw [(execute_run closed server).1, Response.outcome] at ran
    split at ran
    · cases ran
    · exact (Except.ok.inj ran).symm

theorem binaryResults (id : StreamId) : BinaryResults Server id (Server.Binary id) := by
  constructor
  · intro sql keys server binary
    refine ⟨binary, fun s prepared source taken => ?_⟩
    cases prepared
    cases taken
  · intro s s' position v ss ss' reports accepted source taken
    rw [handedOut_of_set (congrArg Prod.fst accepted)] at taken
    exact reports source taken
  · intro s server binary
    rw [query_run]
    refine ⟨binary.execute s, fun source queried => ?_⟩
    obtain ⟨r, ran, rfl⟩ := map_eq_ok_iff.1 queried
    rw [Statement.execute_eq_ok ran]
    exact binary.next.table.source
  · intro s server binary
    refine ⟨?_, fun count s' updated _ source taken => ?_⟩
    · rw [update_run]
      exact binary.execute s
    · rw [update_eq_ok updated, reports] at taken
      split at taken
      · obtain ⟨t, reported, rfl⟩ := Option.map_eq_some_iff.1 taken
        exact (binary.next.identities t reported).source
      · cases taken
  · intro s server binary
    exact binary.of_exchange ((close_exchange s server).trans (Exchange.after_nil _).symm)

end Memory

/-! ## PostgreSQL -/

namespace Postgres

variable {id : StreamId}

/-- No type of the server is read as a stream. -/
theorem readCell_ne_clob (t : ServerType) (column : Nat) (cell : Option (List UInt8)) :
    readCell t column cell ≠ .ok (.clob id) := by
  intro read
  rcases readCell_eq_ok read with ⟨-, missing⟩ | ⟨bytes, -, decoded⟩
  · cases missing
  · have kind := kind_of_decode decoded
    cases t with
    | _ => cases kind

theorem binary_of_reply {script : Script} {row : Row} (sent : .ok row ∈ script.replies) :
    .ok (.clob id) ∉ row := by
  intro mem
  obtain ⟨cells, -, read⟩ := Script.hasRow_of_reply sent
  unfold Script.readRow at read
  split at read
  · cases read
    obtain ⟨i, within, cell⟩ := List.mem_mapIdx.mp mem
    exact readCell_ne_clob _ _ _ cell
  · cases read

/-- All rows of an execution are among what is sent. -/
theorem reply_of_allRows {script : Script} {rows : List Row} (all : script.allRows = .ok rows) :
    ∀ row ∈ rows, .ok row ∈ script.replies := by
  unfold Script.allRows at all
  generalize script.replies = replies at all
  induction replies generalizing rows with
  | nil =>
    cases all
    exact nofun
  | cons reply replies ih =>
    rw [List.mapM_cons] at all
    obtain ⟨first, same, following⟩ := bind_eq_ok_iff.mp all
    obtain ⟨others, ran, together⟩ := bind_eq_ok_iff.mp following
    cases together
    intro row mem
    rcases List.mem_cons.mp mem with rfl | later
    · exact List.mem_cons.mpr (.inl same.symm)
    · exact List.mem_cons_of_mem _ (ih ran row later)

theorem binary_ofReplies (columns : List Column) (script : Script) :
    (RowSource.ofReplies columns script.replies).Binary id := by
  intro row mem
  obtain ⟨reply, sent, given⟩ := List.mem_filterMap.mp mem
  cases reply with
  | error e => cases given
  | ok row' =>
    cases given
    exact binary_of_reply sent

theorem binaryResults (id : StreamId) : BinaryResults Server id fun _ => True := by
  constructor
  · intro sql keys server _
    refine ⟨trivial, fun s prepared source taken => ?_⟩
    rw [prepare_run] at prepared
    split at prepared
    · cases prepared
    · split at prepared
      · cases prepared
      · cases prepared
        cases taken
  · intro s s' position v ss ss' reports accepted source taken
    obtain ⟨i, w, ss₁, -, -, -, rfl⟩ := set_accepted (congrArg Prod.fst accepted)
    exact reports source taken
  · intro s server _
    refine ⟨trivial, fun source queried => ?_⟩
    rw [query_eq_ok (Prod.ext queried rfl)]
    exact binary_ofReplies _ _
  · intro s server _
    refine ⟨trivial, fun count s' updated reported source taken => ?_⟩
    rw [update_eq_ok updated] at taken
    split at taken
    · change reports s server = some source at taken
      unfold reports at taken
      rw [if_pos ‹_›] at taken
      split at taken
      · rename_i rows all
        cases taken
        exact .ofRows fun row mem => binary_of_reply (reply_of_allRows all row mem)
      · cases taken
    · exact reported source taken
  · intro s server _
    trivial

end Postgres

end SqlAccess
