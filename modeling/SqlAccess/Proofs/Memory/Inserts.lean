import SqlAccess.Proofs.Memory.Recording
import SqlAccess.Registry.Standard

/-!
# What an insert gives

An insert goes through five decisions: which identities it asks for, whether the statement keeps
those of the response, whether there are any, what the first cells of their rows are, and, where a
single number is wanted, which number that is. This module follows a response of the database in
memory through all of them.

* `Reports`: the identities that the rows of a table stand for.
* `collect_eq_ok_iff` and `collect_eq_error_iff`: which identities are collected, and when that
  fails.
* `insert_run_of_binds`: an insert whose values are bound, in terms of the response that it takes.
* `insert_reports_response`: both kinds of insert.
-/

namespace SqlAccess

/-! ## Identities of rows -/

namespace Identities

variable {type : ColumnType} {columns : List Column} {current : Option Row}

theorem ofRows_nil (fuel : Nat) :
    ofRows type ⟨columns, .stored [], current⟩ (fuel + 1) = .ok [] := rfl

theorem ofRows_cons_nil (rows : List Row) (fuel : Nat) :
    ofRows type ⟨columns, .stored ([] :: rows), current⟩ (fuel + 1) =
      .error (.notFound (.cell 0)) := rfl

theorem ofRows_cons_cons (v : Value) (row : Row) (rows : List Row) (fuel : Nat) :
    ofRows type ⟨columns, .stored ((.ok v :: row) :: rows), current⟩ (fuel + 1) =
      (ofRows type ⟨columns, .stored rows, some (.ok v :: row)⟩ fuel).map ((type, v) :: ·) := by
  rw [ofRows]
  dsimp only [RowSource.next]
  cases ofRows type ⟨columns, .stored rows, some (.ok v :: row)⟩ fuel <;> rfl

/-- The entries are the first cells of the rows, of which every row has one. -/
theorem ofRows_eq_ok_iff {rows : List (List Value)} {entries : List (ColumnType × Value)} :
    ofRows type ⟨columns, .stored (rows.map fun row => row.map .ok), current⟩ (rows.length + 1) =
        .ok entries ↔
      entries.map some = rows.map fun row => row.head?.map fun v => (type, v) := by
  induction rows generalizing current entries with
  | nil =>
    rw [List.map_nil, List.map_nil, List.map_eq_nil_iff, ofRows_nil, Except.ok.injEq]
    exact eq_comm
  | cons row rows ih =>
    cases row with
    | nil =>
      rw [List.map_cons, List.map_nil, ofRows_cons_nil]
      cases entries with
      | nil => exact iff_of_false nofun nofun
      | cons entry entries => exact iff_of_false nofun fun same => nomatch (List.cons.inj same).1
    | cons v row =>
      rw [List.map_cons, List.map_cons, List.length_cons, ofRows_cons_cons, map_eq_ok_iff]
      simp only [ih]
      cases entries with
      | nil => simp
      | cons entry entries => grind

/-- That fails if a row has no cell. -/
theorem ofRows_eq_error_iff {rows : List (List Value)} :
    (∃ e, ofRows type ⟨columns, .stored (rows.map fun row => row.map .ok), current⟩
      (rows.length + 1) = .error e) ↔ [] ∈ rows := by
  induction rows generalizing current with
  | nil =>
    rw [List.map_nil, List.length_nil, ofRows_nil]
    simp
  | cons row rows ih =>
    cases row with
    | nil =>
      rw [List.map_cons, List.map_nil, ofRows_cons_nil]
      exact iff_of_true ⟨_, rfl⟩ List.mem_cons_self
    | cons v row =>
      rw [List.map_cons, List.map_cons, List.length_cons, ofRows_cons_cons]
      simp only [map_eq_error_iff, ih, List.mem_cons]
      exact (or_iff_right nofun).symm

end Identities

/-! ## One number -/

theorem Signed.val_clamp (n : Int) :
    (Signed.clamp 64 n).val = max (-2 ^ 63) (min n (2 ^ 63 - 1)) := by
  unfold Signed.clamp
  split
  · dsimp only
    omega
  · split
    · dsimp only
      omega
    · dsimp only
      omega

/-- Which number stands for the outcome of an insert, on the streams that the insert leaves: the
failure itself; the count, at most the greatest number of 64 bits, where there are no identities;
-1 where they are empty; or else the first identity as a number. -/
def Dao.StandsFor (r : Registry) (ss : Streams) :
    Except Error InsertResult → Except Error (Signed 64) → Prop
  | .error e, one => one = .error e
  | .ok ⟨count, none⟩, one => one.map Signed.val = .ok (min (count : Int) (2 ^ 63 - 1))
  | .ok ⟨_, some ⟨[]⟩⟩, one => one.map Signed.val = .ok (-1)
  | .ok ⟨_, some ids⟩, one => one = (ids.asInteger r 0 ss).1

theorem Dao.insertOne_outcome {σ S : Type} [Database σ S] (dao : Dao) (template : String)
    (values : List Value) (fields : List String) (c : Connection σ) :
    let inserted := (dao.insert template values fields : Access σ InsertResult) c
    StandsFor dao.registry inserted.2.streams inserted.1
      ((dao.insertOne template values fields : Access σ (Signed 64)) c).1 := by
  rw [insertOne_run]
  rcases (dao.insert template values fields : Access σ InsertResult) c with
    ⟨e | ⟨count, _ | ⟨⟨entries⟩⟩⟩, c'⟩
  · exact rfl
  · dsimp only [StandsFor, Except.map]
    rw [Signed.val_clamp, Int.max_eq_right (by omega)]
  · cases entries with
    | nil =>
      dsimp only [StandsFor, Except.map, List.isEmpty_nil]
      rw [if_pos rfl]
      dsimp only
      rw [Signed.val_clamp]
      exact congrArg Except.ok (by decide)
    | cons entry entries => exact rfl

namespace Memory

open Binding (Converted InOrder)

/-! ## Identities of a response -/

/-- The type of the first column; NULL if there is none. -/
def Table.firstType (t : Table) : ColumnType := (t.columns.head?.map Column.type).getD .null

/-- The identities are the first cells of all rows of the table, in the order of the rows and with
the type of the first column. Without a table there are none. -/
def Reports : Option Table → Identities → Prop
  | none, ids => ids.entries = []
  | some table, ids =>
    ids.entries.map some = table.rows.map fun row => row.head?.map fun v => (table.firstType, v)

theorem collect_source (table : Table) :
    Dao.collect (some table.source) =
      (Identities.ofRows table.firstType
        ⟨table.columns, .stored (table.rows.map fun row => row.map .ok), none⟩
        (table.rows.length + 1)).map Identities.mk := by
  have asMany : (table.rows.map fun row => (row.map .ok : Row)).length = table.rows.length :=
    List.length_map _
  rw [← asMany]
  rfl

theorem collect_eq_ok_iff {reported : Option Table} {ids : Identities} :
    Dao.collect (reported.map Table.source) = .ok ids ↔ Reports reported ids := by
  cases reported with
  | none =>
    refine ⟨fun given => ?_, fun nothing => ?_⟩
    · cases given
      rfl
    · exact congrArg (fun entries => Except.ok (Identities.mk entries)) (Eq.symm nothing)
  | some table =>
    rw [Option.map_some, collect_source, map_eq_ok_iff]
    simp only [Identities.ofRows_eq_ok_iff]
    constructor
    · intro ⟨entries, firstCells, same⟩
      rw [← same]
      exact firstCells
    · exact fun firstCells => ⟨ids.entries, firstCells, rfl⟩

theorem collect_eq_error_iff {reported : Option Table} :
    (∃ e, Dao.collect (reported.map Table.source) = .error e) ↔
      ∃ table, reported = some table ∧ [] ∈ table.rows := by
  cases reported with
  | none => exact iff_of_false (fun ⟨_, failed⟩ => by cases failed) nofun
  | some table =>
    rw [Option.map_some, collect_source]
    simp only [map_eq_error_iff, Identities.ofRows_eq_error_iff, Option.some.injEq]
    exact ⟨fun empty => ⟨table, rfl, empty⟩, fun ⟨_, same, empty⟩ => same ▸ empty⟩

/-! ## Inserts -/

theorem isRequested_keys_iff {dao : Dao} {fields : List String} :
    (dao.keys fields).isRequested = true ↔
      fields ≠ [] ∨ dao.features.useGeneratedKeys = true := by
  unfold Dao.keys
  split
  · exact iff_of_true rfl (.inl ‹_›)
  · rename_i unnamed
    split
    · exact iff_of_true rfl (.inr ‹_›)
    · exact iff_of_false nofun (not_or.mpr ⟨unnamed, ‹_›⟩)

variable (dao : Dao) (c : Connection Server) {template : String} {values : List Value}
  (fields : List String) {query : Template.Query Value} {params : List Value} {streams : Streams}

/-- An insert whose values are bound gives what the next response says. -/
theorem insert_run_of_binds (rewritten : Template.rewrite template values [] = .ok query)
    (bound : InOrder (Converted dao.registry) query.values c.streams params streams)
    (answers : c.server.exchange.next.error = none) :
    ((dao.insert template values fields : Access Server InsertResult) c).1 =
      if (dao.keys fields).isRequested then
        (Dao.collect (c.server.exchange.next.identities.map Table.source)).map fun ids =>
          ⟨c.server.exchange.next.updateCount, some ids⟩
      else .ok ⟨c.server.exchange.next.updateCount, none⟩ := by
  rcases ready_of_rewrite (s := .start c dao) (q := ⟨template, values, [], dao.keys fields⟩)
      rewritten with
    ⟨_, statement, streams', server, -, prepared, isOpen, note, same⟩ | ⟨refused, -⟩
  · change (dao.prepare template values [] (dao.keys fields) : Access Server Statement) c = _
      at prepared
    change server.exchange = c.server.exchange at same
    have keys : statement.keys = dao.keys fields := congrArg Recorded.keys note
    rw [Dao.insert_run, prepared]
    dsimp only
    rw [update_run, (statement.execute_run isOpen server).1, same, Response.outcome, answers]
    dsimp only [Except.map]
    rw [keys]
    cases (dao.keys fields).isRequested with
    | true => rfl
    | false => rfl
  · exact absurd ⟨params, streams, bound⟩ refused

/-- **An insert gives what the response says.** Its template fits its values, these can be bound,
and the response that it takes is not a failure. If no field is named and the features do not ask
for all identities, the insert gives the count of the response and no identities. Otherwise it gives
the count with the first cells of the rows that the response has for identities, and fails if and
only if one of these rows has no cell. An insert for a single number gives the number that stands
for that outcome. -/
theorem insert_reports_response (rewritten : Template.rewrite template values [] = .ok query)
    (bound : InOrder (Converted dao.registry) query.values c.streams params streams)
    (answers : c.server.exchange.next.error = none) :
    let response := c.server.exchange.next
    let requested := fields ≠ [] ∨ dao.features.useGeneratedKeys = true
    let inserted := (dao.insert template values fields : Access Server InsertResult) c
    let one := (dao.insertOne template values fields : Access Server (Signed 64)) c
    (¬requested → inserted.1 = .ok ⟨response.updateCount, none⟩) ∧
    (requested →
      (∀ result, inserted.1 = .ok result ↔
        ∃ ids, Reports response.identities ids ∧ result = ⟨response.updateCount, some ids⟩) ∧
      ((∃ e, inserted.1 = .error e) ↔
        ∃ table, response.identities = some table ∧ [] ∈ table.rows)) ∧
    Dao.StandsFor dao.registry inserted.2.streams inserted.1 one.1 := by
  intro response requested inserted one
  have ran := insert_run_of_binds dao c fields rewritten bound answers
  refine ⟨fun unasked => ?_, fun asked => ?_, dao.insertOne_outcome template values fields c⟩
  · exact ran.trans (if_neg (mt isRequested_keys_iff.mp unasked))
  · rw [if_pos (isRequested_keys_iff.mpr asked)] at ran
    refine ⟨fun result => ?_, ?_⟩
    · show ((dao.insert template values fields : Access Server InsertResult) c).1 = _ ↔ _
      rw [ran, map_eq_ok_iff]
      simp only [collect_eq_ok_iff]
      exact exists_congr fun ids => and_congr_right fun _ => eq_comm
    · show (∃ e, ((dao.insert template values fields : Access Server InsertResult) c).1 = _) ↔ _
      rw [ran]
      simp only [map_eq_error_iff]
      exact collect_eq_error_iff

/-- Two identities, the first of which is the one number; and a row without an identity. -/
theorem insert_reports_response_of_rows :
    let text := "insert into t values (1)"
    let seven : Value := .int .w64 (.clamp 64 7)
    let answering (rows : List (List Value)) : Connection Server :=
      ⟨.empty, ⟨[], ⟨⟨[], []⟩, 2, some ⟨[⟨"id", .bigInt, none⟩], rows⟩, none⟩, [], 0⟩⟩
    let dao : Dao := ⟨.standard, ⟨false, false⟩⟩
    ((dao.insert text [] ["id"] : Access Server InsertResult) (answering [[seven], [.null]])).1 =
        .ok ⟨2, some ⟨[(.bigInt, seven), (.bigInt, .null)]⟩⟩ ∧
      ((dao.insertOne text [] ["id"] : Access Server (Signed 64))
        (answering [[seven], [.null]])).1 = .ok (.clamp 64 7) ∧
      ∃ e, ((dao.insert text [] ["id"] : Access Server InsertResult)
        (answering [[seven], []])).1 = .error e := by
  intro text seven answering dao
  have rewritten : Template.rewrite text ([] : List Value) [] = .ok ⟨text, []⟩ :=
    eq_ok_of_toOption_eq_some (by decide +kernel)
  have reports (rows : List (List Value)) :=
    insert_reports_response dao (answering rows) ["id"] rewritten .nil rfl
  have asked (rows : List (List Value)) := (reports rows).2.1 (.inl nofun)
  have given := ((asked [[seven], [.null]]).1 ⟨2, some ⟨[(.bigInt, seven), (.bigInt, .null)]⟩⟩).mpr
    ⟨⟨[(.bigInt, seven), (.bigInt, .null)]⟩, rfl, rfl⟩
  have rowWithout : [] ∈ [[seven], []] := List.mem_cons_of_mem _ List.mem_cons_self
  refine ⟨given, ?_, (asked [[seven], []]).2.mpr ⟨_, rfl, rowWithout⟩⟩
  have one := (reports [[seven], [.null]]).2.2
  rw [given] at one
  exact one

end Memory

end SqlAccess
