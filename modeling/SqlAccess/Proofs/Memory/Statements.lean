import SqlAccess.Memory.Server
import SqlAccess.Proofs.Binding.Conversions
import SqlAccess.Proofs.Dao.Runs

/-!
# Open statements of the database in memory

The server counts its open statements. This module says what each call does to the count, and
from that what each operation of the data access object does to it, wherever it fails.

* `Statement.openCount` is what one statement adds to the count. Only preparing and closing
  change it: `close_openStatements` takes away what the statement still adds.
* `prepare_opens`, `select_opens`, `update_openStatements`, `insert_openStatements` and
  `insertOne_openStatements`: an operation leaves a statement open exactly if it hands one out.
-/

namespace SqlAccess.Memory

/-! ## Calls -/

/-- What a statement adds to the count of open ones. -/
def Statement.openCount (s : Statement) : Nat := if s.closed then 0 else 1

theorem Statement.openCount_of_closed {s : Statement} (h : s.closed = true) : s.openCount = 0 := by
  rw [openCount, h]
  rfl

theorem Statement.openCount_of_open {s : Statement} (h : s.closed = false) : s.openCount = 1 := by
  rw [openCount, h]
  rfl

/-- Closing takes away from the count what the statement adds to it. -/
theorem Statement.close_openStatements {s : Statement} {server : Server}
    (counted : s.openCount ≤ server.openStatements) :
    (s.close server).2.openStatements + s.openCount = server.openStatements := by
  rw [close]
  cases closed : s.closed with
  | true =>
    rw [openCount_of_closed closed]
    rfl
  | false =>
    rw [openCount_of_open closed] at counted ⊢
    obtain ⟨n, positive⟩ := Nat.exists_eq_succ_of_ne_zero (Nat.ne_of_gt counted)
    simp only [Bool.false_eq_true, if_false]
    rw [positive]
    rfl

/-- Closing an open statement that was counted lowers the count by one. -/
theorem close_of_open {s : Statement} {server : Server} {n : Nat} (isOpen : s.closed = false)
    (counted : server.openStatements = n + 1) :
    (Database.close s server).2.openStatements = n := by
  have fits : s.openCount ≤ server.openStatements := by
    rw [Statement.openCount_of_open isOpen, counted]
    exact Nat.le_add_left 1 n
  have lowered := Statement.close_openStatements fits
  rw [Statement.openCount_of_open isOpen, counted] at lowered
  exact Nat.succ.inj lowered

/-- A closed statement is closed. -/
theorem Statement.closed_close (s : Statement) (server : Server) :
    (s.close server).1.closed = true := by
  rw [close]
  split
  · assumption
  · rfl

theorem Statement.execute_openStatements (s : Statement) (server : Server) :
    (s.execute server).2.openStatements = server.openStatements := by
  rw [execute]
  split <;> rfl

/-- A statement as it is prepared. -/
def Statement.prepared (sql : String) (keys : Keys) : Statement := ⟨sql, keys, [], none, false⟩

theorem prepare_call (sql : String) (keys : Keys) (server : Server) :
    (Database.prepare sql keys : ServerM Server Statement) server =
      (.ok (.prepared sql keys), { server with openStatements := server.openStatements + 1 }) :=
  rfl

/-- A query does not change the count. -/
theorem query_openStatements (s : Statement) (server : Server) :
    (Database.query s server).2.openStatements = server.openStatements := by
  have same := s.execute_openStatements server
  show ((s.execute >>= fun r => pure r.table.source) server).2.openStatements = _
  rw [bind_run]
  rcases ran : s.execute server with ⟨_ | response, server'⟩
  · rw [ran] at same
    exact same
  · rw [ran] at same
    exact same

/-- Nor does an update, and the statement stays open or closed. -/
theorem execute_keeps_open (s : Statement) (server : Server) :
    (Database.update s server).2.openStatements = server.openStatements ∧
      ∀ count s', (Database.update s server).1 = .ok (count, s') → s'.closed = s.closed := by
  have same := s.execute_openStatements server
  show (s.update server).2.openStatements = _ ∧ ∀ count s', (s.update server).1 = _ → _
  rw [Statement.update, bind_run]
  rcases ran : s.execute server with ⟨_ | response, server'⟩
  · rw [ran] at same
    exact ⟨same, nofun⟩
  · rw [ran] at same
    refine ⟨same, fun count s' ok => ?_⟩
    cases ok
    rfl

/-- Setting a parameter keeps a statement open or closed. -/
theorem Statement.closed_of_set {s s' : Statement} {position : Nat} {v : Value}
    {streams streams' : Streams} (h : s.set position v streams = (.ok s', streams')) :
    s'.closed = s.closed := by
  rw [set] at h
  split at h
  · cases h
  · cases h
    rfl

/-! ## Operations -/

/-- Binding values keeps a statement open or closed. -/
theorem closed_bindAll (r : Registry) (values : List Value) (s : Statement) (ss : Streams) :
    (Binding.bindAll r (Database.set Server) values s ss).1.2.closed = s.closed :=
  Binding.bindFrom_keeps (P := fun s' => s'.closed = s.closed)
    (fun ran same => (Statement.closed_of_set ran).trans same) r 1 values s ss rfl

variable (dao : Dao) (template : String) (values : List Value) (c : Connection Server)

/-- Preparing raises the count by one, and hands out an open statement; if it fails anywhere, the
count is as before. -/
theorem prepare_opens (groups : List (List Value)) (keys : Keys) :
    match (dao.prepare template values groups keys : Access Server Statement) c with
    | (.ok s, c') =>
      s.closed = false ∧ c'.server.openStatements = c.server.openStatements + 1
    | (.error _, c') => c'.server.openStatements = c.server.openStatements := by
  rw [Dao.prepare_run]
  cases Template.rewrite template values groups with
  | error e => rfl
  | ok query =>
    simp only [prepare_call]
    have kept := closed_bindAll dao.registry query.values (.prepared query.sql keys) c.streams
    rcases ran : Binding.bindAll dao.registry (Database.set Server) query.values
      (Statement.prepared query.sql keys) c.streams with ⟨⟨_ | _, s⟩, streams⟩
    · -- the values are refused: what preparing has added is taken away again
      rw [ran] at kept
      exact close_of_open kept rfl
    · rw [ran] at kept
      exact ⟨kept, rfl⟩

/-- A successful query raises the count by one, for the statement of its cursor. -/
theorem select_opens (groups : List (List Value)) :
    match (dao.select template values groups : Access Server (Cursor Statement)) c with
    | (.ok cursor, c') =>
      (∃ s, cursor.statement = some s ∧ s.closed = false) ∧ cursor.state = .unopened ∧
        c'.server.openStatements = c.server.openStatements + 1
    | (.error _, c') => c'.server.openStatements = c.server.openStatements := by
  have prepared := prepare_opens dao template values c groups .none
  rw [Dao.select_run]
  rcases ran : (dao.prepare template values groups .none : Access Server Statement) c with
    ⟨_ | s, c'⟩
  · rw [ran] at prepared
    exact prepared
  · rw [ran] at prepared
    obtain ⟨isOpen, raised⟩ := prepared
    have same := query_openStatements s c'.server
    dsimp only
    rcases queried : Database.query s c'.server with ⟨_ | source, server⟩
    · rw [queried] at same
      exact close_of_open isOpen (same.trans raised)
    · rw [queried] at same
      dsimp only
      exact ⟨⟨s, rfl, isOpen⟩, rfl, same.trans raised⟩

/-- An update leaves the count as it was, whether it fails or not. -/
theorem update_openStatements (groups : List (List Value)) :
    ((dao.update template values groups : Access Server Nat) c).2.server.openStatements =
      c.server.openStatements := by
  have prepared := prepare_opens dao template values c groups .none
  rw [Dao.update_run]
  rcases ran : (dao.prepare template values groups .none : Access Server Statement) c with
    ⟨_ | s, c'⟩
  · rw [ran] at prepared
    exact prepared
  · rw [ran] at prepared
    obtain ⟨isOpen, raised⟩ := prepared
    obtain ⟨same, kept⟩ := execute_keeps_open s c'.server
    dsimp only
    rcases updated : Database.update s c'.server with ⟨_ | ⟨count, s'⟩, server⟩
    · rw [updated] at same
      exact close_of_open isOpen (same.trans raised)
    · rw [updated] at same kept
      exact close_of_open ((kept count s' rfl).trans isOpen) (same.trans raised)

/-- So does an insert, with or without identities. -/
theorem insert_openStatements (fields : List String) :
    ((dao.insert template values fields : Access Server InsertResult) c).2.server.openStatements =
      c.server.openStatements := by
  have prepared := prepare_opens dao template values c [] (dao.keys fields)
  rw [Dao.insert_run]
  rcases ran : (dao.prepare template values [] (dao.keys fields) : Access Server Statement) c with
    ⟨_ | s, c'⟩
  · rw [ran] at prepared
    exact prepared
  · rw [ran] at prepared
    obtain ⟨isOpen, raised⟩ := prepared
    obtain ⟨same, kept⟩ := execute_keeps_open s c'.server
    dsimp only
    rcases updated : Database.update s c'.server with ⟨_ | ⟨count, s'⟩, server⟩
    · rw [updated] at same
      exact close_of_open isOpen (same.trans raised)
    · rw [updated] at same kept
      have stillOpen : s'.closed = false := (kept count s' rfl).trans isOpen
      dsimp only
      split
      · exact close_of_open (s := (Database.identities Server s').2) stillOpen (same.trans raised)
      · exact close_of_open stillOpen (same.trans raised)

/-- And an insert that gives a number, also if its identity cannot be read. -/
theorem insertOne_openStatements (fields : List String) :
    ((dao.insertOne template values fields : Access Server (Signed 64)) c).2.server.openStatements =
      c.server.openStatements := by
  have inserted := insert_openStatements dao template values c fields
  rw [Dao.insertOne_run]
  rcases ran : (dao.insert template values fields : Access Server InsertResult) c with
    ⟨_ | result, c'⟩
  · rw [ran] at inserted
    exact inserted
  · rw [ran] at inserted
    dsimp only
    cases result.identities with
    | none => exact inserted
    | some identities =>
      dsimp only
      split
      · exact inserted
      · exact inserted

end SqlAccess.Memory
