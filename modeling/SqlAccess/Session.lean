import SqlAccess.Dao

/-!
# Sessions

A session is an application at work on one connection: it runs templates, and keeps the cursors,
statements and row sources it has got under names. A `Command` is one thing it does; `step`
does it and `run` does several in a row.

* A name that is used again loses its old object, after the new one is made: a cursor or a
  statement that is lost is closed. If nothing is made, the old object stays.
* A command on a name without an object changes nothing (`Answer.noHandle`).
-/

namespace SqlAccess

/-- A way to read the row a cursor is at. -/
inductive Reading where
  /-- A column as a host type. -/
  | get (column : ColumnRef) (type : HostType)
  /-- A column converted to a target. -/
  | getAs (column : ColumnRef) (target : Target)
  /-- A column converted to its default target. -/
  | getValue (column : ColumnRef)
  /-- All bytes of a column. -/
  | bytes (column : ColumnRef)
  /-- The whole text of a column. -/
  | text (column : ColumnRef)
  /-- The clock of a place at a timestamp. -/
  | clock (column : ColumnRef) (offset : Int)
  /-- The row as a record. -/
  | record (fields : List Field) (reads : List HostType)

/-- One thing that a session does. -/
inductive Command where
  | select (name template : String) (values : List Value) (groups : List (List Value))
  | update (template : String) (values conditions : List Value) (groups : List (List Value))
  | insert (template : String) (values : List Value) (fields : List String)
  | insertOne (template : String) (values : List Value) (fields : List String)
  /-- Makes a cursor over given rows. -/
  | rows (name : String) (columns : List Column) (rows : List (List Value)) (allowNulls : Bool)
  | advance (name : String)
  | read (name : String) (reading : Reading)
  | closeCursor (name : String)
  | dropCursor (name : String)
  | prepare (name sql : String) (keys : Keys)
  | set (name : String) (position : Nat) (value : Value)
  | bindAll (name : String) (values : List Value)
  /-- Runs a statement as a query and keeps its rows. -/
  | query (name rows : String)
  | execute (name : String)
  /-- Keeps the identities of the last update, if there are any. -/
  | identities (name rows : String)
  | closeStatement (name : String)
  | dropStatement (name : String)
  /-- Makes a row source over given rows. -/
  | source (name : String) (columns : List Column) (rows : List (List Value))
  | next (name : String)
  | cell (name : String) (i : Nat)
  | closeSource (name : String)

/-- What comes of a command. -/
inductive Answer where
  | done
  | noHandle
  | failed (e : Error)
  | truth (b : Bool)
  /-- A number of columns. -/
  | width (n : Nat)
  /-- A number of rows. -/
  | count (n : Nat)
  /-- The one number of an insert. -/
  | number (n : Signed 64)
  | inserted (r : InsertResult)
  | value (v : Value)
  | bytes (bs : List UInt8)
  | text (s : String)
  | clock (t : Timestamp)
  | values (vs : List Value)

/-- The answer for an outcome. -/
def Answer.ofOutcome {α : Type} (f : α → Answer) : Except Error α → Answer
  | .ok a => f a
  | .error e => .failed e

/-- Things under names. -/
abbrev Named (α : Type) := List (String × α)

/-- Puts a thing under a name, in place of the old one. -/
def Named.put {α : Type} (xs : Named α) (name : String) (a : α) : Named α :=
  (name, a) :: xs.filter fun x => x.1 != name

/-- Takes a name away. -/
def Named.erase {α : Type} (xs : Named α) (name : String) : Named α :=
  xs.filter fun x => x.1 != name

/-- An application at work. -/
structure Session (σ S : Type) where
  connection : Connection σ
  dao : Dao
  cursors : Named (Cursor S)
  statements : Named S
  sources : Named RowSource

namespace Session

variable {σ S : Type} [Database σ S]

/-- A session on a connection, without any objects. -/
def start (connection : Connection σ) (dao : Dao) : Session σ S := ⟨connection, dao, [], [], []⟩

/-- Runs an operation on the connection. -/
def perform {α : Type} (s : Session σ S) (m : StateM (Connection σ) α) : α × Session σ S :=
  let (a, c) := m s.connection
  (a, { s with connection := c })

/-- Closes a statement that nobody holds any more. -/
def release (s : Session σ S) (statement : S) : Session σ S :=
  (s.perform (Access.ofServer (Database.close statement))).2

/-- Closes a cursor, and the statement it owns. -/
def closeCursor (s : Session σ S) (c : Cursor S) : Cursor S × Session σ S :=
  match c.close with
  | (some statement, c') => (c', s.release statement)
  | (none, c') => (c', s)

/-- Keeps a cursor; the one that had its name is closed. -/
def putCursor (s : Session σ S) (name : String) (c : Cursor S) : Session σ S :=
  let closed := match s.cursors.lookup name with
    | some old => (s.closeCursor old).2
    | none => s
  { closed with cursors := closed.cursors.put name c }

/-- Keeps a statement; the one that had its name is closed. -/
def putStatement (s : Session σ S) (name : String) (statement : S) : Session σ S :=
  let closed := match s.statements.lookup name with
    | some old => s.release old
    | none => s
  { closed with statements := closed.statements.put name statement }

def putSource (s : Session σ S) (name : String) (source : RowSource) : Session σ S :=
  { s with sources := s.sources.put name source }

/-- Goes on with the cursor of a name. -/
def withCursor (s : Session σ S) (name : String) (f : Cursor S → Answer × Session σ S) :
    Answer × Session σ S :=
  match s.cursors.lookup name with
  | some c => f c
  | none => (.noHandle, s)

/-- Goes on with the statement of a name. -/
def withStatement (s : Session σ S) (name : String) (f : S → Answer × Session σ S) :
    Answer × Session σ S :=
  match s.statements.lookup name with
  | some statement => f statement
  | none => (.noHandle, s)

/-- Goes on with the row source of a name. -/
def withSource (s : Session σ S) (name : String) (f : RowSource → Answer × Session σ S) :
    Answer × Session σ S :=
  match s.sources.lookup name with
  | some source => f source
  | none => (.noHandle, s)

/-- Reads the row a cursor is at. -/
def read (c : Cursor S) : Reading → StreamM Error Answer
  | .get column type => Answer.value <$> c.get column type
  | .getAs column target => Answer.value <$> c.getAs column target
  | .getValue column => Answer.value <$> c.getValue column
  | .bytes column => Answer.bytes <$> c.getBytes column
  | .text column => Answer.text <$> c.getText column
  | .clock column offset => Answer.clock <$> c.getClock column offset
  | .record fields reads => Answer.values <$> c.getRecord fields reads

/-- Runs an operation of the data access object. -/
def runDao {α : Type} (s : Session σ S) (m : Access σ α) (f : α → Answer) : Answer × Session σ S :=
  let (r, s') := s.perform m
  (.ofOutcome f r, s')

/-- Does one thing. -/
def step (s : Session σ S) : Command → Answer × Session σ S
  | .select name template values groups =>
    match s.perform (s.dao.select template values groups) with
    | (.ok c, s') => (.width c.columns.length, s'.putCursor name c)
    | (.error e, s') => (.failed e, s')
  | .update template values conditions groups =>
    s.runDao (s.dao.updateWhere template values conditions groups) .count
  | .insert template values fields => s.runDao (s.dao.insert template values fields) .inserted
  | .insertOne template values fields => s.runDao (s.dao.insertOne template values fields) .number
  | .rows name columns rows allowNulls =>
    let c : Cursor S := .ofSource (.ofValues columns rows) none s.dao.registry allowNulls
    (.width columns.length, s.putCursor name c)
  | .advance name => s.withCursor name fun c =>
    let (r, c') := c.advance
    (.ofOutcome .truth r, { s with cursors := s.cursors.put name c' })
  | .read name reading => s.withCursor name fun c =>
    let (r, s') := s.perform (Access.ofStreams (read c reading))
    (.ofOutcome id r, s')
  | .closeCursor name => s.withCursor name fun c =>
    let (c', s') := s.closeCursor c
    (.done, { s' with cursors := s'.cursors.put name c' })
  | .dropCursor name =>
    match s.cursors.lookup name with
    | none => (.truth false, s)
    | some c =>
      let s' := (s.closeCursor c).2
      (.truth true, { s' with cursors := s'.cursors.erase name })
  | .prepare name sql keys =>
    match s.perform (Access.ofServer (Database.prepare sql keys)) with
    | (.ok statement, s') => (.done, s'.putStatement name statement)
    | (.error e, s') => (.failed e, s')
  | .set name position value => s.withStatement name fun statement =>
    match s.perform (Access.ofStreams (Database.set σ statement position value)) with
    | (.ok statement', s') =>
      (.done, { s' with statements := s'.statements.put name statement' })
    | (.error e, s') => (.failed e, s')
  | .bindAll name values => s.withStatement name fun statement =>
    let ((r, statement'), s') := s.perform (Access.ofStreams
      (Binding.bindAll s.dao.registry (Database.set σ) values statement))
    (.ofOutcome (fun _ => .done) r, { s' with statements := s'.statements.put name statement' })
  | .query name rows => s.withStatement name fun statement =>
    match s.perform (Access.ofServer (Database.query statement)) with
    | (.ok source, s') => (.done, s'.putSource rows source)
    | (.error e, s') => (.failed e, s')
  | .execute name => s.withStatement name fun statement =>
    match s.perform (Access.ofServer (Database.update statement)) with
    | (.ok (count, statement'), s') =>
      (.count count, { s' with statements := s'.statements.put name statement' })
    | (.error e, s') => (.failed e, s')
  | .identities name rows => s.withStatement name fun statement =>
    let (reported, statement') := Database.identities σ statement
    let s' := { s with statements := s.statements.put name statement' }
    match reported with
    | some source => (.truth true, s'.putSource rows source)
    | none => (.truth false, s')
  | .closeStatement name => s.withStatement name fun statement =>
    let (statement', s') := s.perform (Access.ofServer (Database.close (σ := σ) statement))
    (.done, { s' with statements := s'.statements.put name statement' })
  | .dropStatement name =>
    match s.statements.lookup name with
    | none => (.truth false, s)
    | some statement =>
      let s' := s.release statement
      (.truth true, { s' with statements := s'.statements.erase name })
  | .source name columns rows => (.done, s.putSource name (.ofValues columns rows))
  | .next name => s.withSource name fun source =>
    let (r, source') := source.next
    (.ofOutcome .truth r, s.putSource name source')
  | .cell name i => s.withSource name fun source => (.ofOutcome .value (source.value i), s)
  | .closeSource name => s.withSource name fun source => (.done, s.putSource name source.close)

/-- Does several things in a row. -/
def run (s : Session σ S) : List Command → List Answer × Session σ S
  | [] => ([], s)
  | c :: cs =>
    let (a, s') := s.step c
    let (as, s'') := s'.run cs
    (a :: as, s'')

end Session

end SqlAccess
