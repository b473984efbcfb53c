import SqlAccess.Connection
import SqlAccess.Postgres.Parameter
import SqlAccess.Postgres.Placeholder

/-!
# PostgreSQL

The statements of a PostgreSQL server. The server is what it answers: each prepared statement
meets a `Script`, which says what parameters and columns it has and what comes of running it. All
that the server is sent for the statements is kept in a log.

The client knows the built-in types of the server. While it prepares a statement with a type that
it does not know yet, it asks the server for that type with queries of its own. These are not in the
log; a statement whose types cannot be found out is one that the server refuses to prepare.

* Placeholders are numbered, and a statement that asks for identities gets a `RETURNING` clause.
* `Statement.encodeParams` is what stands between the values that were set and the message: a
  parameter without a value, a value that has no form for the server type, or a form that the
  type does not take keeps the message from being sent.
-/

namespace SqlAccess.Postgres

/-- What a server does with one statement. -/
structure Script where
  params : List ServerType
  /-- Names and types of the columns of its rows. -/
  columns : List (String × ServerType)
  /-- The cells of its rows, as bytes; a missing value has none. -/
  rows : List (List (Option (List UInt8)))
  /-- The tag that ends an execution. -/
  tag : String
  refusesPrepare : Bool
  refusesBind : Bool
  /-- An execution sends so many rows and then an error. -/
  errorAfter : Option Nat

/-- A statement without parameters and rows. -/
def Script.empty : Script := ⟨[], [], [], "SELECT 0", false, false, none⟩

/-- What the server is sent for a statement. -/
inductive Message where
  | parse (sql : String)
  | bind (values : List (Option (List UInt8)))
  deriving DecidableEq, Repr

/-- The scripts of the statements to come, and what was sent for those so far. -/
structure Server where
  scripts : List Script
  /-- Without the queries by which the client looks up types. -/
  log : List Message

/-- A prepared statement. -/
structure Statement where
  script : Script
  keys : Keys
  /-- One entry for each parameter, empty until its value is set. -/
  params : List (Option Value)
  /-- Rows that the last update has reported and nobody has taken. -/
  identities : Option RowSource

/-- The text that is sent for a statement. -/
def nativeSql (sql : String) : Keys → String
  | .none => numberPlaceholders sql
  | .all => numberPlaceholders sql ++ " RETURNING *"
  | .columns names => numberPlaceholders sql ++ " RETURNING " ++ String.intercalate ", " names

namespace Script

def columnList (s : Script) : List Column :=
  s.columns.map fun (name, type) => ⟨name, type.columnType, none⟩

/-- The cells of a row as values. A row has one cell for each column. -/
def readRow (s : Script) (cells : List (Option (List UInt8))) : Except QueryError Row :=
  if cells.length = s.columns.length then
    .ok ((s.columns.zip cells).mapIdx fun i ((_, type), cell) => readCell type i cell)
  else .error .malformedReply

/-- What an execution sends: rows, and the error that it may end with. -/
def replies (s : Script) : List (Except QueryError Row) :=
  match s.errorAfter with
  | some count => (s.rows.take count).map s.readRow ++ [.error .server]
  | none => s.rows.map s.readRow

/-- The first error of an execution, or else all its rows. -/
def allRows (s : Script) : Except QueryError (List Row) := s.replies.mapM id

/-- The number of rows in a tag: its last word, or zero if that is no number of 64 bits. -/
def affected (s : Script) : Nat :=
  let word := (s.tag.toList.reverse.takeWhile (· ≠ ' ')).reverse
  let digits := if word.head? = some '+' then word.tail else word
  match Digits.toNat? digits with
  | some n => if n < 2 ^ 64 then n else 0
  | none => 0

end Script

/-- Prepares a statement. A text with a NUL character cannot be sent. What the client asks about
types that are not built in is left out. -/
def prepare (sql : String) (keys : Keys) : ServerM Server Statement := fun server =>
  let text := nativeSql sql keys
  if text.toList.contains (Char.ofNat 0) then (.error (.query .unsendable), server)
  else
    let script := server.scripts.headD .empty
    let server := { server with scripts := server.scripts.tail, log := server.log ++ [.parse text] }
    if script.refusesPrepare then (.error (.query .server), server)
    else (.ok ⟨script, keys, script.params.map fun _ => none, none⟩, server)

namespace Statement

/-- What is kept of a value: a stream is read to its end. -/
def capture (position : Nat) : Value → StreamM Error Value
  | .blob s => do
    return .bytes (← StreamM.mapError (fun m => .bind position (.unreadable m)) (StreamM.readAll s))
  | .clob s => do
    return .text (← StreamM.mapError (fun m => .bind position (.unreadable m)) (StreamM.readText s))
  | v => pure v

/-- Sets the value of one of the parameters. -/
def set : Setter Statement := fun s position v => do
  let v ← capture position v
  if position = 0 ∨ s.params.length < position then
    throw (.bind position (.noSuchParameter s.params.length))
  else return { s with params := s.params.set (position - 1) (some v) }

/-- The forms in which the parameters from `i` on are sent. -/
def natives : Nat → List (ServerType × Option Value) → Except Error (List Native)
  | _, [] => .ok []
  | i, (_, none) :: _ => .error (.bind (i + 1) .unbound)
  | i, (type, some v) :: rest => do
    let n ← (native type v).mapError (.bind (i + 1))
    return n :: (← natives (i + 1) rest)

/-- The bytes of the parameters from `i` on, if the server types take the forms. -/
def encodeAll : Nat → List (ServerType × Native) → Except Error (List (Option (List UInt8)))
  | _, [] => .ok []
  | i, (type, n) :: rest => do
    if n.fits type then return n.encode type :: (← encodeAll (i + 1) rest)
    else throw (.query (.unserializable i))

/-- The values of the message that runs the statement. -/
def encodeParams (s : Statement) : Except Error (List (Option (List UInt8))) := do
  let forms ← natives 0 (s.script.params.zip s.params)
  encodeAll 0 (s.script.params.zip forms)

/-- Sends the message that runs the statement. -/
def execute (s : Statement) : ServerM Server Unit := fun server =>
  match s.encodeParams with
  | .error e => (.error e, server)
  | .ok values =>
    let server := { server with log := server.log ++ [.bind values] }
    (if s.script.refusesBind then .error (.query .server) else .ok (), server)

/-- Runs the statement for its rows. -/
def query (s : Statement) : ServerM Server RowSource := do
  s.execute
  return .ofReplies s.script.columnList s.script.replies

/-- Runs the statement as an update. One that asks for identities gets rows: they are counted and
kept. Otherwise nobody looks at the rows. -/
def update (s : Statement) : ServerM Server (Nat × Statement) := do
  s.execute
  if s.keys.isRequested then
    match s.script.allRows with
    | .ok rows =>
      return (rows.length, { s with identities := some (.ofRows s.script.columnList rows) })
    | .error e => throw (.query e)
  else if s.script.errorAfter.isSome then throw (.query .server)
  else return (s.script.affected, s)

/-- Forgets the parameters and the identities. -/
def close (s : Statement) : Statement :=
  { s with params := s.params.map fun _ => none, identities := none }

end Statement

instance : Database Server Statement where
  prepare := prepare
  set := Statement.set
  query := Statement.query
  update := Statement.update
  identities s := (s.identities, { s with identities := none })
  close s := pure s.close

end SqlAccess.Postgres
