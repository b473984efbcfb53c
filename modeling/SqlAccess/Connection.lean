import SqlAccess.Binding
import SqlAccess.RowSource

/-!
# Databases and connections

What the library asks of a database. A statement is prepared from SQL text with a question mark
for each parameter; values are set by position; it is run as a query, which gives rows, or as
an update, which gives a count; and it is closed, any number of times.

A statement is a value: whoever holds it owns it. An operation on the server may fail, and then
the statement is as it was before, while what the server has noticed stays noticed.
-/

namespace SqlAccess

/-- Which generated identities a statement is to report. -/
inductive Keys where
  | none
  /-- Those of all columns. -/
  | all
  /-- Those of the named columns. -/
  | columns (names : List String)
  deriving DecidableEq, Repr

/-- Identities are asked for. -/
def Keys.isRequested : Keys → Bool
  | none => false
  | _ => true

/-- An operation on a server that may fail. -/
abbrev ServerM (σ α : Type) := ExceptT Error (StateM σ) α

/-- A kind of server `σ` whose statements are of type `S`. -/
class Database (σ : Type) (S : outParam Type) where
  prepare : String → Keys → ServerM σ S
  /-- Sets the value of a position, counted from 1. -/
  set : Setter S
  /-- Runs the statement for its rows. -/
  query : S → ServerM σ RowSource
  /-- Runs the statement for the number of affected rows. -/
  update : S → ServerM σ (Nat × S)
  /-- Hands out the identities of the last update, if it has reported any. -/
  identities : S → Option RowSource × S
  close : S → StateM σ S

/-- A server together with the streams that values refer to. -/
structure Connection (σ : Type) where
  streams : Streams
  server : σ

/-- An operation on a connection that may fail. -/
abbrev Access (σ α : Type) := ExceptT Error (StateM (Connection σ)) α

namespace Access

variable {σ α : Type}

/-- An operation that only reads streams. -/
def ofStreams (m : StateM Streams α) : StateM (Connection σ) α := fun c =>
  let (a, streams) := m c.streams
  (a, { c with streams := streams })

/-- An operation that only talks to the server. -/
def ofServer (m : StateM σ α) : StateM (Connection σ) α := fun c =>
  let (a, server) := m c.server
  (a, { c with server := server })

/-- An operation that does not fail by itself; so is every operation whose outcome, failed or
not, is looked at. -/
def settle (m : StateM (Connection σ) α) : Access σ α := fun c =>
  let (a, c') := m c
  (.ok a, c')

/-- Fails if the outcome is a failure. -/
def ofOutcome (r : Except Error α) : Access σ α := fun c => (r, c)

end Access

end SqlAccess
