import SqlAccess.Connection
import SqlAccess.Cursor
import SqlAccess.Identities
import SqlAccess.Template.Rewrite

/-!
# Running templates

The operations that an application calls. Each rewrites its template, prepares the statement,
binds the values and runs it. Nothing is prepared if the template does not fit its values, and a
statement that is not handed to a cursor is closed again, whatever happens.

* `select` hands out a cursor that owns its statement.
* `update` gives the number of affected rows.
* `insert` also collects generated identities, when fields are named or the features ask for
  all of them; `insertOne` gives a single number.
-/

namespace SqlAccess

/-- Switches that hold for all operations. -/
structure Features where
  /-- Ask for the identities of all columns on every insert. -/
  useGeneratedKeys : Bool
  /-- Read a missing value as the one that stands for it. -/
  nullResultsDisabled : Bool
  deriving DecidableEq, Repr

/-- Both switches are off unless they are set. -/
instance : Inhabited Features := ⟨⟨false, false⟩⟩

/-- What the operations need besides a connection. -/
structure Dao where
  registry : Registry
  features : Features

/-- The outcome of an insert. -/
structure InsertResult where
  /-- The number of affected rows. -/
  count : Nat
  /-- The generated identities, if they were asked for. -/
  identities : Option Identities

namespace Dao

variable {σ S : Type} [Database σ S]

/-- Closes a statement. -/
def release (statement : S) : Access σ Unit := do
  let _ ← Access.settle (Access.ofServer (Database.close (σ := σ) statement))

/-- Rewrites a template, prepares it and binds the values. If that fails, no statement is left
open. -/
def prepare (dao : Dao) (template : String) (values : List Value) (groups : List (List Value))
    (keys : Keys) : Access σ S := do
  let query ← Access.ofOutcome ((Template.rewrite template values groups).mapError .template)
  let statement ← (Access.ofServer (Database.prepare query.sql keys) : Access σ S)
  let (outcome, statement) ← Access.settle (Access.ofStreams
    (Binding.bindAll dao.registry (Database.set σ) query.values statement))
  match outcome with
  | .ok () => return statement
  | .error e => do
    release statement
    throw e

/-- Runs a query and hands out a cursor over its rows. -/
def select (dao : Dao) (template : String) (values : List Value) (groups : List (List Value)) :
    Access σ (Cursor S) := do
  let statement ← dao.prepare template values groups .none
  match ← Access.settle (Access.ofServer (Database.query statement)) with
  | .ok source =>
    return .ofSource source (some statement) dao.registry (!dao.features.nullResultsDisabled)
  | .error e => do
    release statement
    throw e

/-- Runs an update and gives the number of affected rows. -/
def update (dao : Dao) (template : String) (values : List Value) (groups : List (List Value)) :
    Access σ Nat := do
  let statement ← dao.prepare template values groups .none
  match ← Access.settle (Access.ofServer (Database.update statement)) with
  | .ok (count, statement) => do
    release statement
    return count
  | .error e => do
    release statement
    throw e

/-- Runs an update whose condition has values of its own, after those of the fields. -/
def updateWhere (dao : Dao) (template : String) (values conditions : List Value)
    (groups : List (List Value)) : Access σ Nat :=
  dao.update template (values ++ conditions) groups

/-- The identities that an insert asks for. -/
def keys (dao : Dao) (fields : List String) : Keys :=
  if fields ≠ [] then .columns fields
  else if dao.features.useGeneratedKeys then .all
  else .none

/-- The identities that an update has reported; none if it has not reported any. -/
def collect (reported : Option RowSource) : Except Error Identities :=
  match reported with
  | some source => Identities.ofSource source
  | none => .ok .empty

/-- Runs an insert. -/
def insert (dao : Dao) (template : String) (values : List Value) (fields : List String) :
    Access σ InsertResult := do
  let keys := dao.keys fields
  let statement ← dao.prepare template values [] keys
  match ← Access.settle (Access.ofServer (Database.update statement)) with
  | .error e => do
    release statement
    throw e
  | .ok (count, statement) =>
    if keys.isRequested then do
      let (reported, statement) := Database.identities σ statement
      release statement
      let identities ← Access.ofOutcome (collect reported)
      return ⟨count, some identities⟩
    else do
      release statement
      return ⟨count, none⟩

/-- Runs an insert and gives one number: the number of affected rows, at most the greatest
number of 64 bits, if no identities were asked for; otherwise the first identity, or -1 if
there is none. -/
def insertOne (dao : Dao) (template : String) (values : List Value) (fields : List String) :
    Access σ (Signed 64) := do
  let result ← dao.insert template values fields
  match result.identities with
  | none => return .clamp 64 result.count
  | some identities =>
    if identities.entries.isEmpty then return .clamp 64 (-1)
    else Access.ofStreams (identities.asInteger dao.registry 0)

end Dao

end SqlAccess
