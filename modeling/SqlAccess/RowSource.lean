import SqlAccess.Error

/-!
# Rows of a result

A row source hands out the rows of a result one after the other. It starts before the first
row. A cell is a value or the reason why it cannot be read, so reading a cell can fail without
the row being lost.

The rows are at hand or come from a server as its replies. An error among the replies takes the
place of a row: it is reported once, and the row handed out last stays current then. The end of
the replies is told once; who asks again finds the connection closed. The end of rows at hand
is told again and again.

* `next_incoming_error`: an error among the replies leaves the current row and the replies after
  it alone.
-/

namespace SqlAccess

/-- The cells of a row, in the order of the columns. -/
abbrev Row := List (Except Error Value)

/-- Where the rows that are still to come are. -/
inductive Supply where
  /-- They are at hand. -/
  | stored (rows : List Row)
  /-- A server sends them. -/
  | incoming (replies : List (Except QueryError Row))
  /-- The server has told that there are no more of them. -/
  | spent
  /-- They were given up. -/
  | closed

/-- An upper bound of the number of rows that are still to come. -/
def Supply.size : Supply → Nat
  | stored rows => rows.length
  | incoming replies => replies.length
  | spent => 0
  | closed => 0

/-- The rows of a result that are still to come, and the current one. -/
structure RowSource where
  columns : List Column
  supply : Supply
  current : Option Row

namespace RowSource

/-- A source of rows at hand. -/
def ofRows (columns : List Column) (rows : List Row) : RowSource := ⟨columns, .stored rows, none⟩

/-- A source of rows of values. -/
def ofValues (columns : List Column) (rows : List (List Value)) : RowSource :=
  ofRows columns (rows.map fun row => row.map .ok)

/-- A source of rows that a server sends. -/
def ofReplies (columns : List Column) (replies : List (Except QueryError Row)) : RowSource :=
  ⟨columns, .incoming replies, none⟩

/-- Goes to the next row and says whether there is one. -/
def next (s : RowSource) : Except Error Bool × RowSource :=
  match s.supply with
  | .stored [] => (.ok false, { s with current := none })
  | .stored (row :: rows) => (.ok true, { s with supply := .stored rows, current := some row })
  | .incoming [] => (.ok false, { s with supply := .spent, current := none })
  | .incoming (.ok row :: replies) =>
    (.ok true, { s with supply := .incoming replies, current := some row })
  | .incoming (.error e :: replies) => (.error (.query e), { s with supply := .incoming replies })
  | .spent => (.error (.query .connectionClosed), s)
  | .closed => (.error (.query .resultClosed), s)

/-- The cell of the current row in a column. -/
def value (s : RowSource) (i : Nat) : Except Error Value :=
  match s.current with
  | none => .error (.query .noCurrentRow)
  | some row =>
    match row[i]? with
    | none => .error (.notFound (.cell i))
    | some cell => cell

/-- Gives up all rows. -/
def close (s : RowSource) : RowSource := { s with supply := .closed, current := none }

/-- The rows were given up. -/
def isClosed (s : RowSource) : Bool :=
  match s.supply with
  | .closed => true
  | _ => false

theorem close_close (s : RowSource) : s.close.close = s.close := rfl

theorem next_incoming_error (columns : List Column) (e : QueryError)
    (replies : List (Except QueryError Row)) (current : Option Row) :
    next ⟨columns, .incoming (.error e :: replies), current⟩ =
      (.error (.query e), ⟨columns, .incoming replies, current⟩) := rfl

end RowSource

end SqlAccess
