import SqlAccess.Proofs.Cursor.Reads
import SqlAccess.Session

/-!
# What a reading depends on

A session reads the row of a cursor in one of several ways. All but one of them are for a single
column, and see no more of the cursor than this column.

* `Reading.column?`, `Reading.toColumn`: the column that a reading is for, and the same reading of
  another one.
* `read_of_sameColumn`, `read_of_sameColumns`: readings of columns that are alike.
-/

namespace SqlAccess

namespace Reading

/-- The column that is read; a record is read from all columns. -/
def column? : Reading → Option ColumnRef
  | .get column _ => some column
  | .getAs column _ => some column
  | .getValue column => some column
  | .bytes column => some column
  | .text column => some column
  | .clock column _ => some column
  | .record _ _ => none

/-- The same reading of another column. -/
def toColumn (column : ColumnRef) : Reading → Reading
  | .get _ type => .get column type
  | .getAs _ target => .getAs column target
  | .getValue _ => .getValue column
  | .bytes _ => .bytes column
  | .text _ => .text column
  | .clock _ offset => .clock column offset
  | .record fields reads => .record fields reads

theorem toColumn_self {reading : Reading} {column : ColumnRef}
    (single : reading.column? = some column) : reading.toColumn column = reading := by
  cases reading with
  | record fields reads => cases single
  | _ =>
    cases single
    rfl

end Reading

namespace Session

variable {S : Type} {c d : Cursor S} {ref ref' : ColumnRef} {reading : Reading}

/-- A reading depends on its column alone. -/
theorem read_of_sameColumn (same : Cursor.SameColumn c d ref ref')
    (single : reading.column? = some ref) :
    Session.read c reading = Session.read d (reading.toColumn ref') := by
  cases reading with
  | record fields reads => cases single
  | get column type =>
    cases single
    simp only [Session.read, Reading.toColumn, same.get]
  | getAs column target =>
    cases single
    simp only [Session.read, Reading.toColumn, same.getAs]
  | getValue column =>
    cases single
    simp only [Session.read, Reading.toColumn, same.getValue]
  | bytes column =>
    cases single
    simp only [Session.read, Reading.toColumn, same.getBytes]
  | text column =>
    cases single
    simp only [Session.read, Reading.toColumn, same.getText]
  | clock column offset =>
    cases single
    simp only [Session.read, Reading.toColumn, same.getClock]

/-- A reading depends on the columns alone. -/
theorem read_of_sameColumns (same : Cursor.SameColumns c d) (reading : Reading) :
    Session.read c reading = Session.read d reading := by
  cases single : reading.column? with
  | some ref =>
    rw [read_of_sameColumn (same.column ref) single, Reading.toColumn_self single]
  | none =>
    cases reading with
    | record fields reads => simp only [Session.read, same.getRecord]
    | _ => cases single

/-- A reading of a column that is not found fails for that reason, and reads no stream. -/
theorem read_of_resolve_eq_error {e : Error} (unresolved : c.resolve ref = .error e)
    (single : reading.column? = some ref) : Session.read c reading = throw e := by
  have nowhere {α : Type} (f : Nat → StreamM Error α) : c.atColumn ref f = throw e := by
    unfold Cursor.atColumn
    rw [unresolved]
  cases reading with
  | record fields reads => cases single
  | get | getAs | getValue =>
    cases single
    simp only [Session.read, Cursor.get, Cursor.getAs, Cursor.getValue, nowhere]
    rfl
  | bytes | text | clock =>
    cases single
    simp only [Session.read, Cursor.getBytes, Cursor.getText, Cursor.getClock, Cursor.get, nowhere]
    rfl

end Session

end SqlAccess
