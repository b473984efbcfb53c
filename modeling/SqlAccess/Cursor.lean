import SqlAccess.Record
import SqlAccess.Registry.Basic
import SqlAccess.RowSource
import SqlAccess.Text.Case

/-!
# Cursors

A cursor goes over the rows of a result once, from the first to the last, and reads the cells
of the row it is at through a registry. It owns the statement whose result it reads, and gives
it back when it is closed.

* `advance` goes to the next row. A failure of the row source leaves the state as it was.
* Every read asks for the state first: `resolve_of_state_ne` says that outside a row nothing is
  read and nothing else matters. Reading does not change the cursor, only streams.
* Whether a missing value is read as such or as the value that stands for it is fixed when the
  cursor is made.
-/

namespace SqlAccess

/-- A column of a result: its number, from zero, or its label in any case. -/
inductive ColumnRef where
  | index (i : Nat)
  | label (name : String)
  deriving DecidableEq, Repr

/-- A cursor over the rows of a result that owns a statement `S`. -/
structure Cursor (S : Type) where
  source : RowSource
  statement : Option S
  registry : Registry
  /-- A missing value is read as missing. -/
  allowNulls : Bool
  state : CursorState

/-- Fills up with blanks to a width. Longer text stays as it is. -/
def padTo (width : Option Nat) (cs : List Char) : List Char :=
  cs ++ List.replicate (width.getD 0 - cs.length) ' '

namespace Cursor

variable {S : Type}

/-- A cursor in front of the first row. -/
def ofSource (source : RowSource) (statement : Option S) (registry : Registry)
    (allowNulls : Bool) : Cursor S :=
  ⟨source, statement, registry, allowNulls, .unopened⟩

def columns (c : Cursor S) : List Column := c.source.columns

/-- Goes to the next row and says whether there is one. -/
def advance (c : Cursor S) : Except Error Bool × Cursor S :=
  match c.state with
  | .closed => (.error (.cursor .closed), c)
  | .exhausted => (.ok false, c)
  | _ =>
    match c.source.next with
    | (.ok true, source) => (.ok true, { c with source := source, state := .onRow })
    | (.ok false, source) => (.ok false, { c with source := source, state := .exhausted })
    | (.error e, source) => (.error e, { c with source := source })

/-- Closes the cursor and hands out the statement it has owned. -/
def close (c : Cursor S) : Option S × Cursor S :=
  (c.statement, { c with source := c.source.close, statement := none, state := .closed })

/-! ## Finding a column -/

/-- The number of the first column with this label; case does not matter. -/
def indexOfLabel (columns : List Column) (name : String) : Option Nat :=
  columns.findIdx? fun column => Text.lower column.label == Text.lower name

/-- The cursor is at a row. -/
def checkRow (c : Cursor S) : Except Error Unit :=
  if c.state = .onRow then .ok () else .error (.cursor c.state)

/-- The number of a column of the current row. -/
def resolve (c : Cursor S) (ref : ColumnRef) : Except Error Nat := do
  c.checkRow
  match ref with
  | .index i =>
    if i < c.columns.length then return i else throw (.notFound (.index i c.columns.length))
  | .label name =>
    match indexOfLabel c.columns name with
    | some i => return i
    | none => throw (.notFound (.label name))

/-- The type of a column; NULL beyond the last one. -/
def columnType (c : Cursor S) (i : Nat) : ColumnType := ((c.columns[i]?).map Column.type).getD .null

/-! ## Reading a cell -/

/-- The raw value of a cell in a column. Fixed-width text is filled up to the declared width. -/
def padded (column : Column) : Value → Value
  | .text s => if column.type = .char then .chars (padTo column.width s.toList) else .text s
  | .chars cs => if column.type = .char then .chars (padTo column.width cs) else .chars cs
  | v => v

/-- The raw value of a column of the current row. -/
def fetch (c : Cursor S) (i : Nat) : Except Error Value := do
  c.checkRow
  let raw ← c.source.value i
  return match c.columns[i]? with
    | some column => padded column raw
    | none => raw

/-- The value of a column, converted to a target. The cell is not touched if there is no such
conversion. -/
def coerceColumn (c : Cursor S) (i : Nat) (t : Target) : StreamM Error Value :=
  if c.registry.isCompatible (c.columnType i) t then
    match c.fetch i with
    | .error e => throw e
    | .ok raw =>
      if raw.isNull ∧ c.allowNulls then pure .null
      else StreamM.mapError .coercion (c.registry.coerce raw (c.columnType i) t)
  else throw (.coercion ⟨c.columnType i, t, .unsupported⟩)

/-- Goes on with the number of a column. -/
def atColumn {α : Type} (c : Cursor S) (ref : ColumnRef) (f : Nat → StreamM Error α) :
    StreamM Error α :=
  match c.resolve ref with
  | .ok i => f i
  | .error e => throw e

/-- The value of a column converted to a target. -/
def getAs (c : Cursor S) (ref : ColumnRef) (t : Target) : StreamM Error Value :=
  c.atColumn ref fun i => c.coerceColumn i t

/-- The value of a column converted to the default target of its type. -/
def getValue (c : Cursor S) (ref : ColumnRef) : StreamM Error Value :=
  c.atColumn ref fun i =>
    match (c.columnType i).defaultTarget with
    | some t => c.coerceColumn i t
    | none => throw (.coercion ⟨c.columnType i, .void, .noDefault⟩)

/-- The value of a column as a host type. -/
def get (c : Cursor S) (ref : ColumnRef) (t : HostType) : StreamM Error Value :=
  c.atColumn ref fun i => do
    let v ← c.coerceColumn i (.host t.kind)
    match t.read? v with
    | some read => return read
    | none => throw (.coercion ⟨c.columnType i, .host t.kind, .unreadableAs v.kind t⟩)

/-- All bytes of a column. A missing value has none. -/
def getBytes (c : Cursor S) (ref : ColumnRef) : StreamM Error (List UInt8) := do
  match ← c.get ref ⟨.bytes, true⟩ with
  | .bytes bs => return bs
  | _ => return []

/-- The whole text of a column. A missing value has none. -/
def getText (c : Cursor S) (ref : ColumnRef) : StreamM Error String := do
  match ← c.get ref ⟨.text, true⟩ with
  | .text s => return s
  | _ => return ""

/-- What the clock shows at a timestamp in a place that is `offset` seconds ahead of UTC, read
as if it were UTC. -/
def getClock (c : Cursor S) (ref : ColumnRef) (offset : Int) : StreamM Error Timestamp := do
  match ← c.get ref ⟨.timestamp, false⟩ with
  | .timestamp t =>
    match t.shifted? offset with
    | some clock => return clock
    | none => throw (.fault .clockReading)
  | _ => throw (.fault .clockReading)

/-! ## Reading a record -/

/-- The first field whose target the type of its column has no conversion to. -/
def incompatible (c : Cursor S) : Nat → List Field → Option CoercionError
  | _, [] => none
  | i, field :: fields =>
    if c.registry.isCompatible (c.columnType i) field.target then incompatible c (i + 1) fields
    else some ⟨c.columnType i, field.target, .incompatibleField field.name⟩

/-- The values of the columns from `i` on, converted to the targets of the fields. -/
def coerceFields (c : Cursor S) : Nat → List Field → StreamM Error (List Value)
  | _, [] => pure []
  | i, field :: fields => do
    let v ← c.coerceColumn i field.target
    return v :: (← coerceFields c (i + 1) fields)

/-- The current row as a record with these fields, each read as a host type. -/
def getRecord (c : Cursor S) (fields : List Field) (reads : List HostType) :
    StreamM Error (List Value) := do
  StreamM.ofExcept c.checkRow
  if fields.length ≠ c.columns.length then throw (.shape fields.length c.columns.length)
  match c.incompatible 0 fields with
  | some e => throw (.coercion e)
  | none =>
    let values ← c.coerceFields 0 fields
    StreamM.ofExcept (((⟨fields, values⟩ : FieldReader).readAll reads).mapError .record)

/-! ## What the state decides -/

theorem resolve_of_state_ne {c : Cursor S} (h : c.state ≠ .onRow) (ref : ColumnRef) :
    c.resolve ref = .error (.cursor c.state) := by
  simp [resolve, checkRow, h, bind, Except.bind]

theorem state_close (c : Cursor S) : c.close.2.state = .closed := rfl

end Cursor

end SqlAccess
