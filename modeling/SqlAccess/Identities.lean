import SqlAccess.Registry.Basic
import SqlAccess.RowSource
import SqlAccess.Text.Blank

/-!
# Generated identities

An insert can report the identities that the database has generated, one for each row, in
order. An identity keeps the type of its column and is converted when it is read. A missing
identity is never read as the value that stands for one.
-/

namespace SqlAccess

/-- Generated identities with the types of their columns. -/
structure Identities where
  entries : List (ColumnType × Value)

namespace Identities

def empty : Identities := ⟨[]⟩

/-- The two report the same identities of the same types. -/
def same (a b : Identities) : Bool :=
  a.entries.length == b.entries.length &&
    (a.entries.zip b.entries).all fun ((c, v), (d, w)) => c == d && v.same w

/-- Takes the first cell of each row; `fuel` is above the number of rows. -/
def ofRows (type : ColumnType) : RowSource → Nat → Except Error (List (ColumnType × Value))
  | _, 0 => .ok []
  | source, fuel + 1 =>
    match source.next with
    | (.error e, _) => .error e
    | (.ok false, _) => .ok []
    | (.ok true, source') => do
      let v ← source'.value 0
      return (type, v) :: (← ofRows type source' fuel)

/-- Reads the rows of a result. Their type is that of the first column, or NULL if there is
none. -/
def ofSource (source : RowSource) : Except Error Identities :=
  let type := (source.columns.head?.map Column.type).getD .null
  (ofRows type source (source.supply.size + 1)).map fun entries => ⟨entries⟩

/-- The entry at a place. -/
def entry (ids : Identities) (i : Nat) : Except Error (ColumnType × Value) :=
  match ids.entries[i]? with
  | some e => .ok e
  | none => .error (.notFound (.identity i ids.entries.length))

/-- The entry at a place, if it is not missing. -/
def present (ids : Identities) (i : Nat) (t : Target) : Except Error (ColumnType × Value) := do
  let (c, v) ← ids.entry i
  if v.isNull then throw (.coercion ⟨c, t, .nullIdentity⟩) else return (c, v)

/-- The identity as a text. -/
def asText (ids : Identities) (r : Registry) (i : Nat) : StreamM Error String :=
  match ids.present i (.host .text) with
  | .error e => throw e
  | .ok (c, v) => do
    match ← StreamM.mapError .coercion (r.coerce v c (.host .text)) with
    | .text s => return s
    | other => throw (.coercion ⟨c, .host .text, .convertedTo other.kind⟩)

/-- The number that a text stands for, without the blanks around it, if it fits. -/
def parseInteger (s : String) : Option (Signed 64) :=
  (Digits.toInt? (Text.trim s.toList)).bind (Signed.ofInt? 64)

/-- The identity as a number. A type without a conversion to numbers is read as text. -/
def asInteger (ids : Identities) (r : Registry) (i : Nat) : StreamM Error (Signed 64) :=
  match ids.present i (.host (.int .w64)) with
  | .error e => throw e
  | .ok (c, v) =>
    if r.isCompatible c (.host (.int .w64)) then do
      match ← StreamM.mapError .coercion (r.coerce v c (.host (.int .w64))) with
      | .int .w64 n => return n
      | other => throw (.coercion ⟨c, .host (.int .w64), .convertedTo other.kind⟩)
    else do
      let s ← ids.asText r i
      match parseInteger s with
      | some n => return n
      | none => throw (.coercion ⟨c, .host (.int .w64), .notAnInteger s⟩)

end Identities

end SqlAccess
