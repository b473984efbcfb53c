import SqlAccess.Error

/-!
# Records

A record has fields in a fixed order; each asks for a target. The columns of a result are its
fields by position. A `FieldReader` takes the converted values apart again, one field after the
other, each as a host type.
-/

namespace SqlAccess

/-- A field of a record. -/
structure Field where
  name : String
  target : Target
  deriving DecidableEq, Repr

/-- Reads the values of fields in order. -/
structure FieldReader where
  /-- The fields that are not read yet. -/
  fields : List Field
  /-- Their values. -/
  values : List Value

namespace FieldReader

/-- The name of the field that is read next; a question mark after the last one. -/
def fieldName (r : FieldReader) : String := (r.fields.head?.map Field.name).getD "?"

/-- Reads the next field as a host type. The field is passed also when that fails. -/
def next (r : FieldReader) (t : HostType) : Except RecordError Value × FieldReader :=
  let rest : FieldReader := ⟨r.fields.tail, r.values.tail⟩
  match r.values with
  | [] => (.error (.missingField r.fieldName), rest)
  | v :: _ =>
    match t.read? v with
    | some read => (.ok read, rest)
    | none => (.error (.misread r.fieldName v.kind t), rest)

/-- Reads one field for each host type, up to the first failure. -/
def readAll (r : FieldReader) : List HostType → Except RecordError (List Value)
  | [] => .ok []
  | t :: ts => do
    let v ← (r.next t).1
    return v :: (← (r.next t).2.readAll ts)

end FieldReader

end SqlAccess
