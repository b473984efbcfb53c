import SqlAccess.Stream
import SqlAccess.Number.Decimal
import SqlAccess.Number.Binary
import SqlAccess.Calendar.Time

/-!
# Values

A `Value` is what is bound to a parameter or read from a cell, whatever the database. Its
`Kind` is the host representation it has; a missing value has none. A `Target` is what a
conversion is asked for: a kind, or `void`, which stands for the value that a column type has
in place of a missing one.

A `HostType` is what a caller reads a value as: a kind, possibly an optional one, which also
takes missing values. These are the host types of this library; a type that an application adds,
with a way of its own to take a value apart, is none of them.
-/

namespace SqlAccess

/-- The widths of integers. -/
inductive Width where
  | w8
  | w16
  | w32
  | w64
  | w128
  deriving DecidableEq, Repr

/-- The number of bits. -/
def Width.bits : Width → Nat
  | w8 => 8
  | w16 => 16
  | w32 => 32
  | w64 => 64
  | w128 => 128

/-- The host representations of values. -/
inductive Kind where
  | bool
  | int (w : Width)
  | float (p : Precision)
  | decimal
  | text
  | chars
  | bytes
  | date
  | time
  | timestamp
  | blob
  | clob
  deriving DecidableEq, Repr

/-- The name of a kind in messages. -/
def Kind.name : Kind → String
  | bool => "bool"
  | int .w8 => "i8"
  | int .w16 => "i16"
  | int .w32 => "i32"
  | int .w64 => "i64"
  | int .w128 => "i128"
  | float .single => "f32"
  | float .double => "f64"
  | decimal => "decimal"
  | text => "text"
  | chars => "chars"
  | bytes => "bytes"
  | date => "date"
  | time => "time"
  | timestamp => "timestamp"
  | blob => "binary stream"
  | clob => "character stream"

/-- What a conversion is asked for. -/
inductive Target where
  /-- A value of a kind. -/
  | host (k : Kind)
  /-- The value in place of a missing one. -/
  | void
  deriving DecidableEq, Repr

/-- The name of a target in messages. -/
def Target.name : Target → String
  | host k => k.name
  | void => "void"

/-- A value of any kind, or a missing one. -/
inductive Value where
  | null
  | bool (b : Bool)
  | int (w : Width) (n : Signed w.bits)
  | float (p : Precision) (x : Binary p)
  | decimal (d : Decimal)
  | text (s : String)
  /-- Fixed-width character data, one element for each character. -/
  | chars (cs : List Char)
  | bytes (bs : List UInt8)
  | date (d : Date)
  | time (t : TimeOfDay)
  | timestamp (t : Timestamp)
  /-- A stream of bytes. -/
  | blob (s : StreamId)
  /-- A stream of text. -/
  | clob (s : StreamId)
  deriving DecidableEq

namespace Value

instance : Inhabited Value := ⟨null⟩

/-- The kind of a value that is not missing. -/
def kind : Value → Option Kind
  | null => none
  | bool _ => some .bool
  | int w _ => some (.int w)
  | float p _ => some (.float p)
  | decimal _ => some .decimal
  | text _ => some .text
  | chars _ => some .chars
  | bytes _ => some .bytes
  | date _ => some .date
  | time _ => some .time
  | timestamp _ => some .timestamp
  | blob _ => some .blob
  | clob _ => some .clob

/-- The value is missing. -/
def isNull : Value → Bool
  | null => true
  | _ => false

theorem isNull_eq_true_iff {v : Value} : v.isNull = true ↔ v = .null := by cases v <;> simp [isNull]

theorem kind_eq_none_iff {v : Value} : v.kind = none ↔ v = .null := by cases v <;> simp [kind]

/-- The values are the same: decimals and floating point numbers as numbers, streams if they are
one and the same stream, and values of two kinds never. -/
def same : Value → Value → Bool
  | float .single x, float .single y => x.sameNumber y
  | float .double x, float .double y => x.sameNumber y
  | decimal a, decimal b => a.sameNumber b
  | a, b => a == b

end Value

/-- The name of a value's kind in messages; `null` for a missing value. -/
def kindName (k : Option Kind) : String := (k.map Kind.name).getD "null"

/-! ## Host types -/

/-- What a caller reads a value as, if it is a type of this library. -/
structure HostType where
  kind : Kind
  /-- A missing value can be read, too. -/
  optional : Bool
  deriving DecidableEq, Repr

namespace HostType

/-- The name of the type behind a kind, as messages show it. -/
def plainName : Kind → String
  | .decimal => "rust_decimal::decimal::Decimal"
  | .text => "alloc::string::String"
  | .chars => "alloc::vec::Vec<char>"
  | .bytes => "alloc::vec::Vec<u8>"
  | .date => "chrono::naive::date::NaiveDate"
  | .time => "chrono::naive::time::NaiveTime"
  | .timestamp => "chrono::datetime::DateTime<chrono::offset::utc::Utc>"
  | .blob => "rdax::types::sql_value::BinaryStream"
  | .clob => "rdax::types::sql_value::CharStream"
  | k => k.name

/-- The name of a host type in messages. -/
def name (t : HostType) : String :=
  if t.optional then s!"core::option::Option<{plainName t.kind}>" else plainName t.kind

/-- The value can be read as this type: it has the kind, or it is missing and the type is
optional. -/
def accepts (t : HostType) (v : Value) : Bool :=
  match v.kind with
  | none => t.optional
  | some k => k == t.kind

/-- Reads a value, if its kind fits. -/
def read? (t : HostType) (v : Value) : Option Value := if t.accepts v then some v else none

end HostType

end SqlAccess
