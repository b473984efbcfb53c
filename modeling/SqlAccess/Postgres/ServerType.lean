import SqlAccess.Column

/-!
# Types of the server

The server types whose cells can be read, and the column types that they stand for. A type
without a reader keeps its name and number; a few of them take texts all the same.
-/

namespace SqlAccess.Postgres

/-- A type of the server. -/
inductive ServerType where
  | bool
  /-- The type of one byte. -/
  | char
  | int2
  | int4
  | int8
  | oid
  | float4
  | float8
  | numeric
  | text
  | varchar
  | name
  | unknown
  | bpchar
  | bytea
  | date
  | time
  | timestamp
  | timestamptz
  /-- A type without a reader. -/
  | other (name : String) (number : Nat)
  deriving DecidableEq, Repr

namespace ServerType

/-- The name by which the server knows the type. -/
def label : ServerType → String
  | bool => "bool"
  | char => "char"
  | int2 => "int2"
  | int4 => "int4"
  | int8 => "int8"
  | oid => "oid"
  | float4 => "float4"
  | float8 => "float8"
  | numeric => "numeric"
  | text => "text"
  | varchar => "varchar"
  | name => "name"
  | unknown => "unknown"
  | bpchar => "bpchar"
  | bytea => "bytea"
  | date => "date"
  | time => "time"
  | timestamp => "timestamp"
  | timestamptz => "timestamptz"
  | other label _ => label

/-- The types that are known by name. -/
def known : List ServerType :=
  [bool, char, int2, int4, int8, oid, float4, float8, numeric, text, varchar, name, unknown,
    bpchar, bytea, date, time, timestamp, timestamptz, other "json" 114, other "_int4" 1007,
    other "uuid" 2950, other "timetz" 1266, other "interval" 1186, other "xid" 28,
    other "money" 790, other "regclass" 2205]

/-- The type of a name. -/
def ofLabel? (label : String) : Option ServerType := known.find? (·.label == label)

/-- The column type of a column of this type. The number of a type without a reader is read as a
signed number of 32 bits. -/
def columnType : ServerType → ColumnType
  | bool => .boolean
  | char => .tinyInt
  | int2 => .smallInt
  | int4 => .integer
  | int8 => .bigInt
  | oid => .bigInt
  | float4 => .real
  | float8 => .double
  | numeric => .numeric
  | text => .varChar
  | varchar => .varChar
  | name => .varChar
  | unknown => .varChar
  | bpchar => .char
  | bytea => .varBinary
  | date => .date
  | time => .time
  | timestamp => .timestamp
  | timestamptz => .timestampWithTimezone
  | other _ number => .other (Int.bmod number (2 ^ 32))

/-- The names of the types of label trees. -/
def treeLabels : List String := ["ltree", "lquery", "ltxtquery"]

/-- A text can be sent for a parameter of the type. Types of extensions are known by their names. -/
def takesText : ServerType → Bool
  | text | varchar | bpchar | name | unknown => true
  | other label _ => label = "citext" || label ∈ treeLabels
  | _ => false

/-- What is sent in front of a text: the types of label trees begin with the number of their
format. -/
def textHeader : ServerType → List UInt8
  | other label _ => if label ∈ treeLabels then [1] else []
  | _ => []

end ServerType

end SqlAccess.Postgres
