import SqlAccess.Value

/-!
# Columns

The declared type of a column says which conversions its cells have. Types are numbered; a
number without a type of its own is kept as `ColumnType.other`.

* `ofCode_code`: a named type is found under its own number.
-/

namespace SqlAccess

/-- The declared type of a column. -/
inductive ColumnType where
  | bigInt
  | binary
  | bit
  | blob
  | boolean
  | char
  | clob
  | date
  | decimal
  | double
  | float
  | integer
  | longNVarChar
  | longVarBinary
  | longVarChar
  | nChar
  | nClob
  | null
  | numeric
  | nVarChar
  | real
  | smallInt
  | time
  | timeWithTimezone
  | timestamp
  | timestampWithTimezone
  | tinyInt
  | varBinary
  | varChar
  /-- A type that has only a number. -/
  | other (code : Int)
  deriving DecidableEq, Repr

namespace ColumnType

/-- The types that have a name. -/
def named : List ColumnType :=
  [bigInt, binary, bit, blob, boolean, char, clob, date, decimal, double, float, integer,
    longNVarChar, longVarBinary, longVarChar, nChar, nClob, null, numeric, nVarChar, real,
    smallInt, time, timeWithTimezone, timestamp, timestampWithTimezone, tinyInt, varBinary,
    varChar]

/-- The number of a type. -/
def code : ColumnType → Int
  | bigInt => -5
  | binary => -2
  | bit => -7
  | blob => 2004
  | boolean => 16
  | char => 1
  | clob => 2005
  | date => 91
  | decimal => 3
  | double => 8
  | float => 6
  | integer => 4
  | longNVarChar => -16
  | longVarBinary => -4
  | longVarChar => -1
  | nChar => -15
  | nClob => 2011
  | null => 0
  | numeric => 2
  | nVarChar => -9
  | real => 7
  | smallInt => 5
  | time => 92
  | timeWithTimezone => 2013
  | timestamp => 93
  | timestampWithTimezone => 2014
  | tinyInt => -6
  | varBinary => -3
  | varChar => 12
  | other code => code

/-- The name of a type in messages. -/
def name : ColumnType → String
  | bigInt => "BIGINT"
  | binary => "BINARY"
  | bit => "BIT"
  | blob => "BLOB"
  | boolean => "BOOLEAN"
  | char => "CHAR"
  | clob => "CLOB"
  | date => "DATE"
  | decimal => "DECIMAL"
  | double => "DOUBLE"
  | float => "FLOAT"
  | integer => "INTEGER"
  | longNVarChar => "LONGNVARCHAR"
  | longVarBinary => "LONGVARBINARY"
  | longVarChar => "LONGVARCHAR"
  | nChar => "NCHAR"
  | nClob => "NCLOB"
  | null => "NULL"
  | numeric => "NUMERIC"
  | nVarChar => "NVARCHAR"
  | real => "REAL"
  | smallInt => "SMALLINT"
  | time => "TIME"
  | timeWithTimezone => "TIME_WITH_TIMEZONE"
  | timestamp => "TIMESTAMP"
  | timestampWithTimezone => "TIMESTAMP_WITH_TIMEZONE"
  | tinyInt => "TINYINT"
  | varBinary => "VARBINARY"
  | varChar => "VARCHAR"
  | other code => s!"OTHER({code})"

/-- The type with a number: the named one if there is one. -/
def ofCode (code : Int) : ColumnType :=
  (named.find? fun t => t.code == code).getD (other code)

/-- The type has only a number. -/
def isOther : ColumnType → Bool
  | other _ => true
  | _ => false

/-- What a cell is converted to when the caller does not say. -/
def defaultTarget : ColumnType → Option Target
  | bigInt => some (.host (.int .w64))
  | binary | varBinary | longVarBinary => some (.host .bytes)
  | bit | boolean => some (.host .bool)
  | blob => some (.host .blob)
  | char => some (.host .chars)
  | clob | nClob => some (.host .clob)
  | date => some (.host .date)
  | decimal | numeric => some (.host .decimal)
  | double | float => some (.host (.float .double))
  | integer => some (.host (.int .w32))
  | longNVarChar | longVarChar | nChar | nVarChar | varChar => some (.host .text)
  | real => some (.host (.float .single))
  | smallInt => some (.host (.int .w16))
  | time | timeWithTimezone => some (.host .time)
  | timestamp | timestampWithTimezone => some (.host .timestamp)
  | tinyInt => some (.host (.int .w8))
  | null => some .void
  | other _ => none

theorem ofCode_code {t : ColumnType} (h : t.isOther = false) : ofCode t.code = t := by
  cases t <;> first | decide | simp [isOther] at h

end ColumnType

/-- A column of a result. -/
structure Column where
  /-- The label as the database gives it. -/
  label : String
  type : ColumnType
  /-- The declared width of fixed-width text, if it is known. -/
  width : Option Nat
  deriving DecidableEq, Repr

end SqlAccess
