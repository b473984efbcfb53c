import SqlAccess.Column
import SqlAccess.Template.Rewrite

/-!
# Errors

Every failure of the library is a cause: a constructor that carries what the failure is about.
The wording is in the `message` functions only.
-/

namespace SqlAccess

open Template

/-! ## Conversions -/

/-- Why a conversion of a single value fails. -/
inductive ConversionError where
  /-- The value has another kind than the conversion reads. -/
  | unexpectedKind (wanted : Kind) (found : Option Kind)
  /-- The value does not fit into the kind; the text shows what does not fit. -/
  | outOfRange (shown : String) (wanted : Kind)
  /-- A stream cannot be read. -/
  | unreadable (reason : String)
  /-- A conversion supplied by the caller refuses the value. -/
  | refused (reason : String)
  deriving DecidableEq, Repr

def ConversionError.message : ConversionError → String
  | unexpectedKind wanted found =>
    s!"expected a {wanted.name} value, found {kindName found}"
  | outOfRange shown wanted => s!"{shown} is out of range for {wanted.name}"
  | unreadable reason => reason
  | refused reason => reason

/-- Why the value of a column cannot be had in the form that is asked for. -/
inductive CoercionReason where
  /-- The registry has no such conversion. -/
  | unregistered
  /-- A cursor finds that the registry has no such conversion, before it reads the cell. -/
  | unsupported
  /-- The conversion fails. -/
  | failed (e : ConversionError)
  /-- The column type has no default target. -/
  | noDefault
  /-- A field of a record asks for a target that the column type has no conversion to. -/
  | incompatibleField (field : String)
  /-- The converted value has another kind than the host type. -/
  | unreadableAs (found : Option Kind) (wanted : HostType)
  /-- A generated identity is missing. -/
  | nullIdentity
  /-- A generated identity is converted to another kind than asked for. -/
  | convertedTo (found : Option Kind)
  /-- A generated identity is a text that is not a number. -/
  | notAnInteger (text : String)
  deriving DecidableEq, Repr

def CoercionReason.message : CoercionReason → String
  | unregistered => "no registered conversion"
  | unsupported => "no conversion registered"
  | failed e => e.message
  | noDefault => "no default host type"
  | incompatibleField field => s!"incompatible with field '{field}'"
  | unreadableAs found wanted => s!"cannot read {kindName found} as {wanted.name}"
  | nullIdentity => "identity is null"
  | convertedTo found => s!"converted to {kindName found}"
  | notAnInteger text => s!"'{text}' is not an integer"

/-- A failed coercion of a value of a column type to a target. -/
structure CoercionError where
  column : ColumnType
  target : Target
  reason : CoercionReason
  deriving DecidableEq, Repr

def CoercionError.message (e : CoercionError) : String :=
  s!"Cannot coerce {e.column.name} to {e.target.name}: {e.reason.message}"

/-! ## Parameters -/

/-- Why a value is not bound to a parameter or not sent for it. -/
inductive BindReason where
  /-- A wide integer is above every decimal. -/
  | aboveDecimal
  /-- A wide integer is below every decimal. -/
  | belowDecimal
  /-- The conversion of character data to text gives another kind. -/
  | charactersConverted (found : Option Kind)
  /-- The conversion of character data to text fails. -/
  | charactersFailed (e : CoercionError)
  /-- The binder takes no streams. -/
  | unsupportedStream (k : Kind)
  /-- A stream cannot be read. -/
  | unreadable (reason : String)
  /-- The position is zero. -/
  | positionZero
  /-- The statement has only so many parameters. -/
  | noSuchParameter (count : Nat)
  /-- No value was bound. -/
  | unbound
  /-- An integer is above the range of the parameter's type. -/
  | aboveInteger
  /-- An integer is below the range of the parameter's type. -/
  | belowInteger
  /-- A decimal is out of the range of the parameter's type. -/
  | outOfRange (shown : String) (serverType : String)
  /-- A floating point number is no decimal. -/
  | notFinite (shown : String)
  deriving DecidableEq, Repr

def BindReason.message : BindReason → String
  | aboveDecimal => "Number exceeds maximum value that can be represented."
  | belowDecimal => "Number less than minimum value that can be represented."
  | charactersConverted found => s!"character data converted to {kindName found}"
  | charactersFailed e => e.message
  | unsupportedStream k => s!"unsupported type: {k.name}"
  | unreadable reason => reason
  | positionZero => "positions start at 1"
  | noSuchParameter count => s!"statement has {count} parameter(s)"
  | unbound => "parameter not bound"
  | aboveInteger => "number too large to fit in target type"
  | belowInteger => "number too small to fit in target type"
  | outOfRange shown serverType => s!"{shown} is out of range for {serverType}"
  | notFinite shown => s!"{shown} is not a finite decimal"

/-! ## Statements and results -/

/-- Why a statement or a result does not go on. -/
inductive QueryError where
  | statementClosed
  | resultClosed
  | noCurrentRow
  /-- The database reports an error in its own words. -/
  | reported (message : String)
  /-- The server reports an error. -/
  | server
  /-- A row that the server sends has not one cell for each column. -/
  | malformedReply
  /-- The server has sent all it had to send. -/
  | connectionClosed
  /-- The text of the statement cannot be sent. -/
  | unsendable
  /-- The server's type of a parameter does not take the kind of the value; from zero. -/
  | unserializable (parameter : Nat)
  /-- The bytes of a cell are no value of its type; from zero. -/
  | undecodable (column : Nat)
  /-- Cells of a server type cannot be read. -/
  | unsupportedType (name : String)
  deriving DecidableEq, Repr

def QueryError.message : QueryError → String
  | statementClosed => "statement is closed"
  | resultClosed => "result is closed"
  | noCurrentRow => "no current row"
  | reported message => message
  | server => "db error"
  | malformedReply => "error parsing response from server"
  | connectionClosed => "connection closed"
  | unsendable => "error encoding message to server"
  | unserializable parameter => s!"error serializing parameter {parameter}"
  | undecodable column => s!"error deserializing column {column}"
  | unsupportedType name => s!"unsupported column type {name}"

/-- What was asked for and is not there. -/
inductive Missing where
  | label (name : String)
  /-- A column number beyond the columns of the result. -/
  | index (i columns : Nat)
  /-- A column number beyond the cells of the row. -/
  | cell (i : Nat)
  | identity (i count : Nat)
  deriving DecidableEq, Repr

def Missing.message : Missing → String
  | label name => name
  | index i columns => s!"index {i} (result has {columns} columns)"
  | cell i => s!"index {i}"
  | identity i count => s!"identity {i} (insert returned {count})"

/-- The life of a cursor. -/
inductive CursorState where
  /-- No row was asked for yet. -/
  | unopened
  /-- The cursor is at a row. -/
  | onRow
  /-- The last row is passed. -/
  | exhausted
  | closed
  deriving DecidableEq, Repr

def CursorState.name : CursorState → String
  | unopened => "unopened"
  | onRow => "open"
  | exhausted => "exhausted"
  | closed => "closed"

/-- Why a record cannot be put together. -/
inductive RecordError where
  | missingField (field : String)
  | misread (field : String) (found : Option Kind) (wanted : HostType)
  deriving DecidableEq, Repr

def RecordError.message : RecordError → String
  | missingField field => s!"no value left for field '{field}'"
  | misread field found wanted =>
    s!"field '{field}' cannot be read from {kindName found} as {wanted.name}"

/-- Why no connection is made. -/
inductive ConnectionError where
  | noUrl
  | invalidString
  | invalidConfiguration
  | unreachable
  deriving DecidableEq, Repr

def ConnectionError.message : ConnectionError → String
  | noUrl => "no database_url configured"
  | invalidString => "invalid connection string"
  | invalidConfiguration => "invalid configuration"
  | unreachable => "error connecting to server"

/-- Why a computation breaks off for want of a value to go on with. -/
inductive Fault where
  /-- A clock reading falls outside the supported years. -/
  | clockReading
  /-- A power of ten is beyond all decimals. -/
  | powerOfTen
  deriving DecidableEq, Repr

def Fault.message : Fault → String
  | clockReading => "Local time out of range"
  | powerOfTen => "Power of ten out of range"

/-! ## All of them -/

/-- A failure of the library. -/
inductive Error where
  | connection (cause : ConnectionError)
  | query (cause : QueryError)
  | template (cause : TemplateError)
  | coercion (cause : CoercionError)
  | bind (position : Nat) (reason : BindReason)
  | cursor (state : CursorState)
  /-- The columns of a result and the fields of a record differ in number. -/
  | shape (fields columns : Nat)
  | record (cause : RecordError)
  | notFound (what : Missing)
  | fault (cause : Fault)
  deriving DecidableEq, Repr

def Error.message : Error → String
  | connection cause => s!"Connection failed: {cause.message}"
  | query cause => s!"Query failed: {cause.message}"
  | template cause => s!"Template error: {cause.message}"
  | coercion cause => cause.message
  | bind position reason => s!"Cannot bind parameter {position}: {reason.message}"
  | cursor state => s!"Illegal column access, cursor is {state.name}"
  | shape fields columns =>
    s!"Value object expects {fields} field(s) but the result has {columns} column(s)"
  | record cause => s!"Value object error: {cause.message}"
  | notFound what => s!"Column not found: {what.message}"
  | fault cause => cause.message

end SqlAccess
