import SqlAccess.Registry.Basic
import SqlAccess.Number.Conversion
import SqlAccess.Number.Shortest

/-!
# The standard conversions

The conversions that every application starts from, one family of column types after the
other. In each family a reader takes the raw value apart and refuses the kinds that such a
column does not have; the conversion of what it has read follows.

* Integers keep their number or fail; so do decimals, after their fraction is cut off.
* Floating point numbers are cut to integers and then taken to the nearest one in range.
* Text comes as a text or as its characters. Streams are read to the end where their content
  is asked for, and handed on where a stream is asked for.
-/

namespace SqlAccess.Standard

/-- The answer to a value of a kind that the conversion does not read. -/
def unexpected {α : Type} (wanted : Kind) (v : Value) : Except ConversionError α :=
  .error (.unexpectedKind wanted v.kind)

/-- A converter that reads the value and then goes on without streams. -/
def pureCell {α : Type} (read : Value → Except ConversionError α)
    (convert : α → Except ConversionError Value) : Converter :=
  fun v => StreamM.ofExcept (read v >>= convert)

/-! ## Readers -/

def readDecimal : Value → Except ConversionError Decimal
  | .decimal d => .ok d
  | v => unexpected .decimal v

/-- An integer of at most the given width, as its number. -/
def readInteger (widest : Width) : Value → Except ConversionError Int
  | .int w n => if w.bits ≤ widest.bits then .ok n.val else unexpected (.int widest) (.int w n)
  | v => unexpected (.int widest) v

/-- A floating point number; a double precision column also holds single precision numbers. -/
def readFloat : (p : Precision) → Value → Except ConversionError (Binary p)
  | .double, .float .single x => .ok (x.convert .double)
  | .double, .float .double x => .ok x
  | .single, .float .single x => .ok x
  | p, v => unexpected (.float p) v

def readBool : Value → Except ConversionError Bool
  | .bool b => .ok b
  | v => unexpected .bool v

def readText : Value → Except ConversionError String
  | .text s => .ok s
  | .chars cs => .ok (String.ofList cs)
  | v => unexpected .text v

def readChars : Value → Except ConversionError (List Char)
  | .chars cs => .ok cs
  | .text s => .ok s.toList
  | v => unexpected .chars v

def readBytes : Value → Except ConversionError (List UInt8)
  | .bytes bs => .ok bs
  | v => unexpected .bytes v

def readDate : Value → Except ConversionError Date
  | .date d => .ok d
  | v => unexpected .date v

def readTime : Value → Except ConversionError TimeOfDay
  | .time t => .ok t
  | v => unexpected .time v

def readTimestamp : Value → Except ConversionError Timestamp
  | .timestamp t => .ok t
  | v => unexpected .timestamp v

/-- A stream of bytes; bytes become a new stream. -/
def readBlob : Value → StreamM ConversionError StreamId
  | .blob s => pure s
  | .bytes bs => StreamM.newStream (.ofBytes bs)
  | v => StreamM.ofExcept (unexpected .blob v)

/-- A stream of text; a text becomes a new stream. -/
def readClob : Value → StreamM ConversionError StreamId
  | .clob s => pure s
  | .text s => StreamM.newStream (.ofText s)
  | v => StreamM.ofExcept (unexpected .clob v)

/-! ## Numbers -/

/-- The integer in a width, if it fits. -/
def intoInteger (w : Width) (n : Int) : Except ConversionError Value :=
  match Signed.ofInt? w.bits n with
  | some m => .ok (.int w m)
  | none => .error (.outOfRange (String.ofList (Digits.ofInt n)) (.int w))

/-- The integer as a decimal. -/
def intoDecimal (n : Int) : Except ConversionError Value :=
  match Decimal.ofInt? n with
  | some d => .ok (.decimal d)
  | none => .error (.outOfRange (String.ofList (Digits.ofInt n)) .decimal)

def decimalCell : Kind → Option Converter
  | .int .w8 => none
  | .int w => some (pureCell readDecimal fun d => intoInteger w d.truncated)
  | .float p => some (pureCell readDecimal fun d => .ok (.float p (d.toBinary p)))
  | .text => some (pureCell readDecimal fun d => .ok (.text (String.ofList d.toText)))
  | .decimal => some (pureCell readDecimal fun d => .ok (.decimal d))
  | _ => none

/-- The widest integers have no conversion to the narrowest. -/
def integerCell (widest : Width) : Kind → Option Converter
  | .int w =>
    if widest = .w64 ∧ w = .w8 then none
    else some (pureCell (readInteger widest) (intoInteger w))
  | .float p => some (pureCell (readInteger widest) fun n => .ok (.float p (.ofInt p n)))
  | .decimal => some (pureCell (readInteger widest) intoDecimal)
  | .text =>
    some (pureCell (readInteger widest) fun n => .ok (.text (String.ofList (Digits.ofInt n))))
  | _ => none

/-- A floating point number as a decimal. -/
def floatIntoDecimal {p : Precision} (x : Binary p) : Except ConversionError Value :=
  match Decimal.ofBinary? x with
  | some d => .ok (.decimal d)
  | none => .error (.outOfRange (String.ofList x.toText) .decimal)

def floatCell (p : Precision) : Kind → Option Converter
  | .int .w8 => none
  | .int .w128 => none
  | .int w => some (pureCell (readFloat p) fun x => .ok (.int w (x.toSigned w.bits)))
  | .float q => some (pureCell (readFloat p) fun x => .ok (.float q (if h : p = q then h ▸ x else x.convert q)))
  | .decimal => some (pureCell (readFloat p) floatIntoDecimal)
  | .text => some (pureCell (readFloat p) fun x => .ok (.text (String.ofList x.toText)))
  | _ => none

/-! ## Truth values, dates and times -/

def booleanCell : Kind → Option Converter
  | .bool => some (pureCell readBool fun b => .ok (.bool b))
  | .text => some (pureCell readBool fun b => .ok (.text (if b then "true" else "false")))
  | _ => none

def dateCell : Kind → Option Converter
  | .date => some (pureCell readDate fun d => .ok (.date d))
  | .text => some (pureCell readDate fun d => .ok (.text (String.ofList d.toText)))
  | _ => none

def timeCell : Kind → Option Converter
  | .time => some (pureCell readTime fun t => .ok (.time t))
  | .text => some (pureCell readTime fun t => .ok (.text (String.ofList t.toText)))
  | _ => none

def timestampCell : Kind → Option Converter
  | .timestamp => some (pureCell readTimestamp fun t => .ok (.timestamp t))
  | .int .w64 =>
    some (pureCell readTimestamp fun t =>
      .ok (.int .w64 ⟨t.millis, t.millis_range.1, t.millis_range.2⟩))
  | .text => some (pureCell readTimestamp fun t => .ok (.text (String.ofList t.toText)))
  | _ => none

/-! ## Text, bytes and streams -/

def textCell : Kind → Option Converter
  | .text => some (pureCell readText fun s => .ok (.text s))
  | .chars => some (pureCell readChars fun cs => .ok (.chars cs))
  | .clob => some fun v => return .clob (← readClob v)
  | _ => none

/-- Fixed-width text. It reaches the registry padded to the width of its column. -/
def charCell : Kind → Option Converter
  | .text => some (pureCell readText fun s => .ok (.text s))
  | .chars => some (pureCell readChars fun cs => .ok (.chars cs))
  | _ => none

/-- Up to sixteen bytes as an integer in two's complement. -/
def bytesIntoInteger (bs : List UInt8) : Except ConversionError Value :=
  match if bs.length ≤ 16 then Signed.ofInt? 128 (signedOfBytes bs) else none with
  | some n => .ok (.int .w128 n)
  | none => .error (.outOfRange s!"{bs.length} bytes" (.int .w128))

def binaryCell : Kind → Option Converter
  | .bytes => some (pureCell readBytes fun bs => .ok (.bytes bs))
  | .int .w128 => some (pureCell readBytes bytesIntoInteger)
  | .blob => some fun v => return .blob (← readBlob v)
  | _ => none

def blobCell : Kind → Option Converter
  | .blob => some fun v => return .blob (← readBlob v)
  | .bytes => some fun v => do
    let s ← readBlob v
    return .bytes (← StreamM.mapError .unreadable (StreamM.readAll s))
  | _ => none

def clobCell : Kind → Option Converter
  | .clob => some fun v => return .clob (← readClob v)
  | .text => some fun v => do
    let s ← readClob v
    return .text (← StreamM.mapError .unreadable (StreamM.readText s))
  | _ => none

/-! ## All of them -/

/-- The conversion of a column type to a kind. -/
def cell : ColumnType → Kind → Option Converter
  | .decimal | .numeric => decimalCell
  | .bigInt => integerCell .w64
  | .integer => integerCell .w32
  | .smallInt => integerCell .w16
  | .tinyInt => integerCell .w8
  | .double | .float => floatCell .double
  | .real => floatCell .single
  | .boolean | .bit => booleanCell
  | .date => dateCell
  | .time | .timeWithTimezone => timeCell
  | .timestamp | .timestampWithTimezone => timestampCell
  | .varChar | .longVarChar | .nVarChar | .longNVarChar | .nChar => textCell
  | .char => charCell
  | .binary | .varBinary | .longVarBinary => binaryCell
  | .blob => blobCell
  | .clob | .nClob => clobCell
  | .null | .other _ => fun _ => none

/-- An integer zero. -/
def zeroInteger (w : Width) : Value := .int w (.clamp w.bits 0)

/-- The value of a column type in place of a missing one. The two stream types have a new
stream at its end. -/
def zero : ColumnType → Option (StreamM ConversionError Value)
  | .decimal | .numeric => some (pure (.decimal .zero))
  | .bigInt => some (pure (zeroInteger .w64))
  | .integer => some (pure (zeroInteger .w32))
  | .smallInt => some (pure (zeroInteger .w16))
  | .tinyInt => some (pure (zeroInteger .w8))
  | .double | .float => some (pure (.float .double (.zero .double false)))
  | .real => some (pure (.float .single (.zero .single false)))
  | .boolean | .bit => some (pure (.bool false))
  | .date => some (pure (.date .epoch))
  | .time | .timeWithTimezone => some (pure (.time .midnight))
  | .timestamp | .timestampWithTimezone => some (pure (.timestamp .epoch))
  | .varChar | .longVarChar | .nVarChar | .longNVarChar | .nChar => some (pure (.text ""))
  | .char => some (pure (.chars []))
  | .binary | .varBinary | .longVarBinary => some (pure (.bytes []))
  | .blob => some (return .blob (← StreamM.newStream .empty))
  | .clob | .nClob => some (return .clob (← StreamM.newStream .empty))
  | .null => some (pure .null)
  | .other _ => none

end SqlAccess.Standard

namespace SqlAccess.Registry

/-- The registry of the standard conversions. -/
def standard : Registry :=
  ⟨fun c t =>
    match t with
    | .void => (Standard.zero c).map fun z _ => z
    | .host k => Standard.cell c k⟩

end SqlAccess.Registry
