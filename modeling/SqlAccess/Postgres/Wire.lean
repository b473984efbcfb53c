import SqlAccess.Postgres.Numeric
import SqlAccess.Postgres.ServerType
import SqlAccess.Error

/-!
# The binary forms of values

How values travel to the server and back, most significant byte first. Dates and timestamps are
counted from the start of the year 2000; what is finer than a microsecond is cut off toward that
origin.

* `Native` is a value in one of the forms that can be sent; `Native.fits` says which server
  types take it, and `Native.encode` writes it.
* `decode` reads a cell of a server type.
-/

namespace SqlAccess.Postgres

/-- A value in a form that can be sent. -/
inductive Native where
  | null
  | bool (b : Bool)
  | int (w : Width) (n : Signed w.bits)
  | float (p : Precision) (x : Binary p)
  | numeric (d : Decimal)
  | text (s : String)
  | bytea (bs : List UInt8)
  | date (d : Date)
  | time (t : TimeOfDay)
  /-- A timestamp with or without the zone UTC. -/
  | timestamp (zoned : Bool) (t : Timestamp)

/-- The days from 1970-01-01 to 2000-01-01. -/
def originDay : Int := 10957

/-- The seconds from 1970 to 2000. -/
def originSeconds : Int := 946684800

/-- Whole microseconds of a span of time, cut off toward zero. -/
def microseconds (seconds : Int) (nanos : Nat) : Int :=
  Int.tdiv (seconds * nanosPerSecond + nanos) 1000

/-- The server type takes the form. -/
def Native.fits : Native → ServerType → Bool
  | null, _ => true
  | bool _, t => t = .bool
  | int .w8 _, t => t = .char
  | int .w16 _, t => t = .int2
  | int .w32 _, t => t = .int4
  | int .w64 _, t => t = .int8
  | int .w128 _, _ => false
  | float .single _, t => t = .float4
  | float .double _, t => t = .float8
  | numeric _, t => t = .numeric
  | text _, t => t.takesText
  | bytea _, t => t = .bytea
  | date _, t => t = .date
  | time _, t => t = .time
  | timestamp false _, t => t = .timestamp
  | timestamp true _, t => t = .timestamptz

/-- A number of groups, weight, sign, number of fraction digits and the groups, two bytes
each. -/
def NumericGroups.encode (g : NumericGroups) : List UInt8 :=
  bytesOfUnsigned 2 g.groups.length ++ bytesOfSigned 2 g.weight ++
    bytesOfUnsigned 2 (if g.negative then 0x4000 else 0) ++ bytesOfUnsigned 2 g.scale ++
    g.groups.flatMap (bytesOfUnsigned 2)

/-- The bytes that are sent to a parameter of a type that takes the form; a missing value has
none. -/
def Native.encode : Native → ServerType → Option (List UInt8)
  | null, _ => none
  | bool b, _ => some [if b then 1 else 0]
  | int w n, _ => some (bytesOfSigned (w.bits / 8) n.val)
  | float p x, _ => some (bytesOfUnsigned p.bytes x.bits.toNat)
  | numeric d, _ => some (NumericGroups.ofDecimal d).encode
  | text s, t => some (t.textHeader ++ Utf8.toBytes s)
  | bytea bs, _ => some bs
  | date d, _ => some (bytesOfSigned 4 (d.days - originDay))
  | time t, _ => some (bytesOfSigned 8 (microseconds t.seconds t.nanos))
  | timestamp _ t, _ => some (bytesOfSigned 8 (microseconds (t.seconds - originSeconds) t.nanos))

/-! ## Reading -/

/-- A signed number of exactly `count` bytes. -/
def readSigned? (count : Nat) (bytes : List UInt8) : Option Int :=
  if bytes.length = count then some (signedOfBytes bytes) else none

/-- An unsigned number of exactly `count` bytes. -/
def readUnsigned? (count : Nat) (bytes : List UInt8) : Option Nat :=
  if bytes.length = count then some (unsignedOfBytes bytes) else none

def readInteger? (w : Width) (bytes : List UInt8) : Option Value := do
  return .int w (← Signed.ofInt? w.bits (← readSigned? (w.bits / 8) bytes))

def readFloat? (p : Precision) (bytes : List UInt8) : Option Value := do
  return .float p (.ofBits p (← readUnsigned? p.bytes bytes))

/-- As many groups of two bytes as announced. -/
def readGroups? : Nat → List UInt8 → Option (List Nat)
  | 0, _ => some []
  | count + 1, a :: b :: rest => do
    return unsignedOfBytes [a, b] :: (← readGroups? count rest)
  | _ + 1, _ => none

/-- The groups of a number that is not one of the special values. -/
def readNumericGroups? (bytes : List UInt8) : Option NumericGroups := do
  match ← readGroups? 4 bytes with
  | [count, _, sign, scale] =>
    let weight := signedOfBytes ((bytes.drop 2).take 2)
    let groups ← readGroups? count (bytes.drop 8)
    if 0xC000 ≤ sign then none else return ⟨weight, sign = 0x4000, scale, groups⟩
  | _ => none

/-- A number of groups. -/
def readNumeric (bytes : List UInt8) : Except DecodeError Value :=
  match readNumericGroups? bytes with
  | some groups => groups.toDecimal.map .decimal
  | none => .error .malformed

/-- A number of microseconds, taken round the clock. -/
def readTime? (bytes : List UInt8) : Option Value := do
  let micros ← readSigned? 8 bytes
  let ofDay := (micros.emod (secondsPerDay * 1000000)).toNat
  return .time (← TimeOfDay.ofParts? (ofDay / 1000000) (ofDay % 1000000 * 1000))

def readTimestamp? (bytes : List UInt8) : Option Value := do
  let micros ← readSigned? 8 bytes
  return .timestamp (← Timestamp.ofParts? (micros.fdiv 1000000 + originSeconds)
    ((micros.fmod 1000000).toNat * 1000))

/-- The value of a cell of a type other than decimals. A type without a reader has none. -/
def decodePlain? (t : ServerType) (bytes : List UInt8) : Option Value :=
  match t with
  | .bool => (readUnsigned? 1 bytes).map fun n => .bool (n != 0)
  | .char => readInteger? .w8 bytes
  | .int2 => readInteger? .w16 bytes
  | .int4 => readInteger? .w32 bytes
  | .int8 => readInteger? .w64 bytes
  | .oid => (readUnsigned? 4 bytes).bind fun n => (Signed.ofInt? 64 n).map (.int .w64)
  | .float4 => readFloat? .single bytes
  | .float8 => readFloat? .double bytes
  | .text | .varchar | .name | .unknown | .bpchar => (Utf8.ofBytes? bytes).map .text
  | .bytea => some (.bytes bytes)
  | .date => do
    return .date (← Date.ofDays? ((← readSigned? 4 bytes) + originDay))
  | .time => readTime? bytes
  | .timestamp | .timestamptz => readTimestamp? bytes
  | .numeric | .other _ _ => none

/-- The value of a cell. -/
def decode (t : ServerType) (bytes : List UInt8) : Except DecodeError Value :=
  if t = .numeric then readNumeric bytes
  else
    match decodePlain? t bytes with
    | some v => .ok v
    | none => .error .malformed

/-- What a cell holds: a missing value, a value of the type, or bytes that are none. -/
def readCell (t : ServerType) (column : Nat) (cell : Option (List UInt8)) : Except Error Value :=
  match t, cell with
  | .other label _, _ => .error (.query (.unsupportedType label))
  | _, none => .ok .null
  | t, some bytes =>
    match decode t bytes with
    | .ok v => .ok v
    | .error .malformed => .error (.query (.undecodable column))
    | .error .unscalable => .error (.fault .powerOfTen)

end SqlAccess.Postgres
