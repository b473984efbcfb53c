import SqlAccess.Number.Conversion
import SqlAccess.Number.Shortest
import SqlAccess.Postgres.Wire

/-!
# From values to parameters

Which form a value is sent in depends on the server type of the parameter. Numbers go over to
the width that the server expects: integers exactly or not at all, decimals to integers after
their fraction is cut off. A value that no rule is for keeps its own form, and the server type
decides whether it takes it.
-/

namespace SqlAccess.Postgres

/-- The integer in a width, if it fits. -/
def narrow (w : Width) (n : Int) : Except BindReason Native :=
  match Signed.ofInt? w.bits n with
  | some m => .ok (.int w m)
  | none => .error (if n < 0 then .belowInteger else .aboveInteger)

/-- An integer of at most 64 bits. -/
def nativeInteger (t : ServerType) (n : Int) : Except BindReason Native :=
  match t with
  | .char => narrow .w8 n
  | .int2 => narrow .w16 n
  | .int4 => narrow .w32 n
  | .float4 => .ok (.float .single (.ofInt .single n))
  | .float8 => .ok (.float .double (.ofInt .double n))
  | .numeric =>
    match Decimal.ofInt? n with
    | some d => .ok (.numeric d)
    | none => .error .aboveDecimal
  | .text | .varchar | .bpchar => .ok (.text (String.ofList (Digits.ofInt n)))
  | _ => narrow .w64 n

/-- A floating point number, in double precision. -/
def nativeFloat (t : ServerType) (x : Binary .double) : Except BindReason Native :=
  match t with
  | .float4 => .ok (.float .single (x.convert .single))
  | .numeric =>
    match Decimal.ofBinary? x with
    | some d => .ok (.numeric d)
    | none => .error (.notFinite (String.ofList x.toText))
  | _ => .ok (.float .double x)

/-- The integer part of a decimal in a width, if it fits. -/
def narrowDecimal (t : ServerType) (w : Width) (d : Decimal) : Except BindReason Native :=
  match Signed.ofInt? w.bits d.truncated with
  | some m => .ok (.int w m)
  | none => .error (.outOfRange (String.ofList d.toText) t.label)

def nativeDecimal (t : ServerType) (d : Decimal) : Except BindReason Native :=
  match t with
  | .int2 => narrowDecimal t .w16 d
  | .int4 => narrowDecimal t .w32 d
  | .int8 => narrowDecimal t .w64 d
  | .float4 => .ok (.float .single (d.toBinary .single))
  | .float8 => .ok (.float .double (d.toBinary .double))
  | .text | .varchar => .ok (.text (String.ofList d.toText))
  | _ => .ok (.numeric d)

/-- The form in which a value is sent for a parameter of a server type. Streams are read when
they are bound, so none is left here. -/
def native (t : ServerType) : Value → Except BindReason Native
  | .null => .ok .null
  | .bool b => .ok (.bool b)
  | .int .w128 n =>
    match Decimal.ofInt? n.val with
    | some d => nativeDecimal t d
    | none => .error (if n.val < 0 then .belowDecimal else .aboveDecimal)
  | .int _ n => nativeInteger t n.val
  | .float .single x => nativeFloat t (x.convert .double)
  | .float .double x => nativeFloat t x
  | .decimal d => nativeDecimal t d
  | .text s => .ok (.text s)
  | .chars cs => .ok (.text (String.ofList cs))
  | .bytes bs => .ok (.bytea bs)
  | .date d => .ok (.date d)
  | .time time => .ok (.time time)
  | .timestamp ts => .ok (.timestamp (t ≠ .timestamp) ts)
  | .blob _ => .error .unbound
  | .clob _ => .error .unbound

end SqlAccess.Postgres
