import SqlAccess.Number.Signed

/-!
# Binary floating point numbers

`Binary p` is a number in one of the two IEEE 754 interchange formats, kept as its bits. All
arithmetic goes through exact rational numbers and one rounding, `ofRatio`, to the nearest
number of the format, a tie to the one with an even last bit. So nothing here depends on the
floating point unit of the machine.
-/

namespace SqlAccess

/-- The two formats. -/
inductive Precision where
  | single
  | double
  deriving DecidableEq, Repr

namespace Precision

/-- The number of stored bits of the significand. -/
def fractionBits : Precision → Nat
  | single => 23
  | double => 52

def exponentBits : Precision → Nat
  | single => 8
  | double => 11

def width (p : Precision) : Nat := 1 + p.exponentBits + p.fractionBits

/-- The number of bytes. -/
def bytes : Precision → Nat
  | single => 4
  | double => 8

/-- The weight of the last bit of the smallest numbers is two to this power. -/
def minExponent (p : Precision) : Int := 2 - 2 ^ (p.exponentBits - 1) - p.fractionBits

/-- The exponent field of infinities and NaNs. -/
def topField (p : Precision) : Nat := 2 ^ p.exponentBits - 1

end Precision

/-- A floating point number of a format, as its bits. -/
structure Binary (p : Precision) where
  bits : BitVec p.width
  deriving DecidableEq

/-- What the bits of a floating point number mean. -/
inductive Meaning where
  | nan
  | infinite (negative : Bool)
  /-- The number `± significand · 2^exponent`. -/
  | finite (negative : Bool) (significand : Nat) (exponent : Int)
  deriving DecidableEq, Repr

namespace Binary

variable {p : Precision}

/-- Puts the three fields together. -/
def ofFields (p : Precision) (negative : Bool) (field fraction : Nat) : Binary p :=
  ⟨BitVec.ofNat _ (negative.toNat * 2 ^ (p.exponentBits + p.fractionBits) +
    field * 2 ^ p.fractionBits + fraction)⟩

/-- The number with these bits. -/
def ofBits (p : Precision) (bits : Nat) : Binary p := ⟨BitVec.ofNat _ bits⟩

def nan (p : Precision) : Binary p := ofFields p false p.topField (2 ^ (p.fractionBits - 1))

def infinity (p : Precision) (negative : Bool) : Binary p := ofFields p negative p.topField 0

def zero (p : Precision) (negative : Bool) : Binary p := ofFields p negative 0 0

instance : Inhabited (Binary p) := ⟨zero p false⟩

def isNegative (x : Binary p) : Bool :=
  x.bits.toNat / 2 ^ (p.exponentBits + p.fractionBits) % 2 == 1

/-- The exponent field. -/
def field (x : Binary p) : Nat := x.bits.toNat / 2 ^ p.fractionBits % 2 ^ p.exponentBits

/-- The stored bits of the significand. -/
def fraction (x : Binary p) : Nat := x.bits.toNat % 2 ^ p.fractionBits

def meaning (x : Binary p) : Meaning :=
  if x.field = p.topField then
    if x.fraction = 0 then .infinite x.isNegative else .nan
  else if x.field = 0 then .finite x.isNegative x.fraction p.minExponent
  else .finite x.isNegative (2 ^ p.fractionBits + x.fraction) (p.minExponent + (x.field - 1 : Nat))

def isNaN (x : Binary p) : Bool := x.meaning == .nan

def isZero (x : Binary p) : Bool := x.field == 0 && x.fraction == 0

/-- Equality as numbers: a NaN equals nothing, and the two zeros are equal. -/
def sameNumber (x y : Binary p) : Bool :=
  !x.isNaN && !y.isNaN && (x.bits == y.bits || (x.isZero && y.isZero))

/-! ## Rounding -/

/-- The quotient of `num` by `den · 2^exponent`, rounded to the nearest integer, a tie to the
even one. -/
def roundedScaled (num den : Nat) (exponent : Int) : Nat :=
  let n := num * 2 ^ (-exponent).toNat
  let d := den * 2 ^ exponent.toNat
  let q := n / d
  let twice := 2 * (n % d)
  if twice < d ∨ (twice = d ∧ q % 2 = 0) then q else q + 1

/-- The exponent of the last bit when `num / den` is written with a full significand: one too
small at most, and never below the least exponent of the format. -/
def roughExponent (p : Precision) (num den : Nat) : Int :=
  max p.minExponent ((Nat.log2 num : Int) - Nat.log2 den - p.fractionBits - 1)

/-- The number `± significand · 2^exponent`, where the significand fills the format up to one
carry and the exponent is at least the least one. -/
def ofScaled (p : Precision) (negative : Bool) (significand : Nat) (exponent : Int) : Binary p :=
  let carried := significand = 2 ^ (p.fractionBits + 1)
  let s := if carried then 2 ^ p.fractionBits else significand
  let e := if carried then exponent + 1 else exponent
  if s < 2 ^ p.fractionBits then ofFields p negative 0 s
  else
    let field := (e - p.minExponent + 1).toNat
    if field < p.topField then ofFields p negative field (s - 2 ^ p.fractionBits)
    else infinity p negative

/-- The number nearest to `± num / den`, a tie to the one with an even last bit. -/
def ofRatio (p : Precision) (negative : Bool) (num den : Nat) : Binary p :=
  if num = 0 then zero p negative
  else
    let e := roughExponent p num den
    let fits := num * 2 ^ (-e).toNat / (den * 2 ^ e.toNat) < 2 ^ (p.fractionBits + 1)
    let e' := if fits then e else e + 1
    ofScaled p negative (roundedScaled num den e') e'

/-- The number nearest to a rational one. -/
def ofRat (p : Precision) (q : Rat) : Binary p := ofRatio p (q < 0) q.num.natAbs q.den

/-- The number nearest to an integer. -/
def ofInt (p : Precision) (n : Int) : Binary p := ofRatio p (n < 0) n.natAbs 1

/-! ## Conversions -/

/-- The rational number `significand · 2^exponent`. -/
def scaledRat (significand : Nat) (exponent : Int) : Rat :=
  if exponent < 0 then mkRat significand (2 ^ (-exponent).toNat)
  else ((significand * 2 ^ exponent.toNat : Nat) : Rat)

/-- The value of a finite number; zero for the others. -/
def toRat (x : Binary p) : Rat :=
  match x.meaning with
  | .finite negative s e => if negative then -scaledRat s e else scaledRat s e
  | _ => 0

/-- The number of another format that is nearest. NaN stays NaN and infinities stay. -/
def convert (q : Precision) (x : Binary p) : Binary q :=
  match x.meaning with
  | .nan => nan q
  | .infinite negative => infinity q negative
  | .finite negative s e =>
    ofRatio q negative (s * 2 ^ e.toNat) (2 ^ (-e).toNat)

/-- The integer part, taken to the nearest integer of the width. NaN gives zero. -/
def toSigned (w : Nat) (x : Binary p) : Signed w :=
  match x.meaning with
  | .nan => .clamp w 0
  | .infinite negative => .clamp w (if negative then -2 ^ w else 2 ^ w)
  | .finite negative s e =>
    let whole : Int := (s * 2 ^ e.toNat / 2 ^ (-e).toNat : Nat)
    .clamp w (if negative then -whole else whole)

end Binary

end SqlAccess
