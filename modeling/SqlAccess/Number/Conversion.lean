import SqlAccess.Number.Decimal
import SqlAccess.Number.Binary

/-!
# Decimals and floating point numbers

Conversions in both directions. Neither is the nearest number in all cases; each is a fixed
sequence of steps, and the result is what the steps give.

* `Decimal.toBinary` splits the decimal at the point, adds the two parts as double precision
  numbers and rounds the sum to as many places as the decimal has.
* `Decimal.ofBinary?` moves the binary exponent of the number step by step into a decimal one
  in a register of 96 bits, then cuts the digits that the format cannot hold.
-/

namespace SqlAccess

namespace Binary

/-- The exact result of an operation, rounded to double precision. -/
private def rounded (q : Rat) : Binary .double := ofRat .double q

/-- Ten to a power by repeated squaring in double precision. `bits` bounds the number of
binary digits of the power. -/
def powerOfTen : (bits : Nat) → (power : Nat) → (acc square : Binary .double) → Binary .double
  | 0, _, acc, _ => acc
  | bits + 1, power, acc, square =>
    let acc := if power % 2 = 1 then rounded (acc.toRat * square.toRat) else acc
    if power / 2 = 0 then acc
    else powerOfTen bits (power / 2) acc (rounded (square.toRat * square.toRat))

/-- The integer nearest to a number that is not negative, a half rounded up. -/
def roundHalfUp (x : Binary .double) : Binary .double :=
  rounded (Rat.floor (x.toRat + 1 / 2) : Int)

end Binary

namespace Decimal

open Binary in
/-- The magnitude of a decimal in double precision. -/
def magnitudeToDouble (magnitude scale : Nat) : Binary .double :=
  let unit := 10 ^ scale
  let whole := ofInt .double (magnitude / unit : Nat)
  if magnitude % unit = 0 then whole
  else
    let fraction := rounded ((ofInt .double (magnitude % unit : Nat)).toRat /
      (ofInt .double (unit : Nat)).toRat)
    let sum := rounded (whole.toRat + fraction.toRat)
    let places := powerOfTen 8 scale (ofInt .double 1) (ofInt .double 10)
    rounded ((roundHalfUp (rounded (sum.toRat * places.toRat))).toRat / places.toRat)

/-- The decimal in double precision. A zero without fraction digits loses its sign. -/
def toDouble (d : Decimal) : Binary .double :=
  let x := magnitudeToDouble d.magnitude d.scale
  if d.negative ∧ ¬(d.scale = 0 ∧ d.magnitude = 0) then
    Binary.ofFields .double true x.field x.fraction
  else x

/-- The decimal in one of the formats. Single precision rounds the double precision result. -/
def toBinary (p : Precision) (d : Decimal) : Binary p := d.toDouble.convert p

/-! ## From floating point -/

/-- A number on its way from a binary exponent to a decimal one: its value is
`bits · 5^fives · 10^tens`, up to the bits that are dropped on the way. -/
structure Register where
  bits : Nat
  fives : Int
  tens : Int

namespace Register

/-- The register holds 96 bits. -/
def limit : Nat := 2 ^ 96

/-- Moves a negative binary exponent into the decimal one: halves the bits while they are even,
else multiplies them by five while there is room, else drops a bit. -/
def settleNegative : (fuel : Nat) → Register → Register
  | 0, r => r
  | fuel + 1, r =>
    if 0 < r.fives then
      if r.bits % 2 = 0 then
        settleNegative fuel ⟨r.bits / 2, r.fives - 1, r.tens + 1⟩
      else if r.bits * 5 < limit then settleNegative fuel ⟨r.bits * 5, r.fives - 1, r.tens⟩
      else settleNegative fuel ⟨r.bits / 2, r.fives - 1, r.tens + 1⟩
    else r

/-- Moves a positive binary exponent into the decimal one: doubles the bits while the top one
is free, else divides them by five. -/
def settlePositive : (fuel : Nat) → Register → Option Register
  | 0, r => some r
  | fuel + 1, r =>
    if r.fives < 0 then
      if r.bits < 2 ^ 95 then settlePositive fuel ⟨r.bits * 2, r.fives + 1, r.tens - 1⟩
      else if -r.fives < 2 * r.tens then none
      else settlePositive fuel ⟨r.bits / 5, r.fives + 1, r.tens⟩
    else some r

/-- Writes out a positive decimal exponent. -/
def expand : (fuel : Nat) → Register → Option Register
  | 0, r => some r
  | fuel + 1, r =>
    if 0 < r.tens then
      if r.bits * 10 < limit then expand fuel ⟨r.bits * 10, r.fives, r.tens - 1⟩ else none
    else some r

/-- Drops the last digit, rounding half up. -/
def dropDigit (r : Register) : Register :=
  let q := r.bits / 10
  ⟨if 5 ≤ r.bits % 10 then q + 1 else q, r.fives, r.tens + 1⟩

/-- Drops digits until at most 28 are left after the point. What becomes zero is zero without
fraction digits. -/
def dropPlaces : (fuel : Nat) → Register → Register
  | 0, r => r
  | fuel + 1, r =>
    if r.tens < -28 then
      if r.bits / 10 = 0 then dropPlaces fuel ⟨0, r.fives, 0⟩
      else dropPlaces fuel r.dropDigit
    else r

/-- Digits after the point are kept as long as the bits stay below this bound. -/
def precisionBound : Precision → Nat
  | .single => 2 ^ 24
  | .double => 2 ^ 52

/-- Drops digits after the point until the bits are below the bound. -/
def dropExcess (bound : Nat) : (fuel : Nat) → Register → Register
  | 0, r => r
  | fuel + 1, r =>
    if r.tens < 0 ∧ bound ≤ r.bits then dropExcess bound fuel r.dropDigit else r

/-- Drops trailing zeros after the point. -/
def dropZeros : (fuel : Nat) → Register → Register
  | 0, r => r
  | fuel + 1, r =>
    if r.tens < 0 ∧ r.bits % 10 = 0 then dropZeros fuel ⟨r.bits / 10, r.fives, r.tens + 1⟩
    else r

end Register

/-- The decimal for `± significand · 2^exponent`, if it is in range. -/
def ofScaled? (p : Precision) (negative : Bool) (significand : Nat) (exponent : Int) :
    Option Decimal := do
  let fuel := exponent.natAbs + 128
  let start : Register := ⟨significand, -exponent, exponent⟩
  let settled ← (start.settleNegative fuel).settlePositive fuel
  let whole ← settled.expand fuel
  let cut := ((whole.dropPlaces fuel).dropExcess (Register.precisionBound p) fuel).dropZeros fuel
  ofParts? negative cut.bits (-cut.tens).toNat

/-- The decimal of a floating point number, if it is finite and in range. A zero keeps its
sign. -/
def ofBinary? {p : Precision} (x : Binary p) : Option Decimal :=
  match x.meaning with
  | .finite negative s e => if s = 0 then ofParts? negative 0 0 else ofScaled? p negative s e
  | _ => none

end Decimal

end SqlAccess
