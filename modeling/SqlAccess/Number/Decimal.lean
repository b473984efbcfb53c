import SqlAccess.Number.Digits
import SqlAccess.Number.Power

/-!
# Decimals

A decimal is a sign, a magnitude of at most 96 bits and a scale: the number of its fraction
digits. Two decimals of one value may differ in scale, and zero has two signs. Text keeps the
three apart; `sameNumber` compares values only.

* `Decimal.truncated` is the integer part; narrowing to an integer is defined by it.
* `Decimal.rescale` changes the number of fraction digits, rounding halves away from zero.
-/

namespace SqlAccess

/-- A decimal number `± magnitude · 10^(-scale)`. -/
structure Decimal where
  negative : Bool
  magnitude : Nat
  scale : Nat
  magnitude_lt : magnitude < 2 ^ 96
  scale_le : scale ≤ 28

namespace Decimal

theorem ext {a b : Decimal} (hn : a.negative = b.negative) (hm : a.magnitude = b.magnitude)
    (hs : a.scale = b.scale) : a = b := by
  cases a; cases b; simp_all

instance : DecidableEq Decimal := fun a b =>
  if h : a.negative = b.negative ∧ a.magnitude = b.magnitude ∧ a.scale = b.scale then
    .isTrue (ext h.1 h.2.1 h.2.2)
  else .isFalse fun e => h (by simp [e])

/-- The greatest scale. -/
def maxScale : Nat := 28

/-- The decimal with these parts, if they are in range. -/
def ofParts? (negative : Bool) (magnitude scale : Nat) : Option Decimal :=
  if h : magnitude < 2 ^ 96 ∧ scale ≤ 28 then some ⟨negative, magnitude, scale, h.1, h.2⟩
  else none

def zero : Decimal := ⟨false, 0, 0, by decide, by decide⟩

instance : Inhabited Decimal := ⟨zero⟩

/-- The integer as a decimal without fraction digits, if it is in range. -/
def ofInt? (n : Int) : Option Decimal := ofParts? (n < 0) n.natAbs 0

/-- The integer part: the number without its fraction. -/
def truncated (d : Decimal) : Int :=
  let whole : Int := (d.magnitude / 10 ^ d.scale : Nat)
  if d.negative then -whole else whole

/-- Sign, digits and, if the scale is not zero, a point in front of that many digits. -/
def toText (d : Decimal) : List Char :=
  let ds := Digits.padded (d.scale + 1) d.magnitude
  let whole := ds.take (ds.length - d.scale)
  let fraction := ds.drop (ds.length - d.scale)
  (if d.negative then ['-'] else []) ++ whole ++
    (if d.scale = 0 then [] else '.' :: fraction)

/-- Reads what `toText` writes. -/
def ofText? (cs : List Char) : Option Decimal :=
  let negative := cs.head? = some '-'
  let body := if negative then cs.tail else cs
  let whole := body.takeWhile Char.isDigit
  match body.dropWhile Char.isDigit with
  | [] => (Digits.toNat? whole).bind fun m => ofParts? negative m 0
  | '.' :: fraction =>
    if whole = [] ∨ fraction = [] then none
    else (Digits.toNat? (whole ++ fraction)).bind fun m => ofParts? negative m fraction.length
  | _ => none

/-- The two decimals are the same number; signs of zero and scales do not matter. -/
def sameNumber (a b : Decimal) : Bool :=
  a.magnitude * 10 ^ b.scale == b.magnitude * 10 ^ a.scale &&
    (a.negative == b.negative || a.magnitude == 0)

/-! ## Changing the scale -/

/-- The quotient of a magnitude by a power of ten, a half rounded away from zero. -/
def roundedQuotient (m k : Nat) : Nat := (m + 10 ^ k / 2) / 10 ^ k

/-- Appends up to `count` zeros to a magnitude, as long as it has room for them. The answer
holds the number of zeros that found none. -/
def appendZeros (m : Nat) : Nat → Nat × Nat
  | 0 => (m, 0)
  | count + 1 => if m * 10 < 2 ^ 96 then appendZeros (m * 10) count else (m, count + 1)

/-- The decimal with `scale` fraction digits, or as many as there is room for. -/
def rescale (d : Decimal) (scale : Nat) : Decimal :=
  let target := min scale maxScale
  let parts :=
    if d.magnitude = 0 then (0, target)
    else if target < d.scale then (roundedQuotient d.magnitude (d.scale - target), target)
    else
      let grown := appendZeros d.magnitude (target - d.scale)
      (grown.1, target - grown.2)
  (ofParts? d.negative parts.1 parts.2).getD d

end Decimal

end SqlAccess
