import SqlAccess.Number.Binary
import SqlAccess.Number.Digits
import SqlAccess.Text.Scan

/-!
# Decimal numerals

The decimal writing of floating point numbers: digits, a point and an exponent to the base ten,
or the words for infinity and for no number. A numeral stands for the number of the format that
is nearest to it.
-/

namespace SqlAccess

namespace Binary

/-- The number nearest to `± digits · 10^power`. With more than 400 places in front of the
point it is beyond both formats, and with as many zeros after it below both. -/
def ofScientific (p : Precision) (negative : Bool) (digits : Nat) (power : Int) : Binary p :=
  let places := (Digits.ofNat digits).length + power
  if digits = 0 ∨ places < -400 then zero p negative
  else if 400 < places then infinity p negative
  else ofRatio p negative (digits * 10 ^ power.toNat) (10 ^ (-power).toNat)

end Binary

/-- A numeral `± whole.fraction · 10^exponent`. The digits are ASCII digits. -/
structure Numeral where
  negative : Bool
  whole : List Char
  fraction : List Char
  exponent : Int
  deriving DecidableEq

namespace Numeral

open Text

/-- The number nearest to a numeral. -/
def toBinary (p : Precision) (n : Numeral) : Binary p :=
  .ofScientific p n.negative (Digits.toNat (n.whole ++ n.fraction))
    (n.exponent - n.fraction.length)

/-- Takes a sign, if there is one, and tells whether it is a minus. -/
def scanSign : Scan Bool := fun cs => some (Digits.splitSign cs)

/-- Reads an exponent, if there is one. -/
def scanExponent : Scan Int := do
  let marks ← Scan.takeWhile fun c => c == 'e' || c == 'E'
  if marks = [] then return 0
  else
    guard (marks.length = 1)
    let negative ← scanSign
    let ds ← Scan.takeWhile1 Char.isDigit
    return if negative then -(Digits.toNat ds : Int) else Digits.toNat ds

/-- Reads a numeral after its sign. There is a digit on one side of the point at least. -/
def scanUnsigned (negative : Bool) : Scan Numeral := do
  let whole ← Scan.takeWhile Char.isDigit
  let fraction ← if ← Scan.skips '.' then Scan.takeWhile Char.isDigit else pure []
  guard (whole ++ fraction ≠ [])
  return ⟨negative, whole, fraction, ← scanExponent⟩

end Numeral

namespace Binary

open Text

/-- The words that stand for infinity and for no number. -/
def word? (p : Precision) (negative : Bool) (cs : List Char) : Option (Binary p) :=
  let word := String.ofList (cs.map Char.toLower)
  if word = "inf" ∨ word = "infinity" then some (infinity p negative)
  else if word = "nan" then some (nan p)
  else none

/-- The number that a text stands for: an optional sign and then a numeral or, in any case, the
word `inf`, `infinity` or `nan`. -/
def ofText? (p : Precision) (cs : List Char) : Option (Binary p) := do
  let (negative, cs) := Digits.splitSign cs
  (word? p negative cs).or ((Scan.whole (Numeral.scanUnsigned negative) cs).map (·.toBinary p))

end Binary

end SqlAccess
