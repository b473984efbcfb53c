import SqlAccess.Number.Binary
import SqlAccess.Number.Digits

/-!
# Shortest decimal text of a floating point number

A finite number is written with the fewest significant digits that are read back as the same
number; of these the nearest to it, and of two nearest ones the greater. The digits are
written positionally: there is never an exponent, and no fraction after an integer.

The numbers that are read back as a given one form an interval. For a count of digits the
candidates are the two neighbours of the number on the decimal grid with that many digits.
-/

namespace SqlAccess.Shortest

/-- A positive rational number and the interval around it whose numbers are taken for it, all
over one denominator. -/
structure Interval where
  low : Nat
  value : Nat
  high : Nat
  den : Nat
  /-- The two ends belong to the interval. -/
  closed : Bool

/-- The numbers that round to `significand · 2^exponent` in the format. Below a power of two
the neighbour is half as far away. -/
def Interval.around (p : Precision) (significand : Nat) (exponent : Int) : Interval :=
  let up := 2 ^ (exponent - 2).toNat
  let isPower := significand = 2 ^ p.fractionBits ∧ p.minExponent < exponent
  { low := (4 * significand - if isPower then 1 else 2) * up
    value := 4 * significand * up
    high := (4 * significand + 2) * up
    den := 2 ^ (2 - exponent).toNat
    closed := significand % 2 = 0 }

/-- The number `digits · 10^power` lies in the interval. -/
def Interval.contains (i : Interval) (digits : Nat) (power : Int) : Bool :=
  let n := digits * 10 ^ power.toNat * i.den
  let low := i.low * 10 ^ (-power).toNat
  let high := i.high * 10 ^ (-power).toNat
  if i.closed then low ≤ n && n ≤ high else low < n && n < high

/-- The number of digits in front of the point; for a number below one tenth, minus the number
of zeros after the point. -/
def magnitude (num den : Nat) : Int :=
  if den ≤ num then (Digits.ofNat (num / den)).length
  else
    let inverse := (den + num - 1) / num
    1 - (Digits.ofNat (inverse - 1)).length

/-- A number `digits · 10^power` whose last digit is not a zero that a carry has left. -/
def carried (digits : Nat) (power : Int) : Nat × Int :=
  if digits % 10 = 0 then (digits / 10, power + 1) else (digits, power)

/-- Looks for a decimal with `count` digits, a number `digits · 10^power`, in the interval. -/
def candidate (i : Interval) (count : Nat) : Option (Nat × Int) :=
  let power := magnitude i.value i.den - count
  let n := i.value * 10 ^ (-power).toNat
  let d := i.den * 10 ^ power.toNat
  let below := n / d
  let exact := n % d = 0
  let nearer := if 2 * (n % d) < d then below else below + 1
  let farther := if 2 * (n % d) < d then below + 1 else below
  if exact then some (carried below power)
  else if i.contains nearer power then some (carried nearer power)
  else if i.contains farther power then some (carried farther power)
  else none

/-- The first count of digits, from `count` on, that has a candidate; at most `fuel` counts are
tried, and seventeen digits are enough for both formats. -/
def search (i : Interval) : Nat → Nat → Nat × Int
  | 0, count => (candidate i count).getD (0, 0)
  | fuel + 1, count => (candidate i count).getD (search i fuel (count + 1))

/-- The shortest digits of a positive number `significand · 2^exponent` of the format, and the
power of ten of the last one. -/
def digits (p : Precision) (significand : Nat) (exponent : Int) : Nat × Int :=
  search (.around p significand exponent) 17 1

/-- The number `digits · 10^power` without an exponent. -/
def positional (digits : Nat) (power : Int) : List Char :=
  if 0 ≤ power then Digits.ofNat (digits * 10 ^ power.toNat)
  else
    let places := (-power).toNat
    let ds := Digits.padded (places + 1) digits
    ds.take (ds.length - places) ++ '.' :: ds.drop (ds.length - places)

end SqlAccess.Shortest

namespace SqlAccess.Binary

/-- The shortest text of a floating point number. A zero keeps its sign. -/
def toText {p : Precision} (x : Binary p) : List Char :=
  match x.meaning with
  | .nan => ['N', 'a', 'N']
  | .infinite negative => (if negative then ['-'] else []) ++ ['i', 'n', 'f']
  | .finite negative s e =>
    (if negative then ['-'] else []) ++
      if s = 0 then ['0']
      else
        let found := Shortest.digits p s e
        Shortest.positional found.1 found.2

end SqlAccess.Binary
