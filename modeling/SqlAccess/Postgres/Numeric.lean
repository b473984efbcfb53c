import SqlAccess.Number.Decimal

/-!
# The wire form of decimals

A decimal is sent as groups of four digits, the most significant first, with the power of ten
thousand of the first group (the weight), a sign word and the number of fraction digits.

* `NumericGroups.ofDecimal` writes it. Trailing zero groups after the point are left out.
* `NumericGroups.toDecimal` reads it. The groups are added up one by one, and each sum is cut
  to 96 bits; the result has the announced number of fraction digits, at most 28. It tells apart
  groups that stand for no decimal and missing groups that it cannot supply.
-/

namespace SqlAccess.Postgres

/-- Why bytes are no value. -/
inductive DecodeError where
  /-- They do not stand for one, or for one that is out of range. -/
  | malformed
  /-- A power of ten that is needed to make one is beyond all decimals. -/
  | unscalable
  deriving DecidableEq, Repr

/-- A decimal in groups of four digits. -/
structure NumericGroups where
  /-- The power of ten thousand of the first group. -/
  weight : Int
  negative : Bool
  /-- The number of fraction digits. -/
  scale : Nat
  groups : List Nat
  deriving DecidableEq, Repr

namespace NumericGroups

/-- The digits of a number in base ten thousand, the last one first; `fuel` bounds their
number. -/
def baseDigits : (fuel : Nat) → Nat → List Nat
  | 0, _ => []
  | fuel + 1, n => if n = 0 then [] else n % 10000 :: baseDigits fuel (n / 10000)

/-- Drops zeros at the end. -/
def dropTrailingZeros (groups : List Nat) : List Nat :=
  (groups.reverse.dropWhile (· = 0)).reverse

/-- The groups of a decimal. -/
def ofDecimal (d : Decimal) : NumericGroups :=
  if d.magnitude = 0 then ⟨0, false, 0, []⟩
  else
    let fractionGroups := (d.scale + 3) / 4
    let padded := d.magnitude * 10 ^ (fractionGroups * 4 - d.scale)
    let groups := (baseDigits 32 padded).reverse
    let weight : Int := groups.length - fractionGroups - 1
    let whole := (weight + 1).toNat
    let kept :=
      if 0 ≤ weight then groups.take whole ++ dropTrailingZeros (groups.drop whole) else groups
    ⟨weight, d.negative, d.scale, kept⟩

/-! ## Adding up -/

/-- A magnitude with a number of fraction digits, on the way to a decimal. -/
structure Sum where
  magnitude : Nat
  scale : Nat

/-- The number has more than 96 bits. -/
def tooBig (n : Nat) : Bool := 2 ^ 96 ≤ n

/-- Drops `count` digits, rounding to the nearest, a half to the even neighbour. -/
def dropDigits (n count : Nat) : Nat :=
  let unit := 10 ^ count
  let twice := 2 * (n % unit)
  if twice < unit ∨ (twice = unit ∧ n / unit % 2 = 0) then n / unit else n / unit + 1

/-- The least number of digits, at most `scale`, that have to go for 96 bits, from `count` on. -/
def excess (n : Nat) : (scale : Nat) → (count : Nat) → Option Nat
  | 0, count => if tooBig (n / 10 ^ count) then none else some count
  | scale + 1, count =>
    if tooBig (n / 10 ^ count) then excess n scale (count + 1) else some count

/-- Cuts a sum to 96 bits by dropping fraction digits, if there are enough of them. -/
def Sum.cut? (s : Sum) : Option Sum :=
  if tooBig s.magnitude then do
    let count ← excess s.magnitude s.scale 0
    let m := dropDigits s.magnitude count
    let scale := s.scale - count
    if tooBig m then
      if scale = 0 then none else some ⟨dropDigits m 1, scale - 1⟩
    else some ⟨m, scale⟩
  else some s

/-- Drops trailing zeros after the point. -/
def Sum.shorten : Nat → Nat → Sum
  | m, 0 => ⟨m, 0⟩
  | m, scale + 1 => if m % 10 = 0 then shorten (m / 10) scale else ⟨m, scale + 1⟩

/-- The sum of two numbers that are not negative, cut to 96 bits. -/
def Sum.add? (a b : Sum) : Option Sum :=
  if a.magnitude = 0 then some b
  else if b.magnitude = 0 then some a
  else
    let scale := max a.scale b.scale
    Sum.cut? ⟨a.magnitude * 10 ^ (scale - a.scale) + b.magnitude * 10 ^ (scale - b.scale), scale⟩

/-- The whole number that groups stand for, if it has at most 96 bits. -/
def wholeOf (groups : List Nat) : Option Nat :=
  groups.foldlM (fun n group =>
    let next := n * 10000 + group
    if tooBig next then none else some next) 0

/-- The whole part: `count` groups, of which the last ones may be missing. They are supplied by
a power of ten, which has to be a decimal; one of more than 127 bits is not even formed. -/
def wholePart (groups : List Nat) (count : Nat) : Except DecodeError Nat :=
  match wholeOf (groups.take count) with
  | none => .error .malformed
  | some n =>
    let factor := 10 ^ (4 * (count - groups.length))
    if 2 ^ 127 ≤ factor then .error .malformed
    else if tooBig factor then .error .unscalable
    else if tooBig (n * factor) then .error .malformed
    else .ok (n * factor)

/-- Adds the groups after the point; the first one stands `place` groups after it. The group that
stands for the digits 29 to 32 only rounds the digit 28, and later ones do not count. -/
def addFraction (s : Sum) (place : Nat) : List Nat → Option Sum
  | [] => some s
  | group :: groups => do
    let digits := 4 * (place + 1)
    let next ←
      if digits ≤ 28 then s.add? (Sum.shorten group digits)
      else if digits = 32 ∧ 5000 ≤ group then s.add? ⟨1, 28⟩
      else some s
    addFraction next (place + 1) groups

/-- The decimal that groups stand for, if it is in range. -/
def toDecimal (g : NumericGroups) : Except DecodeError Decimal := do
  let count := (g.weight + 1).toNat
  let whole ← wholePart g.groups count
  let place := (-g.weight - 1).toNat
  let decimal? := do
    let sum ← addFraction ⟨whole, 0⟩ place (g.groups.drop count)
    Decimal.ofParts? g.negative sum.magnitude sum.scale
  match decimal? with
  | some d => .ok (d.rescale g.scale)
  | none => .error .malformed

end NumericGroups

end SqlAccess.Postgres
