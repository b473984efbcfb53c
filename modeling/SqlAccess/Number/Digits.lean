/-!
# Decimal digits

Numbers in base ten as lists of digit characters, in both directions.

* `toNat?_ofNat`, `toInt?_ofInt`: what is written is read back.
-/

namespace SqlAccess.Digits

/-- The digit characters of a number, without leading zeros; zero is one digit. -/
def ofNat (n : Nat) : List Char := Nat.toDigits 10 n

/-- The number that digit characters stand for. -/
def toNat (ds : List Char) : Nat := Nat.ofDigitChars 10 ds 0

/-- The number that a text stands for, if it has at least one character and all are ASCII
digits. -/
def toNat? (ds : List Char) : Option Nat :=
  if ds ≠ [] ∧ ds.all Char.isDigit then some (toNat ds) else none

/-- Zeros in front up to a width. -/
def padLeft (width : Nat) (ds : List Char) : List Char :=
  List.replicate (width - ds.length) '0' ++ ds

/-- A number with a fixed least count of digits. -/
def padded (width n : Nat) : List Char := padLeft width (ofNat n)

/-- A number with a minus sign if it is below zero. -/
def ofInt (n : Int) : List Char :=
  if n < 0 then '-' :: ofNat n.natAbs else ofNat n.natAbs

/-- Reads a number with an optional sign `+` or `-` and at least one digit. -/
def toInt? : List Char → Option Int
  | '-' :: ds => (toNat? ds).map fun (n : Nat) => -(n : Int)
  | '+' :: ds => (toNat? ds).map fun (n : Nat) => (n : Int)
  | ds => (toNat? ds).map fun (n : Nat) => (n : Int)

/-- Separates a sign from what follows it, and tells whether it is a minus. -/
def splitSign : List Char → Bool × List Char
  | '-' :: rest => (true, rest)
  | '+' :: rest => (false, rest)
  | cs => (false, cs)

/-- The value of a hexadecimal digit in either case. -/
def hexValue? (c : Char) : Option Nat :=
  if c.isDigit then some (c.toNat - '0'.toNat)
  else if 'a' ≤ c ∧ c ≤ 'f' then some (c.toNat - 'a'.toNat + 10)
  else if 'A' ≤ c ∧ c ≤ 'F' then some (c.toNat - 'A'.toNat + 10)
  else none

/-! ## What is written is read back -/

theorem toNat_ofNat (n : Nat) : toNat (ofNat n) = n :=
  Nat.ofDigitChars_toDigits (by decide) (by decide)

theorem isDigit_of_mem_ofNat {n : Nat} {c : Char} (h : c ∈ ofNat n) : c.isDigit = true :=
  Nat.isDigit_of_mem_toDigits (by decide) (by decide) h

theorem ofNat_ne_nil (n : Nat) : ofNat n ≠ [] := Nat.toDigits_ne_nil

theorem toNat?_ofNat (n : Nat) : toNat? (ofNat n) = some n := by
  have all : (ofNat n).all Char.isDigit := List.all_eq_true.2 fun _ h => isDigit_of_mem_ofNat h
  rw [toNat?, if_pos ⟨ofNat_ne_nil n, all⟩, toNat_ofNat]

theorem toInt?_ofInt (n : Int) : toInt? (ofInt n) = some n := by
  unfold ofInt
  split
  · have value : -(n.natAbs : Int) = n := by omega
    simp only [toInt?, toNat?_ofNat, Option.map_some, value]
  · have value : (n.natAbs : Int) = n := by omega
    unfold toInt?
    split
    · rename_i ds h
      exact absurd (isDigit_of_mem_ofNat (h ▸ List.mem_cons_self)) (by decide)
    · rename_i ds h
      exact absurd (isDigit_of_mem_ofNat (h ▸ List.mem_cons_self)) (by decide)
    · simp only [toNat?_ofNat, Option.map_some, value]

end SqlAccess.Digits
