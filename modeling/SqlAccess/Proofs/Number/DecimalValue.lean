import Mathlib.Data.Rat.Floor
import SqlAccess.Number.Decimal

/-!
# The number of a decimal

A decimal stands for a rational number. Its integer part is this number without what is behind the
point, and its text is read as the same decimal.

* `truncated_eq`: the integer part is the number rounded toward zero.
* `ofText?_toText`: nothing of a decimal is lost in its text.
* `toRat_of_integer`, `toText_of_integer`: an integer without fraction digits.
-/

namespace SqlAccess

/-! ## Rounding toward zero -/

/-- A number without its fraction. -/
def towardZero (q : ℚ) : ℤ := if 0 ≤ q then ⌊q⌋ else ⌈q⌉

theorem towardZero_of_nonneg {q : ℚ} (nonneg : 0 ≤ q) : towardZero q = ⌊q⌋ := if_pos nonneg

theorem towardZero_neg (q : ℚ) : towardZero (-q) = -towardZero q := by
  rcases lt_trichotomy q 0 with negative | zero | positive
  · rw [towardZero_of_nonneg (neg_nonneg.2 negative.le), towardZero, if_neg (not_le.2 negative),
      Int.floor_neg]
  · rw [zero, neg_zero]
    rfl
  · rw [towardZero_of_nonneg positive.le, towardZero, if_neg (not_le.2 (neg_lt_zero.2 positive)),
      Int.ceil_neg]

theorem towardZero_intCast (n : ℤ) : towardZero n = n := by
  unfold towardZero
  split
  · exact Int.floor_intCast n
  · exact Int.ceil_intCast n

/-! ## Padded digits -/

namespace Digits

theorem toNat_zeros (count : Nat) (ds : List Char) :
    toNat (List.replicate count '0' ++ ds) = toNat ds := by
  induction count with
  | zero => rfl
  | succ count ih => exact ih

theorem isDigit_of_mem_padded {width n : Nat} {c : Char} (mem : c ∈ padded width n) :
    c.isDigit = true := by
  rcases List.mem_append.1 mem with zeros | digits
  · rw [List.eq_of_mem_replicate zeros]
    rfl
  · exact isDigit_of_mem_ofNat digits

theorem le_length_padded (width n : Nat) : width ≤ (padded width n).length := by
  rw [padded, padLeft, List.length_append, List.length_replicate]
  omega

theorem toNat?_padded (width n : Nat) : toNat? (padded width n) = some n := by
  have some_digit : padded width n ≠ [] := by
    intro empty
    exact ofNat_ne_nil n (List.append_eq_nil_iff.1 empty).2
  have all : (padded width n).all Char.isDigit = true :=
    List.all_eq_true.2 fun c mem => isDigit_of_mem_padded mem
  rw [toNat?, if_pos ⟨some_digit, all⟩, padded, padLeft, toNat_zeros, toNat_ofNat]

end Digits

namespace Decimal

/-! ## The number -/

/-- The number that a decimal stands for. -/
def toRat (d : Decimal) : ℚ :=
  if d.negative then -(d.magnitude / 10 ^ d.scale) else d.magnitude / 10 ^ d.scale

/-- The integer part of a decimal is its number rounded toward zero. -/
theorem truncated_eq (d : Decimal) : d.truncated = towardZero d.toRat := by
  have whole : ⌊(d.magnitude / 10 ^ d.scale : ℚ)⌋ = (d.magnitude / 10 ^ d.scale : Nat) := by
    have quotient := Rat.floor_intCast_div_natCast d.magnitude (10 ^ d.scale)
    push_cast at quotient
    exact_mod_cast quotient
  have nonneg : (0 : ℚ) ≤ d.magnitude / 10 ^ d.scale := by positivity
  have size := (towardZero_of_nonneg nonneg).trans whole
  unfold truncated toRat
  cases d.negative with
  | false => exact size.symm
  | true => exact ((towardZero_neg _).trans (congrArg (-·) size)).symm

theorem toRat_of_zero {d : Decimal} (zero : d.magnitude = 0) : d.toRat = 0 := by
  unfold toRat
  rw [zero]
  simp

/-- A decimal without fraction digits that has the sign and the size of an integer. -/
theorem toRat_of_integer {d : Decimal} {n : Int} (scale : d.scale = 0)
    (sign : d.negative = decide (n < 0)) (size : d.magnitude = n.natAbs) : d.toRat = n := by
  unfold toRat
  rw [sign, scale, pow_zero, div_one]
  by_cases negative : n < 0
  · have value : n = -(d.magnitude : Int) := by omega
    rw [decide_eq_true negative, if_pos rfl, value]
    push_cast
    rfl
  · have value : n = (d.magnitude : Int) := by omega
    rw [decide_eq_false negative, if_neg Bool.false_ne_true, value]
    push_cast
    rfl

theorem toText_of_integer {d : Decimal} {n : Int} (scale : d.scale = 0)
    (sign : d.negative = decide (n < 0)) (size : d.magnitude = n.natAbs) :
    d.toText = Digits.ofInt n := by
  have digits : Digits.padded 1 d.magnitude = Digits.ofNat d.magnitude := by
    have length := List.length_pos_iff.2 (Digits.ofNat_ne_nil d.magnitude)
    rw [Digits.padded, Digits.padLeft, Nat.sub_eq_zero_of_le length]
    rfl
  unfold toText Digits.ofInt
  rw [sign, scale, digits, size]
  by_cases negative : n < 0
  · simp [negative]
  · simp [negative]

/-! ## The text -/

/-- The digits in front of the point and those behind it. -/
theorem toText_parts (d : Decimal) :
    ∃ whole fraction : List Char, whole ≠ [] ∧ fraction.length = d.scale ∧
      whole ++ fraction = Digits.padded (d.scale + 1) d.magnitude ∧
        d.toText = (if d.negative then ['-'] else []) ++ whole ++
          (if d.scale = 0 then [] else '.' :: fraction) := by
  have long := Digits.le_length_padded (d.scale + 1) d.magnitude
  refine ⟨_, _, ?_, ?_, List.take_append_drop _ _, rfl⟩
  · intro none
    have length := congrArg List.length none
    rw [List.length_take, List.length_nil] at length
    omega
  · rw [List.length_drop]
    omega

/-- A minus sign is told from what follows it. -/
theorem signed_text (negative : Bool) {body : List Char} (unsigned : body.head? ≠ some '-') :
    let text := (if negative then ['-'] else []) ++ body
    decide (text.head? = some '-') = negative ∧
      (if text.head? = some '-' then text.tail else text) = body := by
  cases negative with
  | false => exact ⟨decide_eq_false unsigned, if_neg unsigned⟩
  | true => exact ⟨rfl, rfl⟩

/-- Nothing of a decimal is lost in its text. -/
theorem ofText?_toText (d : Decimal) : ofText? d.toText = some d := by
  obtain ⟨whole, fraction, some_digit, length, digits, text⟩ := d.toText_parts
  have value := Digits.toNat?_padded (d.scale + 1) d.magnitude
  have all : ∀ c ∈ whole ++ fraction, c.isDigit = true := by
    rw [digits]
    exact fun c => Digits.isDigit_of_mem_padded
  have front : ∀ c ∈ whole, c.isDigit = true := fun c mem => all c (List.mem_append_left _ mem)
  have unsigned (rest : List Char) : (whole ++ rest).head? ≠ some '-' := by
    obtain ⟨c, cs, rfl⟩ := List.exists_cons_of_ne_nil some_digit
    intro minus
    cases minus
    cases front '-' List.mem_cons_self
  have parts : ofParts? d.negative d.magnitude d.scale = some d :=
    dif_pos ⟨d.magnitude_lt, d.scale_le⟩
  rw [← digits] at value
  rw [text, List.append_assoc]
  obtain ⟨sign, body⟩ := signed_text d.negative (unsigned _)
  unfold ofText?
  dsimp only
  rw [sign, body, List.takeWhile_append_of_pos front, List.dropWhile_append_of_pos front]
  by_cases point : d.scale = 0
  · rw [point] at length parts
    rw [List.eq_nil_of_length_eq_zero length, List.append_nil] at value
    rw [if_pos point]
    show (Digits.toNat? (whole ++ [])).bind _ = _
    rw [List.append_nil, value]
    exact parts
  · have behind : fraction ≠ [] := by
      intro none
      rw [none] at length
      exact point length.symm
    rw [if_neg point]
    show (if whole ++ [] = [] ∨ fraction = [] then none
      else (Digits.toNat? (whole ++ [] ++ fraction)).bind _) = _
    rw [List.append_nil, if_neg fun none => none.elim some_digit behind, value, length]
    exact parts

end Decimal

end SqlAccess
