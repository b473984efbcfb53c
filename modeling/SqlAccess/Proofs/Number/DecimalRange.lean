import SqlAccess.Number.Conversion

/-!
# Which floating point numbers are decimals

A finite number below two to the power of 96 always has a decimal: the register in which it is
made never overflows, and what is dropped on the way is a loss of digits only. All other numbers
have none.

* `Register.Fits`: the register can be read off as a decimal; every step after the exponents are
  settled keeps it so.
* `ofBinary?_eq_none_iff`: the numbers without a decimal.
-/

namespace SqlAccess

namespace Decimal

namespace Register

/-- The bits have their place, and the register holds no whole tens. -/
structure Fits (r : Register) : Prop where
  bits_lt : r.bits < 2 ^ 96
  tens_le : r.tens ≤ 0

/-! ## Settling the exponents -/

/-- A negative exponent is settled in as many steps as it has units. Each of them takes a factor
two from the bits, puts a factor five in, or drops a bit. -/
theorem settleNegative_fits (fuel : Nat) {r : Register} (bits : r.bits < 2 ^ 96)
    (nonneg : 0 ≤ r.fives) (enough : r.fives ≤ fuel) (room : r.tens + r.fives ≤ 0) :
    (r.settleNegative fuel).Fits ∧ (r.settleNegative fuel).fives = 0 ∧
      r.tens ≤ (r.settleNegative fuel).tens := by
  induction fuel generalizing r with
  | zero =>
    have settled : r.fives = 0 := by omega
    exact ⟨⟨bits, by simp only [settleNegative]; omega⟩, settled, Int.le_refl _⟩
  | succ fuel ih =>
    unfold settleNegative
    by_cases more : 0 < r.fives
    · have halved : (settleNegative fuel ⟨r.bits / 2, r.fives - 1, r.tens + 1⟩).Fits ∧
          (settleNegative fuel ⟨r.bits / 2, r.fives - 1, r.tens + 1⟩).fives = 0 ∧
          r.tens ≤ (settleNegative fuel ⟨r.bits / 2, r.fives - 1, r.tens + 1⟩).tens := by
        have next := ih (r := ⟨r.bits / 2, r.fives - 1, r.tens + 1⟩) (by dsimp only; omega)
          (by dsimp only; omega) (by dsimp only; omega) (by dsimp only; omega)
        exact ⟨next.1, next.2.1, by have := next.2.2; dsimp only at this; omega⟩
      rw [if_pos more]
      split
      · exact halved
      · split
        · exact ih ‹_› (by dsimp only; omega) (by dsimp only; omega) (by dsimp only; omega)
        · exact halved
    · rw [if_neg more]
      exact ⟨⟨bits, by omega⟩, by omega, Int.le_refl _⟩

theorem settleNegative_of_fives_le {fuel : Nat} {r : Register} (settled : r.fives ≤ 0) :
    r.settleNegative fuel = r := by
  cases fuel with
  | zero => rfl
  | succ fuel => exact if_neg (by omega)

theorem settlePositive_of_fives_ge {fuel : Nat} {r : Register} (settled : 0 ≤ r.fives) :
    r.settlePositive fuel = some r := by
  cases fuel with
  | zero => rfl
  | succ fuel => exact if_neg (by omega)

/-- A positive exponent is settled by doubling the bits, which is given up as soon as they have no
place. -/
theorem settlePositive_doubling {fuel bits n : Nat} (enough : n ≤ fuel) (fits : bits < 2 ^ 96) :
    settlePositive fuel ⟨bits, -n, n⟩ =
      if bits * 2 ^ n < 2 ^ 96 then some ⟨bits * 2 ^ n, 0, 0⟩ else none := by
  induction fuel generalizing bits n with
  | zero =>
    obtain rfl : n = 0 := by omega
    simp [settlePositive, fits]
  | succ fuel ih =>
    cases n with
    | zero => simp [settlePositive, fits]
    | succ n =>
      unfold settlePositive
      have negative : -((n + 1 : Nat) : Int) < 0 := by omega
      dsimp only
      rw [if_pos negative]
      by_cases room : bits < 2 ^ 95
      · have fives : -((n + 1 : Nat) : Int) + 1 = -(n : Int) := by omega
        have tens : ((n + 1 : Nat) : Int) - 1 = n := by omega
        have twice : bits * 2 ^ (n + 1) = bits * 2 * 2 ^ n := by
          rw [Nat.pow_succ, Nat.mul_comm (2 ^ n) 2, Nat.mul_assoc]
        rw [if_pos room, fives, tens, ih (by omega) (by omega), twice]
      · have full : 2 ^ 96 ≤ bits * 2 ^ (n + 1) := by
          have high : 2 ^ 95 * 2 ^ (n + 1) ≤ bits * 2 ^ (n + 1) :=
            Nat.mul_le_mul_right _ (Nat.le_of_not_lt room)
          have positive : 0 < 2 ^ n := Nat.two_pow_pos n
          rw [Nat.pow_succ] at high ⊢
          omega
        rw [if_neg room, if_pos (by omega), if_neg (Nat.not_lt.2 full)]

theorem expand_of_fits {fuel : Nat} {r : Register} (fits : r.Fits) : r.expand fuel = some r := by
  cases fuel with
  | zero => rfl
  | succ fuel => exact if_neg (by have := fits.tens_le; omega)

/-! ## Dropping digits -/

theorem Fits.dropDigit {r : Register} (fits : r.Fits) (below : r.tens < 0) :
    r.dropDigit.Fits := by
  have := fits.bits_lt
  refine ⟨?_, ?_⟩
  · unfold Register.dropDigit
    dsimp only
    split
    · omega
    · omega
  · unfold Register.dropDigit
    dsimp only
    omega

theorem Fits.dropPlaces {fuel : Nat} {r : Register} (fits : r.Fits)
    (enough : -28 - r.tens ≤ fuel) :
    (r.dropPlaces fuel).Fits ∧ -28 ≤ (r.dropPlaces fuel).tens := by
  induction fuel generalizing r with
  | zero => exact ⟨fits, by simp only [Register.dropPlaces]; omega⟩
  | succ fuel ih =>
    unfold Register.dropPlaces
    by_cases below : r.tens < -28
    · rw [if_pos below]
      split
      · exact ih ⟨by dsimp only; decide, Int.le_refl 0⟩ (by dsimp only; omega)
      · refine ih (fits.dropDigit (by omega)) ?_
        unfold Register.dropDigit
        dsimp only
        omega
    · rw [if_neg below]
      exact ⟨fits, by omega⟩

theorem Fits.dropExcess {r : Register} (bound fuel : Nat) (fits : r.Fits) (ge : -28 ≤ r.tens) :
    (r.dropExcess bound fuel).Fits ∧ -28 ≤ (r.dropExcess bound fuel).tens := by
  induction fuel generalizing r with
  | zero => exact ⟨fits, ge⟩
  | succ fuel ih =>
    unfold Register.dropExcess
    split
    · refine ih (fits.dropDigit (by omega)) ?_
      unfold Register.dropDigit
      dsimp only
      omega
    · exact ⟨fits, ge⟩

theorem Fits.dropZeros {r : Register} (fuel : Nat) (fits : r.Fits) (ge : -28 ≤ r.tens) :
    (r.dropZeros fuel).Fits ∧ -28 ≤ (r.dropZeros fuel).tens := by
  induction fuel generalizing r with
  | zero => exact ⟨fits, ge⟩
  | succ fuel ih =>
    unfold Register.dropZeros
    have := fits.bits_lt
    split
    · exact ih ⟨by dsimp only; omega, by dsimp only; omega⟩ (by dsimp only; omega)
    · exact ⟨fits, ge⟩

end Register

/-! ## The decimal -/

theorem ofParts?_isSome {negative : Bool} {magnitude scale : Nat} (bits : magnitude < 2 ^ 96)
    (places : scale ≤ 28) : (ofParts? negative magnitude scale).isSome = true := by
  unfold ofParts?
  rw [dif_pos ⟨bits, places⟩]
  rfl

/-- Digits are dropped from a register that fits until it can be read off. -/
theorem isSome_of_fits {p : Precision} {negative : Bool} {fuel : Nat} {r : Register} (fits : r.Fits)
    (enough : -28 - r.tens ≤ fuel) :
    (ofParts? negative
      (((r.dropPlaces fuel).dropExcess (Register.precisionBound p) fuel).dropZeros fuel).bits
      (-(((r.dropPlaces fuel).dropExcess (Register.precisionBound p) fuel).dropZeros
        fuel).tens).toNat).isSome = true := by
  obtain ⟨placed, ge⟩ := fits.dropPlaces enough
  obtain ⟨short, ge⟩ := placed.dropExcess (Register.precisionBound p) fuel ge
  obtain ⟨cut, ge⟩ := short.dropZeros fuel ge
  exact ofParts?_isSome cut.bits_lt (by omega)

theorem ofScaled?_isSome_iff (p : Precision) (negative : Bool) {significand : Nat}
    (bits : significand < 2 ^ 96) (exponent : Int) :
    (ofScaled? p negative significand exponent).isSome = true ↔
      significand * 2 ^ exponent.toNat < 2 ^ 96 := by
  unfold ofScaled?
  dsimp only
  by_cases sign : 0 < exponent
  · obtain ⟨n, rfl⟩ : ∃ n : Nat, exponent = n := ⟨exponent.toNat, by omega⟩
    rw [Register.settleNegative_of_fives_le (by dsimp only; omega),
      Register.settlePositive_doubling (by omega) bits, Int.toNat_natCast]
    split
    · rename_i room
      have fits : Register.Fits ⟨significand * 2 ^ n, 0, 0⟩ := ⟨room, Int.le_refl 0⟩
      simp only [bind, Option.bind, Register.expand_of_fits fits, room, iff_true]
      exact isSome_of_fits fits (by dsimp only; omega)
    · rename_i full
      simp [full]
  · obtain ⟨fits, fives, tens⟩ := @Register.settleNegative_fits (exponent.natAbs + 128)
      ⟨significand, -exponent, exponent⟩ bits (by dsimp only; omega) (by dsimp only; omega)
      (by dsimp only; omega)
    have small : significand * 2 ^ exponent.toNat < 2 ^ 96 := by
      rw [show exponent.toNat = 0 by omega, Nat.pow_zero, Nat.mul_one]
      exact bits
    simp only [bind, Option.bind, Register.settlePositive_of_fives_ge (Int.le_of_eq fives.symm),
      Register.expand_of_fits fits, small, iff_true]
    refine isSome_of_fits fits ?_
    dsimp only at tens
    omega

/-- The significand of a number has its place among the stored bits and one that is not. -/
theorem significand_lt {p : Precision} {x : Binary p} {negative : Bool} {s : Nat} {e : Int}
    (finite : x.meaning = .finite negative s e) : s < 2 ^ (p.fractionBits + 1) := by
  have fraction : x.fraction < 2 ^ p.fractionBits := Nat.mod_lt _ (Nat.two_pow_pos _)
  unfold Binary.meaning at finite
  rw [Nat.pow_succ]
  split at finite
  · split at finite <;> cases finite
  · split at finite
    · cases finite
      omega
    · cases finite
      omega

/-- A floating point number has no decimal exactly if it is not finite or its magnitude is two to
the power of 96 or more. -/
theorem ofBinary?_eq_none_iff {p : Precision} (x : Binary p) :
    ofBinary? x = none ↔
      ∀ negative s e, x.meaning = .finite negative s e → 2 ^ 96 ≤ s * 2 ^ e.toNat := by
  unfold ofBinary?
  cases finite : x.meaning with
  | nan | infinite => simp
  | finite negative s e =>
    have bits : s < 2 ^ 96 := by
      have := significand_lt finite
      cases p <;> simp only [Precision.fractionBits] at this <;> omega
    have only : (∀ negative' s' e', Meaning.finite negative s e = .finite negative' s' e' →
        2 ^ 96 ≤ s' * 2 ^ e'.toNat) ↔ 2 ^ 96 ≤ s * 2 ^ e.toNat :=
      ⟨fun all => all _ _ _ rfl, fun large _ _ _ same => by cases same; exact large⟩
    rw [only]
    dsimp only
    split
    · rename_i zero
      simp [zero, ofParts?]
    · rw [← Option.not_isSome_iff_eq_none, ofScaled?_isSome_iff p negative bits e]
      omega

end Decimal

end SqlAccess
