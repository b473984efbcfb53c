import SqlAccess.Number.Signed

/-!
# Numbers as bytes

Bytes stand for numbers in base 256, the most significant first. In two's complement the upper
half of the numbers of so many bytes stands for those below zero.

* `unsignedOfBytes_bytesOfUnsigned`, `signedOfBytes_bytesOfSigned`: what is written is read back.
* `ofInt?_signedOfBytes`: bytes stand for a number of their own width.
-/

namespace SqlAccess

/-! ## Unsigned numbers -/

theorem unsignedOfBytes_concat (bytes : List UInt8) (b : UInt8) :
    unsignedOfBytes (bytes ++ [b]) = unsignedOfBytes bytes * 256 + b.toNat := by
  unfold unsignedOfBytes
  rw [List.foldl_append]
  rfl

theorem unsignedOfBytes_cons (b : UInt8) (bytes : List UInt8) :
    unsignedOfBytes (b :: bytes) = b.toNat * 256 ^ bytes.length + unsignedOfBytes bytes := by
  have start (n : Nat) : bytes.foldl (fun n b => n * 256 + b.toNat) n =
      n * 256 ^ bytes.length + unsignedOfBytes bytes := by
    induction bytes generalizing n with
    | nil => simp [unsignedOfBytes]
    | cons c bytes ih =>
      have tail : unsignedOfBytes (c :: bytes) =
          c.toNat * 256 ^ bytes.length + unsignedOfBytes bytes := by
        rw [← ih]
        simp [unsignedOfBytes]
      rw [tail, List.foldl_cons, ih, List.length_cons, Nat.pow_succ, Nat.add_mul]
      rw [Nat.mul_comm (256 ^ bytes.length) 256, ← Nat.mul_assoc, Nat.add_assoc]
  rw [← start]
  simp [unsignedOfBytes]

theorem unsignedOfBytes_lt (bytes : List UInt8) : unsignedOfBytes bytes < 256 ^ bytes.length := by
  induction bytes with
  | nil => decide
  | cons b bytes ih =>
    have byte : b.toNat + 1 ≤ 256 := b.toNat_lt
    calc unsignedOfBytes (b :: bytes)
        = b.toNat * 256 ^ bytes.length + unsignedOfBytes bytes := unsignedOfBytes_cons b bytes
      _ < b.toNat * 256 ^ bytes.length + 256 ^ bytes.length := Nat.add_lt_add_left ih _
      _ = (b.toNat + 1) * 256 ^ bytes.length := by rw [Nat.add_mul, Nat.one_mul]
      _ ≤ 256 * 256 ^ bytes.length := Nat.mul_le_mul_right _ byte
      _ = 256 ^ (b :: bytes).length := by rw [List.length_cons, Nat.pow_succ, Nat.mul_comm]

theorem length_bytesOfUnsigned (count n : Nat) : (bytesOfUnsigned count n).length = count := by
  induction count generalizing n with
  | zero => rfl
  | succ count ih => rw [bytesOfUnsigned, List.length_append, ih, List.length_singleton]

theorem unsignedOfBytes_bytesOfUnsigned (count n : Nat) :
    unsignedOfBytes (bytesOfUnsigned count n) = n % 256 ^ count := by
  induction count generalizing n with
  | zero => rw [Nat.pow_zero, Nat.mod_one]; rfl
  | succ count ih =>
    have last : (UInt8.ofNat (n % 256)).toNat = n % 256 := by
      rw [UInt8.toNat_ofNat', Nat.mod_mod]
    rw [bytesOfUnsigned, unsignedOfBytes_concat, ih, last, Nat.pow_succ,
      Nat.mul_comm (256 ^ count) 256, Nat.mod_mul]
    omega

/-! ## Two's complement -/

theorem length_bytesOfSigned (count : Nat) (n : Int) : (bytesOfSigned count n).length = count :=
  length_bytesOfUnsigned count _

/-- Of the numbers of so many bytes, the upper half stands for those below zero. -/
theorem signedOfBytes_eq (bytes : List UInt8) :
    signedOfBytes bytes =
      if 2 * unsignedOfBytes bytes < 256 ^ bytes.length then (unsignedOfBytes bytes : Int)
      else unsignedOfBytes bytes - 256 ^ bytes.length := by
  cases bytes with
  | nil => rfl
  | cons b bytes =>
    have value := unsignedOfBytes_cons b bytes
    have rest := unsignedOfBytes_lt bytes
    have size : 256 ^ (b :: bytes).length = 256 * 256 ^ bytes.length := by
      rw [List.length_cons, Nat.pow_succ, Nat.mul_comm]
    have first : b.toNat < 128 ↔ 2 * unsignedOfBytes (b :: bytes) < 256 ^ (b :: bytes).length := by
      rw [value, size]
      constructor
      · intro low
        have : b.toNat * 256 ^ bytes.length ≤ 127 * 256 ^ bytes.length :=
          Nat.mul_le_mul_right _ (by omega)
        omega
      · intro low
        refine Nat.lt_of_not_le fun high => ?_
        have : 128 * 256 ^ bytes.length ≤ b.toNat * 256 ^ bytes.length :=
          Nat.mul_le_mul_right _ high
        omega
    unfold signedOfBytes
    dsimp only
    by_cases low : b.toNat < 128
    · rw [if_pos low, if_pos (first.1 low)]
    · rw [if_neg low, if_neg (mt first.2 low)]

theorem signedOfBytes_bytesOfSigned {count : Nat} {n : Int} (ge : -256 ^ count ≤ 2 * n)
    (lt : 2 * n < 256 ^ count) : signedOfBytes (bytesOfSigned count n) = n := by
  have positive : (0 : Int) < 256 ^ count := Int.pow_pos (by decide)
  have cast : ((256 ^ count : Nat) : Int) = 256 ^ count := by simp
  have value : (unsignedOfBytes (bytesOfSigned count n) : Int) = n % 256 ^ count := by
    have nonneg : 0 ≤ n % 256 ^ count := Int.emod_nonneg n (by omega)
    have below : n % 256 ^ count < 256 ^ count := Int.emod_lt_of_pos n positive
    unfold bytesOfSigned
    rw [unsignedOfBytes_bytesOfUnsigned]
    show (((n % 256 ^ count).toNat % 256 ^ count : Nat) : Int) = n % 256 ^ count
    rw [Nat.mod_eq_of_lt (by omega), Int.toNat_of_nonneg nonneg]
  have small : 2 * unsignedOfBytes (bytesOfSigned count n) < 256 ^ count ↔
      2 * (n % 256 ^ count) < 256 ^ count := by omega
  rw [signedOfBytes_eq, length_bytesOfSigned, value]
  by_cases sign : 0 ≤ n
  · have self : n % 256 ^ count = n := Int.emod_eq_of_lt sign (by omega)
    rw [if_pos (small.2 (by omega)), self]
  · have self : n % 256 ^ count = n + 256 ^ count := by
      rw [← Int.add_emod_right]
      exact Int.emod_eq_of_lt (by omega) (by omega)
    rw [if_neg (mt small.1 (by omega)), self]
    omega

/-- Up to sixteen bytes are an integer of 128 bits. -/
theorem signedOfBytes_range {bytes : List UInt8} {w : Nat} (short : 8 * bytes.length ≤ w)
    (positive : 0 < w) :
    -2 ^ (w - 1) ≤ signedOfBytes bytes ∧ signedOfBytes bytes < 2 ^ (w - 1) := by
  have size : 256 ^ bytes.length ≤ 2 * 2 ^ (w - 1) := by
    have : (256 : Nat) = 2 ^ 8 := rfl
    rw [this, ← Nat.pow_mul, Nat.mul_comm 2, ← Nat.pow_succ]
    exact Nat.pow_le_pow_right (by decide) (by omega)
  have cast : ((2 ^ (w - 1) : Nat) : Int) = 2 ^ (w - 1) := by simp
  have cast' : ((256 ^ bytes.length : Nat) : Int) = 256 ^ bytes.length := by simp
  have below := unsignedOfBytes_lt bytes
  rw [signedOfBytes_eq]
  split
  · omega
  · omega

theorem ofInt?_signedOfBytes {bytes : List UInt8} {w : Nat} (short : 8 * bytes.length ≤ w)
    (positive : 0 < w) : ∃ n, Signed.ofInt? w (signedOfBytes bytes) = some n :=
  ⟨_, dif_pos (signedOfBytes_range short positive)⟩

end SqlAccess
