import Mathlib.Data.List.Induction
import Mathlib.Data.Nat.Digits.Defs
import SqlAccess.Proofs.Number.Bytes

/-!
# Two's complement and the sign byte

Bytes in front of a number in two's complement do not change it as long as all their bits are the
sign bit of what follows them, and no other bytes can be put in front.

* `signedOfBytes_eq_twosComplement`: the number of the bytes is that of their bits.
* `bytesOfSigned_signedOfBytes`: bytes are written as they were read, so two numbers of the same
  length are the same bytes.
* `signedOfBytes_append_iff`: what can stand in front.
-/

namespace SqlAccess

/-! ## Bits -/

/-- The number of the bits of the bytes in two's complement, the most significant byte first. -/
def twosComplement (bytes : List UInt8) : Int :=
  (BitVec.ofNat (8 * bytes.length) (Nat.ofDigits 256 (bytes.reverse.map UInt8.toNat))).toInt

theorem unsignedOfBytes_eq_ofDigits (bytes : List UInt8) :
    unsignedOfBytes bytes = Nat.ofDigits 256 (bytes.reverse.map UInt8.toNat) := by
  induction bytes with
  | nil => rfl
  | cons b bytes ih =>
    rw [unsignedOfBytes_cons, List.reverse_cons, List.map_append, Nat.ofDigits_append, ← ih,
      List.length_map, List.length_reverse, List.map_singleton, Nat.ofDigits_singleton,
      Nat.mul_comm, Nat.add_comm]

theorem signedOfBytes_eq_twosComplement (bytes : List UInt8) :
    signedOfBytes bytes = twosComplement bytes := by
  have size : 2 ^ (8 * bytes.length) = 256 ^ bytes.length := Nat.pow_mul 2 8 bytes.length
  have below := unsignedOfBytes_lt bytes
  unfold twosComplement
  rw [← unsignedOfBytes_eq_ofDigits, BitVec.toInt_eq_toNat_cond, BitVec.toNat_ofNat, size,
    Nat.mod_eq_of_lt below, signedOfBytes_eq, Int.natCast_pow]
  rfl

/-! ## The sign byte -/

/-- Eight times the sign bit of a number in two's complement. -/
def signByte : List UInt8 → UInt8
  | [] => 0x00
  | b :: _ => if b.toNat < 128 then 0x00 else 0xff

theorem signByte_cons_signByte (bytes : List UInt8) :
    signByte (signByte bytes :: bytes) = signByte bytes := by
  cases bytes with
  | nil => rfl
  | cons b bytes =>
    by_cases low : b.toNat < 128
    · have sign : signByte (b :: bytes) = 0x00 := if_pos low
      rw [sign]
      rfl
    · have sign : signByte (b :: bytes) = 0xff := if_neg low
      rw [sign]
      rfl

theorem signedOfBytes_cons_signByte (bytes : List UInt8) :
    signedOfBytes (signByte bytes :: bytes) = signedOfBytes bytes := by
  cases bytes with
  | nil => rfl
  | cons b bytes =>
    have value := unsignedOfBytes_cons (signByte (b :: bytes)) (b :: bytes)
    by_cases low : b.toNat < 128
    · rw [signByte, if_pos low] at value ⊢
      have same : unsignedOfBytes (0x00 :: b :: bytes) = unsignedOfBytes (b :: bytes) := by
        rw [value]
        exact (congrArg (· + _) (Nat.zero_mul _)).trans (Nat.zero_add _)
      show (unsignedOfBytes (0x00 :: b :: bytes) : Int) = signedOfBytes (b :: bytes)
      rw [same, signedOfBytes, if_pos low]
    · rw [signByte, if_neg low] at value ⊢
      have size : (256 : Int) ^ (0xff :: b :: bytes).length = 256 * 256 ^ (b :: bytes).length := by
        rw [List.length_cons, pow_succ, mul_comm]
      have number : (unsignedOfBytes (0xff :: b :: bytes) : Int) =
          255 * 256 ^ (b :: bytes).length + unsignedOfBytes (b :: bytes) := by
        rw [value]
        push_cast
        rfl
      show (unsignedOfBytes (0xff :: b :: bytes) : Int) - 256 ^ (0xff :: b :: bytes).length =
        signedOfBytes (b :: bytes)
      rw [number, size, signedOfBytes, if_neg low]
      omega

theorem signByte_replicate (count : Nat) (bytes : List UInt8) :
    signByte (List.replicate count (signByte bytes) ++ bytes) = signByte bytes := by
  induction count with
  | zero => rfl
  | succ count ih =>
    have next := signByte_cons_signByte (List.replicate count (signByte bytes) ++ bytes)
    rw [ih] at next
    exact next

/-- Copies of the sign byte in front of a number do not change it. -/
theorem signedOfBytes_replicate (count : Nat) (bytes : List UInt8) :
    signedOfBytes (List.replicate count (signByte bytes) ++ bytes) = signedOfBytes bytes := by
  induction count with
  | zero => rfl
  | succ count ih =>
    have next := signedOfBytes_cons_signByte (List.replicate count (signByte bytes) ++ bytes)
    rw [signByte_replicate, ih] at next
    exact next

/-! ## Numbers of the same length -/

theorem bytesOfUnsigned_unsignedOfBytes (bytes : List UInt8) :
    bytesOfUnsigned bytes.length (unsignedOfBytes bytes) = bytes := by
  induction bytes using List.reverseRecOn with
  | nil => rfl
  | append_singleton bytes b ih =>
    have byte : b.toNat < 256 := b.toNat_lt
    have front : (unsignedOfBytes bytes * 256 + b.toNat) / 256 = unsignedOfBytes bytes := by omega
    have last : (unsignedOfBytes bytes * 256 + b.toNat) % 256 = b.toNat := by omega
    rw [unsignedOfBytes_concat, List.length_append, List.length_singleton, bytesOfUnsigned, front,
      last, ih, UInt8.ofNat_toNat]

theorem bytesOfSigned_signedOfBytes (bytes : List UInt8) :
    bytesOfSigned bytes.length (signedOfBytes bytes) = bytes := by
  have below := unsignedOfBytes_lt bytes
  have cast : ((256 ^ bytes.length : Nat) : Int) = 256 ^ bytes.length := by simp
  have unsigned : (signedOfBytes bytes).emod (256 ^ bytes.length) = unsignedOfBytes bytes := by
    rw [signedOfBytes_eq]
    split
    · exact Int.emod_eq_of_lt (by omega) (by omega)
    · show (unsignedOfBytes bytes - 256 ^ bytes.length : Int) % 256 ^ bytes.length = _
      rw [Int.sub_emod_right]
      exact Int.emod_eq_of_lt (by omega) (by omega)
  unfold bytesOfSigned
  rw [unsigned, Int.toNat_natCast]
  exact bytesOfUnsigned_unsignedOfBytes bytes

theorem eq_of_signedOfBytes_eq {bytes bytes' : List UInt8} (length : bytes.length = bytes'.length)
    (same : signedOfBytes bytes = signedOfBytes bytes') : bytes = bytes' := by
  rw [← bytesOfSigned_signedOfBytes bytes, same, length, bytesOfSigned_signedOfBytes]

/-- Only copies of the sign byte can stand in front of a number without changing it. -/
theorem signedOfBytes_append_iff (front bytes : List UInt8) :
    signedOfBytes (front ++ bytes) = signedOfBytes bytes ↔
      front = List.replicate front.length (signByte bytes) := by
  have extended := signedOfBytes_replicate front.length bytes
  constructor
  · intro same
    have length : (front ++ bytes).length =
        (List.replicate front.length (signByte bytes) ++ bytes).length := by
      rw [List.length_append, List.length_append, List.length_replicate]
    exact List.append_cancel_right (eq_of_signedOfBytes_eq length (same.trans extended.symm))
  · intro copies
    rw [← copies] at extended
    exact extended

end SqlAccess
