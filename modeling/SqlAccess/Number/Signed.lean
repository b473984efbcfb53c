import SqlAccess.Number.Power

/-!
# Signed integers of a fixed width

`Signed w` holds the integers that fit into `w` bits in two's complement. Nothing here wraps:
a number that does not fit has no `Signed.ofInt?`, and `Signed.clamp` takes the nearest one
that does. `ofBytes` and `toBytes` are the big-endian two's complement form.

* `ofInt?_eq_some_iff`: exactly the numbers of the range are accepted, and they keep their value.
-/

namespace SqlAccess

/-- The integers from `-2^(w-1)` up to `2^(w-1) - 1`. -/
structure Signed (w : Nat) where
  val : Int
  ge : -2 ^ (w - 1) ≤ val
  lt : val < 2 ^ (w - 1)

namespace Signed

variable {w : Nat}

theorem ext {a b : Signed w} (h : a.val = b.val) : a = b := by
  cases a; cases b; simp_all

instance : DecidableEq (Signed w) := fun a b =>
  if h : a.val = b.val then .isTrue (ext h) else .isFalse fun e => h (e ▸ rfl)

instance : Repr (Signed w) := ⟨fun a n => reprPrec a.val n⟩

/-- The number, if it is in the range. -/
def ofInt? (w : Nat) (n : Int) : Option (Signed w) :=
  if h : -2 ^ (w - 1) ≤ n ∧ n < 2 ^ (w - 1) then some ⟨n, h.1, h.2⟩ else none

theorem ofInt?_eq_some_iff {n : Int} {a : Signed w} : ofInt? w n = some a ↔ a.val = n := by
  unfold ofInt?
  constructor
  · intro h
    split at h
    · simp at h; rw [← h]
    · simp at h
  · rintro rfl
    rw [dif_pos ⟨a.ge, a.lt⟩]

theorem ofInt?_eq_none_iff {n : Int} :
    ofInt? w n = none ↔ n < -2 ^ (w - 1) ∨ 2 ^ (w - 1) ≤ n := by
  unfold ofInt?
  split
  · simp; omega
  · simp; omega

theorem two_pow_pos (k : Nat) : (0 : Int) < 2 ^ k := Int.pow_pos (by decide)

/-- The number of the range that is nearest to `n`. -/
def clamp (w : Nat) (n : Int) : Signed w :=
  if h : n < -2 ^ (w - 1) then ⟨-2 ^ (w - 1), Int.le_refl _, by have := two_pow_pos (w - 1); omega⟩
  else if h' : n < 2 ^ (w - 1) then ⟨n, by omega, h'⟩
  else ⟨2 ^ (w - 1) - 1, by have := two_pow_pos (w - 1); omega, by omega⟩

instance : Inhabited (Signed w) := ⟨clamp w 0⟩

/-- Each number of a width is one of every greater width. -/
def widen {v w : Nat} (h : v ≤ w) (a : Signed v) : Signed w :=
  have hp : (2 : Int) ^ (v - 1) ≤ 2 ^ (w - 1) := by
    exact_mod_cast Nat.pow_le_pow_right (n := 2) (by decide) (by omega)
  ⟨a.val, by have := a.ge; omega, by have := a.lt; omega⟩

end Signed

/-! ## Big-endian two's complement -/

/-- The bytes as one unsigned number, the most significant first. -/
def unsignedOfBytes (bytes : List UInt8) : Nat :=
  bytes.foldl (fun n b => n * 256 + b.toNat) 0

/-- The bytes as one number in two's complement, the most significant first. No bytes are
zero. -/
def signedOfBytes (bytes : List UInt8) : Int :=
  match bytes with
  | [] => 0
  | b :: _ =>
    if b.toNat < 128 then unsignedOfBytes bytes
    else unsignedOfBytes bytes - 256 ^ bytes.length

/-- The last `count` bytes of a number, the most significant first. -/
def bytesOfUnsigned : Nat → Nat → List UInt8
  | 0, _ => []
  | count + 1, n => bytesOfUnsigned count (n / 256) ++ [UInt8.ofNat (n % 256)]

/-- The number in two's complement with `count` bytes. -/
def bytesOfSigned (count : Nat) (n : Int) : List UInt8 :=
  bytesOfUnsigned count (n.emod (256 ^ count)).toNat

end SqlAccess
