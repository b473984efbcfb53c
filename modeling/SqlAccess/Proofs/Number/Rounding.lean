import SqlAccess.Number.Binary

/-!
# Numbers that rounding leaves alone

A finite number of a format is a significand and an exponent in the one form that the format stores
(`Canonical`). A ratio that has such a form is rounded to itself. Single precision numbers have one
in double precision, so on the way there and back nothing is lost.

* `meaning_ofCanonical`, `eq_ofCanonical`: finite numbers and their stored form.
* `ofRatio_exact`: rounding of a number of the format.
* `convert_convert`: from single to double precision and back.
-/

namespace SqlAccess

namespace Binary

variable {p : Precision}

/-! ## Fields -/

theorem fields_ofFields (p : Precision) (negative : Bool) {field fraction : Nat}
    (field_lt : field < 2 ^ p.exponentBits) (fraction_lt : fraction < 2 ^ p.fractionBits) :
    (ofFields p negative field fraction).isNegative = negative ∧
      (ofFields p negative field fraction).field = field ∧
      (ofFields p negative field fraction).fraction = fraction := by
  unfold isNegative Binary.field Binary.fraction ofFields
  rw [BitVec.toNat_ofNat]
  cases p
  all_goals
    simp only [Precision.exponentBits, Precision.fractionBits, Precision.width] at *
    cases negative
    all_goals
      simp only [Bool.toNat_false, Bool.toNat_true, beq_iff_eq, beq_eq_false_iff_ne]
      omega

theorem toNat_beq_one (n : Nat) : (n % 2 == 1).toNat = n % 2 := by
  rcases Nat.mod_two_eq_zero_or_one n with even | odd
  · rw [even]
    rfl
  · rw [odd]
    rfl

theorem ofFields_fields (x : Binary p) : ofFields p x.isNegative x.field x.fraction = x := by
  obtain ⟨bits⟩ := x
  have size := bits.isLt
  unfold ofFields isNegative Binary.field Binary.fraction
  congr 1
  apply BitVec.eq_of_toNat_eq
  rw [BitVec.toNat_ofNat, toNat_beq_one]
  dsimp only
  generalize bits.toNat = n at *
  cases p
  all_goals
    simp only [Precision.exponentBits, Precision.fractionBits, Precision.width] at *
    omega

/-! ## The stored form of a number -/

/-- The significand fills the format, or the exponent is the least one; and the number is below the
infinite ones. -/
structure Canonical (p : Precision) (s : Nat) (e : Int) : Prop where
  significand_lt : s < 2 ^ (p.fractionBits + 1)
  exponent_ge : p.minExponent ≤ e
  full : 2 ^ p.fractionBits ≤ s ∨ e = p.minExponent
  exponent_lt : e - p.minExponent + 1 < p.topField

/-- The number that a format stores for a sign, a significand and an exponent. -/
def ofCanonical (p : Precision) (negative : Bool) (s : Nat) (e : Int) : Binary p :=
  if s < 2 ^ p.fractionBits then ofFields p negative 0 s
  else ofFields p negative (e - p.minExponent + 1).toNat (s - 2 ^ p.fractionBits)

theorem canonical_zero (p : Precision) : Canonical p 0 p.minExponent := by
  have positive : 1 < p.topField := by cases p <;> decide
  exact ⟨Nat.two_pow_pos _, Int.le_refl _, Or.inr rfl, by omega⟩

theorem topField_lt (p : Precision) : p.topField < 2 ^ p.exponentBits := by
  cases p <;> decide

theorem topField_pos (p : Precision) : 1 < p.topField := by
  cases p <;> decide

theorem meaning_ofCanonical {negative : Bool} {s : Nat} {e : Int} (canonical : Canonical p s e) :
    (ofCanonical p negative s e).meaning = .finite negative s e := by
  obtain ⟨significand_lt, exponent_ge, full, exponent_lt⟩ := canonical
  have top := topField_lt p
  have positive := topField_pos p
  rw [Nat.pow_succ] at significand_lt
  unfold ofCanonical
  split
  · rename_i small
    obtain ⟨sign, field, fraction⟩ :=
      fields_ofFields p negative (Nat.two_pow_pos p.exponentBits) small
    unfold meaning
    rw [sign, field, fraction, if_neg (by omega), if_pos rfl]
    obtain full | rfl := full
    · omega
    · rfl
  · rename_i large
    have field_lt : (e - p.minExponent + 1).toNat < 2 ^ p.exponentBits := by omega
    have fraction_lt : s - 2 ^ p.fractionBits < 2 ^ p.fractionBits := by omega
    obtain ⟨sign, field, fraction⟩ := fields_ofFields p negative field_lt fraction_lt
    unfold meaning
    rw [sign, field, fraction, if_neg (by omega), if_neg (by omega)]
    congr 1
    · omega
    · omega

/-- A finite number is stored in its canonical form. -/
theorem eq_ofCanonical {x : Binary p} {negative : Bool} {s : Nat} {e : Int}
    (finite : x.meaning = .finite negative s e) :
    Canonical p s e ∧ x = ofCanonical p negative s e := by
  have fraction_lt : x.fraction < 2 ^ p.fractionBits := Nat.mod_lt _ (Nat.two_pow_pos _)
  have field_lt : x.field < 2 ^ p.exponentBits := Nat.mod_lt _ (Nat.two_pow_pos _)
  have top : p.topField + 1 = 2 ^ p.exponentBits := by cases p <;> rfl
  have positive := topField_pos p
  have self := ofFields_fields x
  unfold meaning at finite
  split at finite
  · split at finite <;> cases finite
  · split at finite
    · rename_i zero
      cases finite
      refine ⟨⟨by rw [Nat.pow_succ]; omega, Int.le_refl _, Or.inr rfl, by omega⟩, ?_⟩
      rw [ofCanonical, if_pos fraction_lt, ← zero, self]
    · cases finite
      refine ⟨⟨by rw [Nat.pow_succ]; omega, by omega, Or.inl (by omega), by omega⟩, ?_⟩
      have field :
          (p.minExponent + ((x.field - 1 : Nat) : Int) - p.minExponent + 1).toNat = x.field := by
        omega
      rw [ofCanonical, if_neg (by omega), field, Nat.add_sub_cancel_left, self]

/-! ## Rounding -/

theorem log2_mul_two_pow {n : Nat} (positive : n ≠ 0) (k : Nat) :
    (n * 2 ^ k).log2 = n.log2 + k := by
  have power := Nat.two_pow_pos k
  refine (Nat.log2_eq_iff (Nat.mul_ne_zero positive (by omega))).2 ⟨?_, ?_⟩
  · rw [Nat.pow_add]
    exact Nat.mul_le_mul_right _ (Nat.log2_self_le positive)
  · rw [Nat.add_right_comm, Nat.pow_add]
    exact Nat.mul_lt_mul_of_pos_right Nat.lt_log2_self power

theorem log2_mul_bounds {m n : Nat} (left : m ≠ 0) (right : n ≠ 0) :
    m.log2 + n.log2 ≤ (m * n).log2 ∧ (m * n).log2 ≤ m.log2 + n.log2 + 1 := by
  have product := Nat.mul_ne_zero left right
  constructor
  · rw [Nat.le_log2 product, Nat.pow_add]
    exact Nat.mul_le_mul (Nat.log2_self_le left) (Nat.log2_self_le right)
  · have above : m * n < 2 ^ (m.log2 + 1) * 2 ^ (n.log2 + 1) :=
      Nat.mul_lt_mul'' Nat.lt_log2_self Nat.lt_log2_self
    rw [← Nat.pow_add, ← Nat.log2_lt product] at above
    omega

/-- The ratio is `s · 2^e`. -/
def IsRatio (num den s : Nat) (e : Int) : Prop :=
  num * 2 ^ (-e).toNat = s * (den * 2 ^ e.toNat)

/-- The first guess of the exponent is right or one too small. -/
theorem roughExponent_eq {num den s : Nat} {e : Int} (canonical : Canonical p s e)
    (ratio : IsRatio num den s e) (significand : s ≠ 0) (denominator : den ≠ 0) :
    roughExponent p num den = e ∨
      roughExponent p num den = e - 1 ∧ 2 ^ p.fractionBits ≤ s := by
  have numerator : num ≠ 0 := by
    rintro rfl
    have power := Nat.two_pow_pos e.toNat
    have : s * (den * 2 ^ e.toNat) ≠ 0 :=
      Nat.mul_ne_zero significand (Nat.mul_ne_zero denominator (by omega))
    exact this (ratio.symm.trans (Nat.zero_mul _))
  have scaled : den * 2 ^ e.toNat ≠ 0 :=
    Nat.mul_ne_zero denominator (Nat.ne_of_gt (Nat.two_pow_pos _))
  obtain ⟨low, high⟩ := log2_mul_bounds significand scaled
  rw [← ratio, log2_mul_two_pow numerator, log2_mul_two_pow denominator] at low high
  have below : s.log2 < p.fractionBits + 1 := (Nat.log2_lt significand).2 canonical.significand_lt
  have ge := canonical.exponent_ge
  unfold roughExponent
  obtain full | least := canonical.full
  · have above : p.fractionBits ≤ s.log2 := (Nat.le_log2 significand).2 full
    omega
  · by_cases full : 2 ^ p.fractionBits ≤ s
    · have above : p.fractionBits ≤ s.log2 := (Nat.le_log2 significand).2 full
      omega
    · have small : s.log2 < p.fractionBits := (Nat.log2_lt significand).2 (by omega)
      omega

theorem IsRatio.quotient {num den s : Nat} {e : Int} (ratio : IsRatio num den s e)
    (denominator : den ≠ 0) : num * 2 ^ (-e).toNat / (den * 2 ^ e.toNat) = s := by
  have scaled : 0 < den * 2 ^ e.toNat :=
    Nat.mul_pos (Nat.pos_of_ne_zero denominator) (Nat.two_pow_pos _)
  rw [ratio, Nat.mul_div_cancel _ scaled]

/-- A factor two can move from the exponent to the significand. -/
theorem isRatio_double {num den s : Nat} {e : Int} :
    IsRatio num den (2 * s) (e - 1) ↔ IsRatio num den s e := by
  unfold IsRatio
  by_cases sign : 1 ≤ e
  · have up : 2 ^ e.toNat = 2 * 2 ^ (e - 1).toNat := by
      rw [← Nat.pow_succ', show (e - 1).toNat.succ = e.toNat by omega]
    rw [up, show (-(e - 1)).toNat = (-e).toNat by omega, Nat.mul_left_comm den, Nat.mul_left_comm s,
      Nat.mul_assoc 2]
  · have down : 2 ^ (-(e - 1)).toNat = 2 * 2 ^ (-e).toNat := by
      rw [← Nat.pow_succ', show (-e).toNat.succ = (-(e - 1)).toNat by omega]
    rw [down, show (e - 1).toNat = e.toNat by omega, Nat.mul_left_comm num, Nat.mul_assoc 2,
      Nat.mul_left_cancel_iff (by decide)]

theorem isRatio_shift {num den s : Nat} {e : Int} (k : Nat) :
    IsRatio num den (s * 2 ^ k) (e - k) ↔ IsRatio num den s e := by
  induction k with
  | zero => simp
  | succ k ih =>
    rw [← ih, ← isRatio_double (e := e - k), Nat.mul_left_comm, Nat.mul_comm 2, ← Nat.pow_succ,
      show e - (k : Int) - 1 = e - (k + 1 : Nat) by omega]

theorem isRatio_zero {num den : Nat} {e : Int} : IsRatio num den 0 e ↔ num = 0 := by
  have power := Nat.two_pow_pos (-e).toNat
  unfold IsRatio
  rw [Nat.zero_mul, Nat.mul_eq_zero]
  omega

theorem IsRatio.roundedScaled {num den s : Nat} {e : Int} (ratio : IsRatio num den s e)
    (denominator : den ≠ 0) : Binary.roundedScaled num den e = s := by
  have scaled : 0 < den * 2 ^ e.toNat :=
    Nat.mul_pos (Nat.pos_of_ne_zero denominator) (Nat.two_pow_pos _)
  unfold Binary.roundedScaled
  dsimp only
  rw [show num * 2 ^ (-e).toNat = s * (den * 2 ^ e.toNat) from ratio, Nat.mul_mod_left,
    if_pos (Or.inl (by omega)), Nat.mul_div_cancel _ scaled]

theorem ofScaled_canonical {negative : Bool} {s : Nat} {e : Int} (canonical : Canonical p s e) :
    ofScaled p negative s e = ofCanonical p negative s e := by
  have lt := canonical.significand_lt
  have field := canonical.exponent_lt
  have ge := canonical.exponent_ge
  unfold ofScaled ofCanonical
  simp only [Nat.ne_of_lt lt, if_false]
  split
  · rfl
  · rw [if_pos (by omega)]

/-- A number of the format is rounded to itself. -/
theorem ofRatio_exact {negative : Bool} {num den s : Nat} {e : Int} (canonical : Canonical p s e)
    (ratio : IsRatio num den s e) (denominator : den ≠ 0) :
    ofRatio p negative num den = ofCanonical p negative s e := by
  have scaled : den * 2 ^ e.toNat ≠ 0 :=
    Nat.mul_ne_zero denominator (Nat.ne_of_gt (Nat.two_pow_pos _))
  unfold ofRatio
  split
  · rename_i nothing
    have zero : s = 0 := by
      have product : s * (den * 2 ^ e.toNat) = 0 := by
        rw [← (show num * 2 ^ (-e).toNat = _ from ratio), nothing, Nat.zero_mul]
      exact (Nat.mul_eq_zero.1 product).resolve_right scaled
    rw [zero, ofCanonical, if_pos (Nat.two_pow_pos _)]
    rfl
  · rename_i something
    have significand : s ≠ 0 := by
      rintro rfl
      have product : num * 2 ^ (-e).toNat = 0 := by
        rw [show num * 2 ^ (-e).toNat = _ from ratio, Nat.zero_mul]
      exact (Nat.mul_eq_zero.1 product).elim something (Nat.ne_of_gt (Nat.two_pow_pos _))
    dsimp only
    obtain exact | ⟨small, full⟩ := roughExponent_eq canonical ratio significand denominator
    · rw [exact, ratio.quotient denominator, if_pos canonical.significand_lt,
        ratio.roundedScaled denominator, ofScaled_canonical canonical]
    · have next : roughExponent p num den + 1 = e := by omega
      rw [next, small, (isRatio_double.2 ratio).quotient denominator,
        if_neg (by rw [Nat.pow_succ]; omega), ratio.roundedScaled denominator,
        ofScaled_canonical canonical]

/-! ## Single precision within double precision -/

/-- A significand that does not fill the wider format is moved up until it does. -/
theorem Canonical.widen {s : Nat} {e : Int} (canonical : Canonical .single s e) (positive : s ≠ 0) :
    Canonical .double (s * 2 ^ (52 - s.log2)) (e - (52 - s.log2 : Nat)) := by
  have below : s.log2 < 24 := (Nat.log2_lt positive).2 canonical.significand_lt
  have ge : (-149 : Int) ≤ e := canonical.exponent_ge
  have lt : e - -149 + 1 < (255 : Nat) := canonical.exponent_lt
  have filled : (s * 2 ^ (52 - s.log2)).log2 = 52 := by
    rw [log2_mul_two_pow positive]
    omega
  have nonzero : s * 2 ^ (52 - s.log2) ≠ 0 :=
    Nat.mul_ne_zero positive (Nat.ne_of_gt (Nat.two_pow_pos _))
  obtain ⟨low, high⟩ := (Nat.log2_eq_iff nonzero).1 filled
  refine ⟨high, ?_, Or.inl low, ?_⟩
  · show (-1074 : Int) ≤ _
    omega
  · show _ - (-1074 : Int) + 1 < (2047 : Nat)
    omega

theorem isRatio_self (s : Nat) (e : Int) : IsRatio (s * 2 ^ e.toNat) (2 ^ (-e).toNat) s e := by
  unfold IsRatio
  ac_rfl

/-- A finite number in another format that stores it, too. -/
theorem convert_finite {q : Precision} {x : Binary p} {negative : Bool} {s s' : Nat} {e e' : Int}
    (finite : x.meaning = .finite negative s e) (canonical : Canonical q s' e')
    (same : ∀ num den, IsRatio num den s e → IsRatio num den s' e') :
    x.convert q = ofCanonical q negative s' e' := by
  unfold convert
  rw [finite]
  exact ofRatio_exact canonical (same _ _ (isRatio_self s e)) (Nat.ne_of_gt (Nat.two_pow_pos _))

theorem convert_infinite (q : Precision) {x : Binary p} {negative : Bool}
    (infinite : x.meaning = .infinite negative) : x.convert q = infinity q negative := by
  unfold convert
  rw [infinite]

theorem meaning_infinity (p : Precision) (negative : Bool) :
    (infinity p negative).meaning = .infinite negative := by
  cases p <;> cases negative <;> decide

theorem eq_infinity {x : Binary p} {negative : Bool} (infinite : x.meaning = .infinite negative) :
    x = infinity p negative := by
  have self := ofFields_fields x
  unfold meaning at infinite
  split at infinite
  · rename_i top
    split at infinite
    · rename_i zero
      cases infinite
      rw [infinity, ← zero, ← top, self]
    · cases infinite
  · split at infinite <;> cases infinite

/-- A single precision number comes back from double precision as it was, if it is a number. -/
theorem convert_convert {x : Binary .single} (number : x.isNaN = false) :
    (x.convert .double).convert .single = x := by
  cases meant : x.meaning with
  | nan => simp [isNaN, meant] at number
  | infinite negative =>
    rw [convert_infinite .double meant, convert_infinite .single (meaning_infinity _ _),
      eq_infinity meant]
  | finite negative s e =>
    obtain ⟨canonical, stored⟩ := eq_ofCanonical meant
    by_cases zero : s = 0
    · subst zero
      have least := canonical_zero .double
      have there : x.convert .double = ofCanonical .double negative 0 _ :=
        convert_finite meant least fun _ _ ratio => isRatio_zero.2 (isRatio_zero.1 ratio)
      have back : (ofCanonical .double negative 0 _).convert .single = _ :=
        convert_finite (meaning_ofCanonical least) canonical
          fun _ _ ratio => isRatio_zero.2 (isRatio_zero.1 ratio)
      rw [there, back, stored]
    · have wide := canonical.widen zero
      have there : x.convert .double = ofCanonical .double negative _ _ :=
        convert_finite meant wide fun _ _ => (isRatio_shift _).2
      have back : (ofCanonical .double negative _ _).convert .single = _ :=
        convert_finite (meaning_ofCanonical wide) canonical fun _ _ => (isRatio_shift _).1
      rw [there, back, stored]

theorem isNaN_convert (q : Precision) {x : Binary p} (nan : x.isNaN = true) :
    (x.convert q).isNaN = true := by
  have meant : x.meaning = .nan := by simpa [isNaN] using nan
  unfold convert
  rw [meant]
  cases q <;> decide

end Binary

end SqlAccess
