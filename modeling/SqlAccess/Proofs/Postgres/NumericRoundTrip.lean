import SqlAccess.Postgres.Wire
import SqlAccess.Proofs.Number.Bytes

/-!
# Decimals there and back

A decimal that is written as groups and read again is the same decimal, with the same scale; only
zero loses its sign and its scale. The groups are the digits of the magnitude with zeros appended
until they fill whole groups, so adding them up one by one never needs more than the magnitude, and
no sum is cut.

* `numberOf_digits`: the groups of a number stand for it.
* `addFraction_eq`: what the groups after the point add up to.
* `toDecimal_ofDecimal`: reading what was written.
* `readNumericGroups_encode`: the same for the bytes.
-/

namespace SqlAccess.Postgres

namespace NumericGroups

/-! ## Groups as a number -/

/-- The whole number that groups stand for. -/
def numberOf (groups : List Nat) : Nat := groups.foldl (fun n group => n * 10000 + group) 0

theorem foldl_numberOf (groups : List Nat) (n : Nat) :
    groups.foldl (fun n group => n * 10000 + group) n =
      n * 10000 ^ groups.length + numberOf groups := by
  induction groups generalizing n with
  | nil => simp [numberOf]
  | cons group groups ih =>
    have tail : numberOf (group :: groups) = group * 10000 ^ groups.length + numberOf groups := by
      rw [← ih]
      simp [numberOf]
    rw [tail, List.foldl_cons, ih, List.length_cons, Nat.pow_succ, Nat.add_mul]
    rw [Nat.mul_comm (10000 ^ groups.length) 10000, ← Nat.mul_assoc, Nat.add_assoc]

theorem numberOf_cons (group : Nat) (groups : List Nat) :
    numberOf (group :: groups) = group * 10000 ^ groups.length + numberOf groups := by
  rw [← foldl_numberOf]
  simp [numberOf]

theorem numberOf_append (left right : List Nat) :
    numberOf (left ++ right) = numberOf left * 10000 ^ right.length + numberOf right := by
  rw [← foldl_numberOf]
  unfold numberOf
  rw [List.foldl_append]

theorem numberOf_zeros (count : Nat) : numberOf (List.replicate count 0) = 0 := by
  induction count with
  | zero => rfl
  | succ count ih => rw [List.replicate_succ, numberOf_cons, ih, Nat.zero_mul]

/-- The groups of a number stand for it. -/
theorem numberOf_digits {fuel n : Nat} (enough : n < 10000 ^ fuel) :
    numberOf (baseDigits fuel n).reverse = n := by
  induction fuel generalizing n with
  | zero =>
    obtain rfl : n = 0 := by simpa using enough
    rfl
  | succ fuel ih =>
    unfold baseDigits
    split
    · rename_i zero
      rw [zero]
      rfl
    · have smaller : n / 10000 < 10000 ^ fuel := by
        rw [Nat.pow_succ] at enough
        exact Nat.div_lt_of_lt_mul (by rwa [Nat.mul_comm])
      rw [List.reverse_cons, numberOf_append, ih smaller]
      show n / 10000 * 10000 ^ 1 + (0 * 10000 + n % 10000) = n
      omega

theorem lt_of_mem_digits {fuel n group : Nat} (member : group ∈ baseDigits fuel n) :
    group < 10000 := by
  induction fuel generalizing n with
  | zero => cases member
  | succ fuel ih =>
    unfold baseDigits at member
    split at member
    · cases member
    · rcases List.mem_cons.1 member with rfl | later
      · exact Nat.mod_lt _ (by decide)
      · exact ih later

theorem length_digits_le (fuel n : Nat) : (baseDigits fuel n).length ≤ fuel := by
  induction fuel generalizing n with
  | zero => exact Nat.le_refl 0
  | succ fuel ih =>
    unfold baseDigits
    split
    · exact Nat.zero_le _
    · exact Nat.succ_le_succ (ih _)

/-- The last group of a number. -/
theorem head_digits {fuel n group : Nat} (first : (baseDigits fuel n)[0]? = some group) :
    group = n % 10000 := by
  cases fuel with
  | zero => cases first
  | succ fuel =>
    unfold baseDigits at first
    split at first
    · cases first
    · cases first
      rfl

theorem eq_dropTrailingZeros_append (groups : List Nat) :
    ∃ count, groups = dropTrailingZeros groups ++ List.replicate count 0 := by
  have zeros : groups.reverse.takeWhile (· = 0) =
      List.replicate (groups.reverse.takeWhile (· = 0)).length 0 :=
    List.eq_replicate_of_mem fun group member => by
      simpa using List.all_eq_true.1 List.all_takeWhile group member
  refine ⟨(groups.reverse.takeWhile (· = 0)).length, ?_⟩
  calc groups
      = (groups.reverse.takeWhile (· = 0) ++ groups.reverse.dropWhile (· = 0)).reverse := by
        rw [List.takeWhile_append_dropWhile, List.reverse_reverse]
    _ = dropTrailingZeros groups ++ (groups.reverse.takeWhile (· = 0)).reverse :=
        List.reverse_append
    _ = _ := by rw [zeros, List.reverse_replicate, List.length_replicate]

/-! ## The whole part -/

theorem tooBig_eq_false {n : Nat} (small : n < 2 ^ 96) : tooBig n = false :=
  decide_eq_false (Nat.not_le.2 small)

theorem foldlM_wholeOf (groups : List Nat) {n : Nat}
    (small : n * 10000 ^ groups.length + numberOf groups < 2 ^ 96) :
    groups.foldlM (fun n group =>
      let next := n * 10000 + group
      if tooBig next then none else some next) n =
        some (n * 10000 ^ groups.length + numberOf groups) := by
  induction groups generalizing n with
  | nil => simp [numberOf]
  | cons group groups ih =>
    have value : n * 10000 ^ (group :: groups).length + numberOf (group :: groups) =
        (n * 10000 + group) * 10000 ^ groups.length + numberOf groups := by
      rw [numberOf_cons, List.length_cons, Nat.pow_succ, Nat.add_mul, Nat.mul_assoc n,
        Nat.mul_comm 10000, Nat.add_assoc]
    rw [value] at small ⊢
    have next : n * 10000 + group < 2 ^ 96 := by
      have power : 0 < 10000 ^ groups.length := Nat.pow_pos (by decide)
      have grows := Nat.le_mul_of_pos_right (n * 10000 + group) power
      omega
    rw [List.foldlM_cons]
    dsimp only
    rw [tooBig_eq_false next]
    exact ih small

theorem wholeOf_eq {groups : List Nat} (small : numberOf groups < 2 ^ 96) :
    wholeOf groups = some (numberOf groups) := by
  have value : 0 * 10000 ^ groups.length + numberOf groups = numberOf groups := by omega
  have added := foldlM_wholeOf groups (n := 0) (by rwa [value])
  rw [value] at added
  exact added

/-- The whole part, if none of its groups is missing. -/
theorem wholePart_eq {groups : List Nat} {count : Nat} (all : count ≤ groups.length)
    (small : numberOf (groups.take count) < 2 ^ 96) :
    wholePart groups count = .ok (numberOf (groups.take count)) := by
  unfold wholePart
  rw [wholeOf_eq small]
  dsimp only
  rw [Nat.sub_eq_zero_of_le all, Nat.mul_zero, Nat.pow_zero, Nat.mul_one, tooBig_eq_false small]
  rfl

/-! ## The part after the point -/

/-- The value of a sum in units of the digit `digits` places after the point. -/
def Sum.scaled (s : Sum) (digits : Nat) : Nat := s.magnitude * 10 ^ (digits - s.scale)

/-- Zeros at the end are dropped, at least those that are known to be there. -/
theorem shorten_eq {m digits kept : Nat} (le : kept ≤ digits) (divides : 10 ^ (digits - kept) ∣ m) :
    (Sum.shorten m digits).scale ≤ kept ∧ (Sum.shorten m digits).scaled digits = m := by
  induction digits generalizing m kept with
  | zero =>
    obtain rfl : kept = 0 := by omega
    exact ⟨Nat.le_refl 0, Nat.mul_one m⟩
  | succ digits ih =>
    unfold Sum.shorten
    split
    · rename_i even
      have next : 10 ^ (digits - min kept digits) ∣ m / 10 := by
        by_cases all : kept = digits + 1
        · rw [show digits - min kept digits = 0 by omega]
          exact Nat.one_dvd _
        · refine Nat.dvd_div_of_mul_dvd ?_
          rwa [← Nat.pow_succ', show (digits - min kept digits).succ = digits + 1 - kept by omega]
      obtain ⟨scale, value⟩ := ih (Nat.min_le_right kept digits) next
      refine ⟨by omega, ?_⟩
      unfold Sum.scaled at value ⊢
      rw [show digits + 1 - (Sum.shorten (m / 10) digits).scale =
        digits - (Sum.shorten (m / 10) digits).scale + 1 by omega, Nat.pow_succ, ← Nat.mul_assoc,
        value]
      omega
    · rename_i odd
      have all : kept = digits + 1 := by
        refine Nat.le_antisymm le (Nat.succ_le_of_lt (Nat.lt_of_not_le fun short => odd ?_))
        have ten : 10 ∣ 10 ^ (digits + 1 - kept) := by
          rw [show digits + 1 - kept = digits - kept + 1 by omega, Nat.pow_succ]
          exact Nat.dvd_mul_left _ _
        exact Nat.mod_eq_zero_of_dvd (Nat.dvd_trans ten divides)
      exact ⟨Nat.le_of_eq all.symm, by simp [Sum.scaled]⟩

/-- Units that are smaller by powers of ten. -/
theorem Sum.scaled_add {s : Sum} {digits : Nat} (more : Nat) (le : s.scale ≤ digits) :
    s.scaled (digits + more) = s.scaled digits * 10 ^ more := by
  unfold Sum.scaled
  rw [show digits + more - s.scale = digits - s.scale + more by omega, Nat.pow_add, Nat.mul_assoc]

/-- A sum that stays below 96 bits at a number of fraction digits is not cut. -/
theorem add?_eq {a b : Sum} {scale digits m : Nat} (left : a.scale ≤ scale)
    (right : b.scale ≤ scale) (le : scale ≤ digits) (small : m < 2 ^ 96)
    (bound : a.scaled digits + b.scaled digits ≤ m * 10 ^ (digits - scale)) :
    ∃ c, a.add? b = some c ∧ c.scale ≤ scale ∧
      c.scaled digits = a.scaled digits + b.scaled digits := by
  unfold Sum.add?
  split
  · rename_i nothing
    exact ⟨b, rfl, right, by simp [Sum.scaled, nothing]⟩
  · split
    · rename_i nothing
      exact ⟨a, rfl, left, by simp [Sum.scaled, nothing]⟩
    · let c : Sum := ⟨a.magnitude * 10 ^ (max a.scale b.scale - a.scale) +
        b.magnitude * 10 ^ (max a.scale b.scale - b.scale), max a.scale b.scale⟩
      have value : c.scaled digits = a.scaled digits + b.scaled digits := by
        unfold Sum.scaled
        dsimp only [c]
        rw [Nat.add_mul, Nat.mul_assoc, Nat.mul_assoc, ← Nat.pow_add, ← Nat.pow_add]
        congr 3
        · omega
        · omega
      have within : c.magnitude * 10 ^ (digits - scale) ≤ m * 10 ^ (digits - scale) := by
        refine Nat.le_trans (Nat.mul_le_mul_left _ ?_) (value ▸ bound)
        exact Nat.pow_le_pow_right (by decide) (by dsimp only [c]; omega)
      have fits : c.magnitude < 2 ^ 96 :=
        Nat.lt_of_le_of_lt (Nat.le_of_mul_le_mul_right within (Nat.pow_pos (by decide))) small
      refine ⟨c, ?_, Nat.max_le.2 ⟨left, right⟩, value⟩
      show Sum.cut? c = some c
      unfold Sum.cut?
      rw [tooBig_eq_false fits]
      rfl

/-- The groups from a place on have no digits beyond so many after the point. -/
def Aligned (scale place : Nat) (groups : List Nat) : Prop :=
  ∀ i group, groups[i]? = some group → 10 ^ (4 * (place + i + 1) - scale) ∣ group

/-- Groups are added up exactly as long as the result has a place in 96 bits at a number of
fraction digits that all of them respect. -/
theorem addFraction_eq {groups : List Nat} {s : Sum} {place scale count m : Nat}
    (within : place + groups.length ≤ count) (short : 4 * count ≤ 28) (le : scale ≤ 4 * count)
    (small : m < 2 ^ 96) (start : s.scale ≤ scale) (aligned : Aligned scale place groups)
    (total : s.scaled (4 * count) + numberOf groups * 10 ^ (4 * (count - place - groups.length)) =
      m * 10 ^ (4 * count - scale)) :
    ∃ t, addFraction s place groups = some t ∧ t.scale ≤ scale ∧
      t.scaled (4 * count) = m * 10 ^ (4 * count - scale) := by
  induction groups generalizing s place with
  | nil => exact ⟨s, rfl, start, by simpa [numberOf] using total⟩
  | cons group groups ih =>
    rw [List.length_cons] at within total
    have divides : 10 ^ (4 * (place + 1) - scale) ∣ group := aligned 0 group rfl
    have kept : 10 ^ (4 * (place + 1) - min scale (4 * (place + 1))) ∣ group := by
      rwa [show 4 * (place + 1) - min scale (4 * (place + 1)) = 4 * (place + 1) - scale by omega]
    obtain ⟨shortened, value⟩ := shorten_eq (Nat.min_le_right _ _) kept
    -- what the group adds, in the units of the last digit
    have share : (Sum.shorten group (4 * (place + 1))).scaled (4 * count) =
        group * 10 ^ (4 * (count - (place + 1))) := by
      rw [show 4 * count = 4 * (place + 1) + 4 * (count - (place + 1)) by omega,
        Sum.scaled_add _ (by omega), value]
    have parts : numberOf (group :: groups) * 10 ^ (4 * (count - place - (groups.length + 1))) =
        group * 10 ^ (4 * (count - (place + 1))) +
          numberOf groups * 10 ^ (4 * (count - (place + 1) - groups.length)) := by
      rw [numberOf_cons, Nat.add_mul, Nat.mul_assoc, show (10000 : Nat) = 10 ^ 4 from rfl,
        ← Nat.pow_mul, ← Nat.pow_add]
      congr 3
      · omega
      · omega
    rw [parts, ← share] at total
    obtain ⟨next, added, le_scale, sum⟩ :=
      add?_eq start (Nat.le_trans shortened (Nat.min_le_left _ _)) le small (by omega)
    have rest : Aligned scale (place + 1) groups := by
      intro i group' found
      have here := aligned (i + 1) group' found
      rwa [show place + (i + 1) + 1 = place + 1 + i + 1 by omega] at here
    obtain ⟨t, run, result⟩ := ih (by omega) le_scale rest (by rw [sum]; omega)
    refine ⟨t, ?_, result⟩
    rw [addFraction, if_pos (by omega)]
    dsimp only [bind, Option.bind]
    rw [added]
    exact run

/-! ## The groups of a decimal -/

section

variable {d : Decimal}

/-- The number of groups after the point. -/
def fractionGroups (d : Decimal) : Nat := (d.scale + 3) / 4

/-- All groups of a decimal, with zeros at the end of the last one. -/
def digitGroups (d : Decimal) : List Nat :=
  (baseDigits 32 (d.magnitude * 10 ^ (fractionGroups d * 4 - d.scale))).reverse

theorem numberOf_digitGroups (d : Decimal) :
    numberOf (digitGroups d) = d.magnitude * 10 ^ (4 * fractionGroups d - d.scale) := by
  have magnitude := d.magnitude_lt
  have padding : 10 ^ (fractionGroups d * 4 - d.scale) ≤ 10 ^ 3 :=
    Nat.pow_le_pow_right (by decide) (by unfold fractionGroups; omega)
  have enough : d.magnitude * 10 ^ (fractionGroups d * 4 - d.scale) < 10000 ^ 32 :=
    calc d.magnitude * 10 ^ (fractionGroups d * 4 - d.scale)
        ≤ 2 ^ 96 * 10 ^ 3 := Nat.mul_le_mul (Nat.le_of_lt magnitude) padding
      _ < 10000 ^ 32 := by decide
  rw [digitGroups, numberOf_digits enough, Nat.mul_comm 4]

/-- Only the last group has zeros beyond the digits of the decimal. -/
theorem aligned_digitGroups (d : Decimal) {whole place : Nat}
    (stand : place + (digitGroups d).length = fractionGroups d + whole) :
    Aligned d.scale place ((digitGroups d).drop whole) := by
  intro i group found
  rw [List.getElem?_drop] at found
  have within : whole + i < (digitGroups d).length := (List.getElem?_eq_some_iff.1 found).1
  by_cases last : whole + i + 1 = (digitGroups d).length
  · have first : (baseDigits 32 (d.magnitude * 10 ^ (fractionGroups d * 4 - d.scale)))[0]? =
        some group := by
      unfold digitGroups at found within last
      rw [List.length_reverse] at within last
      rwa [List.getElem?_reverse within, Nat.sub_sub, Nat.add_comm 1, last, Nat.sub_self] at found
    have places : 4 * (place + i + 1) - d.scale = fractionGroups d * 4 - d.scale := by omega
    rw [head_digits first, places]
    refine (Nat.dvd_mod_iff ?_).2 (Nat.dvd_mul_left _ _)
    exact Nat.pow_dvd_pow 10 (by unfold fractionGroups; omega : _ ≤ 4)
  · have places : 4 * (place + i + 1) - d.scale = 0 := by
      unfold fractionGroups at stand
      omega
    rw [places]
    exact Nat.one_dvd group

/-- The groups after the point are added to those before it, where zeros at the end may be left
out, and make up the magnitude. -/
theorem addFraction_digitGroups {whole place zeros : Nat} {fraction : List Nat}
    (stand : place + (digitGroups d).length = fractionGroups d + whole)
    (within : whole ≤ (digitGroups d).length) (one : whole = 0 ∨ place = 0)
    (split : (digitGroups d).drop whole = fraction ++ List.replicate zeros 0) :
    numberOf ((digitGroups d).take whole) < 2 ^ 96 ∧
      ∃ t, addFraction ⟨numberOf ((digitGroups d).take whole), 0⟩ place fraction = some t ∧
        t.scale ≤ d.scale ∧ t.scaled d.scale = d.magnitude := by
  have scale := d.scale_le
  have magnitude := d.magnitude_lt
  have le : d.scale ≤ 4 * fractionGroups d := by unfold fractionGroups; omega
  have short : 4 * fractionGroups d ≤ 28 := by unfold fractionGroups; omega
  have length : fraction.length + zeros = fractionGroups d - place := by
    have same := congrArg List.length split
    rw [List.length_drop, List.length_append, List.length_replicate] at same
    omega
  have total : numberOf ((digitGroups d).take whole) * 10 ^ (4 * fractionGroups d) +
      numberOf fraction * 10 ^ (4 * (fractionGroups d - place - fraction.length)) =
        d.magnitude * 10 ^ (4 * fractionGroups d - d.scale) := by
    have parts := numberOf_append ((digitGroups d).take whole) ((digitGroups d).drop whole)
    rw [List.take_append_drop, numberOf_digitGroups, split, numberOf_append, numberOf_zeros,
      Nat.add_zero, List.length_append, List.length_replicate, length,
      show (10000 : Nat) = 10 ^ 4 from rfl, ← Nat.pow_mul, ← Nat.pow_mul] at parts
    rw [parts, show fractionGroups d - place - fraction.length = zeros by omega]
    obtain rfl | rfl := one
    · simp [numberOf]
    · rw [Nat.sub_zero]
  refine ⟨?_, ?_⟩
  · have bound : numberOf ((digitGroups d).take whole) * 10 ^ (4 * fractionGroups d) ≤
        d.magnitude * 10 ^ (4 * fractionGroups d) := by
      refine Nat.le_trans (by omega : _ ≤ d.magnitude * 10 ^ (4 * fractionGroups d - d.scale)) ?_
      exact Nat.mul_le_mul_left _ (Nat.pow_le_pow_right (by decide) (Nat.sub_le _ _))
    exact Nat.lt_of_le_of_lt (Nat.le_of_mul_le_mul_right bound (Nat.pow_pos (by decide))) magnitude
  · have aligned : Aligned d.scale place fraction := by
      intro i group found
      have all := aligned_digitGroups d stand
      rw [split] at all
      refine all i group ?_
      rw [List.getElem?_append_left (List.getElem?_eq_some_iff.1 found).1, found]
    obtain ⟨t, added, t_scale, value⟩ := addFraction_eq (by omega) short le magnitude
      (s := ⟨numberOf ((digitGroups d).take whole), 0⟩) (Nat.zero_le _) aligned
      (by rw [Sum.scaled, Nat.sub_zero]; exact total)
    refine ⟨t, added, t_scale, ?_⟩
    rw [show 4 * fractionGroups d = d.scale + (4 * fractionGroups d - d.scale) by omega,
      Sum.scaled_add _ t_scale, Nat.add_sub_cancel_left] at value
    exact Nat.mul_right_cancel (Nat.pow_pos (by decide)) value

end

/-! ## The scale of a decimal -/

theorem appendZeros_eq {m count : Nat} (fits : m * 10 ^ count < 2 ^ 96) :
    Decimal.appendZeros m count = (m * 10 ^ count, 0) := by
  induction count generalizing m with
  | zero => simp [Decimal.appendZeros]
  | succ count ih =>
    have value : m * 10 * 10 ^ count = m * 10 ^ (count + 1) := by
      rw [Nat.pow_succ, Nat.mul_assoc, Nat.mul_comm 10]
    have room : m * 10 < 2 ^ 96 := by
      have grows := Nat.le_mul_of_pos_right (m * 10) (Nat.pow_pos (n := count) (by decide : 0 < 10))
      omega
    unfold Decimal.appendZeros
    rw [if_pos room, ih (by rwa [value]), value]

/-- Zeros are appended until the decimal has its scale again. -/
theorem rescale_eq {d e : Decimal} (sign : e.negative = d.negative) (le : e.scale ≤ d.scale)
    (nonzero : d.magnitude ≠ 0) (value : e.magnitude * 10 ^ (d.scale - e.scale) = d.magnitude) :
    e.rescale d.scale = d := by
  have scale := d.scale_le
  have magnitude := d.magnitude_lt
  have something : e.magnitude ≠ 0 := by
    intro nothing
    rw [nothing, Nat.zero_mul] at value
    exact nonzero value.symm
  unfold Decimal.rescale
  rw [show min d.scale Decimal.maxScale = d.scale from Nat.min_eq_left scale]
  dsimp only
  rw [if_neg something, if_neg (Nat.not_lt.2 le), appendZeros_eq (by rwa [value]), value,
    Nat.sub_zero]
  unfold Decimal.ofParts?
  rw [dif_pos ⟨magnitude, scale⟩]
  exact Decimal.ext sign rfl rfl

/-! ## There and back -/

/-- Groups in which none before the point is missing are read as the decimal they were made of. -/
theorem toDecimal_of_groups {d : Decimal} (nonzero : d.magnitude ≠ 0) (whole place zeros : Nat)
    {fraction : List Nat} {g : NumericGroups}
    (stand : place + (digitGroups d).length = fractionGroups d + whole)
    (within : whole ≤ (digitGroups d).length) (one : whole = 0 ∨ place = 0)
    (split : (digitGroups d).drop whole = fraction ++ List.replicate zeros 0)
    (groups : g.groups = (digitGroups d).take whole ++ fraction)
    (weight : g.weight = (whole : Int) - place - 1) (sign : g.negative = d.negative)
    (scale : g.scale = d.scale) : g.toDecimal = .ok d := by
  obtain ⟨small, t, added, le, value⟩ := addFraction_digitGroups stand within one split
  have length : ((digitGroups d).take whole).length = whole := List.length_take_of_le within
  have first : g.groups.take whole = (digitGroups d).take whole := by
    rw [groups, List.take_left' length]
  have rest : g.groups.drop whole = fraction := by rw [groups, List.drop_left' length]
  have count : (g.weight + 1).toNat = whole := by omega
  have places : (-g.weight - 1).toNat = place := by omega
  have bits : t.magnitude < 2 ^ 96 := by
    have grows := Nat.le_mul_of_pos_right t.magnitude
      (Nat.pow_pos (n := d.scale - t.scale) (by decide : 0 < 10))
    exact Nat.lt_of_le_of_lt (Nat.le_trans grows (Nat.le_of_eq value)) d.magnitude_lt
  let e : Decimal := ⟨g.negative, t.magnitude, t.scale, bits, Nat.le_trans le d.scale_le⟩
  have parts : Decimal.ofParts? g.negative t.magnitude t.scale = some e :=
    dif_pos ⟨bits, Nat.le_trans le d.scale_le⟩
  have restored : e.rescale d.scale = d := rescale_eq sign le nonzero value
  unfold toDecimal
  dsimp only
  rw [count, places, rest, wholePart_eq (by rw [groups, List.length_append]; omega)
    (by rwa [first]), first]
  dsimp only [bind, Except.bind, Option.bind]
  rw [added]
  dsimp only
  rw [parts]
  dsimp only
  rw [scale, restored]

/-- The groups that are written: of those after the point, zeros at the end are left out if there
are groups before it. -/
theorem ofDecimal_eq {d : Decimal} (nonzero : d.magnitude ≠ 0) :
    ofDecimal d =
      let weight : Int := (digitGroups d).length - fractionGroups d - 1
      let whole := (weight + 1).toNat
      ⟨weight, d.negative, d.scale,
        if 0 ≤ weight then
          (digitGroups d).take whole ++ dropTrailingZeros ((digitGroups d).drop whole)
        else digitGroups d⟩ :=
  if_neg nonzero

/-- A decimal other than zero is written and read. -/
theorem toDecimal_ofDecimal {d : Decimal} (nonzero : d.magnitude ≠ 0) :
    (ofDecimal d).toDecimal = .ok d := by
  rw [ofDecimal_eq nonzero]
  by_cases before : (0 : Int) ≤ (digitGroups d).length - fractionGroups d - 1
  · obtain ⟨zeros, split⟩ := eq_dropTrailingZeros_append ((digitGroups d).drop
      ((digitGroups d).length - fractionGroups d - 1 + 1 : Int).toNat)
    exact toDecimal_of_groups nonzero _ 0 zeros (by omega) (by omega) (Or.inr rfl) split
      (if_pos before) (by dsimp only; omega) rfl rfl
  · exact toDecimal_of_groups nonzero 0 (fractionGroups d - (digitGroups d).length) 0 (by omega)
      (Nat.zero_le _) (Or.inl rfl) (List.append_nil _).symm
      (if_neg before) (by dsimp only; omega) rfl rfl

/-- Zero is written without sign and scale. -/
theorem toDecimal_ofDecimal_zero {d : Decimal} (zero : d.magnitude = 0) :
    (ofDecimal d).toDecimal = .ok .zero := by
  unfold ofDecimal
  rw [if_pos zero]
  rfl

/-! ## As bytes -/

/-- All numbers have their place in two bytes. -/
structure Sendable (g : NumericGroups) : Prop where
  length_lt : g.groups.length < 2 ^ 16
  group_lt : ∀ group ∈ g.groups, group < 2 ^ 16
  scale_lt : g.scale < 2 ^ 16
  weight_ge : -2 ^ 15 ≤ g.weight
  weight_lt : g.weight < 2 ^ 15

theorem sendable_ofDecimal (d : Decimal) : (ofDecimal d).Sendable := by
  by_cases nonzero : d.magnitude = 0
  · unfold ofDecimal
    rw [if_pos nonzero]
    exact ⟨by decide, nofun, by decide, by decide, by decide⟩
  · have scale := d.scale_le
    have length : (digitGroups d).length ≤ 32 := by
      unfold digitGroups
      rw [List.length_reverse]
      exact length_digits_le 32 _
    have fraction : fractionGroups d ≤ 7 := by unfold fractionGroups; omega
    obtain ⟨zeros, kept⟩ :
        ∃ zeros, digitGroups d = (ofDecimal d).groups ++ List.replicate zeros 0 := by
      rw [ofDecimal_eq nonzero]
      dsimp only
      split
      · obtain ⟨zeros, split⟩ := eq_dropTrailingZeros_append ((digitGroups d).drop
          ((digitGroups d).length - fractionGroups d - 1 + 1 : Int).toNat)
        exact ⟨zeros, by rw [List.append_assoc, ← split, List.take_append_drop]⟩
      · exact ⟨0, (List.append_nil _).symm⟩
    have shorter : (ofDecimal d).groups.length ≤ 32 := by
      rw [kept, List.length_append] at length
      omega
    have weight : (ofDecimal d).weight = (digitGroups d).length - fractionGroups d - 1 := by
      rw [ofDecimal_eq nonzero]
    have written : (ofDecimal d).scale = d.scale := by rw [ofDecimal_eq nonzero]
    refine ⟨by omega, ?_, by omega, by omega, by omega⟩
    intro group member
    have digit : group ∈ digitGroups d := by
      rw [kept]
      exact List.mem_append_left _ member
    have below := lt_of_mem_digits (List.mem_reverse.1 digit)
    omega

theorem unsignedOfBytes_two {n : Nat} (small : n < 2 ^ 16) :
    unsignedOfBytes (bytesOfUnsigned 2 n) = n := by
  rw [unsignedOfBytes_bytesOfUnsigned]
  exact Nat.mod_eq_of_lt small

theorem readGroups?_append {groups : List Nat} (small : ∀ group ∈ groups, group < 2 ^ 16)
    (rest : List UInt8) :
    readGroups? groups.length (groups.flatMap (bytesOfUnsigned 2) ++ rest) = some groups := by
  induction groups with
  | nil => rfl
  | cons group groups ih =>
    have first := unsignedOfBytes_two (small group List.mem_cons_self)
    have others := ih fun n member => small n (List.mem_cons_of_mem group member)
    rw [List.flatMap_cons, List.append_assoc]
    show ((readGroups? groups.length (groups.flatMap (bytesOfUnsigned 2) ++ rest)).bind fun read =>
      some (unsignedOfBytes (bytesOfUnsigned 2 group) :: read)) = some (group :: groups)
    rw [others, first]
    rfl

theorem readNumericGroups_encode {g : NumericGroups} (sendable : g.Sendable) :
    readNumericGroups? g.encode = some g := by
  obtain ⟨length, groups, scale, ge, lt⟩ := sendable
  have header : readGroups? 4 g.encode = some [g.groups.length, (g.weight.emod (256 ^ 2)).toNat,
      if g.negative then 0x4000 else 0, g.scale] := by
    have small : ∀ n ∈ [g.groups.length, (g.weight.emod (256 ^ 2)).toNat,
        if g.negative then 0x4000 else 0, g.scale], n < 2 ^ 16 := by
      have weight : (g.weight.emod (256 ^ 2)).toNat < 2 ^ 16 := by
        have below : g.weight % 256 ^ 2 < 256 ^ 2 := Int.emod_lt_of_pos _ (by decide)
        have nonneg : 0 ≤ g.weight % 256 ^ 2 := Int.emod_nonneg _ (by decide)
        show (g.weight % 256 ^ 2).toNat < 2 ^ 16
        omega
      have sign : (if g.negative then 0x4000 else 0 : Nat) < 2 ^ 16 := by split <;> decide
      simp only [List.mem_cons, List.not_mem_nil, or_false, forall_eq_or_imp, forall_eq]
      exact ⟨length, weight, sign, scale⟩
    exact readGroups?_append small (g.groups.flatMap (bytesOfUnsigned 2))
  have weight : signedOfBytes ((g.encode.drop 2).take 2) = g.weight :=
    signedOfBytes_bytesOfSigned (by omega : -256 ^ 2 ≤ 2 * g.weight) (by omega)
  have body : readGroups? g.groups.length (g.encode.drop 8) = some g.groups := by
    have read := readGroups?_append groups []
    rw [List.append_nil] at read
    exact read
  unfold readNumericGroups?
  rw [header]
  dsimp only [bind, Option.bind]
  rw [weight, body]
  dsimp only
  obtain ⟨weight, _ | _, scale, groups⟩ := g
  · rfl
  · rfl

/-- A decimal is sent and read back as it is, but for a zero. -/
theorem readNumeric_encode (d : Decimal) :
    readNumeric (ofDecimal d).encode = .ok (.decimal (if d.magnitude = 0 then .zero else d)) := by
  unfold readNumeric
  rw [readNumericGroups_encode (sendable_ofDecimal d)]
  dsimp only
  split
  · rw [toDecimal_ofDecimal_zero ‹_›]
    rfl
  · rw [toDecimal_ofDecimal ‹_›]
    rfl

end NumericGroups

end SqlAccess.Postgres
