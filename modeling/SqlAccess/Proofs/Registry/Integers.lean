import SqlAccess.Proofs.Binding.Conversions
import SqlAccess.Proofs.Registry.Decimals

/-!
# Integers keep their number

The integer column types differ in the width of the integers that they hold. A raw value of at most
this width is taken as its number, whatever its own width, and every conversion that can hold
integers exactly gives this number or fails.

* `Value.Denotes`: the value is the number, and not only close to it.
* `integerCell_keeps`: one conversion.
* `coerce_int_viaDecimal`: a detour over decimals changes nothing.
* `integers_kept`: all of the column types and targets.
-/

namespace SqlAccess

/-- The width of the integers that a column of the type holds. -/
def ColumnType.integerWidth : ColumnType → Option Width
  | bigInt => some .w64
  | integer => some .w32
  | smallInt => some .w16
  | tinyInt => some .w8
  | _ => none

/-- The kind holds integers exactly. -/
def Kind.isExact : Kind → Bool
  | int _ | decimal | text => true
  | _ => false

/-- The value is an integer, in one of the forms that are exact: the integer itself, a decimal
without fraction digits, or the numeral, from which the integer can be read back. -/
inductive Value.Denotes : Value → Int → Prop where
  | int {w : Width} (m : Signed w.bits) : Denotes (.int w m) m.val
  | decimal {d : Decimal} {n : Int} (whole : d.scale = 0) (value : d.toRat = n) :
    Denotes (.decimal d) n
  | text {s : String} {n : Int} (numeral : s = toString n)
    (read : Digits.toInt? s.toList = some n) : Denotes (.text s) n

namespace Standard

/-! ## Single conversions -/

theorem cell_of_integerWidth {c : ColumnType} {widest : Width}
    (type : c.integerWidth = some widest) : cell c = integerCell widest := by
  cases c with
  | bigInt | integer | smallInt | tinyInt =>
    cases type
    rfl
  | _ => cases type

/-- No column type holds integers of more than 64 bits. -/
theorem bits_of_integerWidth {c : ColumnType} {widest : Width}
    (type : c.integerWidth = some widest) : widest.bits ≤ 64 := by
  cases c with
  | bigInt | integer | smallInt | tinyInt =>
    cases type
    decide
  | _ => cases type

theorem readInteger_narrow {w widest : Width} (narrow : w.bits ≤ widest.bits) (n : Signed w.bits) :
    readInteger widest (.int w n) = .ok n.val := if_pos narrow

theorem readInteger_wide {w widest : Width} (wide : widest.bits < w.bits) (n : Signed w.bits) :
    readInteger widest (.int w n) = .error (.unexpectedKind (.int widest) (some (.int w))) :=
  if_neg (Nat.not_le.2 wide)

theorem intoDecimal_eq_ok_iff {n : Int} {v : Value} :
    intoDecimal n = .ok v ↔ ∃ d, Decimal.ofInt? n = some d ∧ v = .decimal d := by
  unfold intoDecimal
  cases Decimal.ofInt? n with
  | none => simp
  | some d => simp [eq_comm]

theorem denotes_of_intoDecimal {n : Int} {v : Value} (converted : intoDecimal n = .ok v) :
    v.Denotes n := by
  obtain ⟨d, found, rfl⟩ := intoDecimal_eq_ok_iff.1 converted
  obtain ⟨scale, sign, size⟩ := Decimal.ofInt?_eq_some_iff.1 found
  exact .decimal scale (Decimal.toRat_of_integer scale sign size)

theorem denotes_ofInt (n : Int) : (Value.text (String.ofList (Digits.ofInt n))).Denotes n := by
  refine .text (Digits.ofInt_eq_toString n) ?_
  rw [String.toList_ofList]
  exact Digits.toInt?_ofInt n

/-- How a conversion of a number goes: it fails if the number is out of range, and otherwise gives
the number. -/
structure Keeps {w : Width} (n : Signed w.bits) (k : Kind)
    (convert : Int → Except ConversionError Value) : Prop where
  refuses : (Value.int w n).Beyond k → ∃ e, convert n.val = .error e
  gives : ¬(Value.int w n).Beyond k → ∃ v, convert n.val = .ok v ∧ v.kind = some k ∧
    v.Denotes n.val

/-- A conversion of a family of integer columns to a kind that holds integers exactly. -/
theorem integerCell_keeps {widest w : Width} (n : Signed w.bits) {k : Kind} {f : Converter}
    (found : integerCell widest k = some f) (exact : k.isExact = true) :
    ∃ convert, f = pureCell (readInteger widest) convert ∧ Keeps n k convert := by
  unfold integerCell at found
  split at found
  · split at found
    · cases found
    · rename_i w' _
      cases found
      refine ⟨_, rfl, fun beyond => ?_, fun within => ?_⟩
      · obtain ⟨shown, refused⟩ := intoInteger_refuses beyond
        exact ⟨_, refused⟩
      · obtain ⟨v, converted⟩ := intoInteger_converts within
        obtain ⟨m, value, v_eq⟩ := intoInteger_eq_ok_iff.1 converted
        rw [converted, v_eq, ← value]
        exact ⟨_, rfl, rfl, .int m⟩
  · cases exact
  · cases found
    refine ⟨_, rfl, fun beyond => ?_, fun within => ?_⟩
    · obtain ⟨shown, refused⟩ := intoDecimal_refuses beyond
      exact ⟨_, refused⟩
    · obtain ⟨v, converted⟩ := intoDecimal_converts within
      exact ⟨v, converted, kind_of_intoDecimal converted, denotes_of_intoDecimal converted⟩
  · cases found
    exact ⟨_, rfl, False.elim, fun _ => ⟨_, rfl, rfl, denotes_ofInt n.val⟩⟩
  · cases found

end Standard

/-! ## Coercions -/

namespace Registry

variable {c : ColumnType} {widest w : Width}

/-- A coercion to a kind that holds integers exactly. -/
theorem coerce_int (type : c.integerWidth = some widest) (n : Signed w.bits) {k : Kind}
    (exact : k.isExact = true) (compatible : standard.isCompatible c (.host k) = true) :
    ∃ convert, Standard.Keeps n k convert ∧
      standard.coerce (.int w n) c (.host k) =
        StreamM.ofExcept ((Standard.readInteger widest (.int w n) >>= convert).mapError
          fun e => ⟨c, .host k, .failed e⟩) := by
  obtain ⟨f, found⟩ := Option.isSome_iff_exists.1 compatible
  have inFamily : Standard.integerCell widest k = some f :=
    (congrFun (Standard.cell_of_integerWidth type) k).symm.trans found
  obtain ⟨convert, rfl, keeps⟩ := Standard.integerCell_keeps n inFamily exact
  exact ⟨convert, keeps, standard_coerce_pure found rfl⟩

/-- It fails if the value is too wide for its column or the number too great for the kind, and
otherwise gives the number. -/
theorem coerce_int_keeps (type : c.integerWidth = some widest) (n : Signed w.bits) {k : Kind}
    (exact : k.isExact = true) (compatible : standard.isCompatible c (.host k) = true) :
    (widest.bits < w.bits ∨ (Value.int w n).Beyond k →
      ∃ e, ∀ ss, standard.coerce (.int w n) c (.host k) ss = (.error e, ss)) ∧
    (¬(widest.bits < w.bits ∨ (Value.int w n).Beyond k) →
      ∃ v, (∀ ss, standard.coerce (.int w n) c (.host k) ss = (.ok v, ss)) ∧ v.kind = some k ∧
        v.Denotes n.val) := by
  obtain ⟨convert, keeps, coerced⟩ := coerce_int type n exact compatible
  by_cases wide : widest.bits < w.bits
  · rw [Standard.readInteger_wide wide] at coerced
    exact ⟨fun _ => ⟨_, congrFun coerced⟩, fun fits => absurd (.inl wide) fits⟩
  · have converts : standard.coerce (.int w n) c (.host k) =
        StreamM.ofExcept ((convert n.val).mapError fun e => ⟨c, .host k, .failed e⟩) := by
      rw [coerced, Standard.readInteger_narrow (Nat.le_of_not_lt wide)]
      rfl
    constructor
    · intro refused
      obtain ⟨e, failed⟩ := keeps.refuses (refused.resolve_left wide)
      rw [failed] at converts
      exact ⟨_, congrFun converts⟩
    · intro fits
      obtain ⟨v, converted, kind, denotes⟩ := keeps.gives fun beyond => fits (.inr beyond)
      rw [converted] at converts
      exact ⟨v, congrFun converts, kind, denotes⟩

/-! ## A detour over decimals -/

/-- An integer of up to 64 bits is a decimal of the same number. -/
theorem exists_intoDecimal (narrow : w.bits ≤ 64) (n : Signed w.bits) :
    ∃ d : Decimal, Standard.intoDecimal n.val = .ok (.decimal d) ∧ d.truncated = n.val := by
  have bound : (2 : Int) ^ (w.bits - 1) ≤ 2 ^ 63 := by
    exact_mod_cast Nat.pow_le_pow_right (n := 2) (by decide) (by omega)
  have small : ¬2 ^ 96 ≤ n.val.natAbs := by
    have := n.ge
    have := n.lt
    omega
  obtain ⟨v, converted⟩ := Standard.intoDecimal_converts small
  obtain ⟨d, found, rfl⟩ := Standard.intoDecimal_eq_ok_iff.1 converted
  obtain ⟨scale, sign, size⟩ := Decimal.ofInt?_eq_some_iff.1 found
  refine ⟨d, converted, ?_⟩
  rw [d.truncated_eq, Decimal.toRat_of_integer scale sign size, towardZero_intCast]

theorem cell_int_of_compatible (type : c.integerWidth = some widest)
    (compatible : standard.isCompatible c (.host (.int w)) = true) :
    Standard.cell c (.int w) =
      some (Standard.pureCell (Standard.readInteger widest) (Standard.intoInteger w)) := by
  obtain ⟨f, found⟩ := Option.isSome_iff_exists.1 compatible
  have family := Standard.cell_of_integerWidth type
  have inFamily : Standard.integerCell widest (.int w) = some f :=
    (congrFun family _).symm.trans found
  rw [family]
  dsimp only [Standard.integerCell] at inFamily ⊢
  split
  · rw [if_pos ‹_›] at inFamily
    cases inFamily
  · rfl

/-- An integer is converted to an integer as it is, or as the decimal of the same number. -/
theorem coerce_int_viaDecimal (type : c.integerWidth = some widest) (n : Signed w.bits)
    {w' : Width} (compatible : standard.isCompatible c (.host (.int w')) = true)
    (decimals : standard.isCompatible .decimal (.host (.int w')) = true) :
    StreamM.mapError CoercionError.reason (standard.coerce (.int w n) c (.host (.int w'))) =
      StreamM.mapError CoercionError.reason (do
        let d ← standard.coerce (.int w n) c (.host .decimal)
        standard.coerce d .decimal (.host (.int w'))) := by
  have registered : w' ≠ .w8 := by
    intro narrowest
    rw [narrowest] at decimals
    cases decimals
  have toDecimal : Standard.cell c .decimal =
      some (Standard.pureCell (Standard.readInteger widest) Standard.intoDecimal) :=
    congrFun (Standard.cell_of_integerWidth type) _
  rw [standard_coerce_pure (cell_int_of_compatible type compatible) rfl,
    standard_coerce_pure toDecimal rfl]
  funext ss
  by_cases wide : widest.bits < w.bits
  · rw [Standard.readInteger_wide wide]
    rfl
  · have narrow := Nat.le_of_not_lt wide
    obtain ⟨d, converted, value⟩ :=
      exists_intoDecimal (Nat.le_trans narrow (Standard.bits_of_integerWidth type)) n
    have second := coerce_decimal_int (.inl rfl : ColumnType.decimal = _ ∨ _) registered d
    rw [value] at second
    rw [Standard.readInteger_narrow narrow]
    show StreamM.mapError _ (StreamM.ofExcept ((Standard.intoInteger w' n.val).mapError _)) ss =
      StreamM.mapError _ (StreamM.ofExcept ((Standard.intoDecimal n.val).mapError _ ) >>= _) ss
    rw [converted]
    show _ = StreamM.mapError _ (standard.coerce (.decimal d) .decimal (.host (.int w'))) ss
    rw [second]
    cases Standard.intoInteger w' n.val with
    | error e => rfl
    | ok v => rfl

end Registry

/-- **Integers keep their number.** Let the column type be one of integers. A raw integer is
converted to an integer of any width, a decimal or a text, as far as the type has the conversion,
unless it is wider than the column or out of the range of the target, and these are the only
failures. The result is the same number; a text is its numeral, from which it can be read back.
An integer that is first converted to a decimal, and then as a value of a DECIMAL column, ends as
the same integer or fails for the same reason. -/
theorem integers_kept {c : ColumnType} {widest : Width} (type : c.integerWidth = some widest)
    {w : Width} (n : Signed w.bits) :
    (∀ k, k.isExact = true → Registry.standard.isCompatible c (.host k) = true → ∀ ss,
      ((∃ e ss', Registry.standard.coerce (.int w n) c (.host k) ss = (.error e, ss')) ↔
        widest.bits < w.bits ∨ (Value.int w n).Beyond k) ∧
      ∀ v ss', Registry.standard.coerce (.int w n) c (.host k) ss = (.ok v, ss') →
        ss' = ss ∧ v.kind = some k ∧ v.Denotes n.val) ∧
    ∀ w', Registry.standard.isCompatible c (.host (.int w')) = true →
      Registry.standard.isCompatible .decimal (.host (.int w')) = true →
        StreamM.mapError CoercionError.reason
            (Registry.standard.coerce (.int w n) c (.host (.int w'))) =
          StreamM.mapError CoercionError.reason (do
            let d ← Registry.standard.coerce (.int w n) c (.host .decimal)
            Registry.standard.coerce d .decimal (.host (.int w'))) := by
  constructor
  · intro k exact compatible ss
    obtain ⟨refuses, gives⟩ := Registry.coerce_int_keeps type n exact compatible
    by_cases refused : widest.bits < w.bits ∨ (Value.int w n).Beyond k
    · obtain ⟨e, failed⟩ := refuses refused
      refine ⟨iff_of_true ⟨e, ss, failed ss⟩ refused, fun v ss' converted => ?_⟩
      cases (failed ss).symm.trans converted
    · obtain ⟨v, converted, kind, denotes⟩ := gives refused
      refine ⟨iff_of_false (fun ⟨e, ss', failed⟩ => ?_) refused, fun v' ss' converted' => ?_⟩
      · cases (converted ss).symm.trans failed
      · cases (converted ss).symm.trans converted'
        exact ⟨rfl, kind, denotes⟩
  · intro w' compatible decimals
    exact Registry.coerce_int_viaDecimal type n compatible decimals

/-- The number -300, as an integer of 16 bits in a column of integers of 32 bits. It has no place in
8 bits, is written as a text, and in 16 bits it comes out with and without a decimal on the way. -/
theorem integers_kept_narrow :
    let n : Signed 16 := ⟨-300, by decide, by decide⟩
    let direct := Registry.standard.coerce (.int .w16 n) .integer (.host (.int .w16))
    ColumnType.integer.integerWidth = some .w32 ∧
      (∃ e ss', Registry.standard.coerce (.int .w16 n) .integer (.host (.int .w8)) .empty =
        (.error e, ss')) ∧
      Registry.standard.coerce (.int .w16 n) .integer (.host .text) .empty =
        (.ok (.text "-300"), .empty) ∧
      (Value.text "-300").Denotes (-300) ∧
      direct .empty = (.ok (.int .w16 n), .empty) ∧
      StreamM.mapError CoercionError.reason direct =
        StreamM.mapError CoercionError.reason (do
          let d ← Registry.standard.coerce (.int .w16 n) .integer (.host .decimal)
          Registry.standard.coerce d .decimal (.host (.int .w16))) := by
  intro n direct
  have type : ColumnType.integer.integerWidth = some .w32 := rfl
  obtain ⟨kept, detour⟩ := integers_kept type (w := .w16) n
  have numeral : String.ofList (Digits.ofInt (-300)) = "-300" := by decide
  have written : Registry.standard.coerce (.int .w16 n) .integer (.host .text) .empty =
      (.ok (.text "-300"), .empty) := by
    rw [← numeral]
    rfl
  refine ⟨type, (kept (.int .w8) rfl rfl .empty).1.2 (.inr (.inl (by decide))), written, ?_, rfl,
    detour .w16 rfl rfl⟩
  exact ((kept .text rfl rfl .empty).2 _ _ written).2.2

end SqlAccess
