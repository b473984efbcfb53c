import SqlAccess.Proofs.Number.DecimalValue
import SqlAccess.Proofs.Number.Spelling
import SqlAccess.Proofs.Registry.Outcomes

/-!
# Decimals as integers

A decimal is narrowed to an integer by rounding its number toward zero. The rounding comes first and
the range is asked for after it, so that a number just beyond the bounds still fits if its integer
part does.

* `standard_coerce_pure`: a coercion that reads no stream, as a plain computation.
* `spells_wholePart`: the text of a decimal shows its integer part in front of the point.
* `decimals_narrowed`: all of the integer targets, and the text.
-/

namespace SqlAccess

/-! ## Coercions without streams -/

namespace Registry

/-- What a coercion comes to whose conversion is a reader followed by a function. -/
theorem standard_coerce_pure {α : Type} {c : ColumnType} {k : Kind}
    {read : Value → Except ConversionError α} {convert : α → Except ConversionError Value}
    (found : Standard.cell c k = some (Standard.pureCell read convert)) {v : Value}
    (present : v.isNull = false) :
    standard.coerce v c (.host k) =
      StreamM.ofExcept ((read v >>= convert).mapError fun e => ⟨c, .host k, .failed e⟩) := by
  have converter : standard.converter c (.host k) = some (Standard.pureCell read convert) := found
  funext ss
  rw [coerce_of_not_isNull present]
  unfold apply
  rw [converter]
  show StreamM.mapError _ (StreamM.ofExcept (read v >>= convert)) ss = _
  cases read v >>= convert with
  | error e => rfl
  | ok r => rfl

end Registry

/-- A width takes the integers that there are of it. -/
theorem Width.not_excludes_iff {w : Width} {n : Int} :
    ¬w.Excludes n ↔ ∃ m : Signed w.bits, m.val = n := by
  rw [Width.Excludes, ← Signed.ofInt?_eq_none_iff, ← ne_eq, Option.ne_none_iff_exists']
  simp only [Signed.ofInt?_eq_some_iff]

namespace Standard

theorem intoInteger_eq_ok_iff {w : Width} {n : Int} {v : Value} :
    intoInteger w n = .ok v ↔ ∃ m : Signed w.bits, m.val = n ∧ v = .int w m := by
  simp only [← Signed.ofInt?_eq_some_iff]
  unfold intoInteger
  cases Signed.ofInt? w.bits n with
  | none => simp
  | some m => simp [eq_comm]

end Standard

/-! ## The integer part in the text -/

/-- In front of the point, the text of a decimal shows its integer part. -/
theorem Decimal.spells_wholePart (d : Decimal) :
    Digits.Spells (d.toText.takeWhile (· != '.')) d.truncated := by
  obtain ⟨whole, fraction, some_digit, length, digits, text⟩ := d.toText_parts
  have all : ∀ c ∈ whole ++ fraction, c.isDigit = true := by
    rw [digits]
    exact fun c => Digits.isDigit_of_mem_padded
  have front : Digits.AreDigits whole :=
    ⟨some_digit, fun c mem => all c (List.mem_append_left fraction mem)⟩
  have cut : d.toText.takeWhile (· != '.') = (if d.negative then ['-'] else []) ++ whole := by
    have before : ∀ c ∈ (if d.negative then ['-'] else []) ++ whole, (c != '.') = true := by
      intro c mem
      refine bne_iff_ne.2 fun point => ?_
      rcases List.mem_append.1 mem with sign | digit
      · split at sign
        · cases point ▸ List.mem_singleton.1 sign
        · cases sign
      · cases point ▸ front.2 c digit
    rw [text, List.takeWhile_append_of_pos before]
    by_cases point : d.scale = 0
    · rw [if_pos point]
      exact List.append_nil _
    · rw [if_neg point]
      exact List.append_nil _
  have value : Digits.toNat whole = d.magnitude / 10 ^ d.scale := by
    have total : Digits.toNat (whole ++ fraction) = d.magnitude := by
      rw [digits]
      exact (Digits.toNat?_eq_some_iff.1 (Digits.toNat?_padded _ _)).2
    have rest := Digits.toNat_lt fun c mem => all c (List.mem_append_right whole mem)
    rw [Digits.toNat_append, length] at total
    rw [length] at rest
    rw [← total, Nat.mul_add_div (Nat.pow_pos (by decide)), Nat.div_eq_of_lt rest, Nat.add_zero]
  unfold truncated
  rw [cut, ← value]
  cases d.negative with
  | false => exact .unsigned front
  | true => exact .minus front

/-! ## Narrowing -/

namespace Standard

theorem cell_of_decimal {c : ColumnType} (type : c = .decimal ∨ c = .numeric) :
    cell c = decimalCell := by
  rcases type with rfl | rfl
  · rfl
  · rfl

/-- The narrowest integers have no conversion from decimals. -/
theorem decimalCell_int {w : Width} (registered : w ≠ .w8) :
    decimalCell (.int w) = some (pureCell readDecimal fun d => intoInteger w d.truncated) := by
  cases w with
  | w8 => exact absurd rfl registered
  | _ => rfl

end Standard

namespace Registry

variable {c : ColumnType} {w : Width}

theorem coerce_decimal_int (type : c = .decimal ∨ c = .numeric) (registered : w ≠ .w8)
    (d : Decimal) :
    standard.coerce (.decimal d) c (.host (.int w)) =
      StreamM.ofExcept ((Standard.intoInteger w d.truncated).mapError
        fun e => ⟨c, .host (.int w), .failed e⟩) := by
  have found : Standard.cell c (.int w) = some (Standard.pureCell _ _) :=
    (congrFun (Standard.cell_of_decimal type) _).trans (Standard.decimalCell_int registered)
  exact standard_coerce_pure found rfl

/-- A decimal is narrowed exactly to the integer of the width that is its integer part. -/
theorem coerce_decimal_int_eq_ok_iff (type : c = .decimal ∨ c = .numeric) (registered : w ≠ .w8)
    {d : Decimal} {v : Value} {ss ss' : Streams} :
    standard.coerce (.decimal d) c (.host (.int w)) ss = (.ok v, ss') ↔
      ss = ss' ∧ ∃ m : Signed w.bits, m.val = towardZero d.toRat ∧ v = .int w m := by
  rw [coerce_decimal_int type registered, StreamM.ofExcept_run_eq_ok_iff, mapError_eq_ok_iff,
    Standard.intoInteger_eq_ok_iff, d.truncated_eq, and_comm]

/-- The integer part of a decimal has at most 96 bits. -/
theorem not_excludes_truncated (d : Decimal) : ¬Width.w128.Excludes d.truncated := by
  have whole := Nat.div_le_self d.magnitude (10 ^ d.scale)
  have bits := d.magnitude_lt
  unfold Width.Excludes Decimal.truncated
  dsimp only [Width.bits]
  generalize d.magnitude / 10 ^ d.scale = size at whole ⊢
  split
  · omega
  · omega

end Registry

/-- **Decimals are narrowed toward zero.** A decimal of a DECIMAL or NUMERIC column is converted to
an integer of 16, 32, 64 or 128 bits exactly if its number, rounded toward zero, is in the range of
the width, and then this integer is the result. It always is in the widest range. So a wider target
gives the number that a narrower one gives; and it is the number that the text of the decimal shows
in front of the point. -/
theorem decimals_narrowed {c : ColumnType} (type : c = .decimal ∨ c = .numeric) (d : Decimal)
    (ss : Streams) :
    (∀ w, w ≠ .w8 →
      ((∃ v ss', Registry.standard.coerce (.decimal d) c (.host (.int w)) ss = (.ok v, ss')) ↔
        ¬w.Excludes (towardZero d.toRat)) ∧
      ∀ v ss', Registry.standard.coerce (.decimal d) c (.host (.int w)) ss = (.ok v, ss') →
        ss' = ss ∧ ∃ m : Signed w.bits, v = .int w m ∧ m.val = towardZero d.toRat) ∧
    ¬Width.w128.Excludes (towardZero d.toRat) ∧
    (∀ (w w' : Width) (m : Signed w.bits), w ≠ .w8 → w.bits ≤ w'.bits →
      Registry.standard.coerce (.decimal d) c (.host (.int w)) ss = (.ok (.int w m), ss) →
        ∃ m' : Signed w'.bits, m'.val = m.val ∧
          Registry.standard.coerce (.decimal d) c (.host (.int w')) ss =
            (.ok (.int w' m'), ss)) ∧
    ∃ s : String, Registry.standard.coerce (.decimal d) c (.host .text) ss = (.ok (.text s), ss) ∧
      Digits.Spells (s.toList.takeWhile (· != '.')) (towardZero d.toRat) := by
  have narrowed {w : Width} (registered : w ≠ .w8) {v : Value} {ss' : Streams} :
      Registry.standard.coerce (.decimal d) c (.host (.int w)) ss = (.ok v, ss') ↔ _ :=
    Registry.coerce_decimal_int_eq_ok_iff type registered
  refine ⟨?_, ?_, ?_, ?_⟩
  · intro w registered
    constructor
    · rw [Width.not_excludes_iff]
      constructor
      · intro ⟨v, ss', converted⟩
        obtain ⟨-, m, value, -⟩ := (narrowed registered).1 converted
        exact ⟨m, value⟩
      · intro ⟨m, value⟩
        exact ⟨.int w m, ss, (narrowed registered).2 ⟨rfl, m, value, rfl⟩⟩
    · intro v ss' converted
      obtain ⟨same, m, value, v_eq⟩ := (narrowed registered).1 converted
      exact ⟨same.symm, m, v_eq, value⟩
  · rw [← d.truncated_eq]
    exact Registry.not_excludes_truncated d
  · intro w w' m registered wider converted
    have registered' : w' ≠ .w8 := by
      intro narrowest
      rw [narrowest] at wider
      cases w with
      | w8 => exact registered rfl
      | _ => exact absurd wider (by decide)
    obtain ⟨-, m₀, value, same⟩ := (narrowed registered).1 converted
    cases same
    exact ⟨m.widen wider, rfl, (narrowed registered').2 ⟨rfl, m.widen wider, value, rfl⟩⟩
  · have found : Standard.cell c .text = some (Standard.pureCell Standard.readDecimal _) :=
      (congrFun (Standard.cell_of_decimal type) _).trans rfl
    refine ⟨String.ofList d.toText, ?_, ?_⟩
    · rw [Registry.standard_coerce_pure found rfl]
      rfl
    · rw [String.toList_ofList, ← d.truncated_eq]
      exact d.spells_wholePart

/-- The number -9223372036854775808.9 is below all integers of 64 bits, but its integer part is the
least of them. It has none of 32 bits. -/
theorem decimals_narrowed_least :
    let d : Decimal := ⟨true, 92233720368547758089, 1, by decide, by decide⟩
    let least : Signed 64 := ⟨-2 ^ 63, by decide, by decide⟩
    (ColumnType.numeric = .decimal ∨ ColumnType.numeric = .numeric) ∧
      towardZero d.toRat = -2 ^ 63 ∧
      Registry.standard.coerce (.decimal d) .numeric (.host (.int .w64)) .empty =
        (.ok (.int .w64 least), .empty) ∧
      (∃ m : Signed 128, m.val = -2 ^ 63 ∧
        Registry.standard.coerce (.decimal d) .numeric (.host (.int .w128)) .empty =
          (.ok (.int .w128 m), .empty)) ∧
      ¬∃ v ss', Registry.standard.coerce (.decimal d) .numeric (.host (.int .w32)) .empty =
        (.ok v, ss') := by
  intro d least
  have value : towardZero d.toRat = -2 ^ 63 := d.truncated_eq.symm.trans (by decide)
  have converted : Registry.standard.coerce (.decimal d) .numeric (.host (.int .w64)) .empty =
      (.ok (.int .w64 least), .empty) :=
    (Registry.coerce_decimal_int_eq_ok_iff (.inr rfl) (by decide)).2 ⟨rfl, least, value.symm, rfl⟩
  obtain ⟨ranges, -, wider, -⟩ := decimals_narrowed (.inr rfl : ColumnType.numeric = _ ∨ _) d .empty
  refine ⟨.inr rfl, value, converted, wider .w64 .w128 least nofun (by decide) converted, ?_⟩
  rw [(ranges .w32 nofun).1, value]
  exact fun included => included (.inl (by decide))

end SqlAccess
