import SqlAccess.Proofs.Number.Bytes
import SqlAccess.Proofs.Number.DecimalRange
import SqlAccess.Proofs.Registry.MissingValues

/-!
# How conversions of well-typed values end

A value of the kind that its column type has by default is converted to every kind that the type
has a conversion to, unless it is out of the range of that kind. No conversion takes it for a
value of the wrong kind.

* `Value.Beyond`: what it means to be out of range, said of the value and not of the conversion.
* `Settles`: how the conversions of a family of column types end, with one lemma for each family.
* `cell_settles`: all column types but those of streams.
* `standard_settled`: how coercions through the standard registry end.
* `standard_coerce_default`: the kind that a value has already, streams included.
-/

namespace SqlAccess

/-- The number is not one of the width. -/
def Width.Excludes (w : Width) (n : Int) : Prop := n < -2 ^ (w.bits - 1) ∨ 2 ^ (w.bits - 1) ≤ n

/-- The value has no place in the range of the kind: a number is too great for a width or for the
96 bits of decimals, or not finite, or there are more bytes than an integer has. -/
def Value.Beyond : Value → Kind → Prop
  | int _ n, .int w => w.Excludes n.val
  | int _ n, .decimal => 2 ^ 96 ≤ n.val.natAbs
  | decimal d, .int w => w.Excludes d.truncated
  | float _ x, .decimal =>
    ∀ negative s e, x.meaning = .finite negative s e → 2 ^ 96 ≤ s * 2 ^ e.toNat
  | bytes bs, .int _ => 16 < bs.length
  | _, _ => False

theorem Value.isNull_of_kind {v : Value} {k : Kind} (kind : v.kind = some k) :
    v.isNull = false := by
  cases v with
  | null => cases kind
  | _ => rfl

theorem Value.isNull_of_ne_null {v : Value} (there : v ≠ .null) : v.isNull = false :=
  eq_false_of_ne_true (mt isNull_eq_true_iff.1 there)

namespace Standard

/-- The conversion to this kind gives something for this value, unless it is out of range. -/
def SettlesAt (f : Converter) (k : Kind) (v : Value) : Prop :=
  ∀ ss, (v.Beyond k → ∃ shown, f v ss = (.error (.outOfRange shown k), ss)) ∧
    (¬v.Beyond k → ∃ r ss', f v ss = (.ok r, ss'))

/-- So do all conversions of a family. -/
def Settles (cells : Kind → Option Converter) (v : Value) : Prop :=
  ∀ k f, cells k = some f → SettlesAt f k v

/-- The conversion of a family to this kind hands this value on. -/
def HandsOn (cells : Kind → Option Converter) (k : Kind) (v : Value) : Prop :=
  ∃ f, cells k = some f ∧ ∀ ss, f v ss = (.ok v, ss)

/-! ## Single conversions -/

/-- A conversion that refuses what is out of range. -/
theorem pureCell_settles {α : Type} {read : Value → Except ConversionError α}
    {convert : α → Except ConversionError Value} {v : Value} {a : α} {k : Kind}
    (taken : read v = .ok a)
    (refuses : v.Beyond k → ∃ shown, convert a = .error (.outOfRange shown k))
    (converts : ¬v.Beyond k → ∃ r, convert a = .ok r) : SettlesAt (pureCell read convert) k v := by
  intro ss
  rw [pureCell_run taken]
  constructor
  · intro beyond
    obtain ⟨shown, refused⟩ := refuses beyond
    exact ⟨shown, by rw [refused]⟩
  · intro within
    obtain ⟨r, converted⟩ := converts within
    exact ⟨r, ss, by rw [converted]⟩

/-- A conversion that refuses nothing. -/
theorem pureCell_settles_ok {α : Type} {read : Value → Except ConversionError α} {value : α → Value}
    {v : Value} {a : α} {k : Kind} (taken : read v = .ok a) (within : ¬v.Beyond k) :
    SettlesAt (pureCell read fun a => .ok (value a)) k v :=
  pureCell_settles taken (fun beyond => absurd beyond within) fun _ => ⟨_, rfl⟩

theorem intoInteger_refuses {w : Width} {n : Int} (excluded : w.Excludes n) :
    ∃ shown, intoInteger w n = .error (.outOfRange shown (.int w)) := by
  unfold intoInteger
  rw [Signed.ofInt?_eq_none_iff.2 excluded]
  exact ⟨_, rfl⟩

theorem intoInteger_converts {w : Width} {n : Int} (included : ¬w.Excludes n) :
    ∃ r, intoInteger w n = .ok r := by
  unfold intoInteger
  cases fits : Signed.ofInt? w.bits n with
  | some m => exact ⟨_, rfl⟩
  | none => exact absurd (Signed.ofInt?_eq_none_iff.1 fits) included

theorem intoInteger_self (w : Width) (n : Signed w.bits) :
    intoInteger w n.val = .ok (.int w n) := by
  unfold intoInteger
  rw [Signed.ofInt?_eq_some_iff.2 rfl]

theorem intoDecimal_refuses {n : Int} (large : 2 ^ 96 ≤ n.natAbs) :
    ∃ shown, intoDecimal n = .error (.outOfRange shown .decimal) := by
  unfold intoDecimal Decimal.ofInt? Decimal.ofParts?
  rw [dif_neg fun fits => absurd fits.1 (Nat.not_lt.2 large)]
  exact ⟨_, rfl⟩

theorem intoDecimal_converts {n : Int} (small : ¬2 ^ 96 ≤ n.natAbs) :
    ∃ r, intoDecimal n = .ok r := by
  unfold intoDecimal Decimal.ofInt? Decimal.ofParts?
  rw [dif_pos ⟨Nat.lt_of_not_le small, Nat.zero_le 28⟩]
  exact ⟨_, rfl⟩

theorem floatIntoDecimal_refuses {p : Precision} {x : Binary p}
    (beyond : Value.Beyond (.float p x) .decimal) :
    ∃ shown, floatIntoDecimal x = .error (.outOfRange shown .decimal) := by
  unfold floatIntoDecimal
  rw [(Decimal.ofBinary?_eq_none_iff x).2 beyond]
  exact ⟨_, rfl⟩

theorem floatIntoDecimal_converts {p : Precision} {x : Binary p}
    (within : ¬Value.Beyond (.float p x) .decimal) : ∃ r, floatIntoDecimal x = .ok r := by
  unfold floatIntoDecimal
  cases fits : Decimal.ofBinary? x with
  | some d => exact ⟨_, rfl⟩
  | none => exact absurd ((Decimal.ofBinary?_eq_none_iff x).1 fits) within

theorem bytesIntoInteger_refuses {bs : List UInt8} (long : 16 < bs.length) :
    ∃ shown, bytesIntoInteger bs = .error (.outOfRange shown (.int .w128)) := by
  unfold bytesIntoInteger
  rw [if_neg (Nat.not_le.2 long)]
  exact ⟨_, rfl⟩

theorem bytesIntoInteger_converts {bs : List UInt8} (short : ¬16 < bs.length) :
    ∃ r, bytesIntoInteger bs = .ok r := by
  unfold bytesIntoInteger
  obtain ⟨n, fits⟩ : ∃ n, Signed.ofInt? 128 (signedOfBytes bs) = some n :=
    ofInt?_signedOfBytes (by omega) (by decide)
  rw [if_pos (Nat.le_of_not_lt short), fits]
  exact ⟨_, rfl⟩

/-! ## Numbers -/

theorem decimalCell_settles (d : Decimal) :
    Settles decimalCell (.decimal d) ∧ HandsOn decimalCell .decimal (.decimal d) := by
  refine ⟨?_, _, rfl, fun _ => rfl⟩
  intro k f found
  unfold decimalCell at found
  split at found
  · cases found
  · cases found
    exact pureCell_settles rfl intoInteger_refuses intoInteger_converts
  · cases found
    exact pureCell_settles_ok rfl id
  · cases found
    exact pureCell_settles_ok rfl id
  · cases found
    exact pureCell_settles_ok rfl id
  · cases found

theorem readInteger_self (w : Width) (n : Signed w.bits) :
    readInteger w (.int w n) = .ok n.val := if_pos (Nat.le_refl _)

theorem integerCell_settles (w : Width) (n : Signed w.bits) :
    Settles (integerCell w) (.int w n) ∧ HandsOn (integerCell w) (.int w) (.int w n) := by
  constructor
  · intro k f found
    unfold integerCell at found
    split at found
    · split at found
      · cases found
      · cases found
        exact pureCell_settles (readInteger_self w n) intoInteger_refuses intoInteger_converts
    · cases found
      exact pureCell_settles_ok (readInteger_self w n) id
    · cases found
      exact pureCell_settles (readInteger_self w n) intoDecimal_refuses intoDecimal_converts
    · cases found
      exact pureCell_settles_ok (readInteger_self w n) id
    · cases found
  · refine ⟨_, if_neg ?_, fun ss => ?_⟩
    · rintro ⟨rfl, narrow⟩
      cases narrow
    · rw [pureCell_run (readInteger_self w n), intoInteger_self]

theorem floatCell_settles (p : Precision) (x : Binary p) :
    Settles (floatCell p) (.float p x) ∧ HandsOn (floatCell p) (.float p) (.float p x) := by
  constructor
  · intro k f found
    unfold floatCell at found
    split at found
    · cases found
    · cases found
    · cases found
      exact pureCell_settles_ok (readFloat_self p x) id
    · cases found
      exact pureCell_settles_ok (readFloat_self p x) id
    · cases found
      exact pureCell_settles (readFloat_self p x) floatIntoDecimal_refuses
        floatIntoDecimal_converts
    · cases found
      exact pureCell_settles_ok (readFloat_self p x) id
    · cases found
  · refine ⟨_, rfl, fun ss => ?_⟩
    rw [pureCell_run (readFloat_self p x), dif_pos rfl]

/-! ## Truth values, dates and times -/

theorem booleanCell_settles (b : Bool) :
    Settles booleanCell (.bool b) ∧ HandsOn booleanCell .bool (.bool b) := by
  refine ⟨?_, _, rfl, fun _ => rfl⟩
  intro k f found
  unfold booleanCell at found
  split at found
  all_goals cases found
  all_goals exact pureCell_settles_ok rfl id

theorem dateCell_settles (d : Date) :
    Settles dateCell (.date d) ∧ HandsOn dateCell .date (.date d) := by
  refine ⟨?_, _, rfl, fun _ => rfl⟩
  intro k f found
  unfold dateCell at found
  split at found
  all_goals cases found
  all_goals exact pureCell_settles_ok rfl id

theorem timeCell_settles (t : TimeOfDay) :
    Settles timeCell (.time t) ∧ HandsOn timeCell .time (.time t) := by
  refine ⟨?_, _, rfl, fun _ => rfl⟩
  intro k f found
  unfold timeCell at found
  split at found
  all_goals cases found
  all_goals exact pureCell_settles_ok rfl id

theorem timestampCell_settles (t : Timestamp) :
    Settles timestampCell (.timestamp t) ∧ HandsOn timestampCell .timestamp (.timestamp t) := by
  refine ⟨?_, _, rfl, fun _ => rfl⟩
  intro k f found
  unfold timestampCell at found
  split at found
  all_goals cases found
  all_goals exact pureCell_settles_ok rfl id

/-! ## Text and bytes -/

theorem textCell_settles (s : String) :
    Settles textCell (.text s) ∧ HandsOn textCell .text (.text s) := by
  refine ⟨?_, _, rfl, fun _ => rfl⟩
  intro k f found
  unfold textCell at found
  split at found
  · cases found
    exact pureCell_settles_ok rfl id
  · cases found
    exact pureCell_settles_ok rfl id
  · cases found
    exact fun _ => ⟨False.elim, fun _ => ⟨_, _, rfl⟩⟩
  · cases found

theorem charCell_settles (cs : List Char) :
    Settles charCell (.chars cs) ∧ HandsOn charCell .chars (.chars cs) := by
  refine ⟨?_, _, rfl, fun _ => rfl⟩
  intro k f found
  unfold charCell at found
  split at found
  all_goals cases found
  all_goals exact pureCell_settles_ok rfl id

theorem binaryCell_settles (bs : List UInt8) :
    Settles binaryCell (.bytes bs) ∧ HandsOn binaryCell .bytes (.bytes bs) := by
  refine ⟨?_, _, rfl, fun _ => rfl⟩
  intro k f found
  unfold binaryCell at found
  split at found
  · cases found
    exact pureCell_settles_ok rfl id
  · cases found
    exact pureCell_settles rfl bytesIntoInteger_refuses bytesIntoInteger_converts
  · cases found
    exact fun _ => ⟨False.elim, fun _ => ⟨_, _, rfl⟩⟩
  · cases found

/-! ## All column types without streams -/

/-- A value of the kind that its column type has by default. The conversion to this kind hands it
on, and the others end well unless it is out of range. -/
theorem cell_settles {c : ColumnType} {k : Kind} {v : Value}
    (own : c.defaultTarget = some (.host k)) (kind : v.kind = some k) (bytes : k ≠ .blob)
    (text : k ≠ .clob) : Settles (cell c) v ∧ HandsOn (cell c) k v := by
  cases c with
  | decimal | numeric =>
    cases own
    cases v <;> cases kind
    exact decimalCell_settles _
  | bigInt | integer | smallInt | tinyInt =>
    cases own
    cases v <;> cases kind
    exact integerCell_settles _ _
  | double | float | real =>
    cases own
    cases v <;> cases kind
    exact floatCell_settles _ _
  | boolean | bit =>
    cases own
    cases v <;> cases kind
    exact booleanCell_settles _
  | date =>
    cases own
    cases v <;> cases kind
    exact dateCell_settles _
  | time | timeWithTimezone =>
    cases own
    cases v <;> cases kind
    exact timeCell_settles _
  | timestamp | timestampWithTimezone =>
    cases own
    cases v <;> cases kind
    exact timestampCell_settles _
  | varChar | longVarChar | nVarChar | longNVarChar | nChar =>
    cases own
    cases v <;> cases kind
    exact textCell_settles _
  | char =>
    cases own
    cases v <;> cases kind
    exact charCell_settles _
  | binary | varBinary | longVarBinary =>
    cases own
    cases v <;> cases kind
    exact binaryCell_settles _
  | blob =>
    cases own
    exact absurd rfl bytes
  | clob | nClob =>
    cases own
    exact absurd rfl text
  | null | other => cases own

/-- The same for streams: they are handed on unread. What else their conversions do depends on what
is left of them. -/
theorem cell_handsOn {c : ColumnType} {k : Kind} {v : Value}
    (own : c.defaultTarget = some (.host k)) (kind : v.kind = some k) :
    HandsOn (cell c) k v := by
  cases c with
  | blob =>
    cases own
    cases v <;> cases kind
    exact ⟨_, rfl, fun _ => rfl⟩
  | clob | nClob =>
    cases own
    cases v <;> cases kind
    exact ⟨_, rfl, fun _ => rfl⟩
  | null | other => cases own
  | _ =>
    refine (cell_settles own kind ?_ ?_).2
    all_goals
      cases own
      nofun

end Standard

/-! ## Coercions -/

namespace Registry

/-- The values of a column type that its conversions are made for: missing ones, and those of the
kind that the type has by default. -/
def OwnValue (c : ColumnType) (v : Value) : Prop :=
  v = .null ∨ ∃ k, c.defaultTarget = some (.host k) ∧ v.kind = some k ∧ k ≠ .blob ∧ k ≠ .clob

/-- How coercions of a value end: with a value, or with a refusal because the value is out of the
range of the kind. -/
structure Settled (r : Registry) (c : ColumnType) (v : Value) : Prop where
  gives : ∀ t, r.isCompatible c t = true → (∀ k, t = .host k → ¬v.Beyond k) →
    ∀ ss, ∃ x ss', r.coerce v c t ss = (.ok x, ss')
  refuses : ∀ k, r.isCompatible c (.host k) = true → v.Beyond k →
    ∀ ss, ∃ shown, r.coerce v c (.host k) ss =
      (.error ⟨c, .host k, .failed (.outOfRange shown k)⟩, ss)

theorem apply_eq_error {r : Registry} {v : Value} {e : ConversionError} {c : ColumnType}
    {t : Target} {f : Converter} {ss ss' : Streams} (found : r.converter c t = some f)
    (ran : f v ss = (.error e, ss')) : r.apply v c t ss = (.error ⟨c, t, .failed e⟩, ss') := by
  unfold apply
  rw [found]
  dsimp only [StreamM.mapError]
  rw [ran]

theorem standard_settled {c : ColumnType} (named : c ≠ .null) (numbered : c.isOther = false)
    {v : Value} (own : OwnValue c v) : standard.Settled c v := by
  obtain rfl | ⟨k₀, default, kind, bytes, text⟩ := own
  · refine ⟨?_, fun k _ beyond => beyond.elim⟩
    intro t compatible _ ss
    obtain ⟨zero, ss₁, made, -, converts⟩ := standard_coerce_null named numbered ss
    cases t with
    | void => exact ⟨zero, ss₁, made⟩
    | host k =>
      obtain ⟨f, found⟩ := Option.isSome_iff_exists.1 compatible
      obtain ⟨x, ss₂, -, coerced, -⟩ := converts k f found
      exact ⟨x, ss₂, coerced⟩
  · have present : v.isNull = false := Value.isNull_of_kind kind
    obtain ⟨settles, -⟩ := Standard.cell_settles default kind bytes text
    refine ⟨?_, ?_⟩
    · intro t compatible within ss
      rw [coerce_of_not_isNull present]
      obtain ⟨f, found⟩ := Option.isSome_iff_exists.1 compatible
      cases t with
      | void =>
        obtain ⟨m, made, rfl⟩ := Option.map_eq_some_iff.1 found
        obtain ⟨zero, ss₁, ran, -⟩ := Standard.zero_run made named ss
        exact ⟨zero, ss₁, apply_eq_ok found ran⟩
      | host k =>
        obtain ⟨x, ss', ran⟩ := (settles k f found ss).2 (within k rfl)
        exact ⟨x, ss', apply_eq_ok found ran⟩
    · intro k compatible beyond ss
      rw [coerce_of_not_isNull present]
      obtain ⟨f, found⟩ := Option.isSome_iff_exists.1 compatible
      obtain ⟨shown, ran⟩ := (settles k f found ss).1 beyond
      exact ⟨shown, apply_eq_error found ran⟩

/-- The kind that a value has already is not converted. -/
theorem standard_coerce_default {c : ColumnType} {k : Kind} {v : Value}
    (default : c.defaultTarget = some (.host k)) (kind : v.kind = some k) (ss : Streams) :
    standard.coerce v c (.host k) ss = (.ok v, ss) := by
  obtain ⟨f, found, handsOn⟩ := Standard.cell_handsOn default kind
  rw [coerce_of_not_isNull (Value.isNull_of_kind kind)]
  exact apply_eq_ok found (handsOn ss)

end Registry

end SqlAccess
