import SqlAccess.Proofs.Registry.Integers

/-!
# Values in the default kind of their column type

Whoever does not ask for a kind gets the one that the column type has by default. A raw value of
this kind stays as it is. A few other raw values hold the same in another form, and the conversion
brings them into the form of the default kind at once, so that a second conversion finds nothing
left to do.

* `Value.TakenAs`: which values of another kind these are, and what they become.
* `cell_takesOthers`: all column types, with one lemma for each family that takes other kinds.
* `standard_coerce_default_iff`: coercions of values of another kind.
* `default_kind_stable`: coercions to the default kind, of any value.
-/

namespace SqlAccess

/-- The value, though of another kind, is taken as a value of the kind: an integer of at most the
width, a number of single precision as one of double precision, text and characters for each other.
Bytes and text are taken as streams, too, and a new stream is made of them. -/
inductive Value.TakenAs : Kind → Value → Streams → Value → Streams → Prop where
  | integer {w widest : Width} {n : Signed w.bits} {m : Signed widest.bits} {ss : Streams}
    (narrow : w.bits ≤ widest.bits) (value : m.val = n.val) :
    TakenAs (.int widest) (.int w n) ss (.int widest m) ss
  | double {x : Binary .single} {ss : Streams} :
    TakenAs (.float .double) (.float .single x) ss (.float .double (x.convert .double)) ss
  | text {cs : List Char} {ss : Streams} :
    TakenAs .text (.chars cs) ss (.text (String.ofList cs)) ss
  | chars {s : String} {ss : Streams} : TakenAs .chars (.text s) ss (.chars s.toList) ss
  | blob {bs : List UInt8} {ss : Streams} :
    TakenAs .blob (.bytes bs) ss (.blob (ss.add (.ofBytes bs)).1) (ss.add (.ofBytes bs)).2
  | clob {s : String} {ss : Streams} :
    TakenAs .clob (.text s) ss (.clob (ss.add (.ofText s)).1) (ss.add (.ofText s)).2

namespace Standard

/-- Of the values of other kinds, the conversion of a family to this kind takes those that can be
taken as it, and refuses the others. -/
def TakesOthers (cells : Kind → Option Converter) (k : Kind) : Prop :=
  ∃ f, cells k = some f ∧ ∀ v, v.kind ≠ some k → ∀ ss r ss',
    f v ss = (.ok r, ss') ↔ v.TakenAs k ss r ss'

/-! ## Numbers -/

theorem pureCell_run_eq_ok_iff {α : Type} {read : Value → Except ConversionError α}
    {convert : α → Except ConversionError Value} {v r : Value} {ss ss' : Streams} :
    pureCell read convert v ss = (.ok r, ss') ↔
      (∃ a, read v = .ok a ∧ convert a = .ok r) ∧ ss = ss' := by
  unfold pureCell
  rw [StreamM.ofExcept_run_eq_ok_iff, bind_eq_ok_iff]

theorem readInteger_eq_ok {widest : Width} {v : Value} {number : Int}
    (read : readInteger widest v = .ok number) :
    ∃ w n, v = .int w n ∧ w.bits ≤ widest.bits ∧ n.val = number := by
  cases v with
  | int w n =>
    by_cases narrow : w.bits ≤ widest.bits
    · rw [readInteger_narrow narrow] at read
      cases read
      exact ⟨w, n, rfl, narrow, rfl⟩
    · rw [readInteger_wide (Nat.lt_of_not_le narrow)] at read
      cases read
  | _ => cases read

theorem integerCell_takesOthers (widest : Width) :
    TakesOthers (integerCell widest) (.int widest) := by
  have registered : integerCell widest (.int widest) =
      some (pureCell (readInteger widest) (intoInteger widest)) := by
    refine if_neg ?_
    rintro ⟨rfl, narrowest⟩
    cases narrowest
  refine ⟨_, registered, fun v _ ss r ss' => ?_⟩
  rw [pureCell_run_eq_ok_iff]
  constructor
  · rintro ⟨⟨number, read, converted⟩, rfl⟩
    obtain ⟨w, n, rfl, narrow, rfl⟩ := readInteger_eq_ok read
    obtain ⟨m, value, rfl⟩ := intoInteger_eq_ok_iff.1 converted
    exact .integer narrow value
  · intro taken
    cases taken with
    | integer narrow value =>
      exact ⟨⟨_, readInteger_narrow narrow _, intoInteger_eq_ok_iff.2 ⟨_, value, rfl⟩⟩, rfl⟩

theorem floatCell_takesOthers (p : Precision) : TakesOthers (floatCell p) (.float p) := by
  refine ⟨_, rfl, fun v other ss r ss' => ⟨fun ran => ?_, fun taken => ?_⟩⟩
  · cases v with
    | float q x =>
      cases p with
      | single =>
        cases q with
        | single => exact absurd rfl other
        | double => cases ran
      | double =>
        cases q with
        | single =>
          cases ran
          exact .double
        | double => exact absurd rfl other
    | _ => cases p <;> cases ran
  · cases taken
    rfl

/-! ## Text -/

theorem textCell_takesOthers : TakesOthers textCell .text := by
  refine ⟨_, rfl, fun v other ss r ss' => ⟨fun ran => ?_, fun taken => ?_⟩⟩
  · cases v with
    | text s => exact absurd rfl other
    | chars cs =>
      cases ran
      exact .text
    | _ => cases ran
  · cases taken
    rfl

theorem charCell_takesOthers : TakesOthers charCell .chars := by
  refine ⟨_, rfl, fun v other ss r ss' => ⟨fun ran => ?_, fun taken => ?_⟩⟩
  · cases v with
    | chars cs => exact absurd rfl other
    | text s =>
      cases ran
      exact .chars
    | _ => cases ran
  · cases taken
    rfl

/-! ## Streams -/

theorem blobCell_takesOthers : TakesOthers blobCell .blob := by
  refine ⟨_, rfl, fun v other ss r ss' => ⟨fun ran => ?_, fun taken => ?_⟩⟩
  · cases v with
    | blob id => exact absurd rfl other
    | bytes bs =>
      cases ran
      exact .blob
    | _ => cases ran
  · cases taken
    rfl

theorem clobCell_takesOthers : TakesOthers clobCell .clob := by
  refine ⟨_, rfl, fun v other ss r ss' => ⟨fun ran => ?_, fun taken => ?_⟩⟩
  · cases v with
    | clob id => exact absurd rfl other
    | text s =>
      cases ran
      exact .clob
    | _ => cases ran
  · cases taken
    rfl

/-! ## All column types -/

/-- The conversion of a column type to the kind that it has by default, of a value of another
kind. -/
theorem cell_takesOthers {c : ColumnType} {k : Kind} (default : c.defaultTarget = some (.host k)) :
    TakesOthers (cell c) k := by
  cases c with
  | bigInt | integer | smallInt | tinyInt =>
    cases default
    exact integerCell_takesOthers _
  | double | float | real =>
    cases default
    exact floatCell_takesOthers _
  | varChar | longVarChar | nVarChar | longNVarChar | nChar =>
    cases default
    exact textCell_takesOthers
  | char =>
    cases default
    exact charCell_takesOthers
  | blob =>
    cases default
    exact blobCell_takesOthers
  | clob | nClob =>
    cases default
    exact clobCell_takesOthers
  | null | other => cases default
  | decimal | numeric | boolean | bit | date | time | timeWithTimezone | timestamp
  | timestampWithTimezone | binary | varBinary | longVarBinary =>
    -- no value of another kind is taken
    cases default
    refine ⟨_, rfl, fun v other ss r ss' => ⟨fun ran => ?_, nofun⟩⟩
    cases v <;> cases ran
    exact absurd rfl other

end Standard

namespace Registry

variable {c : ColumnType} {k : Kind} {v : Value}

/-- A value of another kind is coerced to the default kind if it can be taken as it. -/
theorem standard_coerce_default_iff (default : c.defaultTarget = some (.host k))
    (present : v ≠ .null) (other : v.kind ≠ some k) (ss : Streams) (r : Value) (ss' : Streams) :
    standard.coerce v c (.host k) ss = (.ok r, ss') ↔ v.TakenAs k ss r ss' := by
  obtain ⟨f, found, takes⟩ := Standard.cell_takesOthers default
  have converter : standard.converter c (.host k) = some f := found
  rw [coerce_of_not_isNull (Value.isNull_of_ne_null present)]
  unfold apply
  rw [converter]
  exact StreamM.mapError_run_eq_ok_iff.trans (takes v other ss r ss')

end Registry

/-- **The default kind is stable.** Let a column type have a kind by default.

* A value of this kind is coerced to it as it is: a decimal keeps its sign and its fraction digits,
  a stream is the same one, and no stream is read.
* A value of another kind that is not missing is coerced to it if it can be taken as one, and then
  becomes what it is taken as.
* Whatever comes of a coercion to the kind, also of a missing value, is of the kind. Coerced once
  more, on any streams, it stays as it is. -/
theorem default_kind_stable {c : ColumnType} {k : Kind}
    (default : c.defaultTarget = some (.host k)) (v : Value) (ss : Streams) :
    (v.kind = some k → Registry.standard.coerce v c (.host k) ss = (.ok v, ss)) ∧
    (v ≠ .null → v.kind ≠ some k → ∀ r ss',
      Registry.standard.coerce v c (.host k) ss = (.ok r, ss') ↔ v.TakenAs k ss r ss') ∧
    ∀ r ss', Registry.standard.coerce v c (.host k) ss = (.ok r, ss') →
      r.kind = some k ∧
        ∀ later, Registry.standard.coerce r c (.host k) later = (.ok r, later) := by
  have named : c ≠ .null := by
    rintro rfl
    cases default
  refine ⟨fun kind => Registry.standard_coerce_default default kind ss, ?_, ?_⟩
  · intro present other r ss'
    exact Registry.standard_coerce_default_iff default present other ss r ss'
  · intro r ss' coerced
    have kind : r.kind = some k :=
      Registry.standard_coerce_ensures named v k ss r ss' coerced
    exact ⟨kind, fun later => Registry.standard_coerce_default default kind later⟩

/-- A negative zero with two fraction digits stays one. A text in a CLOB column becomes a stream,
and this stream is handed on even when it has been read to its end. -/
theorem default_kind_stable_zero_and_stream :
    let zero : Value := .decimal ⟨true, 0, 2, by decide, by decide⟩
    let made : Streams := ⟨[.ofText "ab"]⟩
    let drained : Streams := ⟨[.empty]⟩
    let coerce := Registry.standard.coerce
    ColumnType.numeric.defaultTarget = some (.host .decimal) ∧ zero.kind = some .decimal ∧
      coerce zero .numeric (.host .decimal) made = (.ok zero, made) ∧
      ColumnType.clob.defaultTarget = some (.host .clob) ∧
      (Value.text "ab").kind ≠ some .clob ∧
      (Value.text "ab").TakenAs .clob .empty (.clob 0) made ∧
      coerce (.text "ab") .clob (.host .clob) .empty = (.ok (.clob 0), made) ∧
      coerce (.clob 0) .clob (.host .clob) drained = (.ok (.clob 0), drained) := by
  intro zero made drained coerce
  obtain ⟨kept, -, -⟩ := default_kind_stable (c := .numeric) rfl zero made
  obtain ⟨-, taken, settled⟩ := default_kind_stable (c := .clob) rfl (.text "ab") .empty
  have becomes : (Value.text "ab").TakenAs .clob .empty (.clob 0) made := .clob
  have coerced : coerce (.text "ab") .clob (.host .clob) .empty = (.ok (.clob 0), made) :=
    (taken nofun nofun _ _).2 becomes
  obtain ⟨-, again⟩ := settled _ _ coerced
  exact ⟨rfl, rfl, kept rfl, rfl, nofun, becomes, coerced, again drained⟩

end SqlAccess
