import SqlAccess.Content
import SqlAccess.Proofs.Registry.Kinds

/-!
# What stands for a missing value

The value that stands for a missing one is the blank of the kind that its column type has by
default: zero, no characters, no bytes, the epoch, a stream at its end. Every standard conversion
of the type takes it, and gives the blank of the kind that is asked for. A text is the one
exception, because numbers, truth values and times are written out.

* `GivesBlank`: the conversions of a family of column types, with one lemma for each family.
* `zero_run`: what the standard registry makes, for each column type.
* `standard_coerce_null`: how a missing value is coerced.
-/

namespace SqlAccess

/-- What a kind shows in place of a missing value. -/
def Kind.blank : Kind → Content
  | bool => .plain (.bool false)
  | int w => .plain (.int w (.clamp w.bits 0))
  | float p => .plain (.float p (.zero p false))
  | decimal => .plain (.decimal .zero)
  | text => .plain (.text "")
  | chars => .plain (.chars [])
  | bytes => .plain (.bytes [])
  | date => .plain (.date .epoch)
  | time => .plain (.time .midnight)
  | timestamp => .plain (.timestamp .epoch)
  | blob => .blob (.ok [])
  | clob => .clob (.ok "")

/-- What the value shows on these streams. -/
def Value.shown (v : Value) (ss : Streams) : Content := (v.content.run ss).1

namespace Standard

/-- The conversions of a family take this value, and what they give shows the blank of its kind,
unless it is a text. -/
def GivesBlank (cells : Kind → Option Converter) (v : Value) (ss : Streams) : Prop :=
  ∀ k f, cells k = some f → ∃ r ss', f v ss = (.ok r, ss') ∧ (k ≠ .text → r.shown ss' = k.blank)

/-! ## Blanks without streams -/

/-- A conversion of a value that its reader takes. -/
theorem pureCell_run {α : Type} {read : Value → Except ConversionError α} {v : Value} {a : α}
    (taken : read v = .ok a) (convert : α → Except ConversionError Value) (ss : Streams) :
    pureCell read convert v ss = (convert a, ss) := by
  unfold pureCell
  rw [taken]
  rfl

/-- A conversion that reads the value and gives a blank. -/
theorem pureCell_blank {α : Type} {read : Value → Except ConversionError α}
    {convert : α → Except ConversionError Value} {v : Value} {a : α} {k : Kind} (ss : Streams)
    (taken : read v = .ok a)
    (converted : ∃ r, convert a = .ok r ∧ (k ≠ .text → r.shown ss = k.blank)) :
    ∃ r ss', pureCell read convert v ss = (.ok r, ss') ∧ (k ≠ .text → r.shown ss' = k.blank) := by
  obtain ⟨r, converted, shows⟩ := converted
  exact ⟨r, ss, by rw [pureCell_run taken, converted], shows⟩

/-- A conversion that writes the value out. What it writes need not be blank. -/
theorem pureCell_written {α : Type} {read : Value → Except ConversionError α} {text : α → String}
    {v : Value} {a : α} (ss : Streams) (taken : read v = .ok a) :
    ∃ r ss', pureCell read (fun a => .ok (.text (text a))) v ss = (.ok r, ss') ∧
      (Kind.text ≠ .text → r.shown ss' = Kind.text.blank) :=
  pureCell_blank ss taken ⟨_, rfl, fun plain => absurd rfl plain⟩

theorem intoInteger_zero (w : Width) : intoInteger w 0 = .ok (.int w (.clamp w.bits 0)) := by
  cases w <;> rfl

theorem intoDecimal_zero : intoDecimal 0 = .ok (.decimal .zero) := rfl

theorem ofInt_zero (p : Precision) : Binary.ofInt p 0 = .zero p false := by
  unfold Binary.ofInt Binary.ofRatio
  exact if_pos rfl

theorem toBinary_zero (p : Precision) : Decimal.zero.toBinary p = .zero p false := by
  cases p <;> decide +kernel

theorem convert_zero (p q : Precision) : (Binary.zero p false).convert q = .zero q false := by
  cases p <;> cases q <;> decide +kernel

theorem toSigned_zero (p : Precision) (w : Width) :
    (Binary.zero p false).toSigned w.bits = .clamp w.bits 0 := by
  cases p <;> cases w <;> decide +kernel

theorem ofBinary_zero (p : Precision) :
    Decimal.ofBinary? (Binary.zero p false) = some .zero := by
  cases p <;> decide +kernel

theorem decimalCell_blank (ss : Streams) : GivesBlank decimalCell (.decimal .zero) ss := by
  intro k f found
  unfold decimalCell at found
  split at found
  · cases found
  · cases found
    exact pureCell_blank ss rfl ⟨_, intoInteger_zero _, fun _ => rfl⟩
  · cases found
    exact pureCell_blank ss rfl ⟨_, rfl, fun _ => by rw [toBinary_zero]; rfl⟩
  · cases found
    exact pureCell_written ss rfl
  · cases found
    exact pureCell_blank ss rfl ⟨_, rfl, fun _ => rfl⟩
  · cases found

theorem readInteger_zero (w : Width) : readInteger w (zeroInteger w) = .ok 0 := by
  cases w <;> rfl

theorem integerCell_blank (w : Width) (ss : Streams) :
    GivesBlank (integerCell w) (zeroInteger w) ss := by
  intro k f found
  unfold integerCell at found
  split at found
  · split at found
    · cases found
    · cases found
      exact pureCell_blank ss (readInteger_zero w) ⟨_, intoInteger_zero _, fun _ => rfl⟩
  · cases found
    exact pureCell_blank ss (readInteger_zero w) ⟨_, rfl, fun _ => by rw [ofInt_zero]; rfl⟩
  · cases found
    exact pureCell_blank ss (readInteger_zero w) ⟨_, intoDecimal_zero, fun _ => rfl⟩
  · cases found
    exact pureCell_written ss (readInteger_zero w)
  · cases found

theorem readFloat_self (p : Precision) (x : Binary p) : readFloat p (.float p x) = .ok x := by
  cases p <;> rfl

theorem floatCell_blank (p : Precision) (ss : Streams) :
    GivesBlank (floatCell p) (.float p (.zero p false)) ss := by
  intro k f found
  unfold floatCell at found
  split at found
  · cases found
  · cases found
  · cases found
    exact pureCell_blank ss (readFloat_self p _)
      ⟨_, rfl, fun _ => by rw [toSigned_zero]; rfl⟩
  · rename_i q
    cases found
    refine pureCell_blank ss (readFloat_self p _) ⟨_, rfl, fun _ => ?_⟩
    split
    · rename_i same
      cases same
      rfl
    · rw [convert_zero]
      rfl
  · cases found
    refine pureCell_blank ss (readFloat_self p _) ⟨.decimal .zero, ?_, fun _ => rfl⟩
    unfold floatIntoDecimal
    rw [ofBinary_zero]
  · cases found
    exact pureCell_written ss (readFloat_self p _)
  · cases found

theorem booleanCell_blank (ss : Streams) : GivesBlank booleanCell (.bool false) ss := by
  intro k f found
  unfold booleanCell at found
  split at found
  · cases found
    exact pureCell_blank ss rfl ⟨_, rfl, fun _ => rfl⟩
  · cases found
    exact pureCell_written ss rfl
  · cases found

theorem dateCell_blank (ss : Streams) : GivesBlank dateCell (.date .epoch) ss := by
  intro k f found
  unfold dateCell at found
  split at found
  · cases found
    exact pureCell_blank ss rfl ⟨_, rfl, fun _ => rfl⟩
  · cases found
    exact pureCell_written ss rfl
  · cases found

theorem timeCell_blank (ss : Streams) : GivesBlank timeCell (.time .midnight) ss := by
  intro k f found
  unfold timeCell at found
  split at found
  · cases found
    exact pureCell_blank ss rfl ⟨_, rfl, fun _ => rfl⟩
  · cases found
    exact pureCell_written ss rfl
  · cases found

theorem timestampCell_blank (ss : Streams) :
    GivesBlank timestampCell (.timestamp .epoch) ss := by
  intro k f found
  unfold timestampCell at found
  split at found
  · cases found
    exact pureCell_blank ss rfl ⟨_, rfl, fun _ => rfl⟩
  · cases found
    exact pureCell_blank ss rfl ⟨_, rfl, fun _ => rfl⟩
  · cases found
    exact pureCell_written ss rfl
  · cases found

/-! ## Blanks that become streams, and streams -/

theorem get_add (ss : Streams) (s : Stream) : (ss.add s).2.get (ss.add s).1 = s := by
  unfold Streams.get Streams.add
  rw [List.getElem?_concat_length]
  rfl

theorem shown_blob {ss : Streams} {id : StreamId} (blank : ss.get id = .empty) :
    (Value.blob id).shown ss = Kind.blob.blank := by
  show Content.blob (ss.get id).readAll.1 = Kind.blob.blank
  rw [blank]
  rfl

theorem shown_clob {ss : Streams} {id : StreamId} (blank : ss.get id = .empty) :
    (Value.clob id).shown ss = Kind.clob.blank := by
  show Content.clob (ss.get id).readText.1 = Kind.clob.blank
  rw [blank]
  rfl

theorem charCell_blank (ss : Streams) : GivesBlank charCell (.chars []) ss := by
  intro k f found
  unfold charCell at found
  split at found
  · cases found
    exact pureCell_written ss rfl
  · cases found
    exact pureCell_blank ss rfl ⟨_, rfl, fun _ => rfl⟩
  · cases found

theorem textCell_blank (ss : Streams) : GivesBlank textCell (.text "") ss := by
  intro k f found
  unfold textCell at found
  split at found
  · cases found
    exact pureCell_written ss rfl
  · cases found
    exact pureCell_blank ss rfl ⟨_, rfl, fun _ => rfl⟩
  · cases found
    exact ⟨_, _, rfl, fun _ => shown_clob (get_add ss .empty)⟩
  · cases found

theorem binaryCell_blank (ss : Streams) : GivesBlank binaryCell (.bytes []) ss := by
  intro k f found
  unfold binaryCell at found
  split at found
  · cases found
    exact pureCell_blank ss rfl ⟨_, rfl, fun _ => rfl⟩
  · cases found
    exact pureCell_blank ss rfl ⟨_, rfl, fun _ => rfl⟩
  · cases found
    exact ⟨_, _, rfl, fun _ => shown_blob (get_add ss .empty)⟩
  · cases found

theorem readAll_blank {ε : Type} {ss : Streams} {id : StreamId} (blank : ss.get id = .empty)
    (f : String → ε) : StreamM.mapError f (StreamM.readAll id) ss = (.ok [], ss.set id .empty) := by
  unfold StreamM.mapError StreamM.readAll StreamM.onStream
  rw [blank]
  rfl

theorem readText_blank {ε : Type} {ss : Streams} {id : StreamId} (blank : ss.get id = .empty)
    (f : String → ε) :
    StreamM.mapError f (StreamM.readText id) ss = (.ok "", ss.set id .empty) := by
  unfold StreamM.mapError StreamM.readText StreamM.onStream
  rw [blank]
  rfl

theorem blobCell_blank {ss : Streams} {id : StreamId} (blank : ss.get id = .empty) :
    GivesBlank blobCell (.blob id) ss := by
  intro k f found
  unfold blobCell at found
  split at found
  · cases found
    exact ⟨_, _, rfl, fun _ => shown_blob blank⟩
  · cases found
    refine ⟨.bytes [], ss.set id .empty, ?_, fun _ => rfl⟩
    dsimp only [readBlob]
    rw [pure_bind, bind_run, readAll_blank blank]
    rfl
  · cases found

theorem clobCell_blank {ss : Streams} {id : StreamId} (blank : ss.get id = .empty) :
    GivesBlank clobCell (.clob id) ss := by
  intro k f found
  unfold clobCell at found
  split at found
  · cases found
    exact ⟨_, _, rfl, fun _ => shown_clob blank⟩
  · cases found
    refine ⟨.text "", ss.set id .empty, ?_, fun plain => absurd rfl plain⟩
    dsimp only [readClob]
    rw [pure_bind, bind_run, readText_blank blank]
    rfl
  · cases found

/-! ## All column types -/

/-- The value that stands for a missing one. It is never missing itself, shows the blank of the
kind its column type has by default, and every conversion of the type takes it. -/
structure IsZero (c : ColumnType) (zero : Value) (ss : Streams) : Prop where
  present : zero.isNull = false
  shows : ∃ k, c.defaultTarget = some (.host k) ∧ zero.shown ss = k.blank
  converts : GivesBlank (cell c) zero ss

/-- What the registry makes in place of a missing value. -/
theorem zero_run {c : ColumnType} {m : StreamM ConversionError Value} (found : zero c = some m)
    (named : c ≠ .null) (ss : Streams) : ∃ v ss', m ss = (.ok v, ss') ∧ IsZero c v ss' := by
  cases c with
  | null => exact absurd rfl named
  | other => cases found
  | decimal | numeric =>
    cases found
    exact ⟨_, ss, rfl, rfl, ⟨_, rfl, rfl⟩, decimalCell_blank ss⟩
  | bigInt | integer | smallInt | tinyInt =>
    cases found
    exact ⟨_, ss, rfl, rfl, ⟨_, rfl, rfl⟩, integerCell_blank _ ss⟩
  | double | float | real =>
    cases found
    exact ⟨_, ss, rfl, rfl, ⟨_, rfl, rfl⟩, floatCell_blank _ ss⟩
  | boolean | bit =>
    cases found
    exact ⟨_, ss, rfl, rfl, ⟨_, rfl, rfl⟩, booleanCell_blank ss⟩
  | date =>
    cases found
    exact ⟨_, ss, rfl, rfl, ⟨_, rfl, rfl⟩, dateCell_blank ss⟩
  | time | timeWithTimezone =>
    cases found
    exact ⟨_, ss, rfl, rfl, ⟨_, rfl, rfl⟩, timeCell_blank ss⟩
  | timestamp | timestampWithTimezone =>
    cases found
    exact ⟨_, ss, rfl, rfl, ⟨_, rfl, rfl⟩, timestampCell_blank ss⟩
  | varChar | longVarChar | nVarChar | longNVarChar | nChar =>
    cases found
    exact ⟨_, ss, rfl, rfl, ⟨_, rfl, rfl⟩, textCell_blank ss⟩
  | char =>
    cases found
    exact ⟨_, ss, rfl, rfl, ⟨_, rfl, rfl⟩, charCell_blank ss⟩
  | binary | varBinary | longVarBinary =>
    cases found
    exact ⟨_, ss, rfl, rfl, ⟨_, rfl, rfl⟩, binaryCell_blank ss⟩
  | blob =>
    cases found
    have blank := get_add ss .empty
    exact ⟨_, _, rfl, rfl, ⟨_, rfl, shown_blob blank⟩, blobCell_blank blank⟩
  | clob | nClob =>
    cases found
    have blank := get_add ss .empty
    exact ⟨_, _, rfl, rfl, ⟨_, rfl, shown_clob blank⟩, clobCell_blank blank⟩

end Standard

namespace Registry

/-- The types with a number only have no conversions. -/
theorem numbered_of_standard {c : ColumnType} {t : Target}
    (compatible : standard.isCompatible c t = true) : c.isOther = false := by
  cases c with
  | other => cases t <;> cases compatible
  | _ => rfl

theorem standard_void {c : ColumnType} (numbered : c.isOther = false) :
    standard.isCompatible c .void = true := by
  cases c with
  | other => cases numbered
  | _ => rfl

theorem coerce_null_void (r : Registry) (c : ColumnType) (ss : Streams) :
    r.coerce .null c .void ss = r.apply .null c .void ss := by
  unfold coerce
  rw [if_pos (show Value.null.isNull = true from rfl), bind_run]
  rcases r.apply .null c .void ss with ⟨_ | zero, ss'⟩
  · rfl
  · exact congrFun (if_pos (Or.inl rfl)) ss'

/-- A missing value is converted in two steps, of which the first makes the value that stands for
it. -/
theorem coerce_null_run {r : Registry} {c : ColumnType} {zero : Value} {ss ss₁ : Streams}
    (made : r.coerce .null c .void ss = (.ok zero, ss₁)) (present : zero.isNull = false)
    (k : Kind) : r.coerce .null c (.host k) ss = r.apply zero c (.host k) ss₁ := by
  rw [coerce_null_void] at made
  unfold coerce
  rw [if_pos (show Value.null.isNull = true from rfl), bind_run, made]
  exact congrFun (if_neg (by simp [present])) ss₁

theorem apply_eq_ok {r : Registry} {v zero : Value} {c : ColumnType} {t : Target} {f : Converter}
    {ss ss' : Streams} (found : r.converter c t = some f) (ran : f zero ss = (.ok v, ss')) :
    r.apply zero c t ss = (.ok v, ss') := by
  unfold apply
  rw [found]
  dsimp only [StreamM.mapError]
  rw [ran]

/-- Missing values through the standard registry. The value that stands for one is made, and
every conversion that the column type has takes it. -/
theorem standard_coerce_null {c : ColumnType} (named : c ≠ .null) (numbered : c.isOther = false)
    (ss : Streams) :
    ∃ zero ss₁, standard.coerce .null c .void ss = (.ok zero, ss₁) ∧
      Standard.IsZero c zero ss₁ ∧
      ∀ k f, standard.converter c (.host k) = some f →
        ∃ v ss₂, f zero ss₁ = (.ok v, ss₂) ∧ standard.coerce .null c (.host k) ss = (.ok v, ss₂) ∧
          v.kind = some k ∧ (k ≠ .text → v.shown ss₂ = k.blank) := by
  obtain ⟨m, found⟩ : ∃ m, Standard.zero c = some m := by
    cases c with
    | other => cases numbered
    | _ => exact ⟨_, rfl⟩
  obtain ⟨zero, ss₁, ran, isZero⟩ := Standard.zero_run found named ss
  have made : standard.coerce .null c .void ss = (.ok zero, ss₁) := by
    rw [coerce_null_void]
    exact apply_eq_ok (congrArg (Option.map fun z _ => z) found) ran
  refine ⟨zero, ss₁, made, isZero, ?_⟩
  intro k f converter
  obtain ⟨v, ss₂, converted, shows⟩ := isZero.converts k f converter
  refine ⟨v, ss₂, converted, ?_, Standard.cell_gives c k f converter zero ss₁ v ss₂ converted,
    shows⟩
  rw [coerce_null_run made isZero.present]
  exact apply_eq_ok converter converted

end Registry

end SqlAccess
