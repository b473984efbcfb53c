import SqlAccess.Proofs.Stream.Postconditions
import SqlAccess.Registry.Standard

/-!
# Standard conversions give the kind they are asked for

Every conversion of the standard registry gives a value of the kind it is registered for, or
fails. Missing values are no exception: the value that stands for one goes through the same
conversions.

* `cell_gives`: the entries of the table, one lemma for each family of column types.
* `standard_coerce_ensures`: a coercion to a kind gives that kind.
* `coerce_raises`: a coercion, through any registry, fails for want of a conversion or because a
  conversion fails.
-/

namespace SqlAccess

/-! ## The table -/

namespace Standard

open StreamM (Ensures)

/-- The conversions of a family of column types give what they are asked for. -/
def GivesKind (cells : Kind → Option Converter) : Prop :=
  ∀ k f, cells k = some f → ∀ v, Ensures (f v) fun r => r.kind = some k

theorem pureCell_ensures {α : Type} {read : Value → Except ConversionError α}
    {convert : α → Except ConversionError Value} {k : Kind}
    (gives : ∀ a r, convert a = .ok r → r.kind = some k) (v : Value) :
    Ensures (pureCell read convert v) fun r => r.kind = some k := by
  refine .ofExcept fun r converted => ?_
  cases taken : read v with
  | error e =>
    rw [taken] at converted
    cases converted
  | ok a =>
    rw [taken] at converted
    exact gives a r converted

/-- A conversion that cannot fail. -/
theorem pureCell_ensures_ok {α : Type} {read : Value → Except ConversionError α}
    {value : α → Value} {k : Kind} (gives : ∀ a, (value a).kind = some k) (v : Value) :
    Ensures (pureCell read (fun a => .ok (value a)) v) fun r => r.kind = some k := by
  refine pureCell_ensures (fun a r converted => ?_) v
  cases converted
  exact gives a

theorem kind_of_intoInteger {w : Width} {n : Int} {r : Value} (h : intoInteger w n = .ok r) :
    r.kind = some (.int w) := by
  unfold intoInteger at h
  split at h
  · cases h
    rfl
  · cases h

theorem kind_of_intoDecimal {n : Int} {r : Value} (h : intoDecimal n = .ok r) :
    r.kind = some .decimal := by
  unfold intoDecimal at h
  split at h
  · cases h
    rfl
  · cases h

theorem kind_of_floatIntoDecimal {p : Precision} {x : Binary p} {r : Value}
    (h : floatIntoDecimal x = .ok r) : r.kind = some .decimal := by
  unfold floatIntoDecimal at h
  split at h
  · cases h
    rfl
  · cases h

theorem kind_of_bytesIntoInteger {bs : List UInt8} {r : Value} (h : bytesIntoInteger bs = .ok r) :
    r.kind = some (.int .w128) := by
  unfold bytesIntoInteger at h
  split at h
  · cases h
    rfl
  · cases h

theorem decimalCell_gives : GivesKind decimalCell := by
  intro k f found v
  unfold decimalCell at found
  split at found
  · cases found
  · cases found
    exact pureCell_ensures (fun _ _ => kind_of_intoInteger) v
  all_goals cases found
  all_goals exact pureCell_ensures_ok (fun _ => rfl) v

theorem integerCell_gives (widest : Width) : GivesKind (integerCell widest) := by
  intro k f found v
  unfold integerCell at found
  split at found
  · split at found
    · cases found
    · cases found
      exact pureCell_ensures (fun _ _ => kind_of_intoInteger) v
  · cases found
    exact pureCell_ensures_ok (fun _ => rfl) v
  · cases found
    exact pureCell_ensures (fun _ _ => kind_of_intoDecimal) v
  · cases found
    exact pureCell_ensures_ok (fun _ => rfl) v
  · cases found

theorem floatCell_gives (p : Precision) : GivesKind (floatCell p) := by
  intro k f found v
  unfold floatCell at found
  split at found
  · cases found
  · cases found
  · cases found
    exact pureCell_ensures_ok (fun _ => rfl) v
  · cases found
    exact pureCell_ensures_ok (fun _ => rfl) v
  · cases found
    exact pureCell_ensures (fun _ _ => kind_of_floatIntoDecimal) v
  · cases found
    exact pureCell_ensures_ok (fun _ => rfl) v
  · cases found

theorem booleanCell_gives : GivesKind booleanCell := by
  intro k f found v
  unfold booleanCell at found
  split at found
  all_goals cases found
  all_goals exact pureCell_ensures_ok (fun _ => rfl) v

theorem dateCell_gives : GivesKind dateCell := by
  intro k f found v
  unfold dateCell at found
  split at found
  all_goals cases found
  all_goals exact pureCell_ensures_ok (fun _ => rfl) v

theorem timeCell_gives : GivesKind timeCell := by
  intro k f found v
  unfold timeCell at found
  split at found
  all_goals cases found
  all_goals exact pureCell_ensures_ok (fun _ => rfl) v

theorem timestampCell_gives : GivesKind timestampCell := by
  intro k f found v
  unfold timestampCell at found
  split at found
  all_goals cases found
  all_goals exact pureCell_ensures_ok (fun _ => rfl) v

theorem textCell_gives : GivesKind textCell := by
  intro k f found v
  unfold textCell at found
  split at found
  · cases found
    exact pureCell_ensures_ok (fun _ => rfl) v
  · cases found
    exact pureCell_ensures_ok (fun _ => rfl) v
  · cases found
    exact (Ensures.trivial _).bind fun _ _ => .pure rfl
  · cases found

theorem charCell_gives : GivesKind charCell := by
  intro k f found v
  unfold charCell at found
  split at found
  all_goals cases found
  all_goals exact pureCell_ensures_ok (fun _ => rfl) v

theorem binaryCell_gives : GivesKind binaryCell := by
  intro k f found v
  unfold binaryCell at found
  split at found
  · cases found
    exact pureCell_ensures_ok (fun _ => rfl) v
  · cases found
    exact pureCell_ensures (fun _ _ => kind_of_bytesIntoInteger) v
  · cases found
    exact (Ensures.trivial _).bind fun _ _ => .pure rfl
  · cases found

theorem blobCell_gives : GivesKind blobCell := by
  intro k f found v
  unfold blobCell at found
  split at found
  · cases found
    exact (Ensures.trivial _).bind fun _ _ => .pure rfl
  · cases found
    exact (Ensures.trivial _).bind fun _ _ => (Ensures.trivial _).bind fun _ _ => .pure rfl
  · cases found

theorem clobCell_gives : GivesKind clobCell := by
  intro k f found v
  unfold clobCell at found
  split at found
  · cases found
    exact (Ensures.trivial _).bind fun _ _ => .pure rfl
  · cases found
    exact (Ensures.trivial _).bind fun _ _ => (Ensures.trivial _).bind fun _ _ => .pure rfl
  · cases found

/-- Every entry of the table gives the kind it is registered for. -/
theorem cell_gives (c : ColumnType) : GivesKind (cell c) := by
  cases c with
  | decimal | numeric => exact decimalCell_gives
  | bigInt => exact integerCell_gives .w64
  | integer => exact integerCell_gives .w32
  | smallInt => exact integerCell_gives .w16
  | tinyInt => exact integerCell_gives .w8
  | double | float => exact floatCell_gives .double
  | real => exact floatCell_gives .single
  | boolean | bit => exact booleanCell_gives
  | date => exact dateCell_gives
  | time | timeWithTimezone => exact timeCell_gives
  | timestamp | timestampWithTimezone => exact timestampCell_gives
  | varChar | longVarChar | nVarChar | longNVarChar | nChar => exact textCell_gives
  | char => exact charCell_gives
  | binary | varBinary | longVarBinary => exact binaryCell_gives
  | blob => exact blobCell_gives
  | clob | nClob => exact clobCell_gives
  | null | other => exact nofun

/-- What stands for a missing value is not missing itself. -/
theorem zero_ensures {c : ColumnType} (named : c ≠ .null) {m : StreamM ConversionError Value}
    (found : zero c = some m) : Ensures m fun r => r.isNull = false := by
  cases c with
  | null => exact absurd rfl named
  | other => cases found
  | blob | clob | nClob =>
    cases found
    exact (Ensures.trivial _).bind fun _ _ => .pure rfl
  | _ =>
    cases found
    exact .pure rfl

end Standard

/-! ## Coercions -/

namespace Registry

open StreamM (Ensures)

theorem apply_ensures {r : Registry} {v : Value} {c : ColumnType} {t : Target} {P : Value → Prop}
    (cells : ∀ f, r.converter c t = some f → Ensures (f v) P) : Ensures (r.apply v c t) P := by
  unfold apply
  split
  · exact .throw
  · exact (cells _ ‹_›).mapError _

theorem standard_apply_ensures (v : Value) (c : ColumnType) (k : Kind) :
    Ensures (standard.apply v c (.host k)) fun r => r.kind = some k :=
  apply_ensures fun f found => Standard.cell_gives c k f found v

/-- A coercion to a kind gives that kind. A missing value is replaced by the value that stands
for it, and what comes of that is converted like any other value. -/
theorem standard_coerce_ensures {c : ColumnType} (named : c ≠ .null) (v : Value) (k : Kind) :
    Ensures (standard.coerce v c (.host k)) fun r => r.kind = some k := by
  unfold coerce
  split
  · have present : Ensures (standard.apply .null c .void) fun r => r.isNull = false := by
      refine apply_ensures fun f found => ?_
      obtain ⟨m, made, rfl⟩ := Option.map_eq_some_iff.1 found
      exact Standard.zero_ensures named made
    refine present.bind fun zero notNull => ?_
    rw [if_neg (by simp [notNull])]
    exact standard_apply_ensures zero c k
  · exact standard_apply_ensures v c k

end Registry

/-- A coercion fails because the registry has no conversion or because a conversion fails. -/
def CoercionError.ofRegistry (e : CoercionError) : Prop :=
  e.reason = .unregistered ∨ ∃ cause, e.reason = .failed cause

namespace Registry

open StreamM (Ensures Raises)

theorem apply_raises (r : Registry) (v : Value) (c : ColumnType) (t : Target) :
    Raises (r.apply v c t) CoercionError.ofRegistry := by
  unfold apply
  split
  · exact .throw (Or.inl rfl)
  · exact .mapError fun ss e ss' _ => Or.inr ⟨e, rfl⟩

theorem coerce_raises (r : Registry) (v : Value) (c : ColumnType) (t : Target) :
    Raises (r.coerce v c t) CoercionError.ofRegistry := by
  unfold coerce
  split
  · refine (r.apply_raises .null c .void).bind (Ensures.trivial _) fun zero _ => ?_
    split
    · exact .pure
    · exact r.apply_raises zero c t
  · exact r.apply_raises v c t

end Registry

end SqlAccess
