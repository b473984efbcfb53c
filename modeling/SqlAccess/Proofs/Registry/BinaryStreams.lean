import SqlAccess.Proofs.Stream.Deliveries
import SqlAccess.Registry.Standard

/-!
# Standard conversions and a binary stream

One conversion of the standard registry reads binary streams: that of BLOB columns to bytes, and it
reads them to the end. All the others hand a stream on, make a new one, or do not get as far as a
stream. So the bytes that leave a stream in a conversion are those that its caller is given.

* `Value.handed`: the bytes of a stream that a caller is given, if he asks for bytes.
* `cell_hands`: the entries of the table, one lemma for each family of column types.
* `standard_coerce_hands`: a coercion.
-/

namespace SqlAccess

/-- What a caller is given of a stream who asks for a value, and is given another one for it: the
bytes, if it holds the stream and he asks for bytes. -/
def Value.handed (id : StreamId) (v : Value) (t : Target) (w : Value) : List (List UInt8) :=
  match v, t, w with
  | .blob s, .host .bytes, .bytes bs => if s = id then [bs] else []
  | _, _, _ => []

namespace Value

variable {id : StreamId} {v w : Value} {t : Target}

theorem handed_of_ne (other : v ≠ .blob id) : v.handed id t w = [] := by
  unfold handed
  split
  · rename_i s bs
    exact if_neg fun same => other (congrArg Value.blob same)
  · rfl

theorem handed_of_target_ne (other : t ≠ .host .bytes) : v.handed id t w = [] := by
  unfold handed
  split
  · exact absurd rfl other
  · rfl

theorem handed_of_kind_ne (other : w.kind ≠ some .bytes) : v.handed id t w = [] := by
  unfold handed
  split
  · exact absurd rfl other
  · rfl

theorem handed_blob (id : StreamId) (bs : List UInt8) :
    (Value.blob id).handed id (.host .bytes) (.bytes bs) = [bs] := if_pos rfl

end Value

open StreamM (Hands Spares)

namespace Standard

variable {id : StreamId} {v : Value} {ss ss' : Streams} {s : StreamId}

/-! ## Readers -/

/-- The conversions of a family of column types hand out what they take. The stream is never met as
a stream of text. -/
def HandsBytes (id : StreamId) (cells : Kind → Option Converter) : Prop :=
  ∀ k f, cells k = some f → ∀ v, v ≠ .clob id → Hands id (f v) (v.handed id (.host k))

/-- A conversion without streams refuses every value that holds one. -/
theorem pureCell_hands {α : Type} {read : Value → Except ConversionError α}
    {convert : α → Except ConversionError Value} (refuses : ∀ s, ∃ e, read (.blob s) = .error e)
    (v : Value) (t : Target) : Hands id (pureCell read convert v) (v.handed id t) := by
  refine .ofExcept fun w converted => Value.handed_of_ne ?_
  rintro rfl
  obtain ⟨e, refused⟩ := refuses id
  rw [refused] at converted
  cases converted

theorem readBlob_spares (v : Value) : Spares id (readBlob v) := by
  unfold readBlob
  split
  · exact .pure rfl
  · exact StreamM.newStream_spares _
  · exact .ofExcept fun _ _ => rfl

theorem readClob_spares (v : Value) : Spares id (readClob v) := by
  unfold readClob
  split
  · exact .pure rfl
  · exact StreamM.newStream_spares _
  · exact .ofExcept fun _ _ => rfl

/-- The stream that is read is the one of the value, or a new one. -/
theorem readBlob_ne (holds : ss.Holds id) (other : v ≠ .blob id)
    (read : readBlob v ss = (.ok s, ss')) : s ≠ id := by
  unfold readBlob at read
  split at read
  · cases read
    exact fun same => other (congrArg Value.blob same)
  · exact StreamM.newStream_ne holds read
  · obtain ⟨given, -⟩ := StreamM.ofExcept_run_eq_ok_iff.mp read
    cases given

theorem readClob_ne (holds : ss.Holds id) (other : v ≠ .clob id)
    (read : readClob v ss = (.ok s, ss')) : s ≠ id := by
  unfold readClob at read
  split at read
  · cases read
    exact fun same => other (congrArg Value.clob same)
  · exact StreamM.newStream_ne holds read
  · obtain ⟨given, -⟩ := StreamM.ofExcept_run_eq_ok_iff.mp read
    cases given

/-! ## The table -/

theorem decimalCell_hands : HandsBytes id decimalCell := by
  intro k f found v _
  unfold decimalCell at found
  split at found
  all_goals cases found
  all_goals exact pureCell_hands (fun s => ⟨_, rfl⟩) v _

theorem integerCell_hands (widest : Width) : HandsBytes id (integerCell widest) := by
  intro k f found v _
  unfold integerCell at found
  split at found
  · split at found
    · cases found
    · cases found
      exact pureCell_hands (fun s => ⟨_, rfl⟩) v _
  all_goals cases found
  all_goals exact pureCell_hands (fun s => ⟨_, rfl⟩) v _

theorem floatCell_hands (p : Precision) : HandsBytes id (floatCell p) := by
  have refuses (s : StreamId) : ∃ e, readFloat p (.blob s) = .error e := by
    cases p with
    | single => exact ⟨_, rfl⟩
    | double => exact ⟨_, rfl⟩
  intro k f found v _
  unfold floatCell at found
  split at found
  all_goals cases found
  all_goals exact pureCell_hands refuses v _

theorem booleanCell_hands : HandsBytes id booleanCell := by
  intro k f found v _
  unfold booleanCell at found
  split at found
  all_goals cases found
  all_goals exact pureCell_hands (fun s => ⟨_, rfl⟩) v _

theorem dateCell_hands : HandsBytes id dateCell := by
  intro k f found v _
  unfold dateCell at found
  split at found
  all_goals cases found
  all_goals exact pureCell_hands (fun s => ⟨_, rfl⟩) v _

theorem timeCell_hands : HandsBytes id timeCell := by
  intro k f found v _
  unfold timeCell at found
  split at found
  all_goals cases found
  all_goals exact pureCell_hands (fun s => ⟨_, rfl⟩) v _

theorem timestampCell_hands : HandsBytes id timestampCell := by
  intro k f found v _
  unfold timestampCell at found
  split at found
  all_goals cases found
  all_goals exact pureCell_hands (fun s => ⟨_, rfl⟩) v _

theorem charCell_hands : HandsBytes id charCell := by
  intro k f found v _
  unfold charCell at found
  split at found
  all_goals cases found
  all_goals exact pureCell_hands (fun s => ⟨_, rfl⟩) v _

theorem textCell_hands : HandsBytes id textCell := by
  intro k f found v _
  unfold textCell at found
  split at found
  · cases found
    exact pureCell_hands (fun s => ⟨_, rfl⟩) v _
  · cases found
    exact pureCell_hands (fun s => ⟨_, rfl⟩) v _
  · cases found
    exact (readClob_spares v).bind fun _ _ => .pure (Value.handed_of_target_ne nofun)
  · cases found

theorem binaryCell_hands : HandsBytes id binaryCell := by
  intro k f found v _
  unfold binaryCell at found
  split at found
  · cases found
    exact pureCell_hands (fun s => ⟨_, rfl⟩) v _
  · cases found
    exact pureCell_hands (fun s => ⟨_, rfl⟩) v _
  · cases found
    exact (readBlob_spares v).bind fun _ _ => .pure (Value.handed_of_target_ne nofun)
  · cases found

/-- The one conversion that reads a binary stream. -/
theorem blobCell_hands : HandsBytes id blobCell := by
  intro k f found v _
  unfold blobCell at found
  split at found
  · cases found
    exact (readBlob_spares v).bind fun _ _ => .pure (Value.handed_of_target_ne nofun)
  · cases found
    by_cases here : v = .blob id
    · subst here
      exact ((StreamM.readAll_hands).mapError _).map fun _ => Value.handed_blob id _
    · refine (readBlob_spares v).bind fun holds read => ?_
      exact ((StreamM.onStream_spares (readBlob_ne holds here read) _).mapError _).bind
        fun _ _ => .pure (Value.handed_of_ne here)
  · cases found

theorem clobCell_hands : HandsBytes id clobCell := by
  intro k f found v binary
  unfold clobCell at found
  split at found
  · cases found
    exact (readClob_spares v).bind fun _ _ => .pure (Value.handed_of_target_ne nofun)
  · cases found
    refine (readClob_spares v).bind fun holds read => ?_
    exact ((StreamM.onStream_spares (readClob_ne holds binary read) _).mapError _).bind
      fun _ _ => .pure (Value.handed_of_target_ne nofun)
  · cases found

/-- Every entry of the table hands out what it takes. -/
theorem cell_hands (c : ColumnType) : HandsBytes id (cell c) := by
  cases c with
  | decimal | numeric => exact decimalCell_hands
  | bigInt => exact integerCell_hands .w64
  | integer => exact integerCell_hands .w32
  | smallInt => exact integerCell_hands .w16
  | tinyInt => exact integerCell_hands .w8
  | double | float => exact floatCell_hands .double
  | real => exact floatCell_hands .single
  | boolean | bit => exact booleanCell_hands
  | date => exact dateCell_hands
  | time | timeWithTimezone => exact timeCell_hands
  | timestamp | timestampWithTimezone => exact timestampCell_hands
  | varChar | longVarChar | nVarChar | longNVarChar | nChar => exact textCell_hands
  | char => exact charCell_hands
  | binary | varBinary | longVarBinary => exact binaryCell_hands
  | blob => exact blobCell_hands
  | clob | nClob => exact clobCell_hands
  | null | other => exact nofun

/-! ## Missing values -/

theorem zero_spares {c : ColumnType} {m : StreamM ConversionError Value} (found : zero c = some m) :
    Spares id m := by
  cases c with
  | other => cases found
  | blob | clob | nClob =>
    cases found
    exact (StreamM.newStream_spares _).bind fun _ _ => .pure rfl
  | _ =>
    cases found
    exact .pure rfl

/-- What stands for a missing value does not hold the stream. -/
theorem zero_ne {c : ColumnType} {m : StreamM ConversionError Value} (found : zero c = some m)
    {zero : Value} (holds : ss.Holds id) (made : m ss = (.ok zero, ss')) :
    zero ≠ .blob id ∧ zero ≠ .clob id := by
  cases c with
  | other => cases found
  | blob | clob | nClob =>
    cases found
    obtain ⟨s, ss₁, new, same⟩ := bind_run_eq_ok_iff.mp made
    have ne := StreamM.newStream_ne holds new
    cases same
    constructor
    · rintro ⟨⟩
      all_goals exact ne rfl
    · rintro ⟨⟩
      all_goals exact ne rfl
  | _ =>
    cases found
    cases made
    exact ⟨nofun, nofun⟩

end Standard

/-! ## Coercions -/

namespace Registry

variable {id : StreamId}

theorem standard_apply_hands {v : Value} (binary : v ≠ .clob id) (c : ColumnType) (k : Kind) :
    Hands id (standard.apply v c (.host k)) (v.handed id (.host k)) := by
  unfold apply
  split
  · exact .throw
  · exact (Standard.cell_hands c k _ ‹_› v binary).mapError _

theorem standard_apply_void_spares (v : Value) (c : ColumnType) :
    Spares id (standard.apply v c .void) := by
  unfold apply
  split
  · exact .throw
  · rename_i f found
    obtain ⟨m, made, rfl⟩ := Option.map_eq_some_iff.1 found
    exact (Standard.zero_spares made).mapError _

theorem standard_apply_void_ne {c : ColumnType} {ss ss' : Streams} {zero : Value}
    (holds : ss.Holds id) (made : standard.apply .null c .void ss = (.ok zero, ss')) :
    zero ≠ .blob id ∧ zero ≠ .clob id := by
  unfold apply at made
  cases found : standard.converter c .void with
  | none =>
    rw [found] at made
    cases made
  | some f =>
    rw [found] at made
    obtain ⟨m, table, rfl⟩ := Option.map_eq_some_iff.1 found
    exact Standard.zero_ne table holds (StreamM.mapError_run_eq_ok_iff.mp made)

/-- A coercion hands out what it takes of a binary stream. -/
theorem standard_coerce_hands {v : Value} (binary : v ≠ .clob id) (c : ColumnType) (t : Target) :
    Hands id (standard.coerce v c t) (v.handed id t) := by
  unfold coerce
  split
  · rename_i missing
    have nothing (w : Value) : v.handed id t w = [] := by
      rw [Value.isNull_eq_true_iff.mp missing]
      exact Value.handed_of_ne nofun
    refine (standard_apply_void_spares .null c).bind fun {ss zero ss'} holds made => ?_
    split
    · exact .pure (nothing zero)
    · rename_i present
      cases t with
      | void => exact absurd (.inl rfl) present
      | host k =>
        obtain ⟨other, binary⟩ := standard_apply_void_ne holds made
        exact (standard_apply_hands binary c k).congr fun w =>
          (Value.handed_of_ne other).trans (nothing w).symm
  · cases t with
    | void =>
      exact (standard_apply_void_spares v c).congr fun w =>
        (Value.handed_of_target_ne (t := .void) nofun).symm
    | host k => exact standard_apply_hands binary c k

/-- Nothing of a stream is given with another target than bytes, or with one that the column type
has no conversion to. -/
theorem handed_of_coerce {r : Registry} {v w : Value} {c : ColumnType} {t : Target} {ss : Streams}
    (passes : t ≠ .host .bytes ∨ r.isCompatible c t = false)
    (given : (r.coerce v c t ss).1 = .ok w) : v.handed id t w = [] := by
  rcases passes with other | unregistered
  · exact Value.handed_of_target_ne other
  · refine Value.handed_of_ne ?_
    rintro rfl
    rw [isCompatible, Option.isSome_eq_false_iff, Option.isNone_iff_eq_none] at unregistered
    rw [coerce_of_not_isNull rfl, apply, unregistered] at given
    cases given

end Registry

end SqlAccess
