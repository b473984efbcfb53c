import SqlAccess.Proofs.Cursor.Reads
import SqlAccess.Proofs.Stream.Postconditions
import SqlAccess.Registry.Standard

/-!
# Records and their columns

A record is read in three rounds over its columns: first all of them are checked for a conversion,
then all are converted, and then the values are taken apart. A caller that reads the columns one
after the other goes through all three for a column before it comes to the next. Since a conversion
may read streams, and columns may share one, the two orders are compared on the streams, too.

* `getColumns`: the columns read one after the other.
* `getColumns_eq_ok_iff`: they can be read if all are converted and all values can be taken.
* `incompatible_eq_none_iff`: what the first round asks for.
* `record_agrees_with_columns`: both orders give the same record; and a record that fails the checks
  fails before any cell is looked at.
-/

namespace SqlAccess

/-! ## Taking values apart -/

theorem FieldReader.next_cons (fields : List Field) (v : Value) (values : List Value)
    (t : HostType) :
    (⟨fields, v :: values⟩ : FieldReader).next t =
      (if t.accepts v then .ok v
        else .error (.misread (FieldReader.fieldName ⟨fields, v :: values⟩) v.kind t),
        ⟨fields.tail, values⟩) := by
  unfold next HostType.read?
  dsimp only
  cases t.accepts v with
  | false => rfl
  | true => rfl

theorem FieldReader.readAll_cons_eq_ok_iff {fields : List Field} {v : Value}
    {values vs : List Value} {t : HostType} {ts : List HostType} :
    (⟨fields, v :: values⟩ : FieldReader).readAll (t :: ts) = .ok vs ↔
      ∃ others, t.accepts v = true ∧ (⟨fields.tail, values⟩ : FieldReader).readAll ts = .ok others ∧
        vs = v :: others := by
  rw [readAll, next_cons]
  dsimp only
  cases t.accepts v with
  | false => simp [bind, Except.bind]
  | true =>
    rw [if_pos rfl, bind_eq_ok_iff]
    simp only [bind_eq_ok_iff, pure, Except.pure, Except.ok.injEq]
    grind

namespace Cursor

variable {S : Type} {c : Cursor S} {i : Nat} {ss ss' : Streams}

/-! ## One column -/

theorem get_eq_ok_iff {ref : ColumnRef} (resolved : c.resolve ref = .ok i) {t : HostType}
    {v : Value} :
    c.get ref t ss = (.ok v, ss') ↔
      c.coerceColumn i (.host t.kind) ss = (.ok v, ss') ∧ t.accepts v = true := by
  rw [get_run resolved]
  rcases c.coerceColumn i (.host t.kind) ss with ⟨e | w, ss₁⟩
  · refine iff_of_false (fun given => ?_) fun given => ?_
    · cases given
    · cases given.1
  · dsimp only
    constructor
    · intro given
      split at given
      · rename_i accepted
        cases given
        exact ⟨rfl, accepted⟩
      · cases given
    · intro ⟨same, accepted⟩
      cases same
      rw [if_pos accepted]

theorem isCompatible_of_coerceColumn {t : Target} {v : Value}
    (converted : c.coerceColumn i t ss = (.ok v, ss')) :
    c.registry.isCompatible (c.columnType i) t = true := by
  cases compatible : c.registry.isCompatible (c.columnType i) t with
  | true => rfl
  | false =>
    rw [coerceColumn_unsupported compatible] at converted
    cases converted

theorem checkRow_eq (onRow : c.state = .onRow) : c.checkRow = .ok () := if_pos onRow

theorem resolve_index (onRow : c.state = .onRow) (within : i < c.columns.length) :
    c.resolve (.index i) = .ok i := by
  unfold resolve
  rw [checkRow_eq onRow]
  exact if_pos within

/-! ## One column after the other -/

/-- The columns from `i` on, one after the other, each as a host type. -/
def getColumns (c : Cursor S) : Nat → List HostType → StreamM Error (List Value)
  | _, [] => pure []
  | i, t :: ts => do
    let v ← c.get (.index i) t
    return v :: (← getColumns c (i + 1) ts)

theorem getColumns_cons_eq_ok_iff {t : HostType} {ts : List HostType} {vs : List Value} :
    c.getColumns i (t :: ts) ss = (.ok vs, ss') ↔
      ∃ v ss₁ others, c.get (.index i) t ss = (.ok v, ss₁) ∧
        c.getColumns (i + 1) ts ss₁ = (.ok others, ss') ∧ vs = v :: others := by
  rw [getColumns]
  simp only [bind_run_eq_ok_iff, pure_run_eq_ok_iff]
  grind

theorem coerceFields_cons_eq_ok_iff {field : Field} {fields : List Field} {ws : List Value} :
    c.coerceFields i (field :: fields) ss = (.ok ws, ss') ↔
      ∃ w ss₁ others, c.coerceColumn i field.target ss = (.ok w, ss₁) ∧
        c.coerceFields (i + 1) fields ss₁ = (.ok others, ss') ∧ ws = w :: others := by
  rw [coerceFields]
  simp only [bind_run_eq_ok_iff, pure_run_eq_ok_iff]
  grind

/-- The columns from `i` on can be read one after the other if all of them are converted, and all
values can be taken. -/
theorem getColumns_eq_ok_iff (onRow : c.state = .onRow) :
    ∀ {reads : List HostType} {fields : List Field} {i : Nat} {ss : Streams} {vs : List Value},
      fields.map Field.target = reads.map (fun t => .host t.kind) →
      i + fields.length = c.columns.length →
      (c.getColumns i reads ss = (.ok vs, ss') ↔
        c.incompatible i fields = none ∧ ∃ ws, c.coerceFields i fields ss = (.ok ws, ss') ∧
          (⟨fields, ws⟩ : FieldReader).readAll reads = .ok vs) := by
  intro reads
  induction reads with
  | nil =>
    intro fields i ss vs targets _
    cases List.map_eq_nil_iff.mp targets
    constructor
    · intro read
      cases show (Except.ok [], ss) = (.ok vs, ss') from read
      exact ⟨rfl, [], rfl, rfl⟩
    · rintro ⟨-, ws, converted, taken⟩
      cases show (Except.ok [], ss) = (.ok ws, ss') from converted
      cases taken
      rfl
  | cons t ts ih =>
    intro fields i ss vs targets counted
    cases fields with
    | nil => cases targets
    | cons field fields =>
      have target : field.target = .host t.kind := (List.cons.inj targets).1
      have countedOthers : i + 1 + fields.length = c.columns.length := by
        rw [← counted, List.length_cons]
        omega
      have others {ss₁ : Streams} {others : List Value} :
          c.getColumns (i + 1) ts ss₁ = (.ok others, ss') ↔ _ :=
        ih (List.cons.inj targets).2 countedOthers
      have resolved : c.resolve (.index i) = .ok i :=
        resolve_index onRow (by omega)
      rw [getColumns_cons_eq_ok_iff]
      constructor
      · intro ⟨v, ss₁, vs₁, first, following, same⟩
        obtain ⟨converted, accepted⟩ := (get_eq_ok_iff resolved).mp first
        obtain ⟨compatible, ws, convertedOthers, taken⟩ := others.mp following
        rw [← target] at converted
        refine ⟨?_, v :: ws, coerceFields_cons_eq_ok_iff.mpr ⟨v, ss₁, ws, converted,
          convertedOthers, rfl⟩, FieldReader.readAll_cons_eq_ok_iff.mpr
            ⟨vs₁, accepted, taken, same⟩⟩
        rw [incompatible, if_pos (isCompatible_of_coerceColumn converted)]
        exact compatible
      · intro ⟨compatible, ws, converted, taken⟩
        obtain ⟨w, ss₁, wsOthers, convertedFirst, convertedOthers, rfl⟩ :=
          coerceFields_cons_eq_ok_iff.mp converted
        obtain ⟨vs₁, accepted, takenOthers, same⟩ := FieldReader.readAll_cons_eq_ok_iff.mp taken
        rw [incompatible, if_pos (isCompatible_of_coerceColumn convertedFirst)] at compatible
        rw [target] at convertedFirst
        exact ⟨w, ss₁, vs₁, (get_eq_ok_iff resolved).mpr ⟨convertedFirst, accepted⟩,
          others.mpr ⟨compatible, wsOthers, convertedOthers, takenOthers⟩, same⟩

/-! ## The first round -/

/-- The check over all columns finds nothing if each column has a conversion to its field. -/
theorem incompatible_eq_none_iff {fields : List Field} :
    ∀ {i : Nat}, c.incompatible i fields = none ↔
      ∀ j field, fields[j]? = some field →
        c.registry.isCompatible (c.columnType (i + j)) field.target = true := by
  induction fields with
  | nil => simp [incompatible]
  | cons field fields ih =>
    intro i
    rw [incompatible]
    cases compatible : c.registry.isCompatible (c.columnType i) field.target with
    | false =>
      refine iff_of_false nofun fun all => ?_
      have first := all 0 field rfl
      rw [Nat.add_zero, compatible] at first
      cases first
    | true =>
      rw [if_pos rfl, ih]
      constructor
      · intro all j other found
        cases j with
        | zero =>
          cases found
          exact compatible
        | succ j =>
          have following := all j other found
          rwa [Nat.add_right_comm] at following
      · intro all j other found
        have following := all (j + 1) other found
        rwa [Nat.add_right_comm]

/-- The cursor with another row under it. -/
def atRow (c : Cursor S) (row : Option Row) : Cursor S :=
  { c with source := { c.source with current := row } }

theorem incompatible_atRow (row : Option Row) (fields : List Field) :
    ∀ i, (c.atRow row).incompatible i fields = c.incompatible i fields := by
  induction fields with
  | nil => exact fun _ => rfl
  | cons field fields ih =>
    intro i
    rw [incompatible, incompatible, ih (i + 1)]
    rfl

/-! ## Records -/

variable {fields : List Field} {reads : List HostType}

/-- A record with another number of fields than there are columns. -/
theorem getRecord_of_length_ne (onRow : c.state = .onRow)
    (different : fields.length ≠ c.columns.length) :
    c.getRecord fields reads ss = (.error (.shape fields.length c.columns.length), ss) := by
  unfold getRecord
  rw [checkRow_eq onRow, bind_run]
  simp only [StreamM.ofExcept]
  rw [if_pos different]
  rfl

/-- A record with a field that its column has no conversion to. -/
theorem getRecord_of_incompatible (onRow : c.state = .onRow)
    (counted : fields.length = c.columns.length) {e : CoercionError}
    (found : c.incompatible 0 fields = some e) :
    c.getRecord fields reads ss = (.error (.coercion e), ss) := by
  unfold getRecord
  rw [checkRow_eq onRow, found, bind_run]
  simp only [StreamM.ofExcept]
  rw [if_neg (not_not_intro counted)]
  rfl

/-- A record that passes the checks is converted and taken apart. -/
theorem getRecord_of_compatible (onRow : c.state = .onRow)
    (counted : fields.length = c.columns.length) (compatible : c.incompatible 0 fields = none) :
    c.getRecord fields reads = (do
      let values ← c.coerceFields 0 fields
      StreamM.ofExcept (((⟨fields, values⟩ : FieldReader).readAll reads).mapError .record)) := by
  funext ss
  unfold getRecord
  rw [checkRow_eq onRow, compatible, bind_run]
  simp only [StreamM.ofExcept]
  rw [if_neg (not_not_intro counted)]

theorem getRecord_eq_ok_iff (onRow : c.state = .onRow) {vs : List Value} :
    c.getRecord fields reads ss = (.ok vs, ss') ↔
      fields.length = c.columns.length ∧ c.incompatible 0 fields = none ∧
        ∃ ws, c.coerceFields 0 fields ss = (.ok ws, ss') ∧
          (⟨fields, ws⟩ : FieldReader).readAll reads = .ok vs := by
  by_cases counted : fields.length = c.columns.length
  · cases found : c.incompatible 0 fields with
    | some e =>
      rw [getRecord_of_incompatible onRow counted found]
      exact iff_of_false nofun fun all => nomatch all.2.1
    | none =>
      rw [getRecord_of_compatible onRow counted found, bind_run_eq_ok_iff]
      simp only [StreamM.ofExcept_run_eq_ok_iff, mapError_eq_ok_iff]
      grind
  · rw [getRecord_of_length_ne onRow counted]
    exact iff_of_false nofun fun all => counted all.1

/-- **A record is what its columns give one after the other.** The fields ask for the kinds of the
host types they are read as. Then the record has certain values if there are as many columns as
fields and the columns, read one after the other from the same streams, have these values; the
streams are left as the columns leave them. With another number of columns, or with a field that
its column has no conversion to, the record fails in the same way whatever the row holds, and all
streams stay as they are.

The host types are those of the library, which only look at the kind of a value. A type that an
application adds may do more when it takes a value apart, such as reading a stream, and then the
order of the rounds matters. -/
theorem record_agrees_with_columns (onRow : c.state = .onRow)
    (targets : fields.map Field.target = reads.map fun t => .host t.kind) :
    (∀ ss vs ss', c.getRecord fields reads ss = (.ok vs, ss') ↔
      c.columns.length = reads.length ∧ c.getColumns 0 reads ss = (.ok vs, ss')) ∧
    (c.columns.length ≠ reads.length → ∀ row ss,
      (c.atRow row).getRecord fields reads ss =
        (.error (.shape fields.length c.columns.length), ss)) ∧
    (∀ i field, fields[i]? = some field →
      c.registry.isCompatible (c.columnType i) field.target = false →
      ∃ e, ∀ row ss, (c.atRow row).getRecord fields reads ss = (.error e, ss)) := by
  have asMany : fields.length = reads.length := by
    simpa using congrArg List.length targets
  refine ⟨fun ss vs ss' => ?_, fun different row ss => ?_, fun i field found incompatible => ?_⟩
  · rw [getRecord_eq_ok_iff onRow, ← asMany, eq_comm (a := c.columns.length)]
    exact and_congr_right fun counted =>
      (getColumns_eq_ok_iff onRow targets ((Nat.zero_add _).trans counted)).symm
  · exact getRecord_of_length_ne (c := c.atRow row) onRow (asMany ▸ different.symm)
  · by_cases counted : fields.length = c.columns.length
    · cases checked : c.incompatible 0 fields with
      | none =>
        have compatible := incompatible_eq_none_iff.mp checked i field found
        rw [Nat.zero_add, incompatible] at compatible
        cases compatible
      | some e =>
        exact ⟨.coercion e, fun row ss => getRecord_of_incompatible (c := c.atRow row) onRow counted
          ((incompatible_atRow row fields 0).trans checked)⟩
    · exact ⟨.shape fields.length c.columns.length, fun row ss =>
        getRecord_of_length_ne (c := c.atRow row) onRow counted⟩

/-- A row with the same stream in two columns. -/
def twiceTheStream : Cursor Unit :=
  ⟨⟨[⟨"a", .blob, none⟩, ⟨"b", .blob, none⟩], .stored [], some [.ok (.blob 0), .ok (.blob 0)]⟩,
    none, .standard, true, .onRow⟩

/-- The first of two columns takes the bytes of their common stream. Neither a third field nor a
number takes any. -/
theorem record_agrees_with_columns_of_shared_stream :
    twiceTheStream.getRecord [⟨"a", .host .bytes⟩, ⟨"b", .host .bytes⟩]
        [⟨.bytes, false⟩, ⟨.bytes, true⟩] ⟨[.ofBytes [1, 2]]⟩ =
      (.ok [.bytes [1, 2], .bytes []], ⟨[.empty]⟩) ∧
    twiceTheStream.getRecord [⟨"a", .host .bytes⟩] [⟨.bytes, false⟩] ⟨[.ofBytes [1, 2]]⟩ =
      (.error (.shape 1 2), ⟨[.ofBytes [1, 2]]⟩) ∧
    ∃ e, twiceTheStream.getRecord [⟨"a", .host .bytes⟩, ⟨"b", .host (.int .w32)⟩]
        [⟨.bytes, false⟩, ⟨.int .w32, false⟩] ⟨[.ofBytes [1, 2]]⟩ =
      (.error e, ⟨[.ofBytes [1, 2]]⟩) := by
  refine ⟨?_, ?_, ?_⟩
  · exact ((record_agrees_with_columns rfl rfl).1 _ _ _).mpr ⟨rfl, rfl⟩
  · exact (record_agrees_with_columns (c := twiceTheStream) rfl rfl).2.1 (by decide) _ _
  · have targets : [⟨"a", .host .bytes⟩, ⟨"b", .host (.int .w32)⟩].map Field.target =
        [⟨.bytes, false⟩, ⟨.int .w32, false⟩].map fun t : HostType => .host t.kind := rfl
    obtain ⟨e, refused⟩ :=
      (record_agrees_with_columns (c := twiceTheStream) rfl targets).2.2 1 _ rfl rfl
    exact ⟨e, refused _ _⟩

end Cursor

end SqlAccess
