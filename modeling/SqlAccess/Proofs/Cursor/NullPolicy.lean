import SqlAccess.Proofs.Cursor.Reads
import SqlAccess.Proofs.Registry.MissingValues

/-!
# Missing cells

Whether a missing cell is read as missing is a setting of the cursor. It says how missing cells are
read and nothing else.

* `readsMissing`: with missing values allowed, through any registry.
* `readsZero`: without them, through the standard registry.
* `sameReads`: a cell that is not missing does not notice the setting.
* `missing_cells`: all three.
-/

namespace SqlAccess.Cursor

variable {S : Type} {c : Cursor S} {ref : ColumnRef} {i : Nat}

/-! ## The raw value -/

theorem padded_eq_null_iff {column : Column} {v : Value} : padded column v = .null ↔ v = .null := by
  cases v with
  | text | chars =>
    dsimp only [padded]
    split <;> simp
  | _ => rfl

theorem padded_of_ne_char {column : Column} (type : column.type ≠ .char) (v : Value) :
    padded column v = v := by
  cases v with
  | text s => exact if_neg type
  | chars cs => exact if_neg type
  | _ => rfl

theorem checkRow_of_resolve (resolved : c.resolve ref = .ok i) : c.checkRow = .ok () := by
  unfold checkRow
  by_cases onRow : c.state = .onRow
  · exact if_pos onRow
  · rw [resolve_of_state_ne onRow] at resolved
    cases resolved

/-- The raw value of a column is that of the cell, but for blanks at its end. -/
theorem fetch_eq (onRow : c.checkRow = .ok ()) (i : Nat) :
    c.fetch i =
      (c.source.value i).map fun raw => ((c.columns[i]?).map (padded · raw)).getD raw := by
  unfold fetch
  rw [onRow]
  rcases c.source.value i with e | raw
  · rfl
  · rcases c.columns[i]? with _ | column
    · rfl
    · rfl

theorem fetch_eq_null_iff (onRow : c.checkRow = .ok ()) :
    c.fetch i = .ok .null ↔ c.source.value i = .ok .null := by
  rw [fetch_eq onRow, map_eq_ok_iff]
  constructor
  · rintro ⟨raw, read, null⟩
    cases found : c.columns[i]? with
    | none =>
      rw [found] at null
      rw [read]
      exact congrArg _ null
    | some column =>
      rw [found] at null
      rw [read]
      exact congrArg _ (padded_eq_null_iff.1 null)
  · intro read
    refine ⟨.null, read, ?_⟩
    rcases c.columns[i]? with _ | column
    · rfl
    · rfl

/-! ## Reads with missing values allowed -/

/-- The reads of a column, as far as they ask for this target, find that its value is missing. -/
structure ReadsMissing (c : Cursor S) (ref : ColumnRef) (i : Nat) (t : Target) : Prop where
  asTarget : c.getAs ref t = pure .null
  asDefault : (c.columnType i).defaultTarget = some t → c.getValue ref = pure .null
  asOptional : ∀ k, t = .host k → c.get ref ⟨k, true⟩ = pure .null
  asPlain : ∀ k, t = .host k → c.get ref ⟨k, false⟩ =
    throw (.coercion ⟨c.columnType i, t, .unreadableAs none ⟨k, false⟩⟩)
  allBytes : t = .host .bytes → c.getBytes ref = pure []
  allText : t = .host .text → c.getText ref = pure ""

/-- A read as a host type of a value that is read as missing. -/
theorem get_of_null (resolved : c.resolve ref = .ok i) {t : HostType}
    (null : c.coerceColumn i (.host t.kind) = pure .null) :
    c.get ref t = if t.optional then pure .null
      else throw (.coercion ⟨c.columnType i, .host t.kind, .unreadableAs none t⟩) := by
  unfold get
  rw [atColumn_eq resolved, null, pure_bind]
  obtain ⟨k, _ | _⟩ := t
  · rfl
  · rfl

theorem readsMissing (resolved : c.resolve ref = .ok i) (missing : c.source.value i = .ok .null)
    (allowed : c.allowNulls = true) {t : Target}
    (compatible : c.registry.isCompatible (c.columnType i) t = true) :
    c.ReadsMissing ref i t := by
  have fetched : c.fetch i = .ok .null :=
    (fetch_eq_null_iff (checkRow_of_resolve resolved)).2 missing
  have null : c.coerceColumn i t = pure .null := coerceColumn_null fetched allowed compatible
  have optional : ∀ k, t = .host k → c.get ref ⟨k, true⟩ = pure .null := by
    rintro k rfl
    exact get_of_null resolved null
  refine ⟨?_, ?_, optional, ?_, ?_, ?_⟩
  · rw [getAs_eq resolved, null]
  · intro default
    rw [getValue_eq resolved default, null]
  · rintro k rfl
    exact get_of_null resolved null
  · intro bytes
    unfold getBytes
    rw [optional .bytes bytes, pure_bind]
  · intro text
    unfold getText
    rw [optional .text text, pure_bind]

/-! ## Reads that give a value -/

/-- All reads of a column as this kind give this value, and leave these streams. -/
structure ReadsAs (c : Cursor S) (ref : ColumnRef) (i : Nat) (k : Kind) (ss : Streams) (v : Value)
    (ss' : Streams) : Prop where
  asTarget : c.getAs ref (.host k) ss = (.ok v, ss')
  asDefault : (c.columnType i).defaultTarget = some (.host k) → c.getValue ref ss = (.ok v, ss')
  asHost : ∀ optional, c.get ref ⟨k, optional⟩ ss = (.ok v, ss')
  allBytes : ∀ bs, v = .bytes bs → c.getBytes ref ss = (.ok bs, ss')
  allText : ∀ s, v = .text s → c.getText ref ss = (.ok s, ss')

theorem readsAs_of_coerceColumn (resolved : c.resolve ref = .ok i) {k : Kind} {v : Value}
    {ss ss' : Streams} (converted : c.coerceColumn i (.host k) ss = (.ok v, ss'))
    (kind : v.kind = some k) : c.ReadsAs ref i k ss v ss' := by
  have asHost : ∀ optional, c.get ref ⟨k, optional⟩ ss = (.ok v, ss') := by
    intro optional
    have accepted : (⟨k, optional⟩ : HostType).accepts v = true := by
      unfold HostType.accepts
      rw [kind]
      exact beq_self_eq_true k
    rw [get_run resolved]
    dsimp only
    rw [converted]
    dsimp only
    rw [if_pos accepted]
  refine ⟨?_, ?_, asHost, ?_, ?_⟩
  · rw [getAs_eq resolved, converted]
  · intro default
    rw [getValue_eq resolved default, converted]
  · rintro bs rfl
    cases kind
    unfold getBytes
    rw [bind_run, asHost true]
    rfl
  · rintro s rfl
    cases kind
    unfold getText
    rw [bind_run, asHost true]
    rfl

/-! ## Reads with missing values replaced -/

/-- The value that the column has in place of a missing one, and the conversions of it: each of
them that the registry has succeeds, and all reads as its kind give what it gives. -/
structure ReadsZero (c : Cursor S) (ref : ColumnRef) (i : Nat) (ss : Streams) (zero : Value)
    (ss₁ : Streams) : Prop where
  present : zero ≠ .null
  shows : ∃ k, (c.columnType i).defaultTarget = some (.host k) ∧ zero.shown ss₁ = k.blank
  asVoid : c.getAs ref .void ss = (.ok zero, ss₁)
  converted : ∀ k f, c.registry.converter (c.columnType i) (.host k) = some f →
    ∃ v ss₂, f zero ss₁ = (.ok v, ss₂) ∧ v.kind = some k ∧
      (k ≠ .text → v.shown ss₂ = k.blank) ∧ c.ReadsAs ref i k ss v ss₂

theorem readsZero (resolved : c.resolve ref = .ok i) (missing : c.source.value i = .ok .null)
    (replaced : c.allowNulls = false) (standard : c.registry = .standard)
    (named : c.columnType i ≠ .null) (numbered : (c.columnType i).isOther = false) (ss : Streams) :
    ∃ zero ss₁, Registry.standard.coerce .null (c.columnType i) .void ss = (.ok zero, ss₁) ∧
      c.ReadsZero ref i ss zero ss₁ := by
  have fetched : c.fetch i = .ok .null :=
    (fetch_eq_null_iff (checkRow_of_resolve resolved)).2 missing
  have column : ∀ {t v ss'}, c.registry.isCompatible (c.columnType i) t = true →
      Registry.standard.coerce .null (c.columnType i) t ss = (.ok v, ss') →
        c.coerceColumn i t ss = (.ok v, ss') := by
    intro t v ss' compatible ran
    rw [coerceColumn_coerce fetched (by simp [replaced]) compatible, standard, StreamM.mapError,
      ran]
  obtain ⟨zero, ss₁, made, isZero, converts⟩ :=
    Registry.standard_coerce_null named numbered ss
  refine ⟨zero, ss₁, made, ?_, isZero.shows, ?_, ?_⟩
  · rintro rfl
    cases isZero.present
  · rw [getAs_eq resolved]
    refine column ?_ made
    rw [standard]
    exact Registry.standard_void numbered
  · intro k f found
    have compatible : c.registry.isCompatible (c.columnType i) (.host k) = true := by
      unfold Registry.isCompatible
      rw [found]
      rfl
    rw [standard] at found
    obtain ⟨v, ss₂, converted, coerced, kind, shows⟩ := converts k f found
    exact ⟨v, ss₂, converted, kind, shows,
      readsAs_of_coerceColumn resolved (column compatible coerced) kind⟩

/-! ## Cells that are not missing -/

/-- The cursor with another setting for missing values. -/
def withNulls (c : Cursor S) (allow : Bool) : Cursor S := { c with allowNulls := allow }

theorem coerceColumn_withNulls (present : c.source.value i ≠ .ok .null) (allow : Bool)
    (t : Target) : (c.withNulls allow).coerceColumn i t = c.coerceColumn i t := by
  unfold coerceColumn
  rw [show (c.withNulls allow).fetch i = c.fetch i from rfl]
  rcases onRow : c.checkRow with e | ⟨⟩
  · unfold fetch
    rw [onRow]
    rfl
  · rcases fetched : c.fetch i with e | raw
    · rfl
    · have notNull : raw.isNull = false := by
        rw [Bool.eq_false_iff, ne_eq, Value.isNull_eq_true_iff]
        rintro rfl
        exact present ((fetch_eq_null_iff onRow).1 fetched)
      simp only [notNull, Bool.false_eq_true, false_and, if_false]
      rfl

/-- The two cursors read a column in the same way. -/
structure SameReads (c c' : Cursor S) (ref : ColumnRef) : Prop where
  asTarget : ∀ t, c'.getAs ref t = c.getAs ref t
  asDefault : c'.getValue ref = c.getValue ref
  asHost : ∀ t, c'.get ref t = c.get ref t
  allBytes : c'.getBytes ref = c.getBytes ref
  allText : c'.getText ref = c.getText ref
  clock : ∀ offset, c'.getClock ref offset = c.getClock ref offset

theorem sameReads (present : ∀ i, c.resolve ref = .ok i → c.source.value i ≠ .ok .null)
    (allow : Bool) : c.SameReads (c.withNulls allow) ref := by
  have same : SameColumn (c.withNulls allow) c ref ref :=
    ⟨rfl, fun _ _ => rfl, fun i resolved => coerceColumn_withNulls (present i resolved) allow⟩
  exact ⟨same.getAs, same.getValue, same.get, same.getBytes, same.getText, same.getClock⟩

theorem getRecord_withNulls (present : ∀ i, c.source.value i ≠ .ok .null) (allow : Bool)
    (fields : List Field) (reads : List HostType) :
    (c.withNulls allow).getRecord fields reads = c.getRecord fields reads := by
  have same : SameColumns (c.withNulls allow) c :=
    ⟨rfl, rfl, fun _ _ => rfl, fun i => coerceColumn_withNulls (present i) allow⟩
  exact same.getRecord fields reads

/-! ## The setting as a whole -/

/-- **Missing cells.** For a column of a cursor that is at a row:

* If the cell is missing and missing values are allowed, every read of a target that the registry
  has a conversion to finds a missing value. A host type that takes none is a failure of the
  coercion; all bytes and all text are empty.
* If the cell is missing and missing values are not allowed, the standard registry puts the blank
  value of the column type in its place. Reading the cell as `void` gives this value, and reading it
  as a kind gives what the conversion to this kind makes of it, which is again a blank unless it is
  a text. The value is not padded.
* If the cell is not missing, the setting makes no difference to any read, whether it succeeds or
  not; nor to a read of the whole row, if no cell of it is missing. -/
theorem missing_cells (resolved : c.resolve ref = .ok i) :
    (c.source.value i = .ok .null → c.allowNulls = true →
      ∀ t, c.registry.isCompatible (c.columnType i) t = true → c.ReadsMissing ref i t) ∧
    (c.source.value i = .ok .null → c.allowNulls = false → c.registry = .standard →
      c.columnType i ≠ .null →
      ∀ t, c.registry.isCompatible (c.columnType i) t = true →
        ∀ ss, ∃ zero ss₁,
          Registry.standard.coerce .null (c.columnType i) .void ss = (.ok zero, ss₁) ∧
            c.ReadsZero ref i ss zero ss₁) ∧
    (c.source.value i ≠ .ok .null → ∀ allow, c.SameReads (c.withNulls allow) ref) ∧
    ((∀ j, c.source.value j ≠ .ok .null) → ∀ allow fields reads,
      (c.withNulls allow).getRecord fields reads = c.getRecord fields reads) := by
  refine ⟨?_, ?_, ?_, ?_⟩
  · intro missing allowed t compatible
    exact readsMissing resolved missing allowed compatible
  · intro missing replaced standard named t compatible ss
    refine readsZero resolved missing replaced standard named ?_ ss
    rw [standard] at compatible
    exact Registry.numbered_of_standard compatible
  · intro present allow
    refine sameReads (fun j found => ?_) allow
    rw [resolved] at found
    cases found
    exact present
  · intro present allow fields reads
    exact getRecord_withNulls present allow fields reads

/-- A missing cell of fixed-width text is no characters at all, or missing; a text beside it is
padded either way. -/
theorem missing_cells_fixed_width :
    let c : Cursor Unit :=
      (Cursor.ofSource (.ofValues [⟨"code", .char, some 3⟩, ⟨"unit", .char, some 3⟩]
        [[.null, .text "kg"]]) none .standard false).advance.2
    c.get (.index 0) ⟨.chars, false⟩ .empty = (.ok (.chars []), .empty) ∧
      (c.withNulls true).get (.index 0) ⟨.chars, true⟩ = pure .null ∧
      (c.withNulls true).getText (.index 1) = c.getText (.index 1) := by
  intro c
  have code : c.resolve (.index 0) = .ok 0 := rfl
  have code' : (c.withNulls true).resolve (.index 0) = .ok 0 := rfl
  have unit : c.resolve (.index 1) = .ok 1 := rfl
  obtain ⟨-, replaced, -⟩ := missing_cells code
  obtain ⟨allowed, -⟩ := missing_cells code'
  obtain ⟨-, -, present, -⟩ := missing_cells unit
  refine ⟨?_, ?_, ?_⟩
  · obtain ⟨zero, ss₁, made, reads⟩ := replaced rfl rfl rfl nofun (.host .chars) rfl .empty
    cases show (.ok (.chars []), .empty) = (Except.ok zero, ss₁) from made
    obtain ⟨v, ss₂, ran, -, -, readsAs⟩ := reads.converted .chars _ rfl
    cases show (.ok (.chars []), .empty) = (Except.ok v, ss₂) from ran
    exact readsAs.asHost false
  · exact (allowed rfl rfl (.host .chars) rfl).asOptional .chars rfl
  · exact (present nofun true).allText

end SqlAccess.Cursor
