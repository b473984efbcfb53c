import SqlAccess.Proofs.Cursor.Records
import SqlAccess.Proofs.Session.Readings

/-!
# Columns by label

A column is named by its label in any letter case. Several columns may have the same label; then the
first one is meant, and it is read as if it were asked for by number.

* `FirstLabelled`: the first column with a label.
* `indexOfLabel_eq_some_iff`, `indexOfLabel_eq_none_iff`: which column a label leads to.
* `sameColumn_label`, `sameColumn_later`: the column by label is that by number, whatever columns
  follow.
* `label_reads_first_column`: what this is for the readings of a row.
-/

namespace SqlAccess

/-- The column has this label, if case does not matter. -/
def Column.Labelled (column : Column) (name : String) : Prop :=
  Text.lower column.label = Text.lower name

instance (column : Column) (name : String) : Decidable (column.Labelled name) :=
  inferInstanceAs (Decidable (Text.lower column.label = Text.lower name))

/-- The first column with the label has this number. -/
structure FirstLabelled (columns : List Column) (name : String) (i : Nat) : Prop where
  labelled : ∃ column, columns[i]? = some column ∧ column.Labelled name
  first : ∀ j column, j < i → columns[j]? = some column → ¬column.Labelled name

namespace FirstLabelled

variable {columns : List Column} {name name' : String} {i : Nat}

theorem lt_length (first : FirstLabelled columns name i) : i < columns.length := by
  obtain ⟨column, found, -⟩ := first.labelled
  exact (List.getElem?_eq_some_iff.1 found).1

/-- Names that differ in case only lead to the same column. -/
theorem of_lower_eq (first : FirstLabelled columns name i)
    (same : Text.lower name = Text.lower name') : FirstLabelled columns name' i := by
  have labelled (column : Column) : column.Labelled name' ↔ column.Labelled name := by
    unfold Column.Labelled
    rw [same]
  constructor
  · simpa only [labelled] using first.labelled
  · simpa only [labelled] using first.first

/-- Columns that follow do not hide it. -/
theorem append (first : FirstLabelled columns name i) (later : List Column) :
    FirstLabelled (columns ++ later) name i := by
  obtain ⟨column, found, labelled⟩ := first.labelled
  refine ⟨⟨column, ?_, labelled⟩, fun j earlier before at_ => ?_⟩
  · rw [List.getElem?_append_left first.lt_length]
    exact found
  · rw [List.getElem?_append_left (Nat.lt_trans before first.lt_length)] at at_
    exact first.first j earlier before at_

end FirstLabelled

namespace Cursor

/-! ## Finding a label -/

variable {columns : List Column} {name : String} {i : Nat}

theorem indexOfLabel_eq_some_iff :
    indexOfLabel columns name = some i ↔ FirstLabelled columns name i := by
  unfold indexOfLabel
  rw [List.findIdx?_eq_some_iff_getElem]
  simp only [beq_iff_eq]
  constructor
  · intro ⟨within, labelled, first⟩
    refine ⟨⟨columns[i], List.getElem?_eq_getElem within, labelled⟩, ?_⟩
    intro j column before found
    obtain ⟨_, rfl⟩ := List.getElem?_eq_some_iff.1 found
    exact first j before
  · intro first
    obtain ⟨column, found, labelled⟩ := first.labelled
    obtain ⟨within, rfl⟩ := List.getElem?_eq_some_iff.1 found
    refine ⟨within, labelled, fun j before => ?_⟩
    exact first.first j _ before (List.getElem?_eq_getElem _)

theorem indexOfLabel_eq_none_iff :
    indexOfLabel columns name = none ↔ ∀ column ∈ columns, ¬column.Labelled name := by
  unfold indexOfLabel Column.Labelled
  simp only [List.findIdx?_eq_none_iff, beq_eq_false_iff_ne]

/-- A column with the label is the first one, or there is one in front of it. -/
theorem exists_firstLabelled {j : Nat} {column : Column} (found : columns[j]? = some column)
    (labelled : column.Labelled name) : ∃ i ≤ j, FirstLabelled columns name i := by
  cases position : indexOfLabel columns name with
  | none =>
    exact absurd labelled (indexOfLabel_eq_none_iff.1 position column (List.mem_of_getElem? found))
  | some i =>
    have first := indexOfLabel_eq_some_iff.1 position
    refine ⟨i, Nat.le_of_not_lt fun before => ?_, first⟩
    exact first.first j column before found labelled

/-! ## Reading by label -/

variable {S : Type} {c : Cursor S}

theorem resolve_label (onRow : c.state = .onRow) (first : FirstLabelled c.columns name i) :
    c.resolve (.label name) = .ok i := by
  unfold resolve
  rw [checkRow_eq onRow]
  dsimp only
  rw [indexOfLabel_eq_some_iff.2 first]
  rfl

theorem resolve_label_of_forall (onRow : c.state = .onRow)
    (nowhere : ∀ column ∈ c.columns, ¬column.Labelled name) :
    c.resolve (.label name) = .error (.notFound (.label name)) := by
  unfold resolve
  rw [checkRow_eq onRow]
  dsimp only
  rw [indexOfLabel_eq_none_iff.2 nowhere]
  rfl

theorem resolve_index_of_le (onRow : c.state = .onRow) (beyond : c.columns.length ≤ i) :
    c.resolve (.index i) = .error (.notFound (.index i c.columns.length)) := by
  unfold resolve
  rw [checkRow_eq onRow]
  exact if_neg (Nat.not_lt.2 beyond)

/-- The column by label is the column by number. -/
theorem sameColumn_label (onRow : c.state = .onRow) (first : FirstLabelled c.columns name i) :
    SameColumn c c (.label name) (.index i) :=
  sameColumn_of_resolve (resolve_label onRow first) (resolve_index onRow first.lt_length) rfl
    fun _ => rfl

/-- Columns that follow leave it as it is. -/
theorem sameColumn_later (onRow : c.state = .onRow) (first : FirstLabelled c.columns name i)
    (later : List Column) :
    SameColumn (c.withColumns (c.columns ++ later)) c (.label name) (.label name) := by
  have found : (c.columns ++ later)[i]? = c.columns[i]? :=
    List.getElem?_append_left first.lt_length
  have type : (c.withColumns (c.columns ++ later)).columnType i = c.columnType i := by
    unfold columnType
    exact congrArg (fun column => (column.map Column.type).getD .null) found
  have fetched : (c.withColumns (c.columns ++ later)).fetch i = c.fetch i := by
    unfold fetch
    rw [show (c.withColumns (c.columns ++ later)).columns[i]? = c.columns[i]? from found]
    rfl
  exact sameColumn_of_resolve
    (resolve_label (c := c.withColumns (c.columns ++ later)) onRow (first.append later))
    (resolve_label onRow first) type (coerceColumn_congr rfl rfl type fetched)

/-- **A label reads the first column that has it.** Let a cursor be at a row.

* Every reading of a column by label comes to the same, of value or error, as the reading of the
  first column with this label by number. The label may be in any case.
* If there is no such column, every reading by label fails, with the name as it is asked for.
* Two names that differ in case only are interchangeable if there is a column for them.
* A column with the label is the first one or behind the first one; columns behind that make no
  difference.
* A number that is not below the number of columns is not found, whatever the row holds. -/
theorem label_reads_first_column (onRow : c.state = .onRow) (reading : Reading) :
    (∀ name, reading.column? = some (.label name) →
      (∀ i, FirstLabelled c.columns name i →
        Session.read c reading = Session.read c (reading.toColumn (.index i))) ∧
      ((∀ column ∈ c.columns, ¬column.Labelled name) →
        Session.read c reading = throw (.notFound (.label name))) ∧
      ∀ j column, c.columns[j]? = some column → column.Labelled name →
        (∀ name', Text.lower name = Text.lower name' →
          Session.read c reading = Session.read c (reading.toColumn (.label name'))) ∧
        (∃ i ≤ j, FirstLabelled c.columns name i) ∧
        ∀ later, Session.read (c.withColumns (c.columns ++ later)) reading =
          Session.read c reading) ∧
    ∀ i, reading.column? = some (.index i) → c.columns.length ≤ i →
      ∀ row, Session.read (c.atRow row) reading =
        throw (.notFound (.index i c.columns.length)) := by
  refine ⟨fun name single => ⟨?_, ?_, fun j column found labelled => ?_⟩, ?_⟩
  · intro i first
    exact Session.read_of_sameColumn (sameColumn_label onRow first) single
  · intro nowhere
    exact Session.read_of_resolve_eq_error (resolve_label_of_forall onRow nowhere) single
  · obtain ⟨i, before, first⟩ := exists_firstLabelled found labelled
    refine ⟨fun name' same => ?_, ⟨i, before, first⟩, fun later => ?_⟩
    · have alike : SameColumn c c (.label name) (.label name') :=
        sameColumn_of_resolve (resolve_label onRow first)
          (resolve_label onRow (first.of_lower_eq same)) rfl fun _ => rfl
      exact Session.read_of_sameColumn alike single
    · rw [Session.read_of_sameColumn (sameColumn_later onRow first later) single,
        Reading.toColumn_self single]
  · intro i single beyond row
    exact Session.read_of_resolve_eq_error
      (resolve_index_of_le (c := c.atRow row) onRow beyond) single

/-- Two columns with the same label in different case, and another one between them. The row has a
cell more than there are columns. -/
theorem label_reads_first_column_duplicate :
    let c : Cursor Unit :=
      ⟨⟨[⟨"No", .integer, none⟩, ⟨"Title", .varChar, none⟩, ⟨"NO", .varChar, none⟩], .stored [],
        some [.ok (.int .w32 (.clamp 32 7)), .ok (.text "x"), .ok (.text "y"), .ok (.text "z")]⟩,
        none, .standard, true, .onRow⟩
    c.state = .onRow ∧ FirstLabelled c.columns "no" 0 ∧ Text.lower "no" = Text.lower "nO" ∧
      Session.read c (.getValue (.label "no")) = Session.read c (.getValue (.index 0)) ∧
      Session.read c (.getValue (.label "no")) = Session.read c (.getValue (.label "nO")) ∧
      Session.read c (.getValue (.label "Num")) = throw (.notFound (.label "Num")) ∧
      c.columns.length ≤ 3 ∧ c.source.value 3 = .ok (.text "z") ∧
      Session.read c (.getValue (.index 3)) = throw (.notFound (.index 3 3)) := by
  intro c
  have onRow : c.state = .onRow := rfl
  have labelled : (⟨"No", .integer, none⟩ : Column).Labelled "no" := by decide
  have same : Text.lower "no" = Text.lower "nO" := by decide
  have first : FirstLabelled c.columns "no" 0 := ⟨⟨_, rfl, labelled⟩, nofun⟩
  have nowhere : ∀ column ∈ c.columns, ¬column.Labelled "Num" := by decide
  obtain ⟨byLabel, -, matched⟩ :=
    (label_reads_first_column onRow (.getValue (.label "no"))).1 "no" rfl
  obtain ⟨-, missing, -⟩ := (label_reads_first_column onRow (.getValue (.label "Num"))).1 "Num" rfl
  have beyond := (label_reads_first_column onRow (.getValue (.index 3))).2 3 rfl (by decide)
  exact ⟨onRow, first, same, byLabel 0 first, (matched 0 _ rfl labelled).1 "nO" same,
    missing nowhere, by decide, rfl, beyond c.source.current⟩

end Cursor

end SqlAccess
