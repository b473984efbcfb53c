import SqlAccess.Proofs.Binding.Conversions
import SqlAccess.Proofs.Cursor.NullPolicy
import SqlAccess.Proofs.Registry.Decimals
import SqlAccess.Proofs.Session.Readings

/-!
# Fixed-width text

A cell of a CHAR column is filled up with blanks to the width of the column before the registry sees
it. Characters come as a text or as such, in cells and in values that are read or bound; what counts
is `Value.characters?`, which is the same for both.

* `padTo_of_le`, `length_padTo`: text of the width or longer stays as it is.
* `readsCharacters`: a value that reaches the registry with certain characters is read with them.
* `Binding.sends_characters`: it is bound with them as well.
* `sameColumn_withoutWidths`: where the declared widths make no difference.
* `fixed_width_text`: all of this.
-/

namespace SqlAccess

/-! ## Filling up -/

theorem length_padTo (width : Option Nat) (cs : List Char) :
    (padTo width cs).length = max cs.length (width.getD 0) := by
  unfold padTo
  rw [List.length_append, List.length_replicate]
  omega

theorem padTo_of_le {width : Option Nat} {cs : List Char} (wide : width.getD 0 ≤ cs.length) :
    padTo width cs = cs := by
  unfold padTo
  rw [Nat.sub_eq_zero_of_le wide, List.replicate_zero, List.append_nil]

theorem padTo_padTo (width : Option Nat) (cs : List Char) :
    padTo width (padTo width cs) = padTo width cs :=
  padTo_of_le (by rw [length_padTo]; exact Nat.le_max_right _ _)

/-! ## Characters -/

/-- The characters of a text or of character data. -/
def Value.characters? : Value → Option (List Char)
  | text s => some s.toList
  | chars cs => some cs
  | _ => none

variable {v raw : Value} {cs : List Char}

theorem Value.isNull_of_characters (held : v.characters? = some cs) : v.isNull = false := by
  cases v with
  | null => cases held
  | _ => rfl

namespace Standard

theorem readChars_of_characters (held : v.characters? = some cs) : readChars v = .ok cs := by
  cases v with
  | text | chars =>
    cases held
    rfl
  | _ => cases held

theorem readText_of_characters (held : v.characters? = some cs) :
    readText v = .ok (String.ofList cs) := by
  cases v with
  | text s =>
    cases held
    rw [String.ofList_toList]
    rfl
  | chars =>
    cases held
    rfl
  | _ => cases held

/-- The column types that are read as characters. -/
structure Spelled (type : ColumnType) : Prop where
  chars : cell type .chars = some (pureCell readChars fun cs => .ok (.chars cs))
  text : cell type .text = some (pureCell readText fun s => .ok (.text s))
  default : type.defaultTarget = some (.host .chars) ∨ type.defaultTarget = some (.host .text)
  zero : ∃ v, Standard.zero type = some (pure v) ∧ v.characters? = some []

theorem spelled_of_isCompatible {type : ColumnType}
    (compatible : Registry.standard.isCompatible type (.host .chars) = true) : Spelled type := by
  cases type with
  | char => exact ⟨rfl, rfl, .inl rfl, _, rfl, rfl⟩
  | varChar | longVarChar | nVarChar | longNVarChar | nChar =>
    exact ⟨rfl, rfl, .inr rfl, _, rfl, rfl⟩
  | _ => cases compatible

end Standard

namespace Registry

variable {type : ColumnType} (spelled : Standard.Spelled type)
include spelled

theorem coerce_chars (held : v.characters? = some cs) (ss : Streams) :
    standard.coerce v type (.host .chars) ss = (.ok (.chars cs), ss) := by
  rw [standard_coerce_pure spelled.chars (Value.isNull_of_characters held),
    Standard.readChars_of_characters held]
  rfl

theorem coerce_text (held : v.characters? = some cs) (ss : Streams) :
    standard.coerce v type (.host .text) ss = (.ok (.text (String.ofList cs)), ss) := by
  rw [standard_coerce_pure spelled.text (Value.isNull_of_characters held),
    Standard.readText_of_characters held]
  rfl

/-- In place of a missing value there are no characters. -/
theorem coerce_null_characters : ∃ v, v.characters? = some [] ∧
    ∀ k ss, standard.coerce .null type (.host k) ss = standard.coerce v type (.host k) ss := by
  obtain ⟨v, zero, none⟩ := spelled.zero
  have present := Value.isNull_of_characters none
  refine ⟨v, none, fun k ss => ?_⟩
  have made : standard.coerce .null type .void ss = (.ok v, ss) := by
    rw [coerce_null_void]
    exact apply_eq_ok (congrArg (Option.map fun z _ => z) zero) rfl
  rw [coerce_null_run made present, coerce_of_not_isNull present]

end Registry

/-- A text is bound as it is, and character data as the text of the same characters. -/
theorem Binding.sends_characters (held : v.characters? = some cs) :
    Sends .standard v (.text (String.ofList cs)) := by
  cases v with
  | text s =>
    cases held
    rw [String.ofList_toList]
    exact sends_of_converted fun _ => .plain (fun _ => Value.noConfusion) nofun
  | chars =>
    cases held
    have char : Standard.Spelled .char := Standard.spelled_of_isCompatible rfl
    exact sends_of_converted fun ss => .characters (Registry.coerce_text char rfl ss)
  | _ => cases held

namespace Cursor

variable {S : Type} {c : Cursor S} {ref : ColumnRef} {i : Nat} {column : Column}

/-! ## Reading characters -/

/-- The cell of a column has these characters. -/
def HoldsCharacters (c : Cursor S) (i : Nat) (cs : List Char) : Prop :=
  ∃ raw, c.source.value i = .ok raw ∧ raw.characters? = some cs

/-- All reads of a column as characters, as a text and without a target give these characters. -/
structure ReadsCharacters (c : Cursor S) (ref : ColumnRef) (i : Nat) (cs : List Char) : Prop where
  asCharacters : ∀ ss, c.ReadsAs ref i .chars ss (.chars cs) ss
  asText : ∀ ss, c.ReadsAs ref i .text ss (.text (String.ofList cs)) ss
  asDefault : ∃ v, v.characters? = some cs ∧ ∀ ss, c.getValue ref ss = (.ok v, ss)

/-- The reference leads the cursor, which reads through the standard registry, to this column. -/
structure LeadsTo (c : Cursor S) (ref : ColumnRef) (i : Nat) (column : Column) : Prop where
  standard : c.registry = .standard
  resolved : c.resolve ref = .ok i
  found : c.columns[i]? = some column

namespace LeadsTo

variable (here : c.LeadsTo ref i column)
include here

theorem columnType : c.columnType i = column.type := by
  unfold Cursor.columnType
  rw [here.found]
  rfl

theorem fetch (read : c.source.value i = .ok raw) : c.fetch i = .ok (padded column raw) := by
  rw [fetch_eq (checkRow_of_resolve here.resolved), read, here.found]
  rfl

/-- A value that the registry finds in the column, or puts there, is read with its characters. -/
theorem readsCharacters (spelled : Standard.Spelled column.type) (held : v.characters? = some cs)
    (converted : ∀ k, c.registry.isCompatible (c.columnType i) (.host k) = true →
      c.coerceColumn i (.host k) =
        StreamM.mapError .coercion (Registry.standard.coerce v column.type (.host k))) :
    c.ReadsCharacters ref i cs := by
  have compatible {k : Kind} {f : Converter} (cell : Standard.cell column.type k = some f) :
      c.registry.isCompatible (c.columnType i) (.host k) = true := by
    rw [here.standard, here.columnType]
    exact Option.isSome_of_eq_some cell
  have asCharacters (ss : Streams) : c.ReadsAs ref i .chars ss (.chars cs) ss := by
    refine readsAs_of_coerceColumn here.resolved ?_ rfl
    rw [converted .chars (compatible spelled.chars), StreamM.mapError,
      Registry.coerce_chars spelled held]
  have asText (ss : Streams) : c.ReadsAs ref i .text ss (.text (String.ofList cs)) ss := by
    refine readsAs_of_coerceColumn here.resolved ?_ rfl
    rw [converted .text (compatible spelled.text), StreamM.mapError,
      Registry.coerce_text spelled held]
  refine ⟨asCharacters, asText, ?_⟩
  rcases spelled.default with chars | text
  · exact ⟨.chars cs, rfl, fun ss => (asCharacters ss).asDefault (here.columnType ▸ chars)⟩
  · refine ⟨.text (String.ofList cs), congrArg some String.toList_ofList, fun ss => ?_⟩
    exact (asText ss).asDefault (here.columnType ▸ text)

theorem readsCharacters_of_fetch (spelled : Standard.Spelled column.type)
    (fetched : c.fetch i = .ok v) (held : v.characters? = some cs) :
    c.ReadsCharacters ref i cs := by
  refine here.readsCharacters spelled held fun k compatible => ?_
  rw [coerceColumn_coerce fetched ?_ compatible, here.standard, here.columnType]
  rintro ⟨rfl, -⟩
  cases held

/-- A missing cell that is replaced has no characters, and is not filled up. -/
theorem readsCharacters_of_null (spelled : Standard.Spelled column.type)
    (missing : c.source.value i = .ok .null) (replaced : c.allowNulls = false) :
    c.ReadsCharacters ref i [] := by
  obtain ⟨v, held, same⟩ := Registry.coerce_null_characters spelled
  refine here.readsCharacters spelled held fun k compatible => ?_
  rw [coerceColumn_coerce (here.fetch missing) (by simp [replaced]) compatible, here.standard,
    here.columnType]
  exact congrArg _ (funext (same k))

end LeadsTo

/-! ## Cells that are filled up -/

theorem characters_padded (type : column.type = .char) (held : raw.characters? = some cs) :
    (padded column raw).characters? = some (padTo column.width cs) := by
  cases raw with
  | text | chars =>
    cases held
    dsimp only [padded]
    rw [if_pos type]
    rfl
  | _ => cases held

theorem LeadsTo.readsPadded (here : c.LeadsTo ref i column) (type : column.type = .char)
    (held : c.HoldsCharacters i cs) : c.ReadsCharacters ref i (padTo column.width cs) := by
  obtain ⟨raw, read, characters⟩ := held
  have spelled : Standard.Spelled column.type := by
    rw [type]
    exact Standard.spelled_of_isCompatible rfl
  exact here.readsCharacters_of_fetch spelled (here.fetch read) (characters_padded type characters)

/-! ## Cells that are not filled up -/

/-- The cursor over the same rows, without the widths of the columns. -/
def withoutWidths (c : Cursor S) : Cursor S :=
  c.withColumns (c.columns.map fun column => { column with width := none })

theorem fetch_eq_value (onRow : c.checkRow = .ok ())
    (unpadded : c.columnType i ≠ .char ∨ c.source.value i = .ok .null) :
    c.fetch i = c.source.value i := by
  rw [fetch_eq onRow]
  cases found : c.columns[i]? with
  | none => cases c.source.value i <;> rfl
  | some column =>
    cases read : c.source.value i with
    | error e => rfl
    | ok raw =>
      refine congrArg Except.ok (?_ : padded column raw = raw)
      rcases unpadded with type | missing
      · unfold Cursor.columnType at type
        rw [found] at type
        exact padded_of_ne_char type raw
      · rw [read] at missing
        cases missing
        rfl

theorem columnType_withoutWidths (c : Cursor S) (i : Nat) :
    c.withoutWidths.columnType i = c.columnType i := by
  show (((c.columns.map _)[i]?).map Column.type).getD .null = _
  rw [List.getElem?_map, Option.map_map]
  rfl

theorem resolve_withoutWidths (c : Cursor S) (ref : ColumnRef) :
    c.withoutWidths.resolve ref = c.resolve ref := by
  have columns : c.withoutWidths.columns =
      c.columns.map fun column => { column with width := none } := rfl
  have labels (name : String) :
      indexOfLabel c.withoutWidths.columns name = indexOfLabel c.columns name := by
    rw [columns]
    unfold indexOfLabel
    rw [List.findIdx?_map]
    rfl
  have length : c.withoutWidths.columns.length = c.columns.length := by
    rw [columns, List.length_map]
  unfold resolve
  simp only [labels, length]
  rfl

/-- Without blanks to fill up with, the widths make no difference. -/
theorem sameColumn_withoutWidths (resolved : c.resolve ref = .ok i)
    (unpadded : c.columnType i ≠ .char ∨ c.source.value i = .ok .null) :
    SameColumn c.withoutWidths c ref ref := by
  have onRow := checkRow_of_resolve resolved
  have type : c.withoutWidths.columnType i = c.columnType i := columnType_withoutWidths c i
  have fetched : c.withoutWidths.fetch i = c.fetch i := by
    rw [fetch_eq_value onRow unpadded]
    exact fetch_eq_value (c := c.withoutWidths) onRow (by rw [type]; exact unpadded)
  exact sameColumn_of_resolve ((resolve_withoutWidths c ref).trans resolved) resolved type
    (coerceColumn_congr rfl rfl type fetched)

/-! ## The way of a text -/

/-- **Fixed-width text.** Let a cursor that reads through the standard registry be led to a column.

* If it is a CHAR column and the cell has characters, every read as characters, as a text or without
  a target gives these with as many blanks behind them as there are characters missing to the
  declared width. Text of the width or longer is not cut. A value with the padded characters is
  bound as the text of them, and a cell of any CHAR column of the same width that has them is read
  with them.
* If it is any other column that is read as characters, they are read as they are.
* If the column is not a CHAR column, or if the cell is missing, the raw value is that of the cell,
  and the declared widths make no difference to any reading.
* If the cell is missing, there are no characters, or it is read as missing. -/
theorem fixed_width_text (here : c.LeadsTo ref i column) :
    (column.type = .char → ∀ cs, c.HoldsCharacters i cs →
      ∃ ds, ds = cs ++ List.replicate (column.width.getD 0 - cs.length) ' ' ∧
        c.ReadsCharacters ref i ds ∧
        (∀ v, v.characters? = some ds → Binding.Sends .standard v (.text (String.ofList ds))) ∧
        ∀ (T : Type) (d : Cursor T) ref' j column', d.LeadsTo ref' j column' →
          column'.type = .char → column'.width = column.width → d.HoldsCharacters j ds →
            d.ReadsCharacters ref' j ds) ∧
    (column.type ≠ .char → Registry.standard.isCompatible column.type (.host .chars) = true →
      ∀ cs, c.HoldsCharacters i cs → c.ReadsCharacters ref i cs) ∧
    (column.type ≠ .char ∨ c.source.value i = .ok .null →
      c.fetch i = c.source.value i ∧
        ∀ reading, reading.column? = some ref →
          Session.read c.withoutWidths reading = Session.read c reading) ∧
    (c.source.value i = .ok .null → ∀ t, Registry.standard.isCompatible column.type t = true →
      (c.allowNulls = true → c.ReadsMissing ref i t) ∧
      (c.allowNulls = false → t = .host .chars → c.ReadsCharacters ref i [])) := by
  have onRow := checkRow_of_resolve here.resolved
  refine ⟨?_, ?_, ?_, ?_⟩
  · intro type cs held
    refine ⟨padTo column.width cs, rfl, here.readsPadded type held, ?_, ?_⟩
    · intro v characters
      exact Binding.sends_characters characters
    · intro T d ref' j column' there type' width again
      have reads := there.readsPadded type' again
      rwa [width, padTo_padTo] at reads
  · intro type compatible cs ⟨raw, read, characters⟩
    refine here.readsCharacters_of_fetch (Standard.spelled_of_isCompatible compatible) ?_ characters
    rw [here.fetch read, padded_of_ne_char type]
  · intro unpadded
    rw [← here.columnType] at unpadded
    refine ⟨fetch_eq_value onRow unpadded, fun reading single => ?_⟩
    rw [Session.read_of_sameColumn (sameColumn_withoutWidths here.resolved unpadded) single,
      Reading.toColumn_self single]
  · intro missing t compatible
    constructor
    · intro allowed
      refine readsMissing here.resolved missing allowed ?_
      rwa [here.standard, here.columnType]
    · rintro replaced rfl
      exact here.readsCharacters_of_null (Standard.spelled_of_isCompatible compatible) missing
        replaced

/-- Two characters in three bytes are filled up to four characters, and these come back as they are.
Three characters stay three where the width is two. A VARCHAR cell and a missing one are not filled
up. -/
theorem fixed_width_text_two_bytes :
    let c : Cursor Unit :=
      (Cursor.ofSource (.ofValues
        [⟨"code", .char, some 4⟩, ⟨"tag", .char, some 2⟩, ⟨"name", .varChar, some 4⟩,
          ⟨"unit", .char, some 4⟩, ⟨"copy", .char, some 4⟩]
        [[.text "añ", .chars ['a', 'b', 'c'], .text "añ", .null, .text "añ  "]])
        none .standard false).advance.2
    c.LeadsTo (.index 0) 0 ⟨"code", .char, some 4⟩ ∧ c.HoldsCharacters 0 ['a', 'ñ'] ∧
      c.getText (.index 0) .empty = (.ok "añ  ", .empty) ∧
      c.get (.index 0) ⟨.chars, false⟩ .empty = (.ok (.chars ['a', 'ñ', ' ', ' ']), .empty) ∧
      Binding.Sends .standard (.chars ['a', 'ñ', ' ', ' ']) (.text "añ  ") ∧
      c.getText (.label "COPY") .empty = (.ok "añ  ", .empty) ∧
      c.getText (.index 1) .empty = (.ok "abc", .empty) ∧
      c.getText (.index 2) .empty = (.ok "añ", .empty) ∧
      c.getText (.index 3) .empty = (.ok "", .empty) := by
  intro c
  have code : c.LeadsTo (.index 0) 0 ⟨"code", .char, some 4⟩ := ⟨rfl, rfl, rfl⟩
  have tag : c.LeadsTo (.index 1) 1 ⟨"tag", .char, some 2⟩ := ⟨rfl, rfl, rfl⟩
  have name : c.LeadsTo (.index 2) 2 ⟨"name", .varChar, some 4⟩ := ⟨rfl, rfl, rfl⟩
  have unit : c.LeadsTo (.index 3) 3 ⟨"unit", .char, some 4⟩ := ⟨rfl, rfl, rfl⟩
  have copy : c.LeadsTo (.label "COPY") 4 ⟨"copy", .char, some 4⟩ := ⟨rfl, by decide, rfl⟩
  have short : c.HoldsCharacters 0 ['a', 'ñ'] := ⟨_, rfl, by decide⟩
  have long : c.HoldsCharacters 1 ['a', 'b', 'c'] := ⟨_, rfl, rfl⟩
  have plain : c.HoldsCharacters 2 ['a', 'ñ'] := ⟨_, rfl, by decide⟩
  have filled : c.HoldsCharacters 4 ['a', 'ñ', ' ', ' '] := ⟨_, rfl, by decide⟩
  obtain ⟨_, rfl, codeReads, bound, again⟩ := (fixed_width_text code).1 rfl _ short
  obtain ⟨_, rfl, tagReads, -, -⟩ := (fixed_width_text tag).1 rfl _ long
  have nameReads := (fixed_width_text name).2.1 nofun rfl _ plain
  have copyReads := again Unit c _ 4 _ copy rfl rfl filled
  have unitReads := ((fixed_width_text unit).2.2.2 rfl (.host .chars) rfl).2 rfl rfl
  refine ⟨code, short, ?_, (codeReads.asCharacters .empty).asHost false, ?_, ?_, ?_, ?_, ?_⟩
  · exact (codeReads.asText .empty).allText _ (congrArg Value.text (by decide))
  · exact bound (.chars _) rfl
  · exact (copyReads.asText .empty).allText _ rfl
  · exact (tagReads.asText .empty).allText _ rfl
  · exact (nameReads.asText .empty).allText _ rfl
  · exact (unitReads.asText .empty).allText _ rfl

end Cursor

end SqlAccess
