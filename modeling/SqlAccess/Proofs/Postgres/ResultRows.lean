import SqlAccess.Postgres.Server
import SqlAccess.Proofs.Cursor.NullPolicy
import SqlAccess.Proofs.Cursor.Walk
import SqlAccess.Proofs.Registry.Outcomes

/-!
# Result rows and the types of their columns

The column type that a server type stands for fits the values that its cells are decoded to: they
have the kind that the column type has by default, once a text of fixed width is taken as its
characters. So the standard registry never meets a value of a kind it does not read.

* `kind_of_decode`: the values of each server type.
* `Sends`: every row that a cursor is at is one of those that the server has sent.
* `result_rows_typed`: what comes of reading a cell.
-/

namespace SqlAccess

namespace Postgres

/-! ## Cells -/

/-- The kind of the values that cells of a type are decoded to. -/
def ServerType.kind : ServerType → Option Kind
  | bool => some .bool
  | char => some (.int .w8)
  | int2 => some (.int .w16)
  | int4 => some (.int .w32)
  | int8 | oid => some (.int .w64)
  | float4 => some (.float .single)
  | float8 => some (.float .double)
  | numeric => some .decimal
  | text | varchar | name | unknown | bpchar => some .text
  | bytea => some .bytes
  | date => some .date
  | time => some .time
  | timestamp | timestamptz => some .timestamp
  | other _ _ => none

theorem kind_of_readInteger {w : Width} {bytes : List UInt8} {v : Value}
    (read : readInteger? w bytes = some v) : v.kind = some (.int w) := by
  simp only [readInteger?, bind, Option.bind_eq_some_iff, pure, Option.some.injEq] at read
  obtain ⟨n, -, m, -, rfl⟩ := read
  rfl

theorem kind_of_readFloat {p : Precision} {bytes : List UInt8} {v : Value}
    (read : readFloat? p bytes = some v) : v.kind = some (.float p) := by
  simp only [readFloat?, bind, Option.bind_eq_some_iff, pure, Option.some.injEq] at read
  obtain ⟨n, -, rfl⟩ := read
  rfl

theorem kind_of_readTime {bytes : List UInt8} {v : Value} (read : readTime? bytes = some v) :
    v.kind = some .time := by
  simp only [readTime?, bind, Option.bind_eq_some_iff, pure, Option.some.injEq] at read
  obtain ⟨n, -, t, -, rfl⟩ := read
  rfl

theorem kind_of_readTimestamp {bytes : List UInt8} {v : Value}
    (read : readTimestamp? bytes = some v) : v.kind = some .timestamp := by
  simp only [readTimestamp?, bind, Option.bind_eq_some_iff, pure, Option.some.injEq] at read
  obtain ⟨n, -, t, -, rfl⟩ := read
  rfl

theorem kind_of_readNumeric {bytes : List UInt8} {v : Value} (read : readNumeric bytes = .ok v) :
    v.kind = some .decimal := by
  unfold readNumeric at read
  split at read
  · obtain ⟨d, -, rfl⟩ := map_eq_ok_iff.1 read
    rfl
  · cases read

theorem kind_of_decodePlain {t : ServerType} {bytes : List UInt8} {v : Value}
    (read : decodePlain? t bytes = some v) : v.kind = t.kind := by
  cases t with
  | bool =>
    obtain ⟨n, -, rfl⟩ := Option.map_eq_some_iff.1 read
    rfl
  | char | int2 | int4 | int8 => exact kind_of_readInteger read
  | oid =>
    obtain ⟨n, -, found⟩ := Option.bind_eq_some_iff.1 read
    obtain ⟨m, -, rfl⟩ := Option.map_eq_some_iff.1 found
    rfl
  | float4 | float8 => exact kind_of_readFloat read
  | text | varchar | name | unknown | bpchar =>
    obtain ⟨s, -, rfl⟩ := Option.map_eq_some_iff.1 read
    rfl
  | bytea =>
    cases read
    rfl
  | date =>
    simp only [decodePlain?, bind, Option.bind_eq_some_iff, pure, Option.some.injEq] at read
    obtain ⟨n, -, d, -, rfl⟩ := read
    rfl
  | time => exact kind_of_readTime read
  | timestamp | timestamptz => exact kind_of_readTimestamp read
  | numeric | other => cases read

/-- A value has the kind of its server type. -/
theorem kind_of_decode {t : ServerType} {bytes : List UInt8} {v : Value}
    (decoded : decode t bytes = .ok v) : v.kind = t.kind := by
  unfold decode at decoded
  split at decoded
  · rename_i numeric
    rw [numeric]
    exact kind_of_readNumeric decoded
  · split at decoded
    · cases decoded
      exact kind_of_decodePlain ‹_›
    · cases decoded

/-- A cell of a type that can be read is missing or decoded. -/
theorem readCell_eq_ok {t : ServerType} {column : Nat} {cell : Option (List UInt8)} {v : Value}
    (read : readCell t column cell = .ok v) :
    (cell = none ∧ v = .null) ∨ ∃ bytes, cell = some bytes ∧ decode t bytes = .ok v := by
  unfold readCell at read
  split at read
  · cases read
  · cases read
    exact Or.inl ⟨rfl, rfl⟩
  · split at read
    · cases read
      exact Or.inr ⟨_, rfl, ‹_›⟩
    · cases read
    · cases read

/-- What the value of a cell is handed out as: a text of fixed width as its characters, and any
other value as it is. -/
def ServerType.handedOut : ServerType → Value → Value
  | .bpchar, .text s => .chars s.toList
  | _, v => v

/-- The value of a cell, as it reaches the registry, has the kind that the column type has by
default. -/
theorem handedOut_own {t : ServerType} {v : Value} (kind : v.kind = t.kind)
    (numbered : t.columnType.isOther = false) (name : String) :
    Cursor.padded ⟨name, t.columnType, none⟩ v = t.handedOut v ∧
      ∃ k, t.columnType.defaultTarget = some (.host k) ∧ (t.handedOut v).kind = some k ∧
        k ≠ .blob ∧ k ≠ .clob := by
  cases t with
  | other => cases numbered
  | bpchar =>
    cases v <;> cases kind
    rename_i s
    have unpadded : padTo none s.toList = s.toList := by simp [padTo]
    refine ⟨?_, .chars, rfl, rfl, nofun, nofun⟩
    simp [Cursor.padded, ServerType.columnType, ServerType.handedOut, unpadded]
  | _ =>
    cases v <;> cases kind
    refine ⟨rfl, _, rfl, rfl, nofun, nofun⟩

end Postgres

/-! ## Rows that are received -/

/-- All rows that the source hands out have this property. -/
structure RowSource.Sends (P : Row → Prop) (s : RowSource) : Prop where
  supply : (∃ replies, s.supply = .incoming replies ∧ ∀ row, .ok row ∈ replies → P row) ∨
    s.supply = .spent
  current : ∀ row, s.current = some row → P row

/-- Going to the next row stays with the same columns, and with the same row if it fails. -/
theorem RowSource.Sends.next {P : Row → Prop} {s : RowSource} (sends : s.Sends P) :
    s.next.2.Sends P ∧ s.next.2.columns = s.columns ∧
      match s.next.1 with
      | .ok found => found = true → s.next.2.current ≠ none
      | .error _ => s.next.2.current = s.current := by
  obtain ⟨columns, supply, current⟩ := s
  obtain ⟨⟨replies, rfl, rows⟩ | rfl, reached⟩ := sends
  · cases replies with
    | nil =>
      dsimp only [RowSource.next]
      exact ⟨⟨Or.inr rfl, by simp⟩, rfl, by simp⟩
    | cons reply replies =>
      have later : ∀ row, .ok row ∈ replies → P row := fun row member =>
        rows row (List.mem_cons_of_mem reply member)
      cases reply with
      | error e => exact ⟨⟨Or.inl ⟨replies, rfl, later⟩, reached⟩, rfl, rfl⟩
      | ok row =>
        dsimp only [RowSource.next]
        refine ⟨⟨Or.inl ⟨replies, rfl, later⟩, ?_⟩, rfl, by simp⟩
        intro row' same
        cases same
        exact rows row List.mem_cons_self
  · exact ⟨⟨Or.inr rfl, reached⟩, rfl, rfl⟩

namespace Cursor

variable {S : Type}

/-- A cursor over rows with this property. On a row, there is one. -/
structure Receives (columns : List Column) (registry : Registry) (P : Row → Prop) (c : Cursor S) :
    Prop where
  columns : c.columns = columns
  registry : c.registry = registry
  sends : c.source.Sends P
  onRow : c.state = .onRow → c.source.current ≠ none

variable {columns : List Column} {registry : Registry} {P : Row → Prop}

theorem Receives.advance {c : Cursor S} (receives : c.Receives columns registry P) :
    c.advance.2.Receives columns registry P := by
  have going (asks : c.state = .unopened ∨ c.state = .onRow) :
      c.advance.2.Receives columns registry P := by
    obtain ⟨sends, kept, row⟩ := receives.sends.next
    have same : c.source.next.2.columns = columns := kept.trans receives.columns
    rcases next : c.source.next with ⟨e | found, source⟩
    · rw [next] at sends same row
      rw [advance_of_next_error asks next]
      refine ⟨same, receives.registry, sends, fun onRow => ?_⟩
      show source.current ≠ none
      rw [show source.current = c.source.current from row]
      exact receives.onRow onRow
    · rw [next] at sends same row
      rw [advance_of_next asks next]
      refine ⟨same, receives.registry, sends, fun onRow => row ?_⟩
      cases found with
      | true => rfl
      | false => cases onRow
  cases state : c.state with
  | unopened => exact going (Or.inl state)
  | onRow => exact going (Or.inr state)
  | exhausted | closed =>
    unfold Cursor.advance
    rw [state]
    exact receives

theorem Receives.advanced {c : Cursor S} (receives : c.Receives columns registry P) (asked : Nat) :
    (c.advanced asked).Receives columns registry P := by
  induction asked with
  | zero => exact receives
  | succ asked ih => exact ih.advance

/-! ## Columns whose value fits their type -/

/-- How a column is read whose value in the current row fits its type. -/
structure ReadsTyped (c : Cursor S) (ref : ColumnRef) (i : Nat) (v : Value) : Prop where
  /-- A conversion that the registry has gives something, if the value is in range. -/
  gives : ∀ t, c.registry.isCompatible (c.columnType i) t = true →
    (∀ k, t = .host k → ¬v.Beyond k) → ∀ ss, ∃ x ss', c.getAs ref t ss = (.ok x, ss')
  /-- If it is not, this is what the conversion fails with. -/
  refuses : ∀ k, c.registry.isCompatible (c.columnType i) (.host k) = true → v.Beyond k →
    ∀ ss, ∃ shown, c.getAs ref (.host k) ss =
      (.error (.coercion ⟨c.columnType i, .host k, .failed (.outOfRange shown k)⟩), ss)
  /-- The conversion to the default target gives the value itself. -/
  asDefault : ∀ ss, ∃ x ss', c.getValue ref ss = (.ok x, ss') ∧ (v ≠ .null → x = v ∧ ss' = ss)

theorem standard_default {c : ColumnType} (named : c ≠ .null) (numbered : c.isOther = false) :
    ∃ k, c.defaultTarget = some (.host k) ∧
      Registry.standard.isCompatible c (.host k) = true := by
  cases c with
  | null => exact absurd rfl named
  | other => cases numbered
  | _ => exact ⟨_, rfl, rfl⟩

theorem readsTyped {c : Cursor S} {ref : ColumnRef} {i : Nat} {v : Value}
    (resolved : c.resolve ref = .ok i) (fetched : c.fetch i = .ok v)
    (standard : c.registry = .standard) (named : c.columnType i ≠ .null)
    (numbered : (c.columnType i).isOther = false)
    (own : Registry.OwnValue (c.columnType i) v) : c.ReadsTyped ref i v := by
  obtain ⟨k₀, default, compatible₀⟩ := standard_default named numbered
  by_cases missing : v = .null ∧ c.allowNulls = true
  · obtain ⟨rfl, allowed⟩ := missing
    have null : ∀ {t}, c.registry.isCompatible (c.columnType i) t = true →
        c.coerceColumn i t = pure .null := coerceColumn_null fetched allowed
    refine ⟨?_, fun k _ beyond => beyond.elim, ?_⟩
    · intro t compatible _ ss
      rw [getAs_eq resolved, null compatible]
      exact ⟨_, _, rfl⟩
    · intro ss
      rw [getValue_eq resolved default, null (by rw [standard]; exact compatible₀)]
      exact ⟨_, _, rfl, absurd rfl⟩
  · have settled := Registry.standard_settled named numbered own
    have column : ∀ {t}, c.registry.isCompatible (c.columnType i) t = true →
        c.coerceColumn i t =
          StreamM.mapError .coercion (Registry.standard.coerce v (c.columnType i) t) := by
      intro t compatible
      rw [coerceColumn_coerce fetched missing compatible, standard]
    refine ⟨?_, ?_, ?_⟩
    · intro t compatible within ss
      rw [getAs_eq resolved, column compatible]
      rw [standard] at compatible
      obtain ⟨x, ss', coerced⟩ := settled.gives t compatible within ss
      exact ⟨x, ss', by rw [StreamM.mapError, coerced]⟩
    · intro k compatible beyond ss
      rw [getAs_eq resolved, column compatible]
      rw [standard] at compatible
      obtain ⟨shown, coerced⟩ := settled.refuses k compatible beyond ss
      exact ⟨shown, by rw [StreamM.mapError, coerced]⟩
    · intro ss
      rw [getValue_eq resolved default, column (by rw [standard]; exact compatible₀)]
      obtain rfl | ⟨k, default', kind, -⟩ := own
      · obtain ⟨x, ss', coerced⟩ := settled.gives _ compatible₀ (fun _ _ => id) ss
        exact ⟨x, ss', by rw [StreamM.mapError, coerced], absurd rfl⟩
      · cases default.symm.trans default'
        have coerced := Registry.standard_coerce_default default kind ss
        exact ⟨v, ss, by rw [StreamM.mapError, coerced], fun _ => ⟨rfl, rfl⟩⟩

end Cursor

/-! ## Rows of a statement -/

namespace Postgres

namespace Script

/-- The rows of the script that have one cell for each column. -/
def HasRow (script : Script) (row : Row) : Prop :=
  ∃ cells ∈ script.rows, script.readRow cells = .ok row

theorem hasRow_of_reply {script : Script} {row : Row} (sent : .ok row ∈ script.replies) :
    script.HasRow row := by
  have stored (rows : List (List (Option (List UInt8))))
      (within : ∀ cells ∈ rows, cells ∈ script.rows)
      (member : .ok row ∈ rows.map script.readRow) : script.HasRow row := by
    obtain ⟨cells, found, read⟩ := List.mem_map.1 member
    exact ⟨cells, within cells found, read⟩
  unfold replies at sent
  split at sent
  · rcases List.mem_append.1 sent with sent | sent
    · exact stored _ (fun cells => List.mem_of_mem_take) sent
    · simp at sent
  · exact stored _ (fun cells => id) sent

theorem length_of_readRow {script : Script} {cells : List (Option (List UInt8))} {row : Row}
    (read : script.readRow cells = .ok row) : cells.length = script.columns.length := by
  unfold readRow at read
  split at read
  · assumption
  · cases read

/-- A row of the script is its cells, each read at the type of its column. -/
theorem readRow_getElem? {script : Script} {cells : List (Option (List UInt8))} {row : Row}
    (read : script.readRow cells = .ok row) {i : Nat} {name : String} {t : ServerType}
    {cell : Option (List UInt8)} (column : script.columns[i]? = some (name, t))
    (found : cells[i]? = some cell) : row[i]? = some (readCell t i cell) := by
  unfold readRow at read
  split at read
  · cases read
    have together : (script.columns.zip cells)[i]? = some ((name, t), cell) :=
      List.getElem?_zip_eq_some.2 ⟨column, found⟩
    simp [List.getElem?_mapIdx, together]
  · cases read

end Script

/-! ## Cursors over the rows of a script -/

section

variable {S : Type} {c : Cursor S} {script : Script} {i : Nat} {name : String} {t : ServerType}

/-- A cursor that was just made over the rows that a script sends. -/
theorem receives_replies (script : Script) (statement : Option S) (registry : Registry)
    (allowNulls : Bool) :
    (Cursor.ofSource (.ofReplies script.columnList script.replies) statement registry
      allowNulls).Receives script.columnList registry script.HasRow := by
  refine ⟨rfl, rfl, ⟨Or.inl ⟨script.replies, rfl, ?_⟩, ?_⟩, ?_⟩
  · exact fun row => Script.hasRow_of_reply
  · intro row current
    cases current
  · intro onRow
    cases onRow

theorem column_of_script (columns : c.columns = script.columnList)
    (column : script.columns[i]? = some (name, t)) :
    c.columns[i]? = some ⟨name, t.columnType, none⟩ := by
  rw [columns]
  simp [Script.columnList, column]

theorem columnType_of_script (columns : c.columns = script.columnList)
    (column : script.columns[i]? = some (name, t)) : c.columnType i = t.columnType := by
  unfold Cursor.columnType
  rw [column_of_script columns column]
  rfl

/-- What is fetched from a row is the cell that the server has sent. -/
theorem fetch_of_readRow {cells : List (Option (List UInt8))} {row : Row}
    {cell : Option (List UInt8)} {v : Value} {ref : ColumnRef}
    (columns : c.columns = script.columnList) (current : c.source.current = some row)
    (read : script.readRow cells = .ok row) (column : script.columns[i]? = some (name, t))
    (found : cells[i]? = some cell) (decoded : readCell t i cell = .ok v)
    (resolved : c.resolve ref = .ok i) :
    c.fetch i = .ok (Cursor.padded ⟨name, t.columnType, none⟩ v) := by
  have raw : c.source.value i = .ok v := by
    unfold RowSource.value
    rw [current]
    dsimp only
    rw [Script.readRow_getElem? read column found]
    exact decoded
  rw [Cursor.fetch_eq (Cursor.checkRow_of_resolve resolved), raw, column_of_script columns column]
  rfl

end

/-- **Result rows fit the types of their columns.** A cursor over the rows of a statement is at one
of the rows that the server has sent. A cell of it whose type has a column type of its own and that
is missing or can be decoded is read like this, whether missing values are allowed or not:

* A conversion that the column type has gives something, unless the value is out of the range of the
  kind that is asked for: then it is refused for this reason. No conversion is refused because the
  value has another kind or because the type is not supported.
* The conversion to the default target gives the decoded value itself, a text of fixed width as its
  characters. -/
theorem result_rows_typed {S : Type} (script : Script) (statement : Option S) (allowNulls : Bool)
    (asked : Nat) :
    let c := (Cursor.ofSource (.ofReplies script.columnList script.replies) statement .standard
      allowNulls).advanced asked
    c.state = .onRow →
      ∃ cells ∈ script.rows, cells.length = script.columns.length ∧
        ∀ i name t cell, script.columns[i]? = some (name, t) → cells[i]? = some cell →
          t.columnType.isOther = false →
          c.columnType i = t.columnType ∧
            ∀ v, readCell t i cell = .ok v → ∀ ref, c.resolve ref = .ok i →
              c.ReadsTyped ref i (t.handedOut v) := by
  intro c onRow
  have receives : c.Receives script.columnList .standard script.HasRow :=
    (receives_replies script statement .standard allowNulls).advanced asked
  obtain ⟨row, current⟩ := Option.ne_none_iff_exists'.1 (receives.onRow onRow)
  obtain ⟨cells, sent, read⟩ := receives.sends.current row current
  refine ⟨cells, sent, Script.length_of_readRow read, ?_⟩
  intro i name t cell column found numbered
  have type : c.columnType i = t.columnType := columnType_of_script receives.columns column
  refine ⟨type, ?_⟩
  intro v decoded ref resolved
  have fetched :=
    fetch_of_readRow receives.columns current read column found decoded resolved
  have named : c.columnType i ≠ .null := by
    rw [type]
    cases t <;> nofun
  obtain ⟨-, rfl⟩ | ⟨bytes, -, decoded⟩ := readCell_eq_ok decoded
  · have missing : t.handedOut .null = .null := by cases t <;> rfl
    rw [missing]
    exact Cursor.readsTyped resolved fetched receives.registry named (by rwa [type]) (Or.inl rfl)
  · obtain ⟨handedOut, own⟩ := handedOut_own (kind_of_decode decoded) numbered name
    rw [handedOut] at fetched
    exact Cursor.readsTyped resolved fetched receives.registry named (by rwa [type])
      (Or.inr (by rwa [type]))

/-- A text of fixed width comes as its characters; seventeen bytes are no integer. -/
theorem result_rows_typed_code_and_key :
    let script : Script :=
      { Script.empty with
        columns := [("code", .bpchar), ("key", .bytea)]
        rows := [[some [97, 98], some (List.replicate 17 0)]] }
    let c : Cursor Unit := (Cursor.ofSource (.ofReplies script.columnList script.replies) none
      .standard true).advanced 1
    c.state = .onRow ∧ c.getValue (.label "CODE") .empty = (.ok (.chars ['a', 'b']), .empty) ∧
      ∃ shown, c.getAs (.index 1) (.host (.int .w128)) .empty = (.error (.coercion
        ⟨.varBinary, .host (.int .w128), .failed (.outOfRange shown (.int .w128))⟩), .empty) := by
  intro script c
  obtain ⟨cells, sent, -, reads⟩ := result_rows_typed (S := Unit) script none true 1 rfl
  obtain rfl := List.mem_singleton.1 sent
  refine ⟨rfl, ?_, ?_⟩
  · obtain ⟨-, read⟩ := reads 0 "code" .bpchar _ rfl rfl rfl
    obtain ⟨x, ss', given, same⟩ := (read (.text "ab") rfl (.label "CODE") rfl).asDefault .empty
    obtain ⟨rfl, rfl⟩ := same nofun
    exact given
  · obtain ⟨-, read⟩ := reads 1 "key" .bytea _ rfl rfl rfl
    have long : Value.Beyond (.bytes (List.replicate 17 0)) (.int .w128) := by
      show 16 < (List.replicate 17 (0 : UInt8)).length
      decide
    exact (read (.bytes _) rfl (.index 1) rfl).refuses (.int .w128) rfl long .empty

end Postgres

end SqlAccess
