import SqlAccess.Proofs.Cursor.NullPolicy
import SqlAccess.Proofs.Cursor.Records
import SqlAccess.Proofs.Cursor.Walk
import SqlAccess.Proofs.Registry.Integers
import SqlAccess.Proofs.Registry.KindMismatch

/-!
# Identities and cursors

Identities are read from a result ahead of time, and converted by their own functions. A cursor over
the same result comes to the same cells, one call after the other, and converts them by the same
registry. What is different is left out of the comparison: a cursor fills up fixed-width text, has a
value that stands for a missing one, and does not read a text as a number.

* `identity_advanced`: the identities are the first cells of the rows that the cursor comes to.
* `get_plain_eq_ok_iff`, `asText_eq_ok_iff`, `asInteger_eq_ok_iff`: both read through the registry.
* `asInteger_eq_ok_iff_of_incompatible`: a number that is read from a text.
* `identities_read_as_columns`: all of it.
-/

namespace SqlAccess

/-! ## The same cells -/

namespace RowSource

/-- Going on changes the row, and not the columns. -/
theorem next_columns (s : RowSource) : s.next.2.columns = s.columns := by
  unfold next
  split <;> rfl

theorem size_of_next {s s' : RowSource} (found : s.next = (.ok true, s')) :
    s'.supply.size + 1 = s.supply.size := by
  unfold next at found
  split at found
  · cases found
  · rename_i stored
    cases found
    rw [stored]
    rfl
  · cases found
  · rename_i incoming
    cases found
    rw [incoming]
    rfl
  · cases found
  · cases found
  · cases found

end RowSource

namespace Cursor

variable {S : Type} {c : Cursor S}

theorem advance_keeps (c : Cursor S) :
    c.advance.2.columns = c.columns ∧ c.advance.2.registry = c.registry := by
  have columns := c.source.next_columns
  unfold advance
  split
  · exact ⟨rfl, rfl⟩
  · exact ⟨rfl, rfl⟩
  · rcases next : c.source.next with ⟨e | found, source⟩
    · rw [next] at columns
      exact ⟨columns, rfl⟩
    · rw [next] at columns
      cases found with
      | true => exact ⟨columns, rfl⟩
      | false => exact ⟨columns, rfl⟩

theorem advanced_keeps (c : Cursor S) (asked : Nat) :
    (c.advanced asked).columns = c.columns ∧ (c.advanced asked).registry = c.registry := by
  induction asked with
  | zero => exact ⟨rfl, rfl⟩
  | succ asked ih =>
    obtain ⟨columns, registry⟩ := (c.advanced asked).advance_keeps
    exact ⟨columns.trans ih.1, registry.trans ih.2⟩

theorem advanced_of_exhausted (ended : c.state = .exhausted) (asked : Nat) :
    c.advanced asked = c := by
  have stays : c.advance = (.ok false, c) := by
    unfold advance
    rw [ended]
  induction asked with
  | zero => rfl
  | succ asked ih => rw [advanced_succ, stays, ih]

/-- The first cell of the row that the cursor is at, with the type of its column. -/
def identity (c : Cursor S) : Option (Except Error (ColumnType × Value)) :=
  if c.state = .onRow then some ((c.source.value 0).map fun v => (c.columnType 0, v)) else none

theorem identity_eq_none_iff : c.identity = none ↔ c.state ≠ .onRow := by
  unfold identity
  by_cases onRow : c.state = .onRow
  · rw [if_pos onRow]
    exact iff_of_false nofun (not_not_intro onRow)
  · rw [if_neg onRow]
    exact iff_of_true rfl onRow

theorem identity_eq_some_iff {type : ColumnType} {v : Value} :
    c.identity = some (.ok (type, v)) ↔
      c.state = .onRow ∧ c.source.value 0 = .ok v ∧ c.columnType 0 = type := by
  unfold identity
  by_cases onRow : c.state = .onRow
  · rw [if_pos onRow, Option.some.injEq, map_eq_ok_iff]
    simp only [Prod.mk.injEq]
    grind
  · rw [if_neg onRow]
    exact iff_of_false nofun fun given => onRow given.1

/-- The identities of the rows to come are the first cells of the rows that the cursor comes to, and
it comes to no others. -/
theorem identity_advanced {fuel : Nat} {entries : List (ColumnType × Value)}
    (going : c.state = .unopened ∨ c.state = .onRow) (enough : c.source.supply.size < fuel)
    (read : Identities.ofRows (c.columnType 0) c.source fuel = .ok entries) (j : Nat) :
    (c.advanced (j + 1)).identity = entries[j]?.map .ok := by
  induction fuel generalizing c entries j with
  | zero => exact absurd enough (Nat.not_lt_zero _)
  | succ fuel ih =>
    rw [Identities.ofRows] at read
    rw [advanced_succ]
    rcases next : c.source.next with ⟨e | found, source⟩
    · rw [next] at read
      cases read
    · rw [next] at read
      have advanced := advance_of_next going next
      cases found with
      | false =>
        cases read
        rw [advanced, advanced_of_exhausted rfl]
        rfl
      | true =>
        obtain ⟨v, cell, following⟩ := bind_eq_ok_iff.1 read
        obtain ⟨others, readOthers, same⟩ := bind_eq_ok_iff.1 following
        cases same
        have size := RowSource.size_of_next next
        have moved : c.advance.2.source = source := by rw [advanced]
        have onRow : c.advance.2.state = .onRow := by
          rw [advanced]
          rfl
        have type : c.advance.2.columnType 0 = c.columnType 0 := by
          unfold columnType
          rw [(advance_keeps c).1]
        cases j with
        | zero =>
          show c.advance.2.identity = some (.ok (c.columnType 0, v))
          unfold identity
          rw [if_pos onRow, moved, cell, type]
          rfl
        | succ j =>
          rw [← type, ← moved] at readOthers
          exact ih (.inr onRow) (by rw [moved]; omega) readOthers j

theorem identity_ofSource {source : RowSource} {ids : Identities}
    (reported : Identities.ofSource source = .ok ids) (statement : Option S) (registry : Registry)
    (allowNulls : Bool) (j : Nat) :
    ((ofSource source statement registry allowNulls).advanced (j + 1)).identity =
      ids.entries[j]?.map .ok := by
  unfold Identities.ofSource at reported
  rw [List.head?_eq_getElem?] at reported
  obtain ⟨entries, read, rfl⟩ := map_eq_ok_iff.1 reported
  exact identity_advanced (c := ofSource source statement registry allowNulls) (.inl rfl)
    (Nat.lt_succ_self _) read j

/-! ## Reads of a cursor -/

/-- A value that is there is read as a plain host type if it is converted to a value of its kind. -/
theorem get_plain_eq_ok_iff {ref : ColumnRef} {i : Nat} (resolved : c.resolve ref = .ok i)
    {raw : Value} (fetched : c.fetch i = .ok raw) (present : raw ≠ .null) {k : Kind} {v : Value}
    {ss ss' : Streams} :
    c.get ref ⟨k, false⟩ ss = (.ok v, ss') ↔
      c.registry.coerce raw (c.columnType i) (.host k) ss = (.ok v, ss') ∧ v.kind = some k := by
  have accepts : (⟨k, false⟩ : HostType).accepts v = true ↔ v.kind = some k := by
    unfold HostType.accepts
    cases v.kind with
    | none => exact iff_of_false nofun nofun
    | some k' => exact beq_iff_eq.trans (Option.some_inj).symm
  rw [get_eq_ok_iff resolved, accepts]
  refine and_congr_left fun _ => ?_
  cases compatible : c.registry.isCompatible (c.columnType i) (.host k) with
  | true =>
    rw [coerceColumn_coerce fetched (fun missing => present missing.1) compatible,
      StreamM.mapError_run_eq_ok_iff]
  | false =>
    have unregistered : c.registry.converter (c.columnType i) (.host k) = none :=
      Option.not_isSome_iff_eq_none.1 (ne_true_of_eq_false compatible)
    rw [coerceColumn_unsupported compatible,
      Registry.coerce_of_not_isNull (Value.isNull_of_ne_null present), Registry.apply, unregistered]
    exact iff_of_false nofun nofun

end Cursor

/-! ## Texts as numbers -/

/-- The text is a decimal integer, with an optional sign and with blanks around it, and this is the
number. -/
def Text.Denotes (s : String) (n : Int) : Prop :=
  ∃ front middle back, s.toList = front ++ middle ++ back ∧ allBlank front = true ∧
    Digits.Spells middle n ∧ allBlank back = true

/-- What an integer is written as has no blanks to cut off. -/
theorem Text.denotes_ofInt_iff {m n : Int} :
    Denotes (String.ofList (Digits.ofInt m)) n ↔ n = m := by
  have spells := Digits.spells_ofInt m
  obtain ⟨some_char, solid⟩ := solid_of_spells spells
  have trimmed : trim (Digits.ofInt m) = Digits.ofInt m := by
    have cut := @trim_append [] _ [] rfl some_char solid rfl
    rwa [List.append_nil] at cut
  unfold Denotes
  rw [String.toList_ofList, ← spells_trim_iff, trimmed, ← Digits.toInt?_eq_some_iff,
    Digits.toInt?_ofInt, Option.some.injEq, eq_comm]

namespace Identities

theorem parseInteger_eq_some_iff {s : String} {n : Signed 64} :
    parseInteger s = some n ↔ Text.Denotes s n.val := by
  unfold parseInteger Text.Denotes
  simp only [Option.bind_eq_some_iff, Digits.toInt?_eq_some_iff, Signed.ofInt?_eq_some_iff]
  rw [exists_eq_right', Text.spells_trim_iff]

/-! ## Reads of an identity -/

variable {ids : Identities} {r : Registry} {i : Nat} {c : ColumnType} {v : Value} {s : String}
  {n : Signed 64} {ss ss' : Streams}

theorem present_null (found : ids.entries[i]? = some (c, .null)) (t : Target) :
    ids.present i t = .error (.coercion ⟨c, t, .nullIdentity⟩) := by
  unfold present entry
  rw [found]
  rfl

theorem present_of_ne_null (found : ids.entries[i]? = some (c, v)) (there : v ≠ .null)
    (t : Target) : ids.present i t = .ok (c, v) := by
  unfold present entry
  rw [found]
  exact if_neg (mt Value.isNull_eq_true_iff.1 there)

theorem asText_null (found : ids.entries[i]? = some (c, .null)) :
    ids.asText r i ss = (.error (.coercion ⟨c, .host .text, .nullIdentity⟩), ss) := by
  unfold asText
  rw [present_null found]
  rfl

theorem asInteger_null (found : ids.entries[i]? = some (c, .null)) :
    ids.asInteger r i ss = (.error (.coercion ⟨c, .host (.int .w64), .nullIdentity⟩), ss) := by
  unfold asInteger
  rw [present_null found]
  rfl

theorem asText_eq_ok_iff (found : ids.entries[i]? = some (c, v)) (there : v ≠ .null) :
    ids.asText r i ss = (.ok s, ss') ↔
      r.coerce v c (.host .text) ss = (.ok (.text s), ss') := by
  unfold asText
  rw [present_of_ne_null found there]
  dsimp only
  simp only [bind_run_eq_ok_iff, StreamM.mapError_run_eq_ok_iff]
  constructor
  · intro ⟨w, ss₁, converted, read⟩
    split at read
    · cases read
      exact converted
    · cases read
  · intro converted
    exact ⟨_, _, converted, rfl⟩

theorem asInteger_eq_ok_iff (found : ids.entries[i]? = some (c, v)) (there : v ≠ .null)
    (compatible : r.isCompatible c (.host (.int .w64)) = true) :
    ids.asInteger r i ss = (.ok n, ss') ↔
      r.coerce v c (.host (.int .w64)) ss = (.ok (.int .w64 n), ss') := by
  unfold asInteger
  rw [present_of_ne_null found there]
  dsimp only
  rw [if_pos compatible]
  simp only [bind_run_eq_ok_iff, StreamM.mapError_run_eq_ok_iff]
  constructor
  · intro ⟨w, ss₁, converted, read⟩
    cases w with
    | int w' m =>
      cases w' with
      | w64 =>
        cases read
        exact converted
      | _ => cases read
    | _ => cases read
  · intro converted
    exact ⟨_, _, converted, rfl⟩

/-- Without a conversion to numbers, the number is that of the text. -/
theorem asInteger_eq_ok_iff_of_incompatible (found : ids.entries[i]? = some (c, v))
    (there : v ≠ .null) (incompatible : r.isCompatible c (.host (.int .w64)) = false) :
    ids.asInteger r i ss = (.ok n, ss') ↔
      ∃ s, ids.asText r i ss = (.ok s, ss') ∧ Text.Denotes s n.val := by
  have fallback : ¬r.isCompatible c (.host (.int .w64)) = true := by
    rw [incompatible]
    exact Bool.false_ne_true
  simp only [← parseInteger_eq_some_iff]
  unfold asInteger
  rw [present_of_ne_null found there]
  dsimp only
  rw [if_neg fallback]
  simp only [bind_run_eq_ok_iff]
  constructor
  · intro ⟨s, ss₁, text, read⟩
    cases parsed : parseInteger s with
    | some m =>
      rw [parsed] at read
      cases read
      exact ⟨s, text, parsed⟩
    | none =>
      rw [parsed] at read
      cases read
  · intro ⟨s, text, parsed⟩
    refine ⟨s, ss', text, ?_⟩
    rw [parsed]
    rfl

end Identities

/-! ## Integer columns -/

namespace Registry

variable {c : ColumnType} {widest : Width} {v : Value} {ss ss' : Streams}

theorem isCompatible_int64 (type : c.integerWidth = some widest) :
    standard.isCompatible c (.host (.int .w64)) = true := by
  cases c with
  | bigInt | integer | smallInt | tinyInt => rfl
  | _ => cases type

theorem coerce_int64_eq_ok_iff (type : c.integerWidth = some widest) (there : v ≠ .null)
    {n : Signed 64} :
    standard.coerce v c (.host (.int .w64)) ss = (.ok (.int .w64 n), ss') ↔
      Standard.readInteger widest v = .ok n.val ∧ ss = ss' := by
  have isNull := Value.isNull_of_ne_null there
  rw [standard_coerce_pure (cell_int_of_compatible type (isCompatible_int64 type)) isNull,
    StreamM.ofExcept_run_eq_ok_iff, mapError_eq_ok_iff, bind_eq_ok_iff]
  simp only [Standard.intoInteger_eq_ok_iff]
  refine and_congr_left fun _ => ?_
  constructor
  · intro ⟨m, read, n', value, same⟩
    cases same
    rw [read, value]
  · intro read
    exact ⟨n.val, read, n, rfl, rfl⟩

theorem coerce_int_text_eq_ok_iff (type : c.integerWidth = some widest) (there : v ≠ .null)
    {s : String} :
    standard.coerce v c (.host .text) ss = (.ok (.text s), ss') ↔
      (∃ m, Standard.readInteger widest v = .ok m ∧ s = String.ofList (Digits.ofInt m)) ∧
        ss = ss' := by
  have found : Standard.cell c .text = some (Standard.pureCell (Standard.readInteger widest) _) :=
    congrFun (Standard.cell_of_integerWidth type) _
  have isNull := Value.isNull_of_ne_null there
  rw [standard_coerce_pure found isNull, StreamM.ofExcept_run_eq_ok_iff, mapError_eq_ok_iff,
    bind_eq_ok_iff]
  simp only [Except.ok.injEq, Value.text.injEq, eq_comm (b := s)]

/-- An integer column gives a number where it gives the numeral. -/
theorem coerce_int64_iff_text (type : c.integerWidth = some widest) (there : v ≠ .null)
    {n : Signed 64} :
    standard.coerce v c (.host (.int .w64)) ss = (.ok (.int .w64 n), ss') ↔
      ∃ s, standard.coerce v c (.host .text) ss = (.ok (.text s), ss') ∧
        Text.Denotes s n.val := by
  simp only [coerce_int64_eq_ok_iff type there, coerce_int_text_eq_ok_iff type there]
  constructor
  · intro ⟨read, same⟩
    exact ⟨_, ⟨⟨n.val, read, rfl⟩, same⟩, Text.denotes_ofInt_iff.2 rfl⟩
  · intro ⟨s, ⟨⟨m, read, written⟩, same⟩, denotes⟩
    rw [written, Text.denotes_ofInt_iff] at denotes
    rw [denotes]
    exact ⟨read, same⟩

end Registry

/-! ## The comparison -/

namespace Identities

variable {S : Type} {ids : Identities} {i : Nat} {cursor : Cursor S} {c : ColumnType} {v : Value}

/-- An identity is read like the first column of the row that a cursor is at: as a text, and as a
number if the registry converts the type of the column to numbers. -/
structure ReadsLike (ids : Identities) (r : Registry) (i : Nat) (type : ColumnType)
    (cursor : Cursor S) : Prop where
  asText : ∀ s ss ss', ids.asText r i ss = (.ok s, ss') ↔
    cursor.get (.index 0) ⟨.text, false⟩ ss = (.ok (.text s), ss')
  asInteger : r.isCompatible type (.host (.int .w64)) = true →
    ∀ n ss ss', ids.asInteger r i ss = (.ok n, ss') ↔
      cursor.get (.index 0) ⟨.int .w64, false⟩ ss = (.ok (.int .w64 n), ss')

/-- So it is if it is the first cell, and there is nothing to fill up. -/
theorem readsLike {first : Column} (found : ids.entries[i]? = some (c, v)) (there : v ≠ .null)
    (column : cursor.columns[0]? = some first) (notChar : c ≠ .char)
    (identity : cursor.identity = some (.ok (c, v))) :
    ids.ReadsLike cursor.registry i c cursor := by
  obtain ⟨onRow, value, rfl⟩ := Cursor.identity_eq_some_iff.1 identity
  have type : cursor.columnType 0 = first.type := by
    unfold Cursor.columnType
    rw [column]
    rfl
  have resolved : cursor.resolve (.index 0) = .ok 0 :=
    Cursor.resolve_index onRow (List.getElem?_eq_some_iff.1 column).1
  have fetched : cursor.fetch 0 = .ok v := by
    rw [Cursor.fetch_eq (Cursor.checkRow_eq onRow), value, column]
    exact congrArg Except.ok (Cursor.padded_of_ne_char (type ▸ notChar) v)
  constructor
  · intro s ss ss'
    rw [asText_eq_ok_iff found there, Cursor.get_plain_eq_ok_iff resolved fetched there]
    exact (and_iff_left rfl).symm
  · intro compatible n ss ss'
    rw [asInteger_eq_ok_iff found there compatible,
      Cursor.get_plain_eq_ok_iff resolved fetched there]
    exact (and_iff_left rfl).symm

/-- An identity of an integer column is a number where its text is one, and so is an identity whose
type is not converted to numbers. -/
theorem asInteger_eq_ok_iff_text {r : Registry} (found : ids.entries[i]? = some (c, v))
    (type : r.isCompatible c (.host (.int .w64)) = false ∨
      r = .standard ∧ c.integerWidth.isSome = true)
    {n : Signed 64} {ss ss' : Streams} :
    ids.asInteger r i ss = (.ok n, ss') ↔
      ∃ s, ids.asText r i ss = (.ok s, ss') ∧ Text.Denotes s n.val := by
  by_cases missing : v = .null
  · rw [missing] at found
    rw [asInteger_null found, asText_null found]
    exact iff_of_false nofun nofun
  · rcases type with incompatible | ⟨rfl, integers⟩
    · exact asInteger_eq_ok_iff_of_incompatible found missing incompatible
    · obtain ⟨widest, type⟩ := Option.isSome_iff_exists.1 integers
      rw [asInteger_eq_ok_iff found missing (Registry.isCompatible_int64 type),
        Registry.coerce_int64_iff_text type missing]
      simp only [asText_eq_ok_iff found missing]

end Identities

/-- **Identities are read like columns.** Let identities be reported by a result, whose first column
is not of fixed-width text. Each of them is the first cell of a row; a cursor over the result is at
this row after as many calls, and is at no other rows. Unless the cell is missing, the cursor and
the identity give the same text from the same streams, and the same number if the registry converts
the type to numbers.

If it does not, an identity is a number exactly if its text, between blanks, is a decimal integer
that is this number. The same holds of the integer columns through the standard registry, which does
convert them. A missing identity is neither a text nor a number, whatever the registry. -/
theorem identities_read_as_columns (r : Registry) (ids : Identities) (i : Nat) :
    (∀ (S : Type) (source : RowSource) (statement : Option S) (allowNulls : Bool) (first : Column),
      source.columns.head? = some first → Identities.ofSource source = .ok ids →
        let cursor := (Cursor.ofSource source statement r allowNulls).advanced (i + 1)
        (cursor.state = .onRow ↔ i < ids.entries.length) ∧
          ∀ c v, ids.entries[i]? = some (c, v) →
            c = first.type ∧ cursor.source.value 0 = .ok v ∧
              (c ≠ .char → v ≠ .null → ids.ReadsLike r i c cursor)) ∧
    ∀ c v, ids.entries[i]? = some (c, v) →
      (r.isCompatible c (.host (.int .w64)) = false ∨
          r = .standard ∧ c.integerWidth.isSome = true →
        ∀ n ss ss', ids.asInteger r i ss = (.ok n, ss') ↔
          ∃ s, ids.asText r i ss = (.ok s, ss') ∧ Text.Denotes s n.val) ∧
      (v = .null → ∀ ss,
        ids.asText r i ss = (.error (.coercion ⟨c, .host .text, .nullIdentity⟩), ss) ∧
          ids.asInteger r i ss =
            (.error (.coercion ⟨c, .host (.int .w64), .nullIdentity⟩), ss)) := by
  constructor
  · intro S source statement allowNulls first head reported cursor
    have identity : cursor.identity = ids.entries[i]?.map .ok :=
      Cursor.identity_ofSource reported statement r allowNulls i
    obtain ⟨columns, registry⟩ : cursor.columns = source.columns ∧ cursor.registry = r :=
      Cursor.advanced_keeps (.ofSource source statement r allowNulls) (i + 1)
    have column : cursor.columns[0]? = some first := by
      rw [columns, ← List.head?_eq_getElem?, head]
    constructor
    · rw [← not_iff_not, ← ne_eq, ← Cursor.identity_eq_none_iff, identity,
        Option.map_eq_none_iff, List.getElem?_eq_none_iff, Nat.not_lt]
    · intro c v found
      rw [found] at identity
      obtain ⟨-, value, type⟩ := Cursor.identity_eq_some_iff.1 identity
      refine ⟨?_, value, fun notChar there => ?_⟩
      · rw [← type, Cursor.columnType, column]
        rfl
      · rw [← registry]
        exact Identities.readsLike found there column notChar identity
  · intro c v found
    refine ⟨fun type n ss ss' => Identities.asInteger_eq_ok_iff_text found type, ?_⟩
    intro missing ss
    rw [missing] at found
    exact ⟨Identities.asText_null found, Identities.asInteger_null found⟩

/-- An identity of a text column: a number between blanks, and the same text in the first row. The
other identity is missing. -/
theorem identities_read_as_columns_text :
    let source : RowSource := .ofValues [⟨"id", .varChar, none⟩] [[.text " +42 "], [.null]]
    let ids : Identities := ⟨[(.varChar, .text " +42 "), (.varChar, .null)]⟩
    let cursor : Cursor Unit := (Cursor.ofSource source none .standard true).advanced 1
    Identities.ofSource source = .ok ids ∧ cursor.state = .onRow ∧
      ids.asText .standard 0 .empty = (.ok " +42 ", .empty) ∧
      cursor.get (.index 0) ⟨.text, false⟩ .empty = (.ok (.text " +42 "), .empty) ∧
      ids.asInteger .standard 0 .empty = (.ok (.clamp 64 42), .empty) ∧
      ids.asInteger .standard 1 .empty =
        (.error (.coercion ⟨.varChar, .host (.int .w64), .nullIdentity⟩), .empty) := by
  intro source ids cursor
  have reported : Identities.ofSource source = .ok ids := rfl
  have text : ids.asText .standard 0 .empty = (.ok " +42 ", .empty) := rfl
  have denotes : Text.Denotes " +42 " (Signed.clamp 64 42).val :=
    ⟨[' '], ['+', '4', '2'], [' '], by decide, by decide,
      Digits.toInt?_eq_some_iff.1 (by decide), by decide⟩
  obtain ⟨cursors, first⟩ := identities_read_as_columns .standard ids 0
  obtain ⟨row, reads⟩ := cursors Unit source none true ⟨"id", .varChar, none⟩ rfl reported
  obtain ⟨-, -, like⟩ := reads .varChar (.text " +42 ") rfl
  obtain ⟨-, second⟩ := identities_read_as_columns .standard ids 1
  refine ⟨reported, row.2 (by decide), text, ((like nofun nofun).asText _ _ _).1 text, ?_,
    ((second .varChar .null rfl).2 rfl .empty).2⟩
  exact ((first .varChar _ rfl).1 (.inl rfl) _ _ _).2 ⟨_, text, denotes⟩

end SqlAccess
