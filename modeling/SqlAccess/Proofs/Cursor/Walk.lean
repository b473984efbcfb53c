import SqlAccess.Proofs.Cursor.Reads

/-!
# Walking over a stored result

A cursor keeps its state beside the row source, which keeps the rows to come and the current one.
`Asked` says how they stand to each other after so many calls of `advance`; `SameRow` says on what
a read depends: on the current row, and not on the rows before or after it.

* `advanced`: the cursor after so many calls of `advance`.
* `Asked.advance`: going on answers whether there is another row, and keeps them in step.
* `Asked.sameRow`: on a row, the cursor reads as one over a result of just that row.
* `IsClosed`: a closed cursor stays as it is.
-/

namespace SqlAccess

/-- The state of a cursor over `rows` rows that was asked for one `asked` times. -/
def CursorState.after (rows asked : Nat) : CursorState :=
  if asked = 0 then .unopened else if asked ≤ rows then .onRow else .exhausted

theorem CursorState.after_succ (rows asked : Nat) :
    CursorState.after rows (asked + 1) = if asked + 1 ≤ rows then .onRow else .exhausted :=
  if_neg (Nat.succ_ne_zero asked)

namespace Cursor

variable {S : Type} {c d : Cursor S}

/-! ## On what a read depends -/

/-- The cursors are at the same row, and read it in the same way. -/
structure SameRow (c d : Cursor S) : Prop where
  columns : c.source.columns = d.source.columns
  current : c.source.current = d.source.current
  registry : c.registry = d.registry
  allowNulls : c.allowNulls = d.allowNulls
  state : c.state = d.state

namespace SameRow

variable (same : SameRow c d)
include same

theorem checkRow : c.checkRow = d.checkRow := by
  unfold Cursor.checkRow
  rw [same.state]

theorem columnType (i : Nat) : c.columnType i = d.columnType i := by
  unfold Cursor.columnType Cursor.columns
  rw [same.columns]

theorem fetch (i : Nat) : c.fetch i = d.fetch i := by
  unfold Cursor.fetch Cursor.columns RowSource.value
  rw [same.checkRow, same.columns, same.current]

theorem sameColumns : SameColumns c d := by
  refine ⟨same.checkRow, same.columns, fun i t => ?_, fun i => ?_⟩
  · rw [same.registry, same.columnType]
  · exact coerceColumn_congr same.registry same.allowNulls (same.columnType i) (same.fetch i)

end SameRow

/-! ## Outside a row -/

theorem getRecord_of_state_ne (outside : c.state ≠ .onRow) (fields : List Field)
    (reads : List HostType) : c.getRecord fields reads = throw (.cursor c.state) := by
  funext ss
  unfold getRecord checkRow
  rw [if_neg outside, bind_run]
  rfl

/-! ## Going on -/

/-- The cursor after so many calls of `advance`. -/
def advanced (c : Cursor S) : Nat → Cursor S
  | 0 => c
  | asked + 1 => (c.advanced asked).advance.2

theorem advanced_succ (c : Cursor S) (asked : Nat) :
    c.advanced (asked + 1) = c.advance.2.advanced asked := by
  induction asked with
  | zero => rfl
  | succ asked ih => exact congrArg (fun d => d.advance.2) ih

/-- The row that the last of `asked` calls has reached, if there is one. -/
def reached (rows : List (List Value)) : Nat → Option Row
  | 0 => none
  | j + 1 => (rows[j]?).map fun row => row.map .ok

/-- The cursor goes over these rows and was asked for one `asked` times. -/
structure Asked (columns : List Column) (rows : List (List Value)) (registry : Registry)
    (allowNulls : Bool) (asked : Nat) (c : Cursor S) : Prop where
  source : c.source =
    ⟨columns, .stored ((rows.drop asked).map fun row => row.map .ok), reached rows asked⟩
  registry : c.registry = registry
  allowNulls : c.allowNulls = allowNulls
  state : c.state = .after rows.length asked

variable {columns : List Column} {rows : List (List Value)} {registry : Registry}
  {allowNulls : Bool} {asked : Nat}

theorem Asked.start (statement : Option S) :
    Asked columns rows registry allowNulls 0
      (.ofSource (.ofValues columns rows) statement registry allowNulls) := by
  exact ⟨rfl, rfl, rfl, rfl⟩

/-- Rows at hand go on like a list. -/
theorem next_stored (columns : List Column) (rows : List (List Value)) (asked : Nat)
    (current : Option Row) :
    RowSource.next ⟨columns, .stored ((rows.drop asked).map fun row => row.map .ok), current⟩ =
      (.ok (decide (asked + 1 ≤ rows.length)),
        ⟨columns, .stored ((rows.drop (asked + 1)).map fun row => row.map .ok),
          reached rows (asked + 1)⟩) := by
  by_cases more : asked + 1 ≤ rows.length
  · rw [List.drop_eq_getElem_cons more, reached, List.getElem?_eq_getElem more, decide_eq_true more]
    rfl
  · have done : rows.length ≤ asked := Nat.le_of_not_lt more
    rw [List.drop_eq_nil_of_le done, List.drop_eq_nil_of_le (Nat.le_succ_of_le done), reached,
      List.getElem?_eq_none done, decide_eq_false more]
    rfl

/-- A cursor that is not at its end does what its row source does. -/
theorem advance_of_next {found : Bool} {source : RowSource}
    (going : c.state = .unopened ∨ c.state = .onRow) (next : c.source.next = (.ok found, source)) :
    c.advance =
      (.ok found, { c with source := source, state := if found then .onRow else .exhausted }) := by
  unfold Cursor.advance
  obtain state | state := going
  all_goals
    rw [state]
    dsimp only
    rw [next]
    cases found <;> rfl

theorem advance_of_next_error {e : Error} {source : RowSource}
    (going : c.state = .unopened ∨ c.state = .onRow) (next : c.source.next = (.error e, source)) :
    c.advance = (.error e, { c with source := source }) := by
  unfold Cursor.advance
  obtain state | state := going
  all_goals
    rw [state]
    dsimp only
    rw [next]

theorem Asked.advance (asks : Asked columns rows registry allowNulls asked c) :
    c.advance.1 = .ok (decide (asked + 1 ≤ rows.length)) ∧
      Asked columns rows registry allowNulls (asked + 1) c.advance.2 := by
  have going (state : c.state = .unopened ∨ c.state = .onRow) :
      c.advance.1 = .ok (decide (asked + 1 ≤ rows.length)) ∧
        Asked columns rows registry allowNulls (asked + 1) c.advance.2 := by
    have next := next_stored columns rows asked (reached rows asked)
    rw [← asks.source] at next
    rw [advance_of_next state next]
    refine ⟨rfl, rfl, asks.registry, asks.allowNulls, ?_⟩
    rw [CursorState.after_succ]
    simp only [decide_eq_true_eq]
  have state := asks.state
  unfold CursorState.after at state
  split at state
  · exact going (Or.inl state)
  · split at state
    · exact going (Or.inr state)
    · -- at its end the cursor does not ask its row source again
      have beyond : rows.length < asked := Nat.lt_of_not_le ‹_›
      have ended : c.advance = (.ok false, c) := by
        unfold Cursor.advance
        rw [state]
      rw [ended, decide_eq_false (by omega)]
      refine ⟨rfl, ?_, asks.registry, asks.allowNulls, ?_⟩
      · obtain ⟨j, rfl⟩ : ∃ j, asked = j + 1 := ⟨asked - 1, by omega⟩
        rw [asks.source, List.drop_eq_nil_of_le (by omega), List.drop_eq_nil_of_le (by omega),
          reached, reached, List.getElem?_eq_none (by omega), List.getElem?_eq_none (by omega)]
      · rw [state, CursorState.after_succ, if_neg (by omega)]

/-- On a row, the cursor is at the row that the last call has reached. -/
theorem Asked.onRow (asks : Asked columns rows registry allowNulls asked c)
    (state : c.state = .onRow) :
    ∃ row, rows[asked - 1]? = some row ∧ c.source.current = some (row.map .ok) := by
  rw [asks.state] at state
  unfold CursorState.after at state
  split at state
  · cases state
  · split at state
    · obtain ⟨j, rfl⟩ : ∃ j, asked = j + 1 := ⟨asked - 1, by omega⟩
      have found : rows[j]? = some rows[j] := List.getElem?_eq_getElem (by omega)
      refine ⟨rows[j], found, ?_⟩
      rw [asks.source, reached, found]
      rfl
    · cases state

/-- It reads that row as a cursor over a result of that row alone does. -/
theorem Asked.sameRow (asks : Asked columns rows registry allowNulls asked c)
    (state : c.state = .onRow) {row : List Value}
    (current : c.source.current = some (row.map .ok)) :
    SameRow c (Cursor.ofSource (.ofValues columns [row]) none registry allowNulls).advance.2 := by
  refine ⟨?_, current, asks.registry, asks.allowNulls, state⟩
  rw [asks.source]
  rfl

/-! ## Closing -/

/-- Closing the cursor changes nothing any more. -/
def IsClosed (c : Cursor S) : Prop := c.close = (none, c)

theorem isClosed_close (c : Cursor S) : IsClosed c.close.2 := rfl

theorem IsClosed.state (closed : IsClosed c) : c.state = .closed := by
  have same : c.close.2 = c := congrArg Prod.snd closed
  rw [← same]
  rfl

theorem IsClosed.advance (closed : IsClosed c) : c.advance = (.error (.cursor .closed), c) := by
  unfold Cursor.advance
  rw [closed.state]

end Cursor

end SqlAccess
