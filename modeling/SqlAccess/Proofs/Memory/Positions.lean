import Mathlib.Data.List.Sort
import SqlAccess.Proofs.Database.Setters

/-!
# The positions of a statement in memory

The parameters of a statement are kept in a list in the order of their positions, whatever the order
in which they were set. An execution notes their values in this order.

* `keepsValues`: what the calls on a statement do to the values.
* `notesInOrder`: what an execution notes.
* `runAlike`: the values are all that matters to an execution.
-/

namespace SqlAccess.Memory

variable {sql : String} {keys : Keys}

/-- An execution notes the values of these positions, in the order of the positions. -/
def NotesInOrder (sql : String) (keys : Keys) (values : Nat → Option Value) (s : Statement) :
    Prop :=
  ∃ positions : List Nat, positions.Pairwise (· < ·) ∧
    (∀ position, position ∈ positions ↔ (values position).isSome) ∧
      ∀ server : Server,
        (Database.query s server).2.recorded =
            server.recorded ++ [⟨sql, positions.filterMap values, keys⟩] ∧
          (Database.update s server).2.recorded =
            server.recorded ++ [⟨sql, positions.filterMap values, keys⟩]

/-- A statement of this text that is still open, with its parameters in order. -/
structure InUse (sql : String) (keys : Keys) (s : Statement) : Prop where
  sql_eq : s.sql = sql
  keys_eq : s.keys = keys
  isOpen : s.closed = false
  ascending : s.params.Pairwise fun a b => a.1 < b.1

/-! ## Looking up a position -/

/-- The value of a position. -/
def valueAt (s : Statement) (position : Nat) : Option Value := List.lookup position s.params

theorem lookup_cons_eq (q p : Nat) (w : Value) (rest : List (Nat × Value)) :
    List.lookup q ((p, w) :: rest) = if q = p then some w else List.lookup q rest := by
  rw [List.lookup_cons]
  by_cases here : q = p
  · rw [if_pos here, beq_iff_eq.2 here]
  · rw [if_neg here, beq_false_of_ne here]

theorem lookup_setParam (position q : Nat) (v : Value) (params : List (Nat × Value)) :
    List.lookup q (setParam position v params) =
      if q = position then some v else List.lookup q params := by
  fun_induction setParam position v params with
  | case1 => exact lookup_cons_eq q position v []
  | case2 p w rest before => exact lookup_cons_eq q position v _
  | case3 w rest =>
    rw [lookup_cons_eq, lookup_cons_eq]
    split
    · rfl
    · rfl
  | case4 p w rest notBefore other ih =>
    rw [lookup_cons_eq, lookup_cons_eq, ih]
    by_cases here : q = p
    · rw [if_pos here, if_pos here, if_neg fun set => other (set.symm.trans here)]
    · rw [if_neg here, if_neg here]

theorem lookup_of_mem {params : List (Nat × Value)}
    (ascending : params.Pairwise fun a b => a.1 < b.1) {p : Nat × Value} (mem : p ∈ params) :
    List.lookup p.1 params = some p.2 := by
  induction params with
  | nil => cases mem
  | cons q params ih =>
    obtain ⟨before, ordered⟩ := List.pairwise_cons.1 ascending
    rw [lookup_cons_eq]
    rcases List.mem_cons.1 mem with here | later
    · rw [here, if_pos rfl]
    · rw [if_neg (Nat.ne_of_gt (before p later))]
      exact ih ordered later

/-- The parameters are the values of their positions. -/
theorem filterMap_positions {s : Statement}
    (ascending : s.params.Pairwise fun a b => a.1 < b.1) :
    (s.params.map (·.1)).filterMap (valueAt s) = s.params.map (·.2) := by
  rw [List.filterMap_map, ← List.filterMap_eq_map, List.filterMap_congr]
  intro p mem
  exact lookup_of_mem ascending mem

theorem mem_positions (s : Statement) (position : Nat) :
    position ∈ s.params.map (·.1) ↔ (valueAt s position).isSome := by
  unfold valueAt
  rw [List.lookup_isSome_iff, List.mem_map]
  constructor
  · intro ⟨p, mem, here⟩
    exact ⟨p, mem, beq_iff_eq.2 here.symm⟩
  · intro ⟨p, mem, here⟩
    exact ⟨p, mem, (beq_iff_eq.1 here).symm⟩

/-! ## Calls and executions -/

theorem set_isOk_iff (s : Statement) (position : Nat) (v : Value) (ss : Streams) :
    (Database.set Server s position v ss).1.isOk = true ↔ 1 ≤ position := by
  show (s.set position v ss).1.isOk = true ↔ _
  cases position with
  | zero =>
    constructor
    · intro accepted
      cases accepted
    · intro positive
      exact absurd positive (Nat.not_succ_le_zero 0)
  | succ position =>
    rw [set_run (Nat.succ_ne_zero position)]
    exact iff_of_true rfl (Nat.succ_pos position)

theorem keepsValues :
    KeepsValues Server (fun _ v => v) (InUse sql keys) valueAt := by
  constructor
  · intro s s' p v ss inUse accepted
    have positive : p ≠ 0 := Nat.ne_of_gt ((set_isOk_iff s p v ss).1 (by rw [accepted]; rfl))
    change (s.set p v ss).1 = .ok s' at accepted
    rw [set_run positive] at accepted
    cases accepted
    refine ⟨⟨inUse.sql_eq, inUse.keys_eq, inUse.isOpen, setParam_pairwise inUse.ascending⟩, ?_⟩
    intro position
    exact (lookup_setParam p position v s.params).trans (if_congr eq_comm rfl rfl)
  · intro s s' server count inUse ran
    rw [update_run] at ran
    obtain ⟨response, -, updated⟩ := map_eq_ok_iff.1 ran
    cases updated
    exact ⟨⟨inUse.sql_eq, inUse.keys_eq, inUse.isOpen, inUse.ascending⟩, rfl⟩
  · intro s inUse
    exact ⟨⟨inUse.sql_eq, inUse.keys_eq, inUse.isOpen, inUse.ascending⟩, rfl⟩

theorem note_eq {s : Statement} (inUse : InUse sql keys s) :
    s.note = ⟨sql, (s.params.map (·.1)).filterMap (valueAt s), keys⟩ := by
  rw [Statement.note, filterMap_positions inUse.ascending, inUse.sql_eq, inUse.keys_eq]

theorem notesInOrder {s : Statement} (inUse : InUse sql keys s) :
    NotesInOrder sql keys (valueAt s) s := by
  refine ⟨s.params.map (·.1), List.pairwise_map.2 inUse.ascending, mem_positions s, ?_⟩
  intro server
  have executed := congrArg Exchange.recorded (s.execute_run inUse.isOpen server).2
  rw [note_eq inUse] at executed
  constructor
  · rw [query_run]
    exact executed
  · rw [update_run]
    exact executed

/-- What an execution notes is all that matters to it. -/
theorem runAlike_of_note_eq {s s' : Statement} (isOpen : s.closed = false)
    (isOpen' : s'.closed = false) (same : s.note = s'.note) : RunAlike Server s s' := by
  have executed (server : Server) : s.execute server = s'.execute server := by
    obtain ⟨sql_eq, params_eq, keys_eq⟩ := Recorded.mk.inj same
    unfold Statement.execute
    rw [isOpen, isOpen', sql_eq, params_eq, keys_eq]
  have requested : s.keys = s'.keys := congrArg Recorded.keys same
  constructor
  · intro server
    rw [query_run, query_run, executed]
  · intro server
    rw [update_run, update_run, executed, map_map_eq, map_map_eq, requested]
    exact ⟨rfl, rfl⟩

theorem runAlike {s s' : Statement} (inUse : InUse sql keys s) (inUse' : InUse sql keys s')
    (same : valueAt s = valueAt s') : RunAlike Server s s' := by
  have positions : s.params.map (·.1) = s'.params.map (·.1) := by
    refine List.Pairwise.eq_of_mem_iff (List.pairwise_map.2 inUse.ascending)
      (List.pairwise_map.2 inUse'.ascending) fun position => ?_
    rw [mem_positions, mem_positions, same]
  refine runAlike_of_note_eq inUse.isOpen inUse'.isOpen ?_
  rw [note_eq inUse, note_eq inUse', positions, same]

end SqlAccess.Memory
