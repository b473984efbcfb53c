import SqlAccess.Proofs.Memory.Positions
import SqlAccess.Proofs.Postgres.Positions

/-!
# The value of a position

An execution uses the value that was last given to each position: a database in memory notes these
values in the order of their positions, and PostgreSQL is sent them at its parameters.
-/

namespace SqlAccess

/-- **The last setter that has succeeded wins.** Whatever is called on a statement, in whatever
order and on whatever connection, a position has the value that was last given to it, and calls that
fail count for nothing. In memory every position from 1 on is accepted, and an execution notes the
values in the order of their positions. PostgreSQL accepts the positions of its parameters, keeps
the contents of a stream, and sends the values unless one is missing or has no form: then the error
names the smallest such position and nothing is sent. Nothing else about the calls matters. -/
theorem last_setter_wins (sql : String) (script : Postgres.Script) (keys : Keys) :
    SetterRules Memory.Server (fun _ _ => False) (fun _ v => v) (fun position _ _ => 1 ≤ position)
        (Memory.NotesInOrder sql keys) (fun _ _ => True) (Memory.Statement.prepared sql keys) ∧
      SetterRules Postgres.Server Postgres.AnsweredOtherwise Postgres.contents
        (Postgres.Accepts script.params) (Postgres.SendsValues script.params)
        (fun s s' => s.script = s'.script) (Postgres.Statement.prepared script keys) := by
  constructor
  · exact .of_keeps Memory.keepsValues (fun _ _ => False.elim) ⟨rfl, rfl, rfl, .nil⟩ (fun _ => rfl)
      (fun _ => Memory.set_isOk_iff _) Memory.notesInOrder
      fun inUse inUse' same _ => Memory.runAlike inUse inUse' same
  · exact .of_keeps Postgres.keepsValues Postgres.answeredOtherwise_keeps
      (Postgres.inUse_prepared script keys) (Postgres.valueAt_prepared script keys)
      Postgres.set_isOk_iff Postgres.sendsValues Postgres.runAlike

/-- Two positions that are set in either order, one of them twice, and a position out of range; and
a parameter that was left out. -/
theorem last_setter_wins_either_order :
    let script : Postgres.Script := { Postgres.Script.empty with params := [.int4, .text] }
    let start := Postgres.Statement.prepared script .none
    let c : Connection Postgres.Server := ⟨.empty, ⟨[], []⟩⟩
    let set (position : Nat) (v : Value) (s : Postgres.Statement) :=
      Occurrence.left ⟨.set position v, s, c⟩
    let seven : Value := .int .w32 (.clamp 32 7)
    RunAlike Postgres.Server (set 1 seven (set 2 (.text "x") start))
        (set 3 .null (set 2 (.text "x") (set 1 seven (set 2 (.text "y") start)))) ∧
      Database.query (set 2 (.text "x") start) c.server =
        (.error (.bind 1 .unbound), c.server) := by
  intro script start c set seven
  have rules := (last_setter_wins "" script .none).2
  have one : History Postgres.AnsweredOtherwise start _ (set 2 (.text "x") start) :=
    .call .nil (.set 2 (.text "x")) c
  constructor
  · refine rules.alike (.call one (.set 1 seven) c)
      (.call (.call (.call (.call .nil (.set 2 (.text "y")) c) (.set 1 seven) c)
        (.set 2 (.text "x")) c) (.set 3 .null) c) ?_ rfl
    intro position
    match position with
    | 0 => rfl
    | 1 => rfl
    | 2 => rfl
    | 3 => rfl
    | n + 4 => rfl
  · refine ((rules.used one).refused (.unbound (Nat.succ_pos 1) rfl) ?_ c.server).1
    intro q r refuses
    cases refuses with
    | unbound => exact Nat.succ_pos _
    | rejected => exact Nat.succ_pos _

end SqlAccess
