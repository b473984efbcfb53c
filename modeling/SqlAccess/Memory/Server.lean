import SqlAccess.Connection

/-!
# A database in memory

A server for trying out an application without a database. It answers each execution with the
next one of a queue of prepared responses, and with a default response when the queue is empty.
It notes what was executed, with the parameters in the order of their positions, and counts the
statements that are open.

* `set_pairwise`: the parameters of a statement stay in the order of their positions.
-/

namespace SqlAccess.Memory

/-- Columns and rows of a prepared result. -/
structure Table where
  columns : List Column
  rows : List (List Value)

/-- A result over the rows. -/
def Table.source (t : Table) : RowSource := .ofValues t.columns t.rows

/-- The answer to one execution. -/
structure Response where
  table : Table
  updateCount : Nat
  /-- Generated identities, for statements that ask for them. -/
  identities : Option Table
  /-- Fails the execution in these words. -/
  error : Option String

/-- One execution. -/
structure Recorded where
  sql : String
  /-- The values of the parameters that were set, in the order of their positions. -/
  params : List Value
  keys : Keys

/-- The state of the server. -/
structure Server where
  responses : List Response
  defaultResponse : Response
  recorded : List Recorded
  openStatements : Nat

/-- The count of open statements when one of them is closed. The count is a machine word of 64
bits: lowered at zero, it wraps around to the greatest one. -/
def lowered : Nat → Nat
  | 0 => 2 ^ 64 - 1
  | count + 1 => count

/-- A prepared statement. -/
structure Statement where
  sql : String
  keys : Keys
  /-- The positions that were set, in ascending order, with their values. -/
  params : List (Nat × Value)
  /-- Identities that the last update has reported and nobody has taken. -/
  identities : Option Table
  closed : Bool

/-- Sets the value of a position in a list in ascending order. -/
def setParam (position : Nat) (v : Value) : List (Nat × Value) → List (Nat × Value)
  | [] => [(position, v)]
  | (p, w) :: rest =>
    if position < p then (position, v) :: (p, w) :: rest
    else if position = p then (position, v) :: rest
    else (p, w) :: setParam position v rest

namespace Statement

/-- Every position from 1 on can be set. -/
def set : Setter Statement := fun s position v =>
  if position = 0 then throw (.bind position .positionZero)
  else return { s with params := setParam position v s.params }

/-- Notes the execution and takes the next response. -/
def execute (s : Statement) : ServerM Server Response := fun server =>
  if s.closed then (.error (.query .statementClosed), server)
  else
    let noted := server.recorded ++ [⟨s.sql, s.params.map (·.2), s.keys⟩]
    let response := server.responses.headD server.defaultResponse
    let outcome := match response.error with
      | some message => .error (.query (.reported message))
      | none => .ok response
    (outcome, { server with recorded := noted, responses := server.responses.tail })

/-- Runs the statement as an update. Identities are reported to statements that ask for them. -/
def update (s : Statement) : ServerM Server (Nat × Statement) := do
  let response ← s.execute
  let reported := if s.keys.isRequested then response.identities else none
  return (response.updateCount, { s with identities := reported })

/-- Closes the statement. Only the first time counts. -/
def close (s : Statement) : StateM Server Statement := fun server =>
  if s.closed then (s, server)
  else ({ s with closed := true },
    { server with openStatements := lowered server.openStatements })

end Statement

instance : Database Server Statement where
  prepare sql keys := fun server =>
    (.ok ⟨sql, keys, [], none, false⟩, { server with openStatements := server.openStatements + 1 })
  set := Statement.set
  query s := do return (← s.execute).table.source
  update := Statement.update
  identities s := (s.identities.map Table.source, { s with identities := none })
  close := Statement.close

namespace Server

/-- The last execution, if there was one. -/
def lastRecorded (s : Server) : Option Recorded := s.recorded.getLast?

/-- The last execution had this text and these parameters. -/
def lastWas (s : Server) (sql : String) (params : List Value) : Bool :=
  match s.lastRecorded with
  | none => false
  | some r =>
    r.sql == sql && r.params.length == params.length &&
      (r.params.zip params).all fun (v, w) => v.same w

/-- Forgets all executions. -/
def clearRecorded (s : Server) : Server := { s with recorded := [] }

end Server

/-! ## Parameters stay in order -/

theorem mem_setParam {position : Nat} {v : Value} {params : List (Nat × Value)} {q : Nat × Value}
    (h : q ∈ setParam position v params) : q = (position, v) ∨ q ∈ params := by
  fun_induction setParam position v params with
  | case1 => simpa using h
  | case2 p w rest hlt => simpa using h
  | case3 w rest => simp at h; rcases h with h | h <;> simp [h]
  | case4 p w rest _ _ ih =>
    rcases List.mem_cons.1 h with rfl | h
    · simp
    · rcases ih h with h | h <;> simp [h]

theorem setParam_pairwise {position : Nat} {v : Value} {params : List (Nat × Value)}
    (h : params.Pairwise fun a b => a.1 < b.1) :
    (setParam position v params).Pairwise fun a b => a.1 < b.1 := by
  fun_induction setParam position v params with
  | case1 => simp
  | case2 p w rest hlt =>
    refine List.pairwise_cons.2 ⟨fun q hq => ?_, h⟩
    rcases List.mem_cons.1 hq with rfl | hq
    · exact hlt
    · exact Nat.lt_trans hlt ((List.pairwise_cons.1 h).1 q hq)
  | case3 w rest =>
    exact List.pairwise_cons.2 (List.pairwise_cons.1 h)
  | case4 p w rest hlt hne ih =>
    refine List.pairwise_cons.2 ⟨fun q hq => ?_, ih (List.pairwise_cons.1 h).2⟩
    rcases mem_setParam hq with rfl | hq
    · exact Nat.lt_of_le_of_ne (Nat.le_of_not_lt hlt) (Ne.symm hne)
    · exact (List.pairwise_cons.1 h).1 q hq

end SqlAccess.Memory
