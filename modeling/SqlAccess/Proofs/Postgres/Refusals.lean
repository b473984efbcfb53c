import SqlAccess.Proofs.Postgres.Messages

/-!
# The first parameter that is refused

The parameters of a statement are turned into forms one after the other, from the first to the last.
One that has no value, or whose value has no form for its type, ends the execution before anything
is sent, and it is the first of them that the error names.

* `natives_eq_error`: the first refusal decides.
* `encodeAll_eq_error`: what can still go wrong once every parameter has a form.
* `Sends`, `FailsUnsent`: the two ways in which an execution can go, as far as the parameters decide.
-/

namespace SqlAccess.Postgres

/-- The form in which a parameter is sent, if it has a value. -/
def form (t : ServerType) : Option Value → Except BindReason Native
  | none => .error .unbound
  | some v => native t v

namespace Statement

theorem natives_cons_of_error {t : ServerType} {p : Option Value} {reason : BindReason}
    (refused : form t p = .error reason) (i : Nat) (rest : List (ServerType × Option Value)) :
    natives i ((t, p) :: rest) = .error (.bind (i + 1) reason) := by
  cases p with
  | none =>
    cases refused
    rfl
  | some v =>
    change native t v = .error reason at refused
    rw [natives, refused]
    rfl

theorem natives_cons_of_ok {t : ServerType} {p : Option Value} {n : Native}
    (formed : form t p = .ok n) (i : Nat) (rest : List (ServerType × Option Value)) :
    natives i ((t, p) :: rest) = (natives (i + 1) rest).map (n :: ·) := by
  cases p with
  | none => cases formed
  | some v =>
    change native t v = .ok n at formed
    rw [natives, formed]
    cases natives (i + 1) rest with
    | error e => rfl
    | ok ns => rfl

/-- The error names the first parameter without a form. -/
theorem natives_eq_error {entries : List (ServerType × Option Value)} {i k : Nat} {t : ServerType}
    {p : Option Value} {reason : BindReason} (there : entries[k]? = some (t, p))
    (refused : form t p = .error reason)
    (before : ∀ j < k, ∀ t p, entries[j]? = some (t, p) → ∃ n, form t p = .ok n) :
    natives i entries = .error (.bind (i + k + 1) reason) := by
  induction entries generalizing i k with
  | nil => cases there
  | cons entry rest ih =>
    obtain ⟨t', p'⟩ := entry
    cases k with
    | zero =>
      cases there
      exact natives_cons_of_error refused i rest
    | succ k =>
      obtain ⟨n, formed⟩ := before 0 (Nat.succ_pos k) t' p' rfl
      have others := @ih (i + 1) k there fun j within => before (j + 1) (Nat.succ_lt_succ within)
      rw [natives_cons_of_ok formed, others, Nat.add_right_comm i 1 k]
      rfl

theorem natives_eq_ok {entries : List (ServerType × Option Value)}
    (formed : ∀ entry ∈ entries, ∃ n, form entry.1 entry.2 = .ok n) (i : Nat) :
    ∃ forms, natives i entries = .ok forms := by
  induction entries generalizing i with
  | nil => exact ⟨[], rfl⟩
  | cons entry rest ih =>
    obtain ⟨n, first⟩ := formed entry List.mem_cons_self
    obtain ⟨forms, others⟩ := ih (fun e mem => formed e (List.mem_cons_of_mem _ mem)) (i + 1)
    refine ⟨n :: forms, (natives_cons_of_ok first i rest).trans ?_⟩
    rw [others]
    rfl

/-- A form that its type does not take is the only other failure. -/
theorem encodeAll_eq_error {entries : List (ServerType × Native)} {i : Nat} {e : Error}
    (failed : encodeAll i entries = .error e) : ∃ j, e = .query (.unserializable j) := by
  induction entries generalizing i with
  | nil => cases failed
  | cons entry rest ih =>
    obtain ⟨t, n⟩ := entry
    rw [encodeAll] at failed
    cases fits : n.fits t with
    | false =>
      rw [fits] at failed
      cases failed
      exact ⟨i, rfl⟩
    | true =>
      rw [fits] at failed
      cases others : encodeAll (i + 1) rest with
      | error e' =>
        rw [others] at failed
        cases failed
        exact ih others
      | ok entries' =>
        rw [others] at failed
        cases failed

end Statement

/-! ## Executions -/

/-- Each execution sends these entries. -/
def Sends (s : Statement) (entries : List (Option (List UInt8))) : Prop :=
  ∀ server : Server, (Database.query s server).2.log = server.log ++ [.bind entries] ∧
    (Database.update s server).2.log = server.log ++ [.bind entries]

/-- Each execution fails with this error, and nothing is sent. -/
def FailsUnsent (s : Statement) (e : Error) : Prop :=
  ∀ server : Server, Database.query s server = (.error e, server) ∧
    Database.update s server = (.error e, server)

theorem sends_iff {s : Statement} {entries : List (Option (List UInt8))} :
    Sends s entries ↔ s.encodeParams = .ok entries := by
  constructor
  · intro sends
    have log := (sends ⟨[], []⟩).1
    rw [query_log, Statement.bindMessage] at log
    cases encoded : s.encodeParams with
    | ok sent =>
      rw [encoded] at log
      cases log
      rfl
    | error e =>
      rw [encoded] at log
      cases log
  · intro encoded server
    rw [query_log, update_log, Statement.bindMessage, encoded]
    exact ⟨rfl, rfl⟩

theorem failsUnsent_of_error {s : Statement} {e : Error} (refused : s.encodeParams = .error e) :
    FailsUnsent s e := by
  intro server
  have executed : s.execute server = (.error e, server) := by rw [Statement.execute, refused]
  constructor
  · show s.query server = _
    rw [Statement.query, bind_run, executed]
  · show s.update server = _
    rw [Statement.update, bind_run, executed]

end SqlAccess.Postgres
