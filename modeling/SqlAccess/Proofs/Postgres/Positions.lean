import Mathlib.Data.Set.List
import SqlAccess.Proofs.Database.Setters
import SqlAccess.Proofs.Postgres.Refusals

/-!
# The positions of a PostgreSQL statement

A statement has one entry for each parameter of the server, empty until its value is set. A stream
is read when it is set, and its contents are kept.

* `keepsValues`: what the calls on a statement do to the values.
* `sendsValues`: what an execution sends, or else the first position that keeps it from being sent.
* `runAlike`: the values are all that matters to an execution.
-/

namespace SqlAccess.Postgres

/-- A value with the contents of its stream in place of the stream. -/
def contents (ss : Streams) : Value → Value
  | .blob id => .bytes (ss.get id).rest
  | .clob id => .text ((Utf8.ofBytes? (ss.get id).rest).getD "")
  | v => v

theorem Drained.eq_contents {v w : Value} {ss ss' : Streams} (drained : Drained v ss w ss') :
    w = contents ss v := by
  cases drained with
  | plain noBytes noText =>
    cases v with
    | blob id => exact absurd rfl (noBytes id)
    | clob id => exact absurd rfl (noText id)
    | _ => rfl
  | bytes ends => rfl
  | text ends decoded =>
    rw [contents, decoded]
    rfl

/-- A setter call succeeds at the positions of the server's parameters, provided that the stream of
its value can be read. -/
def Accepts (types : List ServerType) (position : Nat) (v : Value) (ss : Streams) : Prop :=
  (1 ≤ position ∧ position ≤ types.length) ∧ ∃ w ss', Drained v ss w ss'

/-- A parameter keeps the statement from being run: it has no value, or one without a form for its
type. -/
inductive Refuses (types : List ServerType) (values : Nat → Option Value) :
    Nat → BindReason → Prop where
  | unbound {i : Nat} (parameter : i < types.length) (unset : values (i + 1) = none) :
    Refuses types values (i + 1) .unbound
  | rejected {i : Nat} {t : ServerType} {v : Value} {reason : BindReason}
    (parameter : types[i]? = some t) (set : values (i + 1) = some v)
    (rejects : native t v = .error reason) : Refuses types values (i + 1) reason

/-- An execution ends at the smallest position that is refused, with nothing sent, or else sends the
values of the positions. -/
structure SendsValues (types : List ServerType) (values : Nat → Option Value) (s : Statement) :
    Prop where
  refused : ∀ {position : Nat} {reason : BindReason}, Refuses types values position reason →
    (∀ q r, Refuses types values q r → position ≤ q) → FailsUnsent s (.bind position reason)
  sent : (∀ position reason, ¬ Refuses types values position reason) →
    ∃ given : List Value, given.length = types.length ∧ (∀ i, given[i]? = values (i + 1)) ∧
      ((∃ entries, Encoded types given entries ∧ Sends s entries) ∨
        ((∀ entries, ¬ Encoded types given entries) ∧
          ∃ i, FailsUnsent s (.query (.unserializable i))))

/-- A statement with these parameters, each of which has an entry. -/
structure InUse (types : List ServerType) (keys : Keys) (s : Statement) : Prop where
  types_eq : s.script.params = types
  keys_eq : s.keys = keys
  length_eq : s.params.length = types.length
  asked : KeepsAsked s

/-- The value of a position. -/
def valueAt (s : Statement) : Nat → Option Value
  | 0 => none
  | i + 1 => s.params[i]?.join

variable {types : List ServerType} {keys : Keys}

/-! ## Calls -/

theorem set_isOk_iff {s : Statement} (inUse : InUse types keys s) (position : Nat) (v : Value)
    (ss : Streams) :
    (Database.set Server s position v ss).1.isOk = true ↔ Accepts types position v ss := by
  constructor
  · intro isOk
    cases result : (Database.set Server s position v ss).1 with
    | error e =>
      rw [result] at isOk
      cases isOk
    | ok s' =>
      obtain ⟨i, w, ss', rfl, drained, within, -⟩ := set_accepted result
      rw [inUse.length_eq] at within
      exact ⟨⟨Nat.succ_pos i, within⟩, w, ss', drained⟩
  · intro accepts
    obtain ⟨⟨positive, within⟩, w, ss', drained⟩ := accepts
    rw [← inUse.length_eq] at within
    cases position with
    | zero => cases positive
    | succ i =>
      show (s.set (i + 1) v ss).1.isOk = true
      rw [set_eq_ok_iff.2 ⟨w, drained, within, rfl⟩]
      rfl

theorem valueAt_set (s : Statement) {i : Nat} (within : i < s.params.length) (w : Value)
    (position : Nat) :
    valueAt { s with params := s.params.set i (some w) } position =
      if i + 1 = position then some w else valueAt s position := by
  cases position with
  | zero => rfl
  | succ j =>
    show (s.params.set i (some w))[j]?.join = _
    by_cases here : i = j
    · rw [here] at within
      rw [here, List.getElem?_set_self within, if_pos rfl]
      rfl
    · rw [List.getElem?_set_ne here, if_neg fun same => here (Nat.succ.inj same)]
      rfl

theorem keepsValues : KeepsValues Server contents (InUse types keys) valueAt := by
  constructor
  · intro s s' p v ss inUse accepted
    obtain ⟨i, w, ss', rfl, drained, within, rfl⟩ := set_accepted accepted
    refine ⟨⟨inUse.types_eq, inUse.keys_eq, List.length_set.trans inUse.length_eq, inUse.asked⟩,
      fun position => ?_⟩
    rw [valueAt_set s within, drained.eq_contents]
  · intro s s' server count inUse ran
    have kept := update_eq_ok ran
    cases requested : s.keys.isRequested with
    | true =>
      rw [requested, if_pos rfl] at kept
      subst kept
      refine ⟨⟨inUse.types_eq, inUse.keys_eq, inUse.length_eq, fun unasked => ?_⟩, rfl⟩
      cases requested.symm.trans unasked
    | false =>
      rw [requested, if_neg Bool.false_ne_true] at kept
      subst kept
      exact ⟨inUse, rfl⟩
  · intro s inUse
    exact ⟨⟨inUse.types_eq, inUse.keys_eq, inUse.length_eq, fun _ => rfl⟩, rfl⟩

theorem valueAt_prepared (script : Script) (keys : Keys) (position : Nat) :
    valueAt (.prepared script keys) position = none := by
  cases position with
  | zero => rfl
  | succ i =>
    show (script.params.map fun _ => none)[i]?.join = none
    rw [List.getElem?_map]
    cases script.params[i]? with
    | none => rfl
    | some t => rfl

theorem inUse_prepared (script : Script) (keys : Keys) :
    InUse script.params keys (.prepared script keys) :=
  ⟨rfl, rfl, List.length_map _, fun _ => rfl⟩

/-- How the server answers does not matter to the values. -/
theorem answeredOtherwise_keeps (s s' : Statement) (changed : AnsweredOtherwise s s')
    (inUse : InUse types keys s) : InUse types keys s' ∧ valueAt s' = valueAt s := by
  obtain ⟨script', types_eq, -, rfl⟩ := changed
  exact ⟨⟨types_eq.trans inUse.types_eq, inUse.keys_eq, inUse.length_eq, inUse.asked⟩, rfl⟩

/-- A statement still has its parameters after any calls. -/
theorem inUse_of_history {script : Script} {s : Statement} {os : List (Occurrence Server Statement)}
    (history : History AnsweredOtherwise (.prepared script keys) os s) :
    InUse script.params keys s :=
  (keepsValues.valueAt_eq answeredOtherwise_keeps history (inUse_prepared script keys)
    (valueAt_prepared script keys)).1

/-! ## Executions -/

/-- The refusals are the parameters without a form. -/
theorem refuses_iff {s : Statement} (inUse : InUse types keys s) {position : Nat}
    {reason : BindReason} :
    Refuses types (valueAt s) position reason ↔
      ∃ i t p, position = i + 1 ∧ (types.zip s.params)[i]? = some (t, p) ∧
        form t p = .error reason := by
  constructor
  · intro refuses
    cases refuses with
    | @unbound i parameter unset =>
      have entry : i < s.params.length := by
        rw [inUse.length_eq]
        exact parameter
      change s.params[i]?.join = none at unset
      rw [List.getElem?_eq_getElem entry] at unset
      refine ⟨i, types[i], s.params[i], rfl, ?_, ?_⟩
      · rw [List.getElem?_zip_eq_some]
        exact ⟨List.getElem?_eq_getElem parameter, List.getElem?_eq_getElem entry⟩
      · change s.params[i] = none at unset
        rw [unset]
        rfl
    | @rejected i t v reason parameter set rejects =>
      have entry : s.params[i]? = some (some v) := Option.join_eq_some_iff.1 set
      exact ⟨i, t, some v, rfl, List.getElem?_zip_eq_some.2 ⟨parameter, entry⟩, rejects⟩
  · intro ⟨i, t, p, position_eq, there, refused⟩
    obtain ⟨parameter, entry⟩ := List.getElem?_zip_eq_some.1 there
    have value : valueAt s (i + 1) = p := by
      show s.params[i]?.join = p
      rw [entry]
      rfl
    rw [position_eq]
    cases p with
    | none =>
      cases refused
      exact .unbound (List.getElem?_eq_some_iff.1 parameter).1 value
    | some v => exact .rejected parameter value refused

theorem encodeParams_of_refused {s : Statement} (inUse : InUse types keys s) {position : Nat}
    {reason : BindReason} (refuses : Refuses types (valueAt s) position reason)
    (first : ∀ q r, Refuses types (valueAt s) q r → position ≤ q) :
    s.encodeParams = .error (.bind position reason) := by
  obtain ⟨i, t, p, rfl, there, refused⟩ := (refuses_iff inUse).1 refuses
  -- a parameter in front without a form would be refused at a smaller position
  have before : ∀ j < i, ∀ t p, (types.zip s.params)[j]? = some (t, p) → ∃ n, form t p = .ok n := by
    intro j within t p entry
    cases formed : form t p with
    | ok n => exact ⟨n, rfl⟩
    | error r =>
      have later := first (j + 1) r ((refuses_iff inUse).2 ⟨j, t, p, rfl, entry, formed⟩)
      exact absurd (Nat.le_of_succ_le_succ later) (Nat.not_le_of_lt within)
  have failed := Statement.natives_eq_error (i := 0) there refused before
  rw [Nat.zero_add] at failed
  rw [Statement.encodeParams, inUse.types_eq, failed]
  rfl

/-- Without a refusal every parameter has a value. -/
theorem exists_given {s : Statement} (inUse : InUse types keys s)
    (ready : ∀ position reason, ¬ Refuses types (valueAt s) position reason) :
    ∃ given : List Value, given.map some = s.params := by
  have set : ∀ p ∈ s.params, p ∈ Set.range (some : Value → Option Value) := by
    intro p mem
    obtain ⟨i, within, rfl⟩ := List.mem_iff_getElem.1 mem
    cases value : s.params[i] with
    | some v => exact ⟨v, rfl⟩
    | none =>
      have parameter : i < types.length := by
        rw [← inUse.length_eq]
        exact within
      have unset : valueAt s (i + 1) = none := by
        show s.params[i]?.join = none
        rw [List.getElem?_eq_getElem within, value]
        rfl
      exact absurd (.unbound parameter unset) (ready (i + 1) .unbound)
  have all : s.params ∈ Set.range (List.map (some : Value → Option Value)) := by
    rw [Set.range_list_map]
    exact set
  exact all

/-- Without a refusal, what is left to fail is a form that its type does not take. -/
theorem encodeParams_of_ready {s : Statement} (inUse : InUse types keys s)
    (ready : ∀ position reason, ¬ Refuses types (valueAt s) position reason) {e : Error}
    (failed : s.encodeParams = .error e) : ∃ i, e = .query (.unserializable i) := by
  have formed : ∀ entry ∈ types.zip s.params, ∃ n, form entry.1 entry.2 = .ok n := by
    intro entry mem
    obtain ⟨t, p⟩ := entry
    obtain ⟨i, there⟩ := List.mem_iff_getElem?.1 mem
    cases result : form t p with
    | ok n => exact ⟨n, rfl⟩
    | error reason =>
      exact absurd ((refuses_iff inUse).2 ⟨i, t, p, rfl, there, result⟩) (ready (i + 1) reason)
  obtain ⟨forms, given⟩ := Statement.natives_eq_ok formed 0
  rw [Statement.encodeParams, inUse.types_eq, given] at failed
  exact Statement.encodeAll_eq_error failed

theorem sendsValues {s : Statement} (inUse : InUse types keys s) :
    SendsValues types (valueAt s) s := by
  constructor
  · intro position reason refuses first
    exact failsUnsent_of_error (encodeParams_of_refused inUse refuses first)
  · intro ready
    obtain ⟨given, params⟩ := exists_given inUse ready
    have count : given.length = types.length := by
      rw [← inUse.length_eq, ← params, List.length_map]
    have same : s.params.length = s.script.params.length := by
      rw [inUse.length_eq, inUse.types_eq]
    have message {entries : List (Option (List UInt8))} :
        s.encodeParams = .ok entries ↔ Encoded types given entries := by
      rw [encodeParams_eq_ok_iff same, inUse.types_eq, ← params]
      constructor
      · intro ⟨values, equal, encoded⟩
        rw [(List.map_inj_right fun _ _ => Option.some.inj).1 equal]
        exact encoded
      · intro encoded
        exact ⟨given, rfl, encoded⟩
    refine ⟨given, count, ?_, ?_⟩
    · intro i
      show _ = s.params[i]?.join
      rw [← params, List.getElem?_map]
      cases given[i]? with
      | none => rfl
      | some v => rfl
    · cases encoded : s.encodeParams with
      | ok entries => exact .inl ⟨entries, message.1 encoded, sends_iff.2 encoded⟩
      | error e =>
        obtain ⟨i, rfl⟩ := encodeParams_of_ready inUse ready encoded
        refine .inr ⟨fun entries possible => ?_, i, failsUnsent_of_error encoded⟩
        cases encoded.symm.trans (message.2 possible)

/-- The parameters and the answers of the server are all that matters to an execution, as long as no
identities are kept that are not asked for. -/
theorem runAlike_of_params_eq {s s' : Statement} (asked : KeepsAsked s) (asked' : KeepsAsked s')
    (answers : s.script = s'.script) (keys_eq : s.keys = s'.keys) (params : s.params = s'.params) :
    RunAlike Server s s' := by
  have encoded : s.encodeParams = s'.encodeParams := by
    rw [Statement.encodeParams, Statement.encodeParams, answers, params]
  have executed (server : Server) : s.execute server = s'.execute server := by
    rw [Statement.execute, Statement.execute, encoded, answers]
  constructor
  · intro server
    show s.query server = s'.query server
    rw [Statement.query, Statement.query, bind_run, bind_run, executed, answers]
  · intro server
    show (s.update server).1.map _ = (s'.update server).1.map _ ∧
      (s.update server).2 = (s'.update server).2
    rw [Statement.update, Statement.update, bind_run, bind_run, executed]
    rcases s'.execute server with ⟨_ | _, server'⟩
    · exact ⟨rfl, rfl⟩
    · rw [answers, keys_eq]
      dsimp only
      cases requested : s'.keys.isRequested with
      | true =>
        cases s'.script.allRows with
        | ok rows => exact ⟨rfl, rfl⟩
        | error e => exact ⟨rfl, rfl⟩
      | false =>
        cases s'.script.errorAfter.isSome with
        | true => exact ⟨rfl, rfl⟩
        | false =>
          refine ⟨?_, rfl⟩
          show Except.ok (s'.script.affected, s.identities) = .ok (_, s'.identities)
          rw [asked (keys_eq ▸ requested), asked' requested]

theorem runAlike {s s' : Statement} (inUse : InUse types keys s) (inUse' : InUse types keys s')
    (same : valueAt s = valueAt s') (answers : s.script = s'.script) : RunAlike Server s s' := by
  refine runAlike_of_params_eq inUse.asked inUse'.asked answers
    (inUse.keys_eq.trans inUse'.keys_eq.symm) ?_
  refine List.ext_getElem (inUse.length_eq.trans inUse'.length_eq.symm) fun i within within' => ?_
  have value : s.params[i]?.join = s'.params[i]?.join := congrFun same (i + 1)
  rw [List.getElem?_eq_getElem within, List.getElem?_eq_getElem within'] at value
  exact value

end SqlAccess.Postgres
