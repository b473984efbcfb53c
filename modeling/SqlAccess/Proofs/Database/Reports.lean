import SqlAccess.Proofs.Database.History
import SqlAccess.Proofs.Memory.Recording
import SqlAccess.Proofs.Postgres.Messages

/-!
# The identities of the last update

A statement keeps the identities that an update reports until they are taken. What it hands out is
decided by the last update of its history: if that has succeeded, by what it has reported. An update
that fails leaves the identities of an earlier one where they are, for both kinds of database.

* `HandsOut`: what a statement hands out after any history.
* `HandsOut.of_step`: it is enough to know what each call does to the identities.
* `identities_of_last_update`: the two kinds of database.
* `identities_after_failed_update`: identities that are older than the last update.
-/

namespace SqlAccess

section

variable {σ S : Type} [Database σ S]

/-- The identities that are taken next. -/
def handedOut (σ : Type) {S : Type} [Database σ S] (s : S) : Option RowSource :=
  (Database.identities σ s).1

/-- What the call makes of the identities of its statement, if it is one of those that touch them:
an update that succeeds puts down what it reports, and taking them leaves nothing. -/
def Occurrence.reported (reports : S → σ → Option RowSource) (o : Occurrence σ S) :
    Option (Option RowSource) :=
  match o.call with
  | .update => if o.succeeds then some (reports o.statement o.connection.server) else none
  | .identities => some none
  | _ => none

/-- What a statement hands out after the calls of a history. `reports` is what an update of the
statement reports if it succeeds. -/
structure HandsOut (changes : S → S → Prop) (reports : S → σ → Option RowSource) (start : S) :
    Prop where
  /-- Without an update there is nothing. -/
  unasked : ∀ {os : List (Occurrence σ S)} {s : S}, History changes start os s →
    (∀ o ∈ os, o.call ≠ .update) → handedOut σ s = none
  /-- What was taken since the last update is gone. -/
  taken : ∀ {before after : List (Occurrence σ S)} {s s' : S} {c : Connection σ},
    History changes start before s → History changes (Occurrence.left ⟨.update, s, c⟩) after s' →
      (∀ o ∈ after, o.call ≠ .update) → (∃ o ∈ after, o.call = .identities) →
        handedOut σ s' = none
  /-- Otherwise, if the last update has succeeded, it is what that update has reported. -/
  succeeded : ∀ {before after : List (Occurrence σ S)} {s s' : S} {c : Connection σ},
    History changes start before s → History changes (Occurrence.left ⟨.update, s, c⟩) after s' →
      (∀ o ∈ after, o.call ≠ .update ∧ o.call ≠ .identities) →
        Occurrence.succeeds ⟨.update, s, c⟩ = true → handedOut σ s' = reports s c.server
  /-- If it has failed, it is what was there in front of it. -/
  failed : ∀ {before after : List (Occurrence σ S)} {s s' : S} {c : Connection σ},
    History changes start before s → History changes (Occurrence.left ⟨.update, s, c⟩) after s' →
      (∀ o ∈ after, o.call ≠ .update ∧ o.call ≠ .identities) →
        Occurrence.succeeds ⟨.update, s, c⟩ = false → handedOut σ s' = handedOut σ s

/-! ## The last call that touches the identities -/

variable {reports : S → σ → Option RowSource} {os : List (Occurrence σ S)}

theorem reported_untouched (untouched : ∀ o ∈ os, o.call ≠ .update ∧ o.call ≠ .identities) :
    os.reverse.findSome? (Occurrence.reported reports) = none := by
  rw [List.findSome?_eq_none_iff]
  intro o mem
  have kept := untouched o (List.mem_reverse.1 mem)
  unfold Occurrence.reported
  split
  · rename_i called
    exact absurd called kept.1
  · rename_i called
    exact absurd called kept.2
  · rfl

theorem reported_taken (noUpdate : ∀ o ∈ os, o.call ≠ .update)
    (taken : ∃ o ∈ os, o.call = .identities) :
    os.reverse.findSome? (Occurrence.reported reports) = some none := by
  cases last : os.reverse.findSome? (Occurrence.reported reports) with
  | none =>
    obtain ⟨o, mem, called⟩ := taken
    have untouched := List.findSome?_eq_none_iff.1 last o (List.mem_reverse.2 mem)
    rw [Occurrence.reported, called] at untouched
    cases untouched
  | some left =>
    obtain ⟨o, mem, touched⟩ := List.exists_of_findSome?_eq_some last
    have notUpdate := noUpdate o (List.mem_reverse.1 mem)
    unfold Occurrence.reported at touched
    split at touched
    · exact absurd ‹_› notUpdate
    · exact touched.symm
    · cases touched

/-- If every call does to the identities what `reports` says, the last update decides. -/
theorem HandsOut.of_step {changes : S → S → Prop} {P : S → Prop} {start : S}
    (step : ∀ o : Occurrence σ S, P o.statement →
      P o.left ∧ handedOut σ o.left = (o.reported reports).getD (handedOut σ o.statement))
    (keep : ∀ s s', changes s s' → P s → P s' ∧ handedOut σ s' = handedOut σ s)
    (startValid : P start) (nothing : handedOut σ start = none) :
    HandsOut changes reports start := by
  have fromStart {os : List (Occurrence σ S)} {s : S} (history : History changes start os s) :=
    history.read_eq step keep startValid
  have afterUpdate {before after : List (Occurrence σ S)} {s s' : S} {c : Connection σ}
      (first : History changes start before s)
      (then_ : History changes (Occurrence.left ⟨.update, s, c⟩) after s') :=
    then_.read_eq step keep (step ⟨.update, s, c⟩ (fromStart first).1).1
  have byUpdate {before : List (Occurrence σ S)} {s : S} (c : Connection σ)
      (first : History changes start before s) :=
    (step ⟨.update, s, c⟩ (fromStart first).1).2
  constructor
  · intro os s history noUpdate
    rw [(fromStart history).2, nothing]
    by_cases taken : ∃ o ∈ os, o.call = .identities
    · rw [reported_taken noUpdate taken]
      rfl
    · rw [reported_untouched fun o mem => ⟨noUpdate o mem, fun called => taken ⟨o, mem, called⟩⟩]
      rfl
  · intro before after s s' c first then_ noUpdate taken
    rw [(afterUpdate first then_).2, reported_taken noUpdate taken]
    rfl
  · intro before after s s' c first then_ untouched succeeds
    rw [(afterUpdate first then_).2, reported_untouched untouched]
    show handedOut σ (Occurrence.left ⟨.update, s, c⟩) = _
    rw [byUpdate c first, Occurrence.reported, succeeds]
    rfl
  · intro before after s s' c first then_ untouched fails
    rw [(afterUpdate first then_).2, reported_untouched untouched]
    show handedOut σ (Occurrence.left ⟨.update, s, c⟩) = _
    rw [Occurrence.left_of_failed fails]

end

/-! ## The database in memory -/

namespace Memory

/-- What an update reports: the identities of the response that it takes, if the statement asks for
them. -/
def reports (s : Statement) (server : Server) : Option RowSource :=
  if s.keys.isRequested then server.exchange.next.identities.map Table.source else none

theorem update_eq_ok {s s' : Statement} {server : Server} {count : Nat}
    (ran : (Database.update s server).1 = .ok (count, s')) :
    handedOut Server s' = reports s server := by
  rw [update_run] at ran
  obtain ⟨response, executed, updated⟩ := map_eq_ok_iff.1 ran
  cases updated
  cases isClosed : s.closed with
  | true =>
    unfold Statement.execute at executed
    rw [isClosed] at executed
    cases executed
  | false =>
    rw [(s.execute_run isClosed server).1, Response.outcome] at executed
    split at executed
    · cases executed
    · cases executed
      show (if s.keys.isRequested then _ else none).map Table.source = _
      unfold reports
      split
      · rfl
      · rfl

theorem handedOut_of_set {s s' : Statement} {position : Nat} {v : Value} {ss : Streams}
    (accepted : (Database.set Server s position v ss).1 = .ok s') :
    handedOut Server s' = handedOut Server s := by
  change (s.set position v ss).1 = .ok s' at accepted
  unfold Statement.set at accepted
  split at accepted
  · cases accepted
  · cases accepted
    rfl

theorem reported_step (o : Occurrence Server Statement) :
    handedOut Server o.left = (o.reported reports).getD (handedOut Server o.statement) := by
  obtain ⟨call, s, c⟩ := o
  cases call with
  | set position v =>
    show handedOut Server (Occurrence.left ⟨.set position v, s, c⟩) = handedOut Server s
    unfold Occurrence.left
    dsimp only
    split
    · exact handedOut_of_set ‹_›
    · rfl
  | query => rfl
  | identities => rfl
  | update =>
    unfold Occurrence.reported Occurrence.succeeds Occurrence.left
    dsimp only
    split
    · rename_i count s' ran
      rw [ran]
      exact update_eq_ok ran
    · rename_i e ran
      rw [ran]
      rfl

end Memory

/-! ## PostgreSQL -/

namespace Postgres

/-- What an update reports: the rows that the server sends, if the statement asks for identities. -/
def reports (s : Statement) (_ : Server) : Option RowSource :=
  if s.keys.isRequested then
    match s.script.allRows with
    | .ok rows => some (.ofRows s.script.columnList rows)
    | .error _ => none
  else none

/-- The server answers the statement in another way than before. -/
def AnsweredOtherwise (s s' : Statement) : Prop :=
  ∃ script, script.params = s.script.params ∧ script.columns = s.script.columns ∧
    s' = { s with script := script }

/-- A statement that does not ask for identities has none. -/
def KeepsAsked (s : Statement) : Prop := s.keys.isRequested = false → s.identities = none

/-- What an update that succeeds does to its statement. -/
theorem update_eq_ok {s s' : Statement} {server : Server} {count : Nat}
    (ran : (Database.update s server).1 = .ok (count, s')) :
    s' = if s.keys.isRequested then { s with identities := reports s server } else s := by
  change (s.update server).1 = .ok (count, s') at ran
  rw [Statement.update, bind_run] at ran
  rcases executed : s.execute server with ⟨_ | _, server'⟩
  · rw [executed] at ran
    cases ran
  · rw [executed] at ran
    unfold reports
    cases requested : s.keys.isRequested with
    | true =>
      simp only [requested, if_true] at ran ⊢
      cases sent : s.script.allRows with
      | ok rows =>
        rw [sent] at ran
        cases ran
        rfl
      | error e =>
        rw [sent] at ran
        cases ran
    | false =>
      simp only [requested] at ran ⊢
      cases fails : s.script.errorAfter.isSome with
      | true =>
        rw [fails] at ran
        cases ran
      | false =>
        rw [fails] at ran
        cases ran
        rfl

/-- What a setter call that succeeds has done. -/
theorem set_accepted {s s' : Statement} {position : Nat} {v : Value} {ss : Streams}
    (accepted : (Database.set Server s position v ss).1 = .ok s') :
    ∃ i w ss', position = i + 1 ∧ Drained v ss w ss' ∧ i < s.params.length ∧
      s' = { s with params := s.params.set i (some w) } := by
  change (s.set position v ss).1 = .ok s' at accepted
  cases position with
  | zero =>
    unfold Statement.set at accepted
    rw [bind_run] at accepted
    rcases captured : Statement.capture 0 v ss with ⟨_ | w, ss'⟩
    · rw [captured] at accepted
      cases accepted
    · rw [captured] at accepted
      dsimp only at accepted
      rw [if_pos (Or.inl rfl)] at accepted
      cases accepted
  | succ i =>
    rcases ran : s.set (i + 1) v ss with ⟨_ | s₁, ss'⟩
    · rw [ran] at accepted
      cases accepted
    · rw [ran] at accepted
      cases accepted
      obtain ⟨w, drained, within, put⟩ := set_eq_ok_iff.1 ran
      exact ⟨i, w, ss', rfl, drained, within, put⟩

theorem reported_step (o : Occurrence Server Statement) (asked : KeepsAsked o.statement) :
    KeepsAsked o.left ∧
      handedOut Server o.left = (o.reported reports).getD (handedOut Server o.statement) := by
  obtain ⟨call, s, c⟩ := o
  cases call with
  | set position v =>
    show KeepsAsked (Occurrence.left ⟨.set position v, s, c⟩) ∧
      handedOut Server (Occurrence.left ⟨.set position v, s, c⟩) = handedOut Server s
    unfold Occurrence.left
    dsimp only
    split
    · obtain ⟨i, w, ss', -, -, -, rfl⟩ := set_accepted ‹_›
      exact ⟨asked, rfl⟩
    · exact ⟨asked, rfl⟩
  | query => exact ⟨asked, rfl⟩
  | identities => exact ⟨fun _ => rfl, rfl⟩
  | update =>
    unfold Occurrence.reported Occurrence.succeeds Occurrence.left
    dsimp only
    split
    · rename_i count s' ran
      rw [ran, update_eq_ok ran]
      cases requested : s.keys.isRequested with
      | true =>
        refine ⟨fun unasked => ?_, rfl⟩
        rw [if_pos rfl] at unasked
        cases requested.symm.trans unasked
      | false =>
        refine ⟨fun _ => asked requested, ?_⟩
        show s.identities = reports s c.server
        rw [asked requested, reports, requested]
        rfl
    · rename_i e ran
      rw [ran]
      exact ⟨asked, rfl⟩

end Postgres

/-- **Identities belong to the last update that has succeeded.** Whatever is called on a statement,
in whatever order, on whatever connection, and whatever the server answers: it hands out nothing in
front of its first update and nothing once the identities were taken. Otherwise it hands out what
the last update has reported, which is nothing unless identities are asked for and sent. Only a last
update that has failed leaves what was there in front of it. -/
theorem identities_of_last_update (sql : String) (script : Postgres.Script) (keys : Keys) :
    HandsOut (fun _ _ => False) Memory.reports (Memory.Statement.prepared sql keys) ∧
      HandsOut Postgres.AnsweredOtherwise Postgres.reports
        (Postgres.Statement.prepared script keys) := by
  constructor
  · exact HandsOut.of_step (P := fun _ => True) (fun o _ => ⟨trivial, Memory.reported_step o⟩)
      (fun _ _ => False.elim) trivial rfl
  · refine HandsOut.of_step Postgres.reported_step ?_ (fun _ => rfl) rfl
    intro s s' changed asked
    obtain ⟨script', -, -, rfl⟩ := changed
    exact ⟨asked, rfl⟩

/-- An insert that has reported its one identity, queried, run again in vain, or asked for it. -/
theorem identities_of_last_update_insert :
    let table : Memory.Table := ⟨[⟨"id", .integer, none⟩], [[.int .w32 (.clamp 32 7)]]⟩
    let server : Memory.Server := ⟨[], ⟨⟨[], []⟩, 1, some table, none⟩, [], 1⟩
    let lost : Memory.Response := ⟨⟨[], []⟩, 0, none, some "lost"⟩
    let c : Connection Memory.Server := ⟨.empty, server⟩
    let failing : Connection Memory.Server := ⟨.empty, { server with responses := [lost] }⟩
    let s := Memory.Statement.prepared "insert into t values (1)" .all
    let left (call : Call) (s : Memory.Statement) (c : Connection Memory.Server) :=
      Occurrence.left ⟨call, s, c⟩
    let inserted := left .update s c
    handedOut Memory.Server (left .query inserted c) = some table.source ∧
      handedOut Memory.Server (left .update inserted failing) = handedOut Memory.Server inserted ∧
      handedOut Memory.Server (left .identities inserted c) = none := by
  intro table server lost c failing s left inserted
  have rules := (identities_of_last_update "insert into t values (1)" .empty .all).1
  have first : History (fun _ _ => False) s
    ([] : List (Occurrence Memory.Server Memory.Statement)) s := .nil
  refine ⟨?_, ?_, ?_⟩
  · exact rules.succeeded first (.call .nil .query c) (by simp) rfl
  · exact rules.failed (.call first .update c) .nil (by simp) rfl
  · exact rules.taken first (.call .nil .identities c) (by simp) (by simp)

/-- The second of two updates fails, and the identity of the first one is handed out: in memory with
a response that is an error, and by PostgreSQL with a value that the parameter does not take. -/
theorem identities_after_failed_update :
    (let table : Memory.Table := ⟨[⟨"id", .integer, none⟩], [[.int .w32 (.clamp 32 7)]]⟩
      let inserted : Memory.Response := ⟨⟨[], []⟩, 1, some table, none⟩
      let lost : Memory.Response := ⟨⟨[], []⟩, 0, none, some "lost"⟩
      let s : Session Memory.Server Memory.Statement :=
        .start ⟨.empty, ⟨[inserted, lost], lost, [], 0⟩⟩ ⟨.empty, default⟩
      let ran := s.run [.prepare "s" "insert into t values (1)" .all, .execute "s", .execute "s",
        .identities "s" "raw"]
      ran.1 = [.done, .count 1, .failed (.query (.reported "lost")), .truth true] ∧
        ran.2.sources.lookup "raw" = some table.source) ∧
    (let script : Postgres.Script :=
        { Postgres.Script.empty with
          params := [.int4], columns := [("id", .int4)], rows := [[some [0, 0, 0, 7]]] }
      let s : Session Postgres.Server Postgres.Statement :=
        .start ⟨.empty, ⟨[script], []⟩⟩ ⟨.empty, default⟩
      let ran := s.run [.prepare "s" "insert into t values (?)" .all,
        .set "s" 1 (.int .w32 (.clamp 32 5)), .execute "s", .set "s" 1 (.text "x"), .execute "s",
        .identities "s" "raw"]
      ran.1 = [.done, .done, .count 1, .done, .failed (.query (.unserializable 0)), .truth true] ∧
        ran.2.sources.lookup "raw" =
          some (.ofRows script.columnList [[.ok (.int .w32 (.clamp 32 7))]])) := by
  refine ⟨?_, ?_⟩
  · exact ⟨rfl, rfl⟩
  · exact ⟨rfl, rfl⟩

end SqlAccess
