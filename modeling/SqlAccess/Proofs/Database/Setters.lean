import SqlAccess.Proofs.Database.Reports

/-!
# Setter calls

Values are set in any order, again and again, and some of the calls fail. What counts when the
statement is run is the last call for each position that has not failed.

* `lastGiven`: the value of a position, as the history tells it.
* `SetterRules`: which calls succeed, what an execution does with the values, and that nothing else
  about the calls matters to it.
* `KeepsValues.valueAt_eq`: if each call does to the values what it should, the positions have the
  values that were last given to them.
-/

namespace SqlAccess

section

variable {σ S : Type} [Database σ S]

/-- The value that a call has set at a position, if it is a setter call for it and succeeds. A
statement may keep something else in place of a value; `keep` says what. -/
def Occurrence.given (keep : Streams → Value → Value) (position : Nat) (o : Occurrence σ S) :
    Option Value :=
  match o.call with
  | .set p v =>
    if p = position ∧ o.succeeds = true then some (keep o.connection.streams v) else none
  | _ => none

/-- The value of a position: that of the last setter call for it that has succeeded. -/
def lastGiven (keep : Streams → Value → Value) (os : List (Occurrence σ S)) (position : Nat) :
    Option Value :=
  os.reverse.findSome? (Occurrence.given keep position)

/-- Running one statement comes to the same as running the other: the same rows, the same count with
the same identities, the same failure, and the same effect on the server. -/
structure RunAlike (σ : Type) {S : Type} [Database σ S] (s s' : S) : Prop where
  query : ∀ server : σ, Database.query s server = Database.query s' server
  update : ∀ server : σ,
    (Database.update s server).1.map (fun r => (r.1, handedOut σ r.2)) =
        (Database.update s' server).1.map (fun r => (r.1, handedOut σ r.2)) ∧
      (Database.update s server).2 = (Database.update s' server).2

/-- What setter calls come to, in all histories of a statement. -/
structure SetterRules (σ : Type) {S : Type} [Database σ S] (changes : S → S → Prop)
    (keep : Streams → Value → Value) (accepts : Nat → Value → Streams → Prop)
    (runs : (Nat → Option Value) → S → Prop) (answeredAlike : S → S → Prop) (start : S) :
    Prop where
  /-- The setter calls that succeed. -/
  accepted : ∀ {os : List (Occurrence σ S)} {s : S}, History changes start os s →
    ∀ (position : Nat) (v : Value) (c : Connection σ),
      Occurrence.succeeds ⟨.set position v, s, c⟩ = true ↔ accepts position v c.streams
  /-- An execution uses the last value of each position. -/
  used : ∀ {os : List (Occurrence σ S)} {s : S}, History changes start os s →
    runs (lastGiven keep os) s
  /-- Statements that have the same values, and that the server answers alike, cannot be told apart
  by running them. -/
  alike : ∀ {os os' : List (Occurrence σ S)} {s s' : S},
    History changes start os s → History changes start os' s' →
      (∀ position, lastGiven keep os position = lastGiven keep os' position) →
        answeredAlike s s' → RunAlike σ s s'

/-- What each call does to the values of the positions and to what else holds of the statement. -/
structure KeepsValues (σ : Type) {S : Type} [Database σ S] (keep : Streams → Value → Value)
    (P : S → Prop) (valueAt : S → Nat → Option Value) : Prop where
  /-- A setter call that succeeds puts its value at its position. -/
  set : ∀ {s s' : S} {p : Nat} {v : Value} {ss : Streams}, P s →
    (Database.set σ s p v ss).1 = .ok s' →
      P s' ∧ ∀ position, valueAt s' position = if p = position then some (keep ss v)
        else valueAt s position
  /-- An update leaves all positions as they are. -/
  update : ∀ {s s' : S} {server : σ} {count : Nat}, P s →
    (Database.update s server).1 = .ok (count, s') → P s' ∧ valueAt s' = valueAt s
  /-- So does taking the identities. -/
  identities : ∀ {s : S}, P s →
    P (Database.identities σ s).2 ∧ valueAt (Database.identities σ s).2 = valueAt s

variable {keep : Streams → Value → Value} {P : S → Prop} {valueAt : S → Nat → Option Value}

theorem KeepsValues.step (keeps : KeepsValues σ keep P valueAt) (o : Occurrence σ S)
    (valid : P o.statement) (position : Nat) :
    P o.left ∧
      valueAt o.left position = (o.given keep position).or (valueAt o.statement position) := by
  obtain ⟨call, s, c⟩ := o
  cases call with
  | set p v =>
    unfold Occurrence.given Occurrence.left
    dsimp only
    split
    · rename_i s' accepted
      have succeeds : Occurrence.succeeds ⟨.set p v, s, c⟩ = true := congrArg Except.isOk accepted
      obtain ⟨valid', values⟩ := keeps.set valid accepted
      refine ⟨valid', (values position).trans ?_⟩
      by_cases here : p = position
      · rw [if_pos here, if_pos ⟨here, succeeds⟩]
        rfl
      · rw [if_neg here, if_neg fun both => here both.1]
        rfl
    · rename_i e refused
      have fails : Occurrence.succeeds ⟨.set p v, s, c⟩ = false := congrArg Except.isOk refused
      rw [if_neg fun both => Bool.false_ne_true (fails.symm.trans both.2)]
      exact ⟨valid, rfl⟩
  | query => exact ⟨valid, rfl⟩
  | identities =>
    obtain ⟨valid', values⟩ := keeps.identities valid
    exact ⟨valid', congrFun values position⟩
  | update =>
    unfold Occurrence.left
    dsimp only
    split
    · rename_i count s' ran
      obtain ⟨valid', values⟩ := keeps.update valid ran
      exact ⟨valid', congrFun values position⟩
    · exact ⟨valid, rfl⟩

/-- The positions have the values that were last given to them. -/
theorem KeepsValues.valueAt_eq {changes : S → S → Prop} (keeps : KeepsValues σ keep P valueAt)
    (untouched : ∀ s s', changes s s' → P s → P s' ∧ valueAt s' = valueAt s) {start s : S}
    {os : List (Occurrence σ S)} (history : History changes start os s) (startValid : P start)
    (nothing : ∀ position, valueAt start position = none) :
    P s ∧ valueAt s = lastGiven keep os := by
  -- each position is read off the statement on its own, and the last call for it decides
  have each (position : Nat) : P s ∧ valueAt s position = lastGiven keep os position := by
    have written : ∀ o : Occurrence σ S, P o.statement → P o.left ∧
        valueAt o.left position =
          ((o.given keep position).map some).getD (valueAt o.statement position) := by
      intro o valid
      refine ⟨(keeps.step o valid position).1, (keeps.step o valid position).2.trans ?_⟩
      cases o.given keep position with
      | none => rfl
      | some v => rfl
    have same : ∀ s s', changes s s' → P s → P s' ∧ valueAt s' position = valueAt s position :=
      fun s s' changed valid =>
        ⟨(untouched s s' changed valid).1, congrFun (untouched s s' changed valid).2 position⟩
    have last : P s ∧ valueAt s position = (os.reverse.findSome?
        fun o => (o.given keep position).map some).getD (valueAt start position) :=
      History.read_eq written same history startValid
    refine ⟨last.1, last.2.trans ?_⟩
    rw [nothing position, lastGiven]
    induction os.reverse with
    | nil => rfl
    | cons o os ih =>
      rw [List.findSome?_cons, List.findSome?_cons]
      cases o.given keep position with
      | none => exact ih
      | some v => rfl
  exact ⟨(each 0).1, funext fun position => (each position).2⟩

/-- The rules follow from what a statement comes to whose positions have their values. -/
theorem SetterRules.of_keeps {changes : S → S → Prop} {accepts : Nat → Value → Streams → Prop}
    {runs : (Nat → Option Value) → S → Prop} {answeredAlike : S → S → Prop} {start : S}
    (keeps : KeepsValues σ keep P valueAt)
    (untouched : ∀ s s', changes s s' → P s → P s' ∧ valueAt s' = valueAt s)
    (startValid : P start) (nothing : ∀ position, valueAt start position = none)
    (accepted : ∀ {s : S}, P s → ∀ (position : Nat) (v : Value) (ss : Streams),
      (Database.set σ s position v ss).1.isOk = true ↔ accepts position v ss)
    (used : ∀ {s : S}, P s → runs (valueAt s) s)
    (alike : ∀ {s s' : S}, P s → P s' → valueAt s = valueAt s' → answeredAlike s s' →
      RunAlike σ s s') :
    SetterRules σ changes keep accepts runs answeredAlike start := by
  constructor
  · intro os s history position v c
    obtain ⟨valid, -⟩ := keeps.valueAt_eq untouched history startValid nothing
    exact accepted valid position v c.streams
  · intro os s history
    obtain ⟨valid, values⟩ := keeps.valueAt_eq untouched history startValid nothing
    rw [← values]
    exact used valid
  · intro os os' s s' history history' same answered
    obtain ⟨valid, values⟩ := keeps.valueAt_eq untouched history startValid nothing
    obtain ⟨valid', values'⟩ := keeps.valueAt_eq untouched history' startValid nothing
    refine alike valid valid' ?_ answered
    rw [values, values']
    exact funext same

end

end SqlAccess
