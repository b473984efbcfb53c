import SqlAccess.Proofs.Binding.Conversions
import SqlAccess.Registry.Standard

/-!
# Binding stops at the first refusal

Values are bound one after the other. One that cannot be converted never reaches its setter, and a
setter may refuse what it receives; either of them ends the binding at its position, with all
positions in front of it set and none behind it touched. Which setter calls there are is said
without looking into the setter: the outcome is the same for every setter that answers these calls
alike.

* `Accepted`: the calls that set the positions of a list of values.
* `Accepted.bindFrom_append`: what accepted values leave to be bound.
* `binding_stops_at_refusal`: the accepted values in front, and what ends the binding.
-/

namespace SqlAccess.Binding

section

variable {β : Type}

/-- A call of a setter: its position and value, and the binder and the streams that it finds. -/
structure SetterCall (β : Type) where
  binder : β
  position : Nat
  value : Value
  streams : Streams

/-- The setters answer all these calls alike. -/
def AgreeOn (calls : List (SetterCall β)) (set set' : Setter β) : Prop :=
  ∀ c ∈ calls, set' c.binder c.position c.value c.streams =
    set c.binder c.position c.value c.streams

/-- The values are converted and accepted one after the other, from a position on, in these
calls. -/
inductive Accepted (r : Registry) (set : Setter β) :
    Nat → List Value → β → Streams → List (SetterCall β) → β → Streams → Prop where
  | nil {position : Nat} {b : β} {ss : Streams} : Accepted r set position [] b ss [] b ss
  | cons {position : Nat} {v w : Value} {vs : List Value} {b b₁ b' : β}
    {ss ss₁ ss₂ ss' : Streams} {calls : List (SetterCall β)} (converted : Converted r v ss w ss₁)
    (accepts : set b position w ss₁ = (.ok b₁, ss₂))
    (others : Accepted r set (position + 1) vs b₁ ss₂ calls b' ss') :
    Accepted r set position (v :: vs) b ss (⟨b, position, w, ss₁⟩ :: calls) b' ss'

/-- What binding comes to: the calls that it makes, and how it ends. -/
structure StopsAtRefusal (r : Registry) (set : Setter β) (vs : List Value) (b : β) (ss : Streams) :
    Prop where
  /-- There is one call for each position, in order. -/
  positions : ∀ {before : List Value} {calls : List (SetterCall β)} {b' : β} {ss' : Streams},
    Accepted r set 1 before b ss calls b' ss' →
      calls.map (·.position) = List.range' 1 before.length
  /-- Either all values are accepted, or those in front of one that is not. -/
  stops : (∃ calls b' ss', Accepted r set 1 vs b ss calls b' ss') ∨
    ∃ before v after calls b' ss₁, vs = before ++ v :: after ∧
      Accepted r set 1 before b ss calls b' ss₁ ∧
        ((∃ reason ss', Refused r v ss₁ reason ss') ∨
          ∃ w ss₂ e ss', Converted r v ss₁ w ss₂ ∧
            set b' (before.length + 1) w ss₂ = (.error e, ss'))
  /-- Binding succeeds exactly if all values are accepted. -/
  succeeds : ∀ {b' : β} {ss' : Streams}, bindAll r set vs b ss = ((.ok (), b'), ss') ↔
    ∃ calls, Accepted r set 1 vs b ss calls b' ss'
  /-- If they are, their calls are all that the outcome depends on. -/
  accepted : ∀ {calls : List (SetterCall β)} {b' : β} {ss' : Streams},
    Accepted r set 1 vs b ss calls b' ss' →
      ∀ set', AgreeOn calls set set' → bindAll r set' vs b ss = ((.ok (), b'), ss')
  /-- If the first value that is not accepted cannot be converted, there is no call for it or for
  any value behind it. -/
  unconverted : ∀ {before after : List Value} {v : Value} {calls : List (SetterCall β)} {b' : β}
    {ss₁ ss' : Streams} {reason : BindReason}, vs = before ++ v :: after →
      Accepted r set 1 before b ss calls b' ss₁ → Refused r v ss₁ reason ss' →
        ∀ set', AgreeOn calls set set' →
          bindAll r set' vs b ss = ((.error (.bind (before.length + 1) reason), b'), ss')
  /-- If its setter refuses, that is the last call, and the error is the setter's. -/
  refused : ∀ {before after : List Value} {v w : Value} {calls : List (SetterCall β)} {b' : β}
    {ss₁ ss₂ ss' : Streams} {e : Error}, vs = before ++ v :: after →
      Accepted r set 1 before b ss calls b' ss₁ → Converted r v ss₁ w ss₂ →
        set b' (before.length + 1) w ss₂ = (.error e, ss') →
          ∀ set', AgreeOn (calls ++ [⟨b', before.length + 1, w, ss₂⟩]) set set' →
            bindAll r set' vs b ss = ((.error e, b'), ss')

/-! ## The accepted values -/

variable {r : Registry} {set set' : Setter β} {position : Nat} {vs before after : List Value}
  {b b' : β} {ss ss' : Streams} {calls : List (SetterCall β)}

theorem Accepted.positions (accepted : Accepted r set position vs b ss calls b' ss') :
    calls.map (·.position) = List.range' position vs.length := by
  induction accepted with
  | nil => rfl
  | cons _ _ _ ih => exact congrArg (_ :: ·) ih

/-- What accepted values leave to be bound, for every setter that answers their calls alike. -/
theorem Accepted.bindFrom_append (accepted : Accepted r set position before b ss calls b' ss')
    (agree : AgreeOn calls set set') (after : List Value) :
    bindFrom r set' position (before ++ after) b ss =
      bindFrom r set' (position + before.length) after b' ss' := by
  induction accepted with
  | nil => rfl
  | @cons position v w vs b b₁ b' ss ss₁ ss₂ ss' calls converted accepts others ih =>
    have first : set' b position w ss₁ = (.ok b₁, ss₂) :=
      (agree _ List.mem_cons_self).trans accepts
    have rest := ih fun c mem => agree c (List.mem_cons_of_mem _ mem)
    rw [List.cons_append, bindFrom_cons_run, captured_eq_ok_iff.2 converted]
    dsimp only
    rw [first]
    dsimp only
    rw [rest, List.length_cons, Nat.add_right_comm]
    rfl

/-- A list of values is accepted up to one that is not. -/
theorem accepted_or_refused (r : Registry) (set : Setter β) (position : Nat) (vs : List Value)
    (b : β) (ss : Streams) :
    (∃ calls b' ss', Accepted r set position vs b ss calls b' ss') ∨
      ∃ before v after calls b' ss₁, vs = before ++ v :: after ∧
        Accepted r set position before b ss calls b' ss₁ ∧
          ((∃ reason ss', Refused r v ss₁ reason ss') ∨
            ∃ w ss₂ e ss', Converted r v ss₁ w ss₂ ∧
              set b' (position + before.length) w ss₂ = (.error e, ss')) := by
  -- a value that is refused ends the list here; otherwise the rest starts at what it has left
  induction vs generalizing position b ss with
  | nil => exact .inl ⟨[], b, ss, .nil⟩
  | cons v vs ih =>
    rcases given : captured r position v ss with ⟨e | w, ss₁⟩
    · obtain ⟨reason, refused, -⟩ := captured_eq_error_iff.1 given
      exact .inr ⟨[], v, vs, [], b, ss, rfl, .nil, .inl ⟨reason, ss₁, refused⟩⟩
    · have converted := captured_eq_ok_iff.1 given
      rcases answer : set b position w ss₁ with ⟨e | b₁, ss₂⟩
      · exact .inr ⟨[], v, vs, [], b, ss, rfl, .nil, .inr ⟨w, ss₁, e, ss₂, converted, answer⟩⟩
      · rcases ih (position + 1) b₁ ss₂ with
          ⟨calls, b', ss', others⟩ | ⟨before, v', after, calls, b', ss', split, others, refused⟩
        · exact .inl ⟨_, b', ss', .cons converted answer others⟩
        · refine .inr ⟨v :: before, v', after, _, b', ss', congrArg (v :: ·) split,
            .cons converted answer others, ?_⟩
          rw [Nat.add_right_comm] at refused
          exact refused

/-! ## How binding ends -/

variable {v w : Value} {ss₁ ss₂ : Streams}

theorem bindAll_of_accepted (accepted : Accepted r set 1 vs b ss calls b' ss')
    (agree : AgreeOn calls set set') : bindAll r set' vs b ss = ((.ok (), b'), ss') := by
  have run := accepted.bindFrom_append agree []
  rw [List.append_nil] at run
  exact run

theorem bindAll_of_unconverted {reason : BindReason}
    (accepted : Accepted r set 1 before b ss calls b' ss₁) (refused : Refused r v ss₁ reason ss')
    (agree : AgreeOn calls set set') :
    bindAll r set' (before ++ v :: after) b ss =
      ((.error (.bind (before.length + 1) reason), b'), ss') := by
  have failed : captured r (1 + before.length) v ss₁ = (.error (.bind _ reason), ss') :=
    captured_eq_error_iff.2 ⟨reason, refused, rfl⟩
  rw [bindAll, accepted.bindFrom_append agree, bindFrom_cons_run, failed, Nat.add_comm]

theorem bindAll_of_refused {e : Error} (accepted : Accepted r set 1 before b ss calls b' ss₁)
    (converted : Converted r v ss₁ w ss₂)
    (refuses : set b' (before.length + 1) w ss₂ = (.error e, ss'))
    (agree : AgreeOn (calls ++ [⟨b', before.length + 1, w, ss₂⟩]) set set') :
    bindAll r set' (before ++ v :: after) b ss = ((.error e, b'), ss') := by
  have earlier : AgreeOn calls set set' := fun c mem => agree c (List.mem_append_left _ mem)
  have last : set' b' (before.length + 1) w ss₂ = (.error e, ss') :=
    (agree _ (List.mem_append_right _ List.mem_cons_self)).trans refuses
  rw [bindAll, accepted.bindFrom_append earlier, bindFrom_cons_run,
    captured_eq_ok_iff.2 converted, Nat.add_comm]
  dsimp only
  rw [last]

theorem exists_accepted (bound : bindAll r set vs b ss = ((.ok (), b'), ss')) :
    ∃ calls, Accepted r set 1 vs b ss calls b' ss' := by
  rcases accepted_or_refused r set 1 vs b ss with
    ⟨calls, b₁, ss₁, accepted⟩ | ⟨before, v, after, calls, b₁, ss₁, rfl, accepted, refused⟩
  · have same := bound.symm.trans (bindAll_of_accepted accepted fun _ _ => rfl)
    cases same
    exact ⟨calls, accepted⟩
  · rcases refused with ⟨reason, ss₂, refused⟩ | ⟨w, ss₂, e, ss₃, converted, refuses⟩
    · cases bound.symm.trans (bindAll_of_unconverted accepted refused fun _ _ => rfl)
    · rw [Nat.add_comm] at refuses
      cases bound.symm.trans (bindAll_of_refused accepted converted refuses fun _ _ => rfl)

/-- The setter that takes no streams refuses them where they stand. -/
theorem withoutStreams_refuses (set : Setter β) (b : β) (position : Nat) {k : Kind}
    (kind : v.kind = some k) (stream : k = .blob ∨ k = .clob) (ss : Streams) :
    withoutStreams set b position v ss = (.error (.bind position (.unsupportedStream k)), ss) := by
  rcases stream with rfl | rfl
  · cases v with
    | blob id => rfl
    | _ => cases kind
  · cases v with
    | clob id => rfl
    | _ => cases kind

/-- A stream is handed to its setter as it is. -/
theorem Converted.of_stream {k : Kind} (kind : v.kind = some k) (stream : k = .blob ∨ k = .clob)
    (r : Registry) (ss : Streams) : Converted r v ss v ss := by
  rcases stream with rfl | rfl
  · cases v with
    | blob id => exact .plain (by simp) (by simp)
    | _ => cases kind
  · cases v with
    | clob id => exact .plain (by simp) (by simp)
    | _ => cases kind

/-- **Binding stops at the first refusal.** The values are set at the positions 1, 2, 3, … by one
call each, up to the first one that is not accepted. If that value cannot be converted, the error
names its position and there is no call for it; otherwise the error is the one its setter gives, as
it is. There is no call for a later position. A setter that takes no streams refuses one at its
position and leaves it unread. -/
theorem binding_stops_at_refusal (r : Registry) (set : Setter β) (vs : List Value) (b : β)
    (ss : Streams) :
    StopsAtRefusal r set vs b ss ∧
      ∀ (before after : List Value) (v : Value) (calls : List (SetterCall β)) (b' : β)
        (ss' : Streams) (k : Kind), vs = before ++ v :: after →
          Accepted r (withoutStreams set) 1 before b ss calls b' ss' →
            v.kind = some k → k = .blob ∨ k = .clob →
              bindAll r (withoutStreams set) vs b ss =
                ((.error (.bind (before.length + 1) (.unsupportedStream k)), b'), ss') := by
  constructor
  · constructor
    · intro before calls b' ss' accepted
      exact accepted.positions
    · rcases accepted_or_refused r set 1 vs b ss with all | ⟨before, v, after, calls, b', ss₁, rest⟩
      · exact .inl all
      · rw [Nat.add_comm] at rest
        exact .inr ⟨before, v, after, calls, b', ss₁, rest⟩
    · intro b' ss'
      constructor
      · exact exists_accepted
      · intro ⟨calls, accepted⟩
        exact bindAll_of_accepted accepted fun _ _ => rfl
    · intro calls b' ss' accepted set' agree
      exact bindAll_of_accepted accepted agree
    · intro before after v calls b' ss₁ ss' reason split accepted refused set' agree
      rw [split]
      exact bindAll_of_unconverted accepted refused agree
    · intro before after v w calls b' ss₁ ss₂ ss' e split accepted converted refuses set' agree
      rw [split]
      exact bindAll_of_refused accepted converted refuses agree
  · intro before after v calls b' ss' k split accepted kind stream
    rw [split]
    exact bindAll_of_refused accepted (.of_stream kind stream r ss')
      (withoutStreams_refuses set b' _ kind stream ss') fun _ _ => rfl

/-- A recorder that is given an integer beyond all decimals, that refuses the second position, and
that takes no streams. -/
theorem binding_stops_at_refusal_recorder :
    let wide : Value := .int .w128 (.clamp 128 (2 ^ 126))
    let noted : Notes := [(1, .bool true)]
    bindAll .standard (noting none "") [.bool true, wide, .null] [] .empty =
        ((.error (.bind 2 .aboveDecimal), noted), .empty) ∧
      bindAll .standard (noting (some 2) "no") [.bool true, .null, .null] [] .empty =
        ((.error (.query (.reported "no")), noted), .empty) ∧
      bindAll .standard (withoutStreams (noting none "")) [.bool true, .clob 0, .null] [] .empty =
        ((.error (.bind 2 (.unsupportedStream .clob)), noted), .empty) := by
  have first (set : Setter Notes)
      (accepts : set [] 1 (.bool true) .empty = (.ok [(1, .bool true)], .empty)) :
      Accepted .standard set 1 [.bool true] [] .empty [⟨[], 1, .bool true, .empty⟩]
        [(1, .bool true)] .empty :=
    .cons (.plain (by simp) (by simp)) accepts .nil
  intro wide noted
  refine ⟨?_, ?_, ?_⟩
  · exact (binding_stops_at_refusal .standard (noting none "") [.bool true, wide, .null] []
      .empty).1.unconverted rfl (first _ rfl) (.above (by decide)) _ fun _ _ => rfl
  · exact (binding_stops_at_refusal .standard (noting (some 2) "no") [.bool true, .null, .null] []
      .empty).1.refused rfl (first _ rfl) (.plain (by simp) (by simp)) rfl _ fun _ _ => rfl
  · exact (binding_stops_at_refusal .standard (noting none "") [.bool true, .clob 0, .null] []
      .empty).2 _ _ _ _ _ _ .clob rfl (first _ rfl) rfl (.inr rfl)

end

end SqlAccess.Binding
