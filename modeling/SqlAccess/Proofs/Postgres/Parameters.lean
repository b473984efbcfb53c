import SqlAccess.Postgres.Server
import SqlAccess.Proofs.Binding.Conversions

/-!
# Parameters on their way to the server

A value is converted, drained if it holds a stream, kept at its position, and encoded for the type
that the server has given to the parameter there. Binding and encoding run one after the other
over lists of their own; the relations of this module say what each does with a value, and the
lemmas that the lists stay in step.

* `bindFrom_eq_ok_iff`: which values a statement accepts, and where it keeps them.
* `encodeParams_bound_iff`: which received values make a message, and which.
-/

namespace SqlAccess.Postgres

open Binding (Converted InOrder)

/-- A value as it is kept: the bytes or the text of a stream, which is at its end then, and every
other value as it is. -/
inductive Drained : Value → Streams → Value → Streams → Prop where
  | plain {v : Value} {ss : Streams} (noBytes : ∀ id, v ≠ .blob id) (noText : ∀ id, v ≠ .clob id) :
    Drained v ss v ss
  | bytes {id : StreamId} {ss : Streams} (ends : (ss.get id).failure = none) :
    Drained (.blob id) ss (.bytes (ss.get id).rest) (ss.set id { ss.get id with rest := [] })
  | text {id : StreamId} {s : String} {ss : Streams} (ends : (ss.get id).failure = none)
    (decoded : Utf8.ofBytes? (ss.get id).rest = some s) :
    Drained (.clob id) ss (.text s) (ss.set id { ss.get id with rest := [] })

/-- A value is converted and then drained. -/
inductive Received (r : Registry) : Value → Streams → Value → Streams → Prop where
  | intro {v w x : Value} {ss ss' ss'' : Streams} (converted : Converted r v ss w ss')
    (drained : Drained w ss' x ss'') : Received r v ss x ss''

/-- What is sent for a value at a parameter of the type. -/
def Encodes (t : ServerType) (v : Value) (entry : Option (List UInt8)) : Prop :=
  ∃ n, native t v = .ok n ∧ n.fits t = true ∧ n.encode t = entry

/-- One entry for each type, with what is sent for the value there. -/
inductive Encoded : List ServerType → List Value → List (Option (List UInt8)) → Prop where
  | nil : Encoded [] [] []
  | cons {t : ServerType} {v : Value} {entry : Option (List UInt8)} {ts : List ServerType}
    {vs : List Value} {entries : List (Option (List UInt8))} (first : Encodes t v entry)
    (others : Encoded ts vs entries) : Encoded (t :: ts) (v :: vs) (entry :: entries)

theorem Encoded.length_eq {ts : List ServerType} {vs : List Value}
    {entries : List (Option (List UInt8))} (encoded : Encoded ts vs entries) :
    vs.length = ts.length := by
  induction encoded with
  | nil => rfl
  | cons _ _ ih => exact congrArg (· + 1) ih

theorem Encoded.getElem? {ts : List ServerType} {xs : List Value}
    {entries : List (Option (List UInt8))} (encoded : Encoded ts xs entries) {i : Nat}
    {t : ServerType} (parameter : ts[i]? = some t) :
    ∃ x entry, xs[i]? = some x ∧ entries[i]? = some entry ∧ Encodes t x entry := by
  induction encoded generalizing i with
  | nil => cases parameter
  | cons first others ih =>
    cases i with
    | zero =>
      cases parameter
      exact ⟨_, _, rfl, rfl, first⟩
    | succ i => exact ih parameter

/-- If every parameter can be sent, so can all of them together. -/
theorem exists_encoded {ts : List ServerType} {params : List (Option Value)}
    (same : params.length = ts.length)
    (each : ∀ (i : Nat) (t : ServerType), ts[i]? = some t →
      ∃ x entry, params[i]? = some (some x) ∧ Encodes t x entry) :
    ∃ xs entries, params = xs.map some ∧ Encoded ts xs entries := by
  induction ts generalizing params with
  | nil => exact ⟨[], [], List.eq_nil_of_length_eq_zero same, .nil⟩
  | cons t ts ih =>
    cases params with
    | nil => cases same
    | cons p params =>
      obtain ⟨x, entry, value, first⟩ := each 0 t rfl
      cases value
      obtain ⟨xs, entries, params_eq, others⟩ := ih (Nat.succ.inj same) fun i => each (i + 1)
      exact ⟨x :: xs, entry :: entries, congrArg (some x :: ·) params_eq, .cons first others⟩

/-! ## Keeping values -/

theorem readAll_eq_ok_iff {s s' : Stream} {bs : List UInt8} :
    s.readAll = (.ok bs, s') ↔ s.failure = none ∧ bs = s.rest ∧ s' = { s with rest := [] } := by
  rcases s with ⟨rest, _ | message, inMemory⟩
  · simp [Stream.readAll, eq_comm]
  · simp [Stream.readAll]

theorem readText_eq_ok_iff {s s' : Stream} {text : String} :
    s.readText = (.ok text, s') ↔
      s.failure = none ∧ Utf8.ofBytes? s.rest = some text ∧ s' = { s with rest := [] } := by
  rcases s with ⟨rest, _ | message, inMemory⟩
  · cases decoded : Utf8.ofBytes? rest with
    | none => simp [Stream.readText, decoded]
    | some text' => simp [Stream.readText, decoded, eq_comm]
  · simp [Stream.readText]

theorem mapError_onStream_eq_ok_iff {α : Type} {f : String → Error}
    {read : Stream → Except String α × Stream} {id : StreamId} {a : α} {ss ss' : Streams} :
    StreamM.mapError f (StreamM.onStream read id) ss = (.ok a, ss') ↔
      ∃ s, read (ss.get id) = (.ok a, s) ∧ ss' = ss.set id s := by
  unfold StreamM.mapError StreamM.onStream
  rcases read (ss.get id) with ⟨_ | a', s⟩
  · constructor
    · rintro ⟨⟩
    · rintro ⟨_, ⟨⟩, -⟩
  · constructor
    · rintro ⟨⟩
      exact ⟨s, rfl, rfl⟩
    · rintro ⟨_, ⟨⟩, rfl⟩
      rfl

theorem capture_eq_ok_iff {position : Nat} {v w : Value} {ss ss' : Streams} :
    Statement.capture position v ss = (.ok w, ss') ↔ Drained v ss w ss' := by
  cases v with
  | blob id =>
    rw [Statement.capture, bind_run]
    constructor
    · intro kept
      rcases read : StreamM.mapError _ (StreamM.readAll id) ss with ⟨_ | bs, ss₁⟩
      · rw [read] at kept
        cases kept
      · rw [read] at kept
        cases kept
        obtain ⟨s, drained, rfl⟩ := mapError_onStream_eq_ok_iff.1 read
        obtain ⟨ends, rfl, rfl⟩ := readAll_eq_ok_iff.1 drained
        exact .bytes ends
    · rintro (⟨noBytes, -⟩ | ⟨ends⟩)
      · exact absurd rfl (noBytes id)
      · have drained := readAll_eq_ok_iff.2 ⟨ends, rfl, rfl⟩
        rw [StreamM.readAll, mapError_onStream_eq_ok_iff.2 ⟨_, drained, rfl⟩]
        rfl
  | clob id =>
    rw [Statement.capture, bind_run]
    constructor
    · intro kept
      rcases read : StreamM.mapError _ (StreamM.readText id) ss with ⟨_ | text, ss₁⟩
      · rw [read] at kept
        cases kept
      · rw [read] at kept
        cases kept
        obtain ⟨s, drained, rfl⟩ := mapError_onStream_eq_ok_iff.1 read
        obtain ⟨ends, decoded, rfl⟩ := readText_eq_ok_iff.1 drained
        exact .text ends decoded
    · rintro (⟨-, noText⟩ | _ | ⟨ends, decoded⟩)
      · exact absurd rfl (noText id)
      · have drained := readText_eq_ok_iff.2 ⟨ends, decoded, rfl⟩
        rw [StreamM.readText, mapError_onStream_eq_ok_iff.2 ⟨_, drained, rfl⟩]
        rfl
  | _ =>
    constructor
    · intro kept
      cases kept
      exact .plain nofun nofun
    · rintro ⟨⟩
      rfl

/-- A position is accepted if the statement has a parameter there. -/
theorem set_eq_ok_iff {s s' : Statement} {position : Nat} {v : Value} {ss ss' : Streams} :
    s.set (position + 1) v ss = (.ok s', ss') ↔
      ∃ w, Drained v ss w ss' ∧ position < s.params.length ∧
        s' = { s with params := s.params.set position (some w) } := by
  unfold Statement.set
  rw [bind_run]
  constructor
  · intro accepted
    rcases kept : Statement.capture (position + 1) v ss with ⟨_ | w, ss₁⟩
    · rw [kept] at accepted
      cases accepted
    · rw [kept] at accepted
      dsimp only at accepted
      split at accepted
      · cases accepted
      · rename_i within
        cases accepted
        refine ⟨w, capture_eq_ok_iff.1 kept, ?_, rfl⟩
        omega
  · rintro ⟨w, drained, within, rfl⟩
    rw [capture_eq_ok_iff.2 drained]
    dsimp only
    rw [if_neg (by omega)]
    rfl

/-- The values from a position on are accepted if there are that many parameters from there on, and
are kept there in their order. -/
theorem bindFrom_eq_ok_iff {r : Registry} {vs : List Value} {s s' : Statement}
    {filled free : List (Option Value)} (params : s.params = filled ++ free) {ss ss' : Streams} :
    Binding.bindFrom r Statement.set (filled.length + 1) vs s ss = ((.ok (), s'), ss') ↔
      vs.length ≤ free.length ∧
        ∃ ws, InOrder (Received r) vs ss ws ss' ∧
          s' = { s with params := filled ++ ws.map some ++ free.drop ws.length } := by
  induction vs generalizing s filled free ss with
  | nil =>
    have unchanged : { s with params := filled ++ [].map some ++ free.drop 0 } = s := by
      rw [List.map_nil, List.append_nil, List.drop_zero, ← params]
    constructor
    · intro bound
      cases bound
      exact ⟨Nat.zero_le _, [], .nil, unchanged.symm⟩
    · rintro ⟨-, ws, ⟨⟩, rfl⟩
      exact congrArg (fun s' => ((Except.ok (), s'), ss')) unchanged.symm
  | cons v vs ih =>
    rw [Binding.bindFrom_cons_eq_ok_iff]
    cases free with
    | nil =>
      have full : s.params.length = filled.length := by rw [params, List.append_nil]
      constructor
      · rintro ⟨w, ss₁, s₁, ss₂, -, accepted, -⟩
        obtain ⟨x, -, within, -⟩ := set_eq_ok_iff.1 accepted
        exact absurd full (Nat.ne_of_gt within)
      · rintro ⟨fits, -⟩
        exact absurd fits (Nat.not_succ_le_zero _)
    | cons old free =>
      have room : filled.length < s.params.length := by
        rw [params, List.length_append, List.length_cons]
        omega
      have put (x : Value) :
          s.params.set filled.length (some x) = (filled ++ [some x]) ++ free := by
        rw [params, List.set_append_right _ _ (Nat.le_refl _), Nat.sub_self, List.set_cons_zero,
          List.append_assoc]
        rfl
      have next (x : Value) (ss₂ : Streams) :
          Binding.bindFrom r Statement.set (filled.length + 1 + 1) vs
              { s with params := s.params.set filled.length (some x) } ss₂ =
                ((.ok (), s'), ss') ↔
            vs.length ≤ free.length ∧
              ∃ ws, InOrder (Received r) vs ss₂ ws ss' ∧
                s' = { s with
                  params := filled ++ [some x] ++ ws.map some ++ free.drop ws.length } := by
        have others := @ih { s with params := s.params.set filled.length (some x) }
          (filled ++ [some x]) free (put x) ss₂
        rw [List.length_append, List.length_singleton] at others
        exact others
      constructor
      · rintro ⟨w, ss₁, s₁, ss₂, converted, accepted, bound⟩
        obtain ⟨x, drained, -, rfl⟩ := set_eq_ok_iff.1 accepted
        obtain ⟨fits, xs, ordered, rfl⟩ := (next x ss₂).1 bound
        refine ⟨Nat.succ_le_succ fits, x :: xs, .cons ⟨converted, drained⟩ ordered, ?_⟩
        simp only [List.append_assoc, List.map_cons, List.length_cons, List.drop_succ_cons,
          List.cons_append, List.nil_append]
      · rintro ⟨fits, ws, ⟨⟩ | ⟨⟨converted, drained⟩, ordered⟩, rfl⟩
        rename_i x xs ss₂ w ss₁
        refine ⟨w, ss₁, _, ss₂, converted, set_eq_ok_iff.2 ⟨x, drained, room, rfl⟩,
          (next x ss₂).2 ⟨Nat.le_of_succ_le_succ fits, xs, ordered, ?_⟩⟩
        simp only [List.append_assoc, List.map_cons, List.length_cons, List.drop_succ_cons,
          List.cons_append, List.nil_append]

/-! ## Encoding parameters -/

theorem natives_cons_eq_ok_iff {i : Nat} {t : ServerType} {p : Option Value}
    {rest : List (ServerType × Option Value)} {ns : List Native} :
    Statement.natives i ((t, p) :: rest) = .ok ns ↔
      ∃ v n ns', p = some v ∧ native t v = .ok n ∧
        Statement.natives (i + 1) rest = .ok ns' ∧ ns = n :: ns' := by
  cases p with
  | none =>
    constructor
    · intro given
      cases given
    · rintro ⟨v, n, ns', ⟨⟩, -⟩
  | some v =>
    rw [Statement.natives]
    constructor
    · intro given
      cases form : native t v with
      | error e =>
        rw [form] at given
        cases given
      | ok n =>
        cases rest_eq : Statement.natives (i + 1) rest with
        | error e =>
          rw [form, rest_eq] at given
          cases given
        | ok ns' =>
          rw [form, rest_eq] at given
          cases given
          exact ⟨v, n, ns', rfl, form, rfl, rfl⟩
    · rintro ⟨_, n, ns', ⟨⟩, form, rest_eq, rfl⟩
      rw [form, rest_eq]
      rfl

theorem encodeAll_cons_eq_ok_iff {i : Nat} {t : ServerType} {n : Native}
    {rest : List (ServerType × Native)} {entries : List (Option (List UInt8))} :
    Statement.encodeAll i ((t, n) :: rest) = .ok entries ↔
      n.fits t = true ∧ ∃ entries', Statement.encodeAll (i + 1) rest = .ok entries' ∧
        entries = n.encode t :: entries' := by
  rw [Statement.encodeAll]
  cases n.fits t with
  | false => simp [throw, throwThe, MonadExceptOf.throw]
  | true =>
    cases Statement.encodeAll (i + 1) rest with
    | error e => simp [bind, Except.bind]
    | ok entries' => simp [bind, Except.bind, pure, Except.pure, eq_comm]

/-- Both passes together: every parameter has a value, and every value a form that its type
takes. -/
theorem encode_eq_ok_iff {i j : Nat} {ts : List ServerType} {params : List (Option Value)}
    (same : params.length = ts.length) {entries : List (Option (List UInt8))} :
    (∃ forms, Statement.natives i (ts.zip params) = .ok forms ∧
        Statement.encodeAll j (ts.zip forms) = .ok entries) ↔
      ∃ ws, params = ws.map some ∧ Encoded ts ws entries := by
  induction ts generalizing i j params entries with
  | nil =>
    obtain rfl := List.eq_nil_of_length_eq_zero same
    constructor
    · rintro ⟨forms, given, encoded⟩
      cases encoded
      exact ⟨[], rfl, .nil⟩
    · rintro ⟨ws, -, ⟨⟩⟩
      exact ⟨[], rfl, rfl⟩
  | cons t ts ih =>
    cases params with
    | nil => cases same
    | cons p params =>
      have others (entries : List (Option (List UInt8))) :
          (∃ forms, Statement.natives (i + 1) (ts.zip params) = .ok forms ∧
              Statement.encodeAll (j + 1) (ts.zip forms) = .ok entries) ↔
            ∃ ws, params = ws.map some ∧ Encoded ts ws entries :=
        ih (Nat.succ.inj same)
      rw [List.zip_cons_cons]
      constructor
      · rintro ⟨forms, given, encoded⟩
        obtain ⟨v, n, ns, rfl, form, rest, rfl⟩ := natives_cons_eq_ok_iff.1 given
        obtain ⟨fits, entries', encodedRest, rfl⟩ := encodeAll_cons_eq_ok_iff.1 encoded
        obtain ⟨ws, rfl, inStep⟩ := (others entries').1 ⟨ns, rest, encodedRest⟩
        exact ⟨v :: ws, rfl, .cons ⟨n, form, fits, rfl⟩ inStep⟩
      · rintro ⟨ws, eq, ⟨⟩ | ⟨⟨n, form, fits, rfl⟩, inStep⟩⟩
        rename_i v vs entries'
        obtain ⟨rfl, rfl⟩ := List.cons.inj eq
        obtain ⟨ns, rest, encodedRest⟩ := (others entries').2 ⟨vs, rfl, inStep⟩
        exact ⟨n :: ns, natives_cons_eq_ok_iff.2 ⟨v, n, ns, rfl, form, rest, rfl⟩,
          encodeAll_cons_eq_ok_iff.2 ⟨fits, entries', encodedRest, rfl⟩⟩

/-- A message can be made exactly if every parameter has a value that can be sent. -/
theorem encodeParams_eq_ok_iff {s : Statement} (same : s.params.length = s.script.params.length)
    {entries : List (Option (List UInt8))} :
    s.encodeParams = .ok entries ↔
      ∃ ws, s.params = ws.map some ∧ Encoded s.script.params ws entries := by
  rw [← encode_eq_ok_iff (i := 0) (j := 0) same]
  unfold Statement.encodeParams
  cases Statement.natives 0 (s.script.params.zip s.params) with
  | error e => simp [bind, Except.bind]
  | ok forms => simp [bind, Except.bind]

/-- A statement as it is prepared. -/
def Statement.prepared (script : Script) (keys : Keys) : Statement :=
  ⟨script, keys, script.params.map fun _ => none, none⟩

/-- A statement whose first parameters have received these values. -/
def Statement.bound (script : Script) (keys : Keys) (received : List Value) : Statement :=
  { Statement.prepared script keys with
    params := received.map some ++ (script.params.map fun _ => none).drop received.length }

theorem bindAll_eq_ok_iff {r : Registry} {script : Script} {keys : Keys} {vs : List Value}
    {s' : Statement} {ss ss' : Streams} :
    Binding.bindAll r Statement.set vs (.prepared script keys) ss = ((.ok (), s'), ss') ↔
      vs.length ≤ script.params.length ∧
        ∃ received, InOrder (Received r) vs ss received ss' ∧ s' = .bound script keys received := by
  have unset : (Statement.prepared script keys).params = [] ++ script.params.map fun _ => none :=
    rfl
  have bound := @bindFrom_eq_ok_iff r vs (.prepared script keys) s' _ _ unset ss ss'
  rw [List.length_map] at bound
  exact bound

/-- The values of a message are those that were received, and they are as many as the server has
parameters. -/
theorem encodeParams_bound_iff {script : Script} {keys : Keys} {received : List Value}
    (fits : received.length ≤ script.params.length) {entries : List (Option (List UInt8))} :
    (Statement.bound script keys received).encodeParams = .ok entries ↔
      Encoded script.params received entries := by
  have same : (Statement.bound script keys received).params.length = script.params.length := by
    simp only [Statement.bound, List.length_append, List.length_map, List.length_drop]
    omega
  rw [encodeParams_eq_ok_iff same]
  constructor
  · rintro ⟨ws, eq, encoded⟩
    obtain ⟨vs, more, rfl, first, others⟩ := List.map_eq_append_iff.1 eq.symm
    have nothing : more = [] := by
      refine List.eq_nil_iff_forall_not_mem.2 fun v mem => ?_
      have unset := List.mem_of_mem_drop (others ▸ List.mem_map_of_mem mem)
      obtain ⟨_, -, none_eq⟩ := List.mem_map.1 unset
      cases none_eq
    subst nothing
    obtain rfl := (List.map_inj_right fun _ _ => Option.some.inj).1 first
    rw [List.append_nil] at encoded
    exact encoded
  · intro encoded
    refine ⟨received, ?_, encoded⟩
    have all : (script.params.map fun _ => (none : Option Value)).length ≤ received.length := by
      rw [List.length_map]
      exact Nat.le_of_eq encoded.length_eq.symm
    show received.map some ++ List.drop _ _ = _
    rw [List.drop_eq_nil_of_le all, List.append_nil]

end SqlAccess.Postgres
