import SqlAccess.Proofs.Cursor.Records
import SqlAccess.Proofs.Cursor.Walk
import SqlAccess.Proofs.Registry.BinaryStreams
import SqlAccess.Proofs.Registry.KindMismatch
import SqlAccess.Session

/-!
# What reading a row hands out of a stream

A cell that holds a stream is handed on or read to the end, as the column and the target have it.
Every way to read a row asks for some columns with some targets, and is given a value for each of
them; what it is given of a stream are the bytes among these values.

* `Cursor.asked`: the columns that a reading asks for, with their targets.
* `Cursor.delivery`: what it is given of a stream. A record may take bytes that it does not give: a
  later column may fail, and a field may be left unread.
* `Cursor.read_delivers`: what is given and what is still to come are all the bytes there were.
* `Cursor.read_refused`: a reading with a target that its column has no conversion to touches no
  stream.
-/

namespace SqlAccess

/-- The values that a reading gives. -/
def Answer.given : Answer → List Value
  | .value v => [v]
  | .bytes bs => [.bytes bs]
  | .text s => [.text s]
  | .clock t => [.timestamp t]
  | .values vs => vs
  | _ => []

/-- The reading is one of a record. -/
def Reading.isRecord : Reading → Bool
  | .record _ _ => true
  | _ => false

/-! ## Rows without a stream of text -/

/-- The rows that are still to come. -/
def Supply.rows : Supply → List Row
  | .stored rows => rows
  | .incoming replies => replies.filterMap Except.toOption
  | .spent | .closed => []

namespace RowSource

variable {id : StreamId} {s : RowSource}

/-- The row that a source is at and those it comes to. -/
def rows (s : RowSource) : List Row := s.current.toList ++ s.supply.rows

/-- No row has the stream for one of text. -/
def Binary (id : StreamId) (s : RowSource) : Prop := ∀ row ∈ s.rows, .ok (.clob id) ∉ row

theorem rows_next_subset (s : RowSource) : s.next.2.rows ⊆ s.rows := by
  obtain ⟨columns, supply, current⟩ := s
  intro row mem
  cases supply with
  | stored rows =>
    cases rows with
    | nil => cases mem
    | cons _ _ => exact List.mem_append_right _ mem
  | incoming replies =>
    match replies with
    | [] => cases mem
    | .ok _ :: _ => exact List.mem_append_right _ mem
    | .error _ :: _ => exact mem
  | spent => exact mem
  | closed => exact mem

theorem Binary.next (binary : s.Binary id) : s.next.2.Binary id :=
  fun row mem => binary row (s.rows_next_subset mem)

theorem Binary.close (id : StreamId) (s : RowSource) : s.close.Binary id := by
  intro row mem
  cases mem

theorem Binary.ofRows {columns : List Column} {rows : List Row}
    (binary : ∀ row ∈ rows, .ok (.clob id) ∉ row) : (ofRows columns rows).Binary id := binary

theorem Binary.ofValues {columns : List Column} {rows : List (List Value)}
    (binary : ∀ row ∈ rows, .clob id ∉ row) : (ofValues columns rows).Binary id := by
  refine .ofRows fun row mem cell => ?_
  obtain ⟨values, given, rfl⟩ := List.mem_map.mp mem
  obtain ⟨v, value, same⟩ := List.mem_map.mp cell
  cases same
  exact binary values given value

theorem Binary.value_ne (binary : s.Binary id) (i : Nat) : s.value i ≠ .ok (.clob id) := by
  intro found
  unfold value at found
  split at found
  · cases found
  · rename_i row at_
    split at found
    · cases found
    · rename_i cell here
      rw [found] at here
      refine binary row ?_ (List.mem_of_getElem? here)
      rw [rows, at_]
      exact List.mem_cons_self

end RowSource

/-- A record is made of the values of its first fields. -/
theorem FieldReader.readAll_eq_take {fields : List Field} {values vs : List Value}
    {reads : List HostType} (read : (⟨fields, values⟩ : FieldReader).readAll reads = .ok vs) :
    ∃ n, vs = values.take n := by
  induction reads generalizing fields values vs with
  | nil =>
    cases read
    exact ⟨0, rfl⟩
  | cons t ts ih =>
    cases values with
    | nil => cases read
    | cons v values =>
      obtain ⟨others, -, following, rfl⟩ := readAll_cons_eq_ok_iff.mp read
      obtain ⟨n, rfl⟩ := ih following
      exact ⟨n + 1, rfl⟩

namespace Cursor

open StreamM (Hands)

variable {S : Type} {c : Cursor S} {id : StreamId} {i : Nat} {ref : ColumnRef} {ss ss' : Streams}

/-- A cursor with the standard conversions over rows that do not have the stream for one of text. -/
structure Binary (id : StreamId) (c : Cursor S) : Prop where
  standard : c.registry = .standard
  rows : c.source.Binary id

theorem Binary.advance (binary : c.Binary id) : c.advance.2.Binary id := by
  unfold Cursor.advance
  split
  · exact binary
  · exact binary
  · have next := binary.rows.next
    split
    all_goals
      rename_i ran
      rw [ran] at next
      exact ⟨binary.standard, next⟩

theorem Binary.close (binary : c.Binary id) : c.close.2.Binary id :=
  ⟨binary.standard, .close id c.source⟩

/-- Only text is filled up. -/
theorem eq_clob_of_padded {column : Column} {v : Value} (same : padded column v = .clob id) :
    v = .clob id := by
  unfold padded at same
  split at same
  · split at same
    · cases same
    · cases same
  · split at same
    · cases same
    · cases same
  · exact same

theorem Binary.fetch_ne (binary : c.Binary id) {v : Value} (fetched : c.fetch i = .ok v) :
    v ≠ .clob id := by
  rintro rfl
  unfold fetch at fetched
  obtain ⟨-, -, fetched⟩ := bind_eq_ok_iff.mp fetched
  obtain ⟨raw, value, same⟩ := bind_eq_ok_iff.mp fetched
  have here : raw = .clob id := by
    split at same
    · exact eq_clob_of_padded (Except.ok.inj same)
    · exact Except.ok.inj same
  rw [here] at value
  exact binary.rows.value_ne i value

/-! ## One column -/

/-- What a caller is given of a stream with a value for a column. -/
def handedAt (c : Cursor S) (id : StreamId) (i : Nat) (t : Target) (w : Value) :
    List (List UInt8) :=
  match c.fetch i with
  | .ok v => v.handed id t w
  | .error _ => []

theorem handedAt_of_target_ne {t : Target} (other : t ≠ .host .bytes) (w : Value) :
    c.handedAt id i t w = [] := by
  unfold handedAt
  split
  · exact Value.handed_of_target_ne other
  · rfl

theorem handedAt_of_kind_ne {w : Value} (other : w.kind ≠ some .bytes) (t : Target) :
    c.handedAt id i t w = [] := by
  unfold handedAt
  split
  · exact Value.handed_of_kind_ne other
  · rfl

theorem coerceColumn_hands (binary : c.Binary id) (i : Nat) (t : Target) :
    Hands id (c.coerceColumn i t) (c.handedAt id i t) := by
  unfold coerceColumn
  split
  · cases fetched : c.fetch i with
    | error e => exact .throw
    | ok raw =>
      have handed (w : Value) : c.handedAt id i t w = raw.handed id t w := by
        rw [handedAt, fetched]
      dsimp only
      split
      · exact .pure (handedAt_of_kind_ne (w := .null) nofun t)
      · rw [binary.standard]
        exact ((Registry.standard_coerce_hands (binary.fetch_ne fetched) _ t).mapError _).congr
          fun w => (handed w).symm
  · exact .throw

/-- A value of a host type is the value of the column. -/
theorem get_hands_at (binary : c.Binary id) (i : Nat) (t : HostType) :
    Hands id (do
      let v ← c.coerceColumn i (.host t.kind)
      match t.read? v with
      | some read => return read
      | none => throw (.coercion ⟨c.columnType i, .host t.kind, .unreadableAs v.kind t⟩))
      (c.handedAt id i (.host t.kind)) := by
  have looks : (fun v => match t.read? v with
      | some read => (pure read : StreamM Error Value)
      | none => throw (.coercion ⟨c.columnType i, .host t.kind, .unreadableAs v.kind t⟩)) =
      fun v => StreamM.ofExcept (if t.accepts v then .ok v
        else .error (.coercion ⟨c.columnType i, .host t.kind, .unreadableAs v.kind t⟩)) := by
    funext v
    unfold HostType.read?
    cases t.accepts v with
    | true => rfl
    | false => rfl
  rw [looks]
  refine (coerceColumn_hands binary i (.host t.kind)).bind_ofExcept ?_ ?_
  · intro ss v ss' _ w read
    split at read
    · cases read
      rfl
    · cases read
  · intro ss v ss' _ e refused
    split at refused
    · cases refused
    · rename_i other
      -- bytes are refused only where no bytes are asked for
      by_cases bytes : t.kind = .bytes
      · refine handedAt_of_kind_ne (fun kind => other ?_) _
        exact HostType.accepts_of_kind (kind.trans (congrArg some bytes.symm))
      · exact handedAt_of_target_ne (fun same => bytes (Target.host.inj same)) v

/-! ## The columns of a reading -/

/-- A column with the target that is asked for, if the column is found and there is one. -/
def askedAt (c : Cursor S) (ref : ColumnRef) (target : Nat → Option Target) :
    List (Target × Nat) :=
  match c.resolve ref with
  | .ok i => ((target i).map (·, i)).toList
  | .error _ => []

/-- The columns that a reading asks for, with their targets. -/
def asked (c : Cursor S) : Reading → List (Target × Nat)
  | .get ref t => c.askedAt ref fun _ => some (.host t.kind)
  | .getAs ref t => c.askedAt ref fun _ => some t
  | .getValue ref => c.askedAt ref fun i => (c.columnType i).defaultTarget
  | .bytes ref => c.askedAt ref fun _ => some (.host .bytes)
  | .text ref => c.askedAt ref fun _ => some (.host .text)
  | .clock ref _ => c.askedAt ref fun _ => some (.host .timestamp)
  | .record fields _ => (fields.map Field.target).zipIdx

/-- What a caller is given of a stream with values for columns. -/
def handed (c : Cursor S) (id : StreamId) (asked : List (Target × Nat)) (given : List Value) :
    List (List UInt8) :=
  (asked.zip given).flatMap fun ((t, i), w) => c.handedAt id i t w

theorem handed_cons (t : Target) (i : Nat) (asked : List (Target × Nat)) (w : Value)
    (given : List Value) :
    c.handed id ((t, i) :: asked) (w :: given) = c.handedAt id i t w ++ c.handed id asked given :=
  rfl

/-- The reading asks for the bytes of the stream. -/
def asksBytes (c : Cursor S) (id : StreamId) (reading : Reading) : Bool :=
  (c.asked reading).any fun (t, i) =>
    t = .host .bytes && (c.fetch i).toOption = some (.blob id)

/-- One of the columns has no conversion to its target. -/
def refuses (c : Cursor S) (reading : Reading) : Bool :=
  (c.asked reading).any fun (t, i) => !c.registry.isCompatible (c.columnType i) t

/-- Nothing is given of the stream to who does not ask for its bytes. -/
theorem handed_of_asksBytes {reading : Reading} (not : c.asksBytes id reading = false)
    (given : List Value) : c.handed id (c.asked reading) given = [] := by
  rw [handed, List.flatMap_eq_nil_iff]
  intro ⟨⟨t, i⟩, w⟩ mem
  have other := List.any_eq_false.mp not _ (List.of_mem_zip mem).1
  show c.handedAt id i t w = []
  by_cases bytes : t = .host .bytes
  · unfold handedAt
    split
    · rename_i raw fetched
      refine Value.handed_of_ne fun same => other ?_
      simp [bytes, fetched, same, Except.toOption]
    · rfl
  · exact handedAt_of_target_ne bytes w

theorem asksBytes_of_handed {reading : Reading} (given : List Value)
    (some : c.handed id (c.asked reading) given ≠ []) : c.asksBytes id reading = true :=
  eq_true_of_ne_false fun not => some (handed_of_asksBytes not given)

theorem mem_askedAt {target : Nat → Option Target} {p : Target × Nat}
    (mem : p ∈ c.askedAt ref target) : c.resolve ref = .ok p.2 ∧ target p.2 = some p.1 := by
  unfold askedAt at mem
  split at mem
  · rename_i i resolved
    rw [Option.mem_toList] at mem
    obtain ⟨t, asks, rfl⟩ := Option.map_eq_some_iff.mp mem
    exact ⟨resolved, asks⟩
  · cases mem

/-- Reading a column gives what the column gives. -/
theorem atColumn_hands {α : Type} {f : Nat → StreamM Error α} {target : Nat → Option Target}
    {value : α → Value}
    (column : ∀ i t, target i = some t → Hands id (f i) fun a => c.handedAt id i t (value a))
    (none : ∀ i, target i = none → StreamM.Spares id (f i)) :
    Hands id (c.atColumn ref f) fun a => c.handed id (c.askedAt ref target) [value a] := by
  unfold atColumn askedAt
  cases c.resolve ref with
  | error e => exact .throw
  | ok i =>
    dsimp only
    cases asks : target i with
    | none => exact none i asks
    | some t => exact (column i t asks).congr fun a => (List.append_nil _).symm

theorem get_hands (binary : c.Binary id) (ref : ColumnRef) (t : HostType) :
    Hands id (c.get ref t) fun w => c.handed id (c.asked (.get ref t)) [w] := by
  refine atColumn_hands (fun i u asks => ?_) nofun
  cases asks
  exact get_hands_at binary i t

theorem getAs_hands (binary : c.Binary id) (ref : ColumnRef) (t : Target) :
    Hands id (c.getAs ref t) fun w => c.handed id (c.asked (.getAs ref t)) [w] := by
  refine atColumn_hands (fun i u asks => ?_) nofun
  cases asks
  exact coerceColumn_hands binary i t

theorem getValue_hands (binary : c.Binary id) (ref : ColumnRef) :
    Hands id (c.getValue ref) fun w => c.handed id (c.asked (.getValue ref)) [w] := by
  refine atColumn_hands (fun i t asks => ?_) fun i asks => ?_
  · rw [asks]
    exact coerceColumn_hands binary i t
  · rw [asks]
    exact .throw

/-- Nothing is given of a stream to who does not ask for bytes. -/
theorem handed_eq_nil {asked : List (Target × Nat)} (other : ∀ p ∈ asked, p.1 ≠ .host .bytes)
    (given : List Value) : c.handed id asked given = [] := by
  rw [handed, List.flatMap_eq_nil_iff]
  intro ⟨⟨t, i⟩, w⟩ mem
  exact handedAt_of_target_ne (other _ (List.of_mem_zip mem).1) w

theorem handed_askedAt_eq_nil {t : Target} (other : t ≠ .host .bytes) (given : List Value) :
    c.handed id (c.askedAt ref fun _ => some t) given = [] :=
  handed_eq_nil (fun _ mem same => other ((Option.some.inj (mem_askedAt mem).2).trans same)) given

/-- A read for something else than bytes leaves the stream alone, whatever becomes of the value. -/
theorem get_bind_spares (binary : c.Binary id) (ref : ColumnRef) {t : HostType}
    (other : t.kind ≠ .bytes) {α : Type} {f : Value → StreamM Error α}
    (spares : ∀ w, StreamM.Spares id (f w)) : StreamM.Spares id (c.get ref t >>= f) := by
  have asks : Target.host t.kind ≠ .host .bytes := fun same => other (Target.host.inj same)
  exact ((get_hands binary ref t).congr fun w => handed_askedAt_eq_nil asks [w]).bind
    fun _ _ => spares _

theorem getText_spares (binary : c.Binary id) (ref : ColumnRef) :
    StreamM.Spares id (c.getText ref) := by
  refine get_bind_spares (t := ⟨.text, true⟩) binary ref nofun fun w => ?_
  split
  · exact .pure rfl
  · exact .pure rfl

theorem getClock_spares (binary : c.Binary id) (ref : ColumnRef) (offset : Int) :
    StreamM.Spares id (c.getClock ref offset) := by
  refine get_bind_spares (t := ⟨.timestamp, false⟩) binary ref nofun fun w => ?_
  split
  · split
    · exact .pure rfl
    · exact .throw
  · exact .throw

/-- Who is not given bytes where he asks for them has not met the stream. -/
theorem handed_of_get_kind_ne (binary : c.Binary id) {t : HostType} {w : Value}
    (given : c.get ref t ss = (.ok w, ss')) (other : w.kind ≠ some t.kind) (v : Value) :
    c.handed id (c.asked (.get ref t)) [v] = [] := by
  rw [handed, List.flatMap_eq_nil_iff]
  intro ⟨⟨u, i⟩, v'⟩ mem
  obtain ⟨resolved, -⟩ := mem_askedAt (List.of_mem_zip mem).1
  obtain ⟨converted, -⟩ := (get_eq_ok_iff resolved).mp given
  show c.handedAt id i u v' = []
  unfold handedAt
  split
  · rename_i raw fetched
    refine Value.handed_of_ne fun same => other ?_
    have present : ¬(raw = .null ∧ c.allowNulls = true) := by
      rw [same]
      nofun
    exact coerceColumn_ensures binary.standard fetched present
      (isCompatible_of_coerceColumn converted) ss w ss' converted
  · rfl

theorem getBytes_hands (binary : c.Binary id) (ref : ColumnRef) :
    Hands id (c.getBytes ref) fun bs => c.handed id (c.asked (.bytes ref)) [.bytes bs] := by
  have hands := get_hands binary ref ⟨.bytes, true⟩
  refine ⟨fun {ss bs ss'} holds given => ?_, fun {ss e ss'} holds failed => ?_⟩
  · obtain ⟨w, ss₁, ran, read⟩ := bind_run_eq_ok_iff.mp given
    have drains := hands.gives holds ran
    split at read
    · cases read
      exact drains
    · rename_i other
      cases read
      have missing : w.kind ≠ some .bytes := by
        cases w with
        | bytes bs => exact absurd rfl (other bs)
        | _ => nofun
      have nothing := handed_of_get_kind_ne binary ran missing
      rw [nothing] at drains
      exact (nothing (.bytes [])).symm ▸ drains
  · unfold getBytes at failed
    rw [bind_run] at failed
    split at failed
    · split at failed
      · cases failed
      · cases failed
    · rename_i ran
      cases failed
      exact hands.fails holds ran

/-! ## Records -/

/-- The columns of a record, taken one after the other. -/
theorem coerceFields_gives (binary : c.Binary id) {fields : List Field} {ws : List Value}
    (holds : ss.Holds id) (converted : c.coerceFields i fields ss = (.ok ws, ss')) :
    ss.Drains id (c.handed id ((fields.map Field.target).zipIdx i) ws) [] ss' := by
  induction fields generalizing i ss ws with
  | nil =>
    obtain ⟨rfl, rfl⟩ := pure_run_eq_ok_iff.mp converted
    exact .refl holds
  | cons field fields ih =>
    obtain ⟨w, ss₁, others, first, following, rfl⟩ := coerceFields_cons_eq_ok_iff.mp converted
    have drains := (coerceColumn_hands binary i field.target).gives holds first
    rw [List.map_cons, List.zipIdx_cons, handed_cons]
    exact drains.trans (ih drains.holds following)

/-- If one of them fails, what the columns in front of it have taken is lost. -/
theorem coerceFields_fails (binary : c.Binary id) {fields : List Field} {e : Error}
    (holds : ss.Holds id) (failed : c.coerceFields i fields ss = (.error e, ss')) :
    ∃ ws, ss.Drains id [] (c.handed id ((fields.map Field.target).zipIdx i) ws).flatten ss' := by
  induction fields generalizing i ss with
  | nil => cases failed
  | cons field fields ih =>
    have hands := coerceColumn_hands binary i field.target
    rw [List.map_cons, List.zipIdx_cons]
    rw [coerceFields, bind_run] at failed
    split at failed
    · rename_i w ss₁ first
      have drains := hands.gives holds first
      rw [bind_run] at failed
      split at failed
      · cases failed
      · rename_i following
        cases failed
        obtain ⟨ws, others⟩ := ih drains.holds following
        have lost := (drains.trans others).forfeit_all
        refine ⟨w :: ws, ?_⟩
        rw [handed_cons, List.flatten_append]
        rw [List.append_nil, List.nil_append] at lost
        exact lost
    · rename_i first
      cases failed
      refine ⟨[], ?_⟩
      rw [handed, List.zip_nil_right]
      exact hands.fails holds first

theorem length_of_coerceFields {fields : List Field} {ws : List Value}
    (converted : c.coerceFields i fields ss = (.ok ws, ss')) : ws.length = fields.length := by
  induction fields generalizing i ss ws with
  | nil =>
    obtain ⟨rfl, rfl⟩ := pure_run_eq_ok_iff.mp converted
    rfl
  | cons field fields ih =>
    obtain ⟨w, ss₁, others, -, following, rfl⟩ := coerceFields_cons_eq_ok_iff.mp converted
    exact congrArg (· + 1) (ih following)

/-- Some of the values are given first, and then the others. -/
theorem handed_take (c : Cursor S) (id : StreamId) (asked : List (Target × Nat))
    (given : List Value) (n : Nat) :
    ∃ later, c.handed id asked given = c.handed id asked (given.take n) ++ later := by
  refine ⟨c.handed id (asked.drop n) (given.drop n), ?_⟩
  induction n generalizing asked given with
  | zero =>
    rw [List.take_zero, handed, handed, List.zip_nil_right]
    rfl
  | succ n ih =>
    match asked, given with
    | [], _ => rfl
    | _ :: _, [] => simp [handed]
    | (t, i) :: asked, w :: given =>
      rw [List.take_succ_cons, handed_cons, handed_cons, ih asked given, List.append_assoc]
      rfl

/-- A record gives the bytes of its first fields. Those of the fields that are not read are lost. -/
theorem getRecord_gives (binary : c.Binary id) {fields : List Field} {reads : List HostType}
    {vs : List Value} (holds : ss.Holds id)
    (given : c.getRecord fields reads ss = (.ok vs, ss')) :
    ∃ lost, ss.Drains id (c.handed id (c.asked (.record fields reads)) vs) lost ss' ∧
      (lost ≠ [] → c.asksBytes id (.record fields reads) = true ∧ vs.length < fields.length) := by
  by_cases onRow : c.state = .onRow
  · obtain ⟨-, -, ws, converted, read⟩ := (getRecord_eq_ok_iff onRow).mp given
    obtain ⟨n, rfl⟩ := FieldReader.readAll_eq_take read
    have drains : ss.Drains id (c.handed id (c.asked (.record fields reads)) ws) [] ss' :=
      coerceFields_gives binary holds converted
    by_cases all : ws.length ≤ n
    · rw [List.take_of_length_le all]
      exact ⟨[], drains, nofun⟩
    · obtain ⟨later, split⟩ := handed_take c id (c.asked (.record fields reads)) ws n
      refine ⟨later.flatten ++ [], (split ▸ drains).forfeit, fun some => ⟨?_, ?_⟩⟩
      · refine asksBytes_of_handed ws fun none => some ?_
        rw [split] at none
        rw [(List.append_eq_nil_iff.mp none).2]
        rfl
      · rw [List.length_take, ← length_of_coerceFields converted]
        omega
  · rw [getRecord_of_state_ne onRow] at given
    cases given

theorem refuses_eq_false {fields : List Field} {reads : List HostType}
    (compatible : c.incompatible 0 fields = none) : c.refuses (.record fields reads) = false := by
  refine List.any_eq_false.mpr fun ⟨t, i⟩ mem => ?_
  have asks := List.mk_mem_zipIdx_iff_getElem?.mp mem
  rw [List.getElem?_map] at asks
  obtain ⟨field, here, target⟩ := Option.map_eq_some_iff.mp asks
  have converts := incompatible_eq_none_iff.mp compatible i field here
  rw [Nat.zero_add, target] at converts
  show ¬(!c.registry.isCompatible (c.columnType i) t) = true
  rw [converts]
  exact Bool.false_ne_true

/-- A record that fails has taken bytes only if all its columns have conversions, and it asks for
bytes. -/
theorem getRecord_fails (binary : c.Binary id) {fields : List Field} {reads : List HostType}
    {e : Error} (holds : ss.Holds id)
    (failed : c.getRecord fields reads ss = (.error e, ss')) :
    ∃ lost, ss.Drains id [] lost ss' ∧
      (lost ≠ [] → c.asksBytes id (.record fields reads) = true ∧
        c.refuses (.record fields reads) = false) := by
  have untouched (same : ss = ss') : ∃ lost, ss.Drains id [] lost ss' ∧ (lost ≠ [] →
      c.asksBytes id (.record fields reads) = true ∧ c.refuses (.record fields reads) = false) :=
    ⟨[], same ▸ .refl holds, nofun⟩
  by_cases onRow : c.state = .onRow
  · by_cases counted : fields.length = c.columns.length
    · cases found : c.incompatible 0 fields with
      | some refused =>
        rw [getRecord_of_incompatible onRow counted found] at failed
        exact untouched (congrArg Prod.snd failed)
      | none =>
        have taken : ∃ ws, ss.Drains id []
            (c.handed id (c.asked (.record fields reads)) ws).flatten ss' := by
          rw [getRecord_of_compatible onRow counted found, bind_run] at failed
          split at failed
          · rename_i ws ss₁ converted
            cases congrArg Prod.snd failed
            have lost := (coerceFields_gives binary holds converted).forfeit_all
            rw [List.append_nil] at lost
            exact ⟨ws, lost⟩
          · rename_i refused
            cases failed
            exact coerceFields_fails binary holds refused
        obtain ⟨ws, drains⟩ := taken
        refine ⟨_, drains, fun some => ⟨?_, refuses_eq_false found⟩⟩
        exact asksBytes_of_handed ws fun none => some (congrArg List.flatten none)
    · rw [getRecord_of_length_ne onRow counted] at failed
      exact untouched (congrArg Prod.snd failed)
  · rw [getRecord_of_state_ne onRow] at failed
    exact untouched (congrArg Prod.snd failed)

/-! ## All readings -/

/-- What a reading hands out, with what comes of it. A record that asks for the bytes of the stream
may have taken them for a field that is not read, or before it fails. -/
def delivery (c : Cursor S) (id : StreamId) (reading : Reading) : Except Error Answer → Delivery
  | .ok a => ⟨c.handed id (c.asked reading) a.given,
      c.asksBytes id reading && a.given.length < (c.asked reading).length⟩
  | .error _ => ⟨[], c.asksBytes id reading && reading.isRecord && !c.refuses reading⟩

theorem delivers_of_hands {reading : Reading}
    (hands : Hands id (Session.read c reading) fun a => c.handed id (c.asked reading) a.given)
    (holds : ss.Holds id) {r : Except Error Answer} (ran : Session.read c reading ss = (r, ss')) :
    ss.Delivers id (c.delivery id reading r) ss' := by
  cases r with
  | ok a => exact .of_drains (hands.gives holds ran) _
  | error e => exact .of_drains (hands.fails holds ran) _

/-- An answer is made of what is read. -/
theorem hands_answer {α : Type} {m : StreamM Error α} {pieces : α → List (List UInt8)}
    (hands : Hands id m pieces) {f : α → Answer} {later : Answer → List (List UInt8)}
    (same : ∀ a, later (f a) = pieces a) : Hands id (f <$> m) later := by
  rw [map_eq_pure_bind]
  exact hands.map fun _ => same _

/-- **A reading hands out all that it takes,** except that a record may fail, or leave fields
unread, with bytes taken for them. -/
theorem read_delivers (binary : c.Binary id) (reading : Reading) (holds : ss.Holds id)
    {r : Except Error Answer} (ran : Session.read c reading ss = (r, ss')) :
    ss.Delivers id (c.delivery id reading r) ss' := by
  cases reading with
  | get ref t =>
    exact delivers_of_hands (hands_answer (get_hands binary ref t) fun _ => rfl) holds ran
  | getAs ref t =>
    exact delivers_of_hands (hands_answer (getAs_hands binary ref t) fun _ => rfl) holds ran
  | getValue ref =>
    exact delivers_of_hands (hands_answer (getValue_hands binary ref) fun _ => rfl) holds ran
  | bytes ref =>
    exact delivers_of_hands (hands_answer (getBytes_hands binary ref) fun _ => rfl) holds ran
  | text ref =>
    refine delivers_of_hands (hands_answer (getText_spares binary ref) fun s => ?_) holds ran
    exact handed_askedAt_eq_nil (t := .host .text) nofun _
  | clock ref offset =>
    refine delivers_of_hands (hands_answer (getClock_spares binary ref offset) fun t => ?_) holds
      ran
    exact handed_askedAt_eq_nil (t := .host .timestamp) nofun _
  | record fields reads =>
    change (Answer.values <$> c.getRecord fields reads) ss = _ at ran
    rw [map_eq_pure_bind, bind_run] at ran
    split at ran
    · rename_i vs ss₁ given
      cases ran
      obtain ⟨lost, drains, unread⟩ := getRecord_gives binary holds given
      refine ⟨lost, drains, fun some => ?_⟩
      obtain ⟨asks, fewer⟩ := unread some
      have counted : (c.asked (.record fields reads)).length = fields.length := by
        rw [asked, List.length_zipIdx, List.length_map]
      rw [← counted] at fewer
      exact Bool.and_eq_true_iff.mpr ⟨asks, decide_eq_true fewer⟩
    · rename_i failed
      cases ran
      obtain ⟨lost, drains, late⟩ := getRecord_fails binary holds failed
      refine ⟨lost, drains, fun some => ?_⟩
      obtain ⟨asks, passed⟩ := late some
      show (c.asksBytes id _ && true && !c.refuses _) = true
      rw [asks, passed]
      rfl

/-! ## Refused readings -/

theorem coerceColumn_refused {t : Target}
    (incompatible : c.registry.isCompatible (c.columnType i) t = false) (ss : Streams) :
    c.coerceColumn i t ss = (.error (.coercion ⟨c.columnType i, t, .unsupported⟩), ss) := by
  rw [coerceColumn_unsupported incompatible]
  rfl

theorem exists_of_refuses {reading : Reading} (refused : c.refuses reading = true) :
    ∃ t i, (t, i) ∈ c.asked reading ∧ c.registry.isCompatible (c.columnType i) t = false := by
  obtain ⟨⟨t, i⟩, mem, incompatible⟩ := List.any_eq_true.mp refused
  exact ⟨t, i, mem, Bool.not_eq_true' _ ▸ incompatible⟩

theorem get_refused {t : HostType} (refused : c.refuses (.get ref t) = true) (ss : Streams) :
    ∃ e, c.get ref t ss = (.error e, ss) := by
  obtain ⟨u, i, mem, incompatible⟩ := exists_of_refuses refused
  obtain ⟨resolved, asks⟩ := mem_askedAt mem
  cases asks
  rw [get_run resolved, coerceColumn_refused incompatible]
  exact ⟨_, rfl⟩

theorem getRecord_refused {fields : List Field} {reads : List HostType}
    (refused : c.refuses (.record fields reads) = true) (ss : Streams) :
    ∃ e, c.getRecord fields reads ss = (.error e, ss) := by
  by_cases onRow : c.state = .onRow
  · by_cases counted : fields.length = c.columns.length
    · cases found : c.incompatible 0 fields with
      | some e => exact ⟨_, getRecord_of_incompatible onRow counted found⟩
      | none => exact absurd (refused.symm.trans (refuses_eq_false found)) nofun
    · exact ⟨_, getRecord_of_length_ne onRow counted⟩
  · rw [getRecord_of_state_ne onRow]
    exact ⟨_, rfl⟩

/-- A chain fails where its first part does. -/
theorem bind_error {α β : Type} {m : StreamM Error α} (failed : ∃ e, m ss = (.error e, ss))
    (f : α → StreamM Error β) : ∃ e, (m >>= f) ss = (.error e, ss) := by
  obtain ⟨e, ran⟩ := failed
  rw [bind_run, ran]
  exact ⟨e, rfl⟩

/-- A refused reading touches no stream. -/
theorem read_refused {reading : Reading} (refused : c.refuses reading = true) (ss : Streams) :
    ∃ e, Session.read c reading ss = (.error e, ss) := by
  unfold Session.read
  cases reading with
  | get ref t =>
    dsimp only
    rw [map_eq_pure_bind]
    exact bind_error (get_refused refused ss) _
  | getAs ref t =>
    obtain ⟨u, i, mem, incompatible⟩ := exists_of_refuses refused
    obtain ⟨resolved, asks⟩ := mem_askedAt mem
    cases asks
    dsimp only
    rw [map_eq_pure_bind, getAs_eq resolved]
    exact bind_error ⟨_, coerceColumn_refused incompatible ss⟩ _
  | getValue ref =>
    obtain ⟨u, i, mem, incompatible⟩ := exists_of_refuses refused
    obtain ⟨resolved, asks⟩ := mem_askedAt mem
    dsimp only at asks ⊢
    rw [map_eq_pure_bind, getValue_eq resolved asks]
    exact bind_error ⟨_, coerceColumn_refused incompatible ss⟩ _
  | bytes ref =>
    dsimp only
    rw [map_eq_pure_bind]
    exact bind_error (bind_error (get_refused (t := ⟨.bytes, true⟩) refused ss) _) _
  | text ref =>
    dsimp only
    rw [map_eq_pure_bind]
    exact bind_error (bind_error (get_refused (t := ⟨.text, true⟩) refused ss) _) _
  | clock ref offset =>
    dsimp only
    rw [map_eq_pure_bind]
    exact bind_error (bind_error (get_refused (t := ⟨.timestamp, false⟩) refused ss) _) _
  | record fields reads =>
    dsimp only
    rw [map_eq_pure_bind]
    exact bind_error (getRecord_refused refused ss) _

/-- The reading hands nothing of the stream to its caller: it is refused, or does not ask for the
bytes. -/
def passes (c : Cursor S) (id : StreamId) (reading : Reading) : Bool :=
  c.refuses reading || !c.asksBytes id reading

theorem delivery_of_passes {reading : Reading} (passes : c.passes id reading = true)
    (ss : Streams) : c.delivery id reading (Session.read c reading ss).1 = .nothing := by
  rcases Bool.or_eq_true_iff.mp passes with refused | other
  · obtain ⟨e, ran⟩ := read_refused refused ss
    rw [ran]
    show Delivery.mk [] (c.asksBytes id reading && reading.isRecord && !c.refuses reading) = _
    rw [refused, Bool.not_true, Bool.and_false]
    rfl
  · have asks : c.asksBytes id reading = false := Bool.not_eq_true' _ ▸ other
    unfold delivery
    rw [asks]
    split
    · rw [handed_of_asksBytes asks]
      rfl
    · rfl

end Cursor

end SqlAccess
