import SqlAccess.Proofs.Session.Deliveries

/-!
# Streams that are shared

An application reads streams itself, converts values that hold them, and hands them to a database in
memory and to a PostgreSQL server; whoever holds a stream may be the one to read it. All of them
together are given its bytes in order, each byte once.

* `Application.delivery`: what an act hands out of a stream.
* `step_delivers`, `step_takes`: one act.
* `delivery_of_passesOn`, `rest_of_passesOn`: an act that only passes the stream on.
* `run_takes`: several acts, one after the other.
* `bytes_delivered_once`: what all acts together hand out.
* `bytes_lost`: a record that fails after the bytes of its first field were taken.
-/

namespace SqlAccess

/-- A session that goes on with these streams. -/
def Session.withStreams {σ S : Type} (s : Session σ S) (ss : Streams) : Session σ S :=
  { s with connection := { s.connection with streams := ss } }

/-- An application at work on two databases, with streams that both of them share. -/
structure Application where
  streams : Streams
  memory : Session Memory.Server Memory.Statement
  postgres : Session Postgres.Server Postgres.Statement

/-- An application that has one stream, with these bytes, and whose databases answer nothing. -/
def Application.start (bytes : List UInt8) : Application where
  streams := ⟨[.ofBytes bytes]⟩
  memory := .start ⟨.empty, ⟨[], ⟨⟨[], []⟩, 0, none, none⟩, [], 0⟩⟩ ⟨.standard, default⟩
  postgres := .start ⟨.empty, ⟨[], []⟩⟩ ⟨.standard, default⟩

/-- One thing that an application does. -/
inductive Act where
  /-- Reads up to `count` bytes of a stream. -/
  | read (s : StreamId) (count : Nat)
  /-- Reads a stream to the end. -/
  | readAll (s : StreamId)
  /-- Converts a value of a column type to a target. -/
  | coerce (v : Value) (c : ColumnType) (t : Target)
  | inMemory (command : Command)
  | onPostgres (command : Command)

namespace Application

/-- Does one thing. -/
def step (app : Application) : Act → Application
  | .read s count => { app with streams := (StreamM.read s count app.streams).2 }
  | .readAll s => { app with streams := (StreamM.readAll s app.streams).2 }
  | .coerce v c t => { app with streams := (Registry.standard.coerce v c t app.streams).2 }
  | .inMemory command =>
    let s := ((app.memory.withStreams app.streams).step command).2
    { app with streams := s.connection.streams, memory := s }
  | .onPostgres command =>
    let s := ((app.postgres.withStreams app.streams).step command).2
    { app with streams := s.connection.streams, postgres := s }

/-- Does several things in a row. -/
def run (app : Application) : List Act → Application
  | [] => app
  | act :: acts => (app.step act).run acts

/-- What a read of a stream hands out. -/
def readDelivery (id s : StreamId) (r : Except String (List UInt8)) : Delivery :=
  if s = id then .ofOutcome (fun bytes => [bytes]) r else .nothing

/-- What an act hands out of a stream: to the application, or to a statement of PostgreSQL. -/
def delivery (app : Application) (id : StreamId) : Act → Delivery
  | .read s count => readDelivery id s (StreamM.read s count app.streams).1
  | .readAll s => readDelivery id s (StreamM.readAll s app.streams).1
  | .coerce v c t => .ofOutcome (v.handed id t) (Registry.standard.coerce v c t app.streams).1
  | .inMemory command =>
    (app.memory.withStreams app.streams).delivery (fun _ _ _ => .nothing) id command
  | .onPostgres command =>
    (app.postgres.withStreams app.streams).delivery (Postgres.receipt id) id command

/-- What several acts hand out, one piece after the other. -/
def pieces (app : Application) (id : StreamId) : List Act → List (List UInt8)
  | [] => []
  | act :: acts => (app.delivery id act).pieces ++ (app.step act).pieces id acts

/-- The bytes that several acts hand out. -/
def delivered (app : Application) (id : StreamId) (acts : List Act) : List UInt8 :=
  (app.pieces id acts).flatten

/-- The bytes of a stream that are still to come. -/
def rest (app : Application) (id : StreamId) : List UInt8 := app.streams.rest id

/-- The act takes bytes that it hands to nobody. -/
def Loses (app : Application) (id : StreamId) (act : Act) : Prop :=
  (app.delivery id act).lossy = true ∧
    (app.delivery id act).pieces.flatten ++ (app.step act).rest id ≠ app.rest id

/-- One of several acts does. -/
def LosesIn (app : Application) (id : StreamId) : List Act → Prop
  | [] => False
  | act :: acts => app.Loses id act ∨ (app.step act).LosesIn id acts

/-- Nothing has the stream for one of text. -/
structure Binary (id : StreamId) (app : Application) : Prop where
  memory : app.memory.Binary (Memory.Server.Binary id) id
  postgres : app.postgres.Binary (fun _ => True) id

end Application

namespace Act

/-- The act does not bring the stream as one of text. -/
def Binary (id : StreamId) : Act → Prop
  | read _ _ | readAll _ => True
  | coerce v _ _ => v ≠ .clob id
  | inMemory command | onPostgres command => command.Binary id

/-- The act may stop in the middle of a stream. -/
def isPartial : Act → Bool
  | read _ _ => true
  | _ => false

/-- The act hands the stream on at most. It converts to something else than bytes, or to a target
that the column type has no conversion to; it does something in memory, and if that is a read of
the bytes, it is refused; or it is a read on PostgreSQL that is refused or not one of the bytes. -/
def PassesOn (id : StreamId) (app : Application) : Act → Prop
  | read _ _ | readAll _ => False
  | coerce _ c t => t ≠ .host .bytes ∨ Registry.standard.isCompatible c t = false
  | inMemory command => app.memory.Passes id command
  | onPostgres (.read name reading) => app.postgres.Passes id (.read name reading)
  | onPostgres _ => False

end Act

/-! ## One act -/

section

variable {id : StreamId} {app : Application} {act : Act} {acts before after : List Act}

namespace Application

theorem binary_withStreams {σ S : Type} {clean : σ → Prop} {s : Session σ S}
    (binary : s.Binary clean id) (ss : Streams) : (s.withStreams ss).Binary clean id :=
  ⟨binary.standard, binary.cursors, binary.server⟩

theorem readDelivery_self (r : Except String (List UInt8)) :
    readDelivery id id r = .ofOutcome (fun bytes => [bytes]) r := if_pos rfl

theorem readDelivery_of_ne {s : StreamId} (other : s ≠ id) (r : Except String (List UInt8)) :
    readDelivery id s r = .nothing := if_neg other

/-- An act that does not stop in the middle hands out the rest of the stream, or nothing of it. -/
theorem step_delivers (binary : app.Binary id) (holds : app.streams.Holds id)
    (given : act.Binary id) (whole : act.isPartial = false) :
    (app.step act).Binary id ∧
      app.streams.Delivers id (app.delivery id act) (app.step act).streams := by
  cases act with
  | read s count => cases whole
  | readAll s =>
    refine ⟨⟨binary.memory, binary.postgres⟩, ?_⟩
    rw [delivery]
    by_cases here : s = id
    · subst here
      rw [readDelivery_self]
      exact StreamM.readAll_hands.delivers holds
    · rw [readDelivery_of_ne here]
      exact .of_drains ((StreamM.onStream_spares here Stream.readAll).spares holds) false
  | coerce v c t =>
    refine ⟨⟨binary.memory, binary.postgres⟩, ?_⟩
    exact (Registry.standard_coerce_hands given c t).delivers holds
  | inMemory command =>
    have stepped := Session.step_delivers (Memory.binaryResults id) Memory.set_delivers
      (binary_withStreams binary.memory app.streams) holds given
    exact ⟨⟨stepped.binary, binary.postgres⟩, stepped.streams⟩
  | onPostgres command =>
    have stepped := Session.step_delivers (Postgres.binaryResults id) Postgres.set_delivers
      (binary_withStreams binary.postgres app.streams) holds given
    exact ⟨⟨binary.memory, stepped.binary⟩, stepped.streams⟩

/-- Every act hands out bytes from the front of the stream, and behind those that it loses there is
nothing left. -/
theorem step_takes (binary : app.Binary id) (holds : app.streams.Holds id)
    (given : act.Binary id) :
    (app.step act).Binary id ∧ ∃ lost,
      app.streams.Takes id (app.delivery id act).pieces lost (app.step act).streams ∧
        (lost ≠ [] → app.Loses id act) := by
  cases whole : act.isPartial with
  | false =>
    obtain ⟨kept, lost, drains, lossy⟩ := step_delivers binary holds given whole
    refine ⟨kept, lost, drains.toTakes, fun some => ⟨lossy some, fun same => some ?_⟩⟩
    -- an account that is even without the lost bytes leaves no room for any
    have split := drains.split.trans same.symm
    rw [List.append_assoc, List.append_cancel_left_eq] at split
    exact List.append_left_eq_self.mp split
  | true =>
    cases act with
    | read s count =>
      refine ⟨⟨binary.memory, binary.postgres⟩, [], ?_, nofun⟩
      rw [delivery]
      by_cases here : s = id
      · subst here
        obtain ⟨ss', ran, takes⟩ := StreamM.read_takes holds count
        rw [readDelivery_self, step, ran]
        exact takes
      · rw [readDelivery_of_ne here]
        exact ((StreamM.onStream_spares here (·.read count)).spares holds).toTakes
    | _ => cases whole

/-- Behind bytes that are lost there is nothing left. -/
theorem rest_of_loses (binary : app.Binary id) (holds : app.streams.Holds id)
    (given : act.Binary id) (loses : app.Loses id act) : (app.step act).rest id = [] := by
  obtain ⟨-, lost, takes, -⟩ := step_takes binary holds given
  refine takes.ended fun none => loses.2 ?_
  have split := takes.split
  rw [none, List.append_nil] at split
  exact split

/-- An act that only passes the stream on hands out nothing. -/
theorem delivery_of_passesOn (passes : act.PassesOn id app) : app.delivery id act = .nothing := by
  cases act with
  | read | readAll => exact passes.elim
  | coerce v c t =>
    exact Delivery.ofOutcome_of_nil fun w given => Registry.handed_of_coerce passes given
  | inMemory command =>
    have nothing : (app.memory.withStreams app.streams).delivery (fun _ _ _ => .nothing) id
        command = .nothing := Session.delivery_of_passes passes fun _ _ _ => rfl
    exact nothing
  | onPostgres command =>
    cases command with
    | read name reading =>
      have nothing : (app.postgres.withStreams app.streams).delivery (Postgres.receipt id) id
          (.read name reading) = .nothing := Session.delivery_read_of_passes passes
      exact nothing
    | _ => exact passes.elim

/-- And leaves the stream as it was. -/
theorem rest_of_passesOn (binary : app.Binary id) (holds : app.streams.Holds id)
    (given : act.Binary id) (passes : act.PassesOn id app) :
    (app.step act).rest id = app.rest id := by
  obtain ⟨-, lost, takes, loses⟩ := step_takes binary holds given
  have nothing := delivery_of_passesOn passes
  have kept : lost = [] := by
    by_contra some
    have lossy := (loses some).1
    rw [nothing] at lossy
    cases lossy
  have split := takes.split
  rw [nothing, kept] at split
  exact split

/-! ## Several acts -/

theorem start_binary (bytes : List UInt8) : (start bytes).Binary id := by
  refine ⟨⟨rfl, .nil, fun r mem => ?_⟩, ⟨rfl, .nil, trivial⟩⟩
  rw [List.mem_singleton.mp mem]
  exact ⟨List.forall_mem_nil _, nofun⟩

theorem start_holds (bytes : List UInt8) : (start bytes).streams.Holds 0 :=
  ⟨Nat.zero_lt_one, rfl⟩

/-- Each act takes its bytes from those that the acts before it have left, and none of them makes
the stream one of text. -/
theorem run_takes (binary : app.Binary id) (holds : app.streams.Holds id)
    (given : ∀ act ∈ acts, act.Binary id) :
    (app.run acts).Binary id ∧ ∃ lost,
      app.streams.Takes id (app.pieces id acts) lost (app.run acts).streams ∧
        (lost ≠ [] → app.LosesIn id acts) := by
  induction acts generalizing app with
  | nil => exact ⟨binary, [], (Streams.Drains.refl holds).toTakes, nofun⟩
  | cons act acts ih =>
    obtain ⟨kept, lost, takes, loses⟩ := step_takes binary holds (given act List.mem_cons_self)
    obtain ⟨keptLater, lostLater, takesLater, losesLater⟩ :=
      ih kept takes.holds fun act later => given act (List.mem_cons_of_mem _ later)
    refine ⟨keptLater, lost ++ lostLater, takes.trans takesLater, fun some => ?_⟩
    by_cases none : lost = []
    · rw [none] at some
      exact .inr (losesLater some)
    · exact .inl (loses none)

theorem delivered_prefix (binary : app.Binary id) (holds : app.streams.Holds id)
    (given : ∀ act ∈ acts, act.Binary id) : app.delivered id acts <+: app.rest id := by
  obtain ⟨-, lost, takes, -⟩ := run_takes binary holds given
  exact ⟨lost ++ (app.run acts).rest id, (List.append_assoc _ _ _).symm.trans takes.split⟩

theorem delivered_append_rest (binary : app.Binary id) (holds : app.streams.Holds id)
    (given : ∀ act ∈ acts, act.Binary id) (none : ¬app.LosesIn id acts) :
    app.delivered id acts ++ (app.run acts).rest id = app.rest id := by
  obtain ⟨-, lost, takes, loses⟩ := run_takes binary holds given
  have kept : lost = [] := by
    by_contra some
    exact none (loses some)
  have split := takes.split
  rw [kept, List.append_nil] at split
  exact split

/-- The bytes of a stream are handed out once, in the order of the stream, whatever is done. -/
structure DeliversOnce (id : StreamId) (app : Application) (acts : List Act) : Prop where
  /-- No byte is skipped, repeated or out of order. -/
  inOrder : app.delivered id acts <+: app.rest id
  /-- All bytes are handed out or still to come, if no act loses any. -/
  accounted : ¬app.LosesIn id acts →
    app.delivered id acts ++ (app.run acts).rest id = app.rest id
  /-- When none is left to come, nothing is handed out any more, and all of them have been handed
  out, if no act has lost any. -/
  ended : ∀ before after, acts = before ++ after → (app.run before).rest id = [] →
    (app.run before).delivered id after = [] ∧
      (¬app.LosesIn id before → app.delivered id before = app.rest id)
  /-- Behind bytes that are lost there is nothing left. -/
  lost : ∀ before act after, acts = before ++ act :: after → (app.run before).Loses id act →
    ((app.run before).step act).rest id = []
  /-- An act that does not stop in the middle takes all that is left, or nothing. -/
  drained : ∀ before act after, acts = before ++ act :: after → act.isPartial = false →
    ((app.run before).step act).rest id = [] ∨
      ((app.run before).delivery id act).pieces = [] ∧
        ((app.run before).step act).rest id = (app.run before).rest id
  /-- An act that passes the stream on hands out nothing and takes nothing. -/
  passed : ∀ before act after, acts = before ++ act :: after → act.PassesOn id (app.run before) →
    ((app.run before).delivery id act).pieces = [] ∧
      ((app.run before).step act).rest id = (app.run before).rest id

/-- **Every byte of a stream is delivered once.** Whatever an application does with a stream that
never fails, and whoever reads it, the first bytes of the stream are handed out in their order, and
the next ones are still to come. Only two kinds of acts take bytes for nobody: a record that asks
for them, and then fails or leaves a field unread; and a value for a position that a PostgreSQL
statement does not have. Then the stream is at its end. -/
theorem bytes_delivered_once (binary : app.Binary id) (holds : app.streams.Holds id)
    (given : ∀ act ∈ acts, act.Binary id) : app.DeliversOnce id acts := by
  have upTo {before after : List Act} (split : acts = before ++ after) :
      ∀ act ∈ before, act.Binary id := fun act mem =>
    given act (split ▸ List.mem_append_left after mem)
  have later {before after : List Act} (split : acts = before ++ after) :
      ∀ act ∈ after, act.Binary id := fun act mem =>
    given act (split ▸ List.mem_append_right before mem)
  have reached {before after : List Act} (split : acts = before ++ after) :
      (app.run before).Binary id ∧ (app.run before).streams.Holds id := by
    obtain ⟨kept, _, takes, -⟩ := run_takes binary holds (upTo split)
    exact ⟨kept, takes.holds⟩
  constructor
  case inOrder => exact delivered_prefix binary holds given
  case accounted => exact delivered_append_rest binary holds given
  case ended =>
    intro before after split none
    obtain ⟨kept, there⟩ := reached split
    refine ⟨?_, fun lossless => ?_⟩
    · have nothing := delivered_prefix kept there (later split)
      rw [none] at nothing
      exact List.prefix_nil.mp nothing
    · have all := delivered_append_rest binary holds (upTo split) lossless
      rw [none, List.append_nil] at all
      exact all
  case lost =>
    intro before act after split loses
    obtain ⟨kept, there⟩ := reached split
    exact rest_of_loses kept there (later split act List.mem_cons_self) loses
  case drained =>
    intro before act after split whole
    obtain ⟨kept, there⟩ := reached split
    obtain ⟨-, _, drains, -⟩ :=
      step_delivers kept there (later split act List.mem_cons_self) whole
    exact drains.all_or_none
  case passed =>
    intro before act after split passes
    obtain ⟨kept, there⟩ := reached split
    exact ⟨congrArg Delivery.pieces (delivery_of_passesOn passes),
      rest_of_passesOn kept there (later split act List.mem_cons_self) passes⟩

/-- The application reads one byte, a cursor in memory the other two. Nothing is left for a
conversion. -/
theorem bytes_delivered_once_by_three_readers :
    let app := start [1, 2, 3]
    let acts : List Act := [
      .read 0 1,
      .inMemory (.rows "r" [⟨"b", .blob, none⟩] [[.blob 0]] false),
      .inMemory (.advance "r"),
      .inMemory (.read "r" (.bytes (.label "b"))),
      .coerce (.blob 0) .blob (.host .bytes)]
    app.Binary 0 ∧ app.streams.Holds 0 ∧ (∀ act ∈ acts, act.Binary 0) ∧
      app.pieces 0 acts = [[1], [2, 3], []] ∧ app.DeliversOnce 0 acts := by
  intro app acts
  have given : ∀ act ∈ acts, act.Binary 0 := by
    simp [acts, Act.Binary, Command.Binary, Command.values]
  have delivers := bytes_delivered_once (start_binary [1, 2, 3]) (start_holds _) given
  exact ⟨start_binary _, start_holds _, given, rfl, delivers⟩

/-- A record takes the bytes for its first field and fails at its second one. The stream is at its
end, and nobody has its bytes. -/
theorem bytes_lost :
    let app := start [1, 2]
    let acts : List Act := [
      .inMemory (.rows "r" [⟨"b", .blob, none⟩, ⟨"n", .integer, none⟩]
        [[.blob 0, .text "x"]] false),
      .inMemory (.advance "r"),
      .inMemory (.read "r" (.record [⟨"b", .host .bytes⟩, ⟨"n", .host (.int .w32)⟩]
        [⟨.bytes, false⟩, ⟨.int .w32, false⟩]))]
    app.Binary 0 ∧ app.streams.Holds 0 ∧ (∀ act ∈ acts, act.Binary 0) ∧
      app.rest 0 = [1, 2] ∧ (app.run acts).rest 0 = [] ∧ app.delivered 0 acts = [] := by
  intro app acts
  have given : ∀ act ∈ acts, act.Binary 0 := by
    simp [acts, Act.Binary, Command.Binary, Command.values]
  have ended : (app.run acts).rest 0 = [] := by decide +kernel
  have nothing : app.delivered 0 acts = [] := by decide +kernel
  exact ⟨start_binary _, start_holds _, given, rfl, ended, nothing⟩

end Application

end

end SqlAccess
