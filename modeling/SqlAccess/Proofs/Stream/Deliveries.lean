import SqlAccess.Proofs.Stream.Postconditions

/-!
# What becomes of the bytes of a stream

A stream has many readers, and each of them takes bytes from its front. Between two moments some
pieces of it were handed out, one after the other, some bytes may have been lost, and the others are
still to come: `Takes` says so for one stream among all, and `Drains` for operations that do not
stop in the middle. `Hands` says what a computation hands out with what it gives, and that it takes
nothing when it fails; the rules follow the way computations are put together.

* `Takes.trans`, `Drains.trans`: one operation after the other.
* `Spares`: a computation that leaves the stream alone.
* `readAll_hands`, `read_takes`: reading to the end, and reading some bytes.
-/

namespace SqlAccess

theorem Stream.readAll_of_ends {s : Stream} (ends : s.failure = none) :
    s.readAll = (.ok s.rest, { s with rest := [] }) := by
  unfold readAll
  rw [ends]

theorem Stream.read_of_ends {s : Stream} (ends : s.failure = none) (count : Nat) :
    s.read count = (.ok (s.rest.take count), { s with rest := s.rest.drop count }) := by
  unfold read
  split
  · rename_i failing
    cases ends.symm.trans failing
  · rfl

namespace Streams

variable {ss ss₁ ss' : Streams} {id other : StreamId} {s : Stream}
  {pieces later : List (List UInt8)} {lost lost' : List UInt8}

theorem get_set_self (present : id < ss.entries.length) (s : Stream) :
    (ss.set id s).get id = s := by
  simp [get, set, present]

theorem get_set_of_ne (ne : other ≠ id) (s : Stream) : (ss.set other s).get id = ss.get id := by
  simp [get, set, List.getElem?_set_ne ne]

theorem get_add (present : id < ss.entries.length) (s : Stream) :
    (ss.add s).2.get id = ss.get id := by
  simp [get, add, List.getElem?_append_left present]

/-- The stream is there, and its end can be reached. -/
structure Holds (ss : Streams) (id : StreamId) : Prop where
  present : id < ss.entries.length
  ends : (ss.get id).failure = none

/-- The bytes of a stream that are still to come. -/
def rest (ss : Streams) (id : StreamId) : List UInt8 := (ss.get id).rest

/-- What became of the bytes of a stream: these pieces were handed out, one after the other, and
these bytes were lost. Bytes are only lost together with all that came behind them. -/
structure Takes (id : StreamId) (ss : Streams) (pieces : List (List UInt8)) (lost : List UInt8)
    (ss' : Streams) : Prop where
  holds : ss'.Holds id
  split : pieces.flatten ++ lost ++ ss'.rest id = ss.rest id
  ended : lost ≠ [] → ss'.rest id = []

/-- And whoever has taken any bytes has taken all of them. -/
structure Drains (id : StreamId) (ss : Streams) (pieces : List (List UInt8)) (lost : List UInt8)
    (ss' : Streams) : Prop extends Takes id ss pieces lost ss' where
  drained : pieces ≠ [] → ss'.rest id = []

theorem Takes.trans (first : ss.Takes id pieces lost ss₁) (second : ss₁.Takes id later lost' ss') :
    ss.Takes id (pieces ++ later) (lost ++ lost') ss' := by
  have split : pieces.flatten ++ lost ++ (later.flatten ++ lost' ++ ss'.rest id) = ss.rest id := by
    rw [second.split, first.split]
  by_cases kept : lost = []
  · subst kept
    refine ⟨second.holds, ?_, second.ended⟩
    rw [← split]
    simp
  · -- behind lost bytes there is nothing to hand out
    have nothing := second.split
    rw [first.ended kept] at nothing
    obtain ⟨before, none⟩ := List.append_eq_nil_iff.mp nothing
    obtain ⟨noLater, noLost⟩ := List.append_eq_nil_iff.mp before
    refine ⟨second.holds, ?_, fun _ => none⟩
    rw [← split, List.flatten_append, noLater, noLost, none]
    simp

theorem Drains.trans (first : ss.Drains id pieces lost ss₁)
    (second : ss₁.Drains id later lost' ss') :
    ss.Drains id (pieces ++ later) (lost ++ lost') ss' := by
  refine ⟨first.toTakes.trans second.toTakes, fun some => ?_⟩
  by_cases none : later = []
  · have taken : pieces ≠ [] := by
      rintro rfl
      exact some none
    have nothing := second.split
    rw [first.drained taken] at nothing
    exact (List.append_eq_nil_iff.mp nothing).2
  · exact second.drained none

/-- The stream is as it was. -/
theorem Drains.same (holds : ss'.Holds id) (same : ss'.rest id = ss.rest id) :
    ss.Drains id [] [] ss' := ⟨⟨holds, same, nofun⟩, nofun⟩

theorem Drains.refl (holds : ss.Holds id) : ss.Drains id [] [] ss := .same holds rfl

/-- The last pieces, taken but not given to anybody, are lost. -/
theorem Drains.forfeit (drains : ss.Drains id (pieces ++ later) lost ss') :
    ss.Drains id pieces (later.flatten ++ lost) ss' := by
  refine ⟨⟨drains.holds, ?_, fun taken => ?_⟩, fun some => ?_⟩
  · rw [← drains.split]
    simp
  · by_cases none : lost = []
    · refine drains.drained fun nothing => taken ?_
      rw [(List.append_eq_nil_iff.mp nothing).2, none]
      rfl
    · exact drains.ended none
  · exact drains.drained fun nothing => some (List.append_eq_nil_iff.mp nothing).1

theorem Drains.forfeit_all (drains : ss.Drains id pieces lost ss') :
    ss.Drains id [] (pieces.flatten ++ lost) ss' := by
  have split : ss.Drains id ([] ++ pieces) lost ss' := drains
  exact split.forfeit

theorem Holds.set_self (holds : ss.Holds id) (rest : List UInt8) :
    (ss.set id { ss.get id with rest := rest }).Holds id := by
  refine ⟨?_, ?_⟩
  · rw [set, List.length_set]
    exact holds.present
  · rw [get_set_self holds.present]
    exact holds.ends

/-- All bytes are taken, or none. -/
theorem Drains.all_or_none (drains : ss.Drains id pieces lost ss') :
    ss'.rest id = [] ∨ pieces = [] ∧ ss'.rest id = ss.rest id := by
  by_cases some : pieces = []
  · by_cases none : lost = []
    · have split := drains.split
      rw [some, none] at split
      exact .inr ⟨some, split⟩
    · exact .inl (drains.ended none)
  · exact .inl (drains.drained some)

/-- Other streams do not matter. -/
theorem Drains.set_of_ne (holds : ss.Holds id) (ne : other ≠ id) (s : Stream) :
    ss.Drains id [] [] (ss.set other s) := by
  refine .same ⟨?_, ?_⟩ ?_
  · rw [set, List.length_set]
    exact holds.present
  · rw [get_set_of_ne ne]
    exact holds.ends
  · rw [rest, get_set_of_ne ne]
    rfl

theorem Drains.add (holds : ss.Holds id) (s : Stream) : ss.Drains id [] [] (ss.add s).2 := by
  refine .same ⟨?_, ?_⟩ ?_
  · rw [Streams.add, List.length_append]
    exact Nat.lt_add_right _ holds.present
  · rw [get_add holds.present]
    exact holds.ends
  · rw [rest, get_add holds.present]
    rfl

theorem Holds.rest_set_self (holds : ss.Holds id) (bytes : List UInt8) :
    (ss.set id { ss.get id with rest := bytes }).rest id = bytes := by
  rw [rest, get_set_self holds.present]

/-- Reading to the end. -/
theorem Drains.all (holds : ss.Holds id) :
    ss.Drains id [ss.rest id] [] (ss.set id { ss.get id with rest := [] }) := by
  have none := holds.rest_set_self []
  refine ⟨⟨holds.set_self [], ?_, nofun⟩, fun _ => none⟩
  rw [none]
  simp

end Streams

/-! ## Deliveries -/

/-- What an operation hands out of a stream. -/
structure Delivery where
  /-- The pieces, one after the other. -/
  pieces : List (List UInt8)
  /-- The operation may have taken bytes that it hands to nobody. -/
  lossy : Bool

namespace Delivery

def nothing : Delivery := ⟨[], false⟩

/-- What is handed out with an outcome; nothing with a failure. -/
def ofOutcome {ε α : Type} (pieces : α → List (List UInt8)) : Except ε α → Delivery
  | .ok a => ⟨pieces a, false⟩
  | .error _ => .nothing

theorem ofOutcome_of_nil {ε α : Type} {pieces : α → List (List UInt8)} {r : Except ε α}
    (nothing : ∀ a, r = .ok a → pieces a = []) : ofOutcome pieces r = .nothing := by
  cases r with
  | error e => rfl
  | ok a =>
    rw [ofOutcome, nothing a rfl]
    rfl

/-- One delivery after the other. -/
instance : Append Delivery := ⟨fun d e => ⟨d.pieces ++ e.pieces, d.lossy || e.lossy⟩⟩

theorem lossy_append {d e : Delivery} {lost lost' : List UInt8} (first : lost ≠ [] → d.lossy = true)
    (second : lost' ≠ [] → e.lossy = true) (some : lost ++ lost' ≠ []) :
    (d ++ e).lossy = true := by
  show (d.lossy || e.lossy) = true
  by_cases none : lost = []
  · rw [none, List.nil_append] at some
    rw [second some, Bool.or_true]
  · rw [first none, Bool.true_or]

end Delivery

namespace Streams

variable {ss ss₁ ss' : Streams} {id : StreamId} {d e : Delivery}

/-- The operation hands this out and leaves the rest of the stream, or nothing of it. -/
def Delivers (id : StreamId) (ss : Streams) (d : Delivery) (ss' : Streams) : Prop :=
  ∃ lost, ss.Drains id d.pieces lost ss' ∧ (lost ≠ [] → d.lossy = true)

theorem Delivers.of_drains {pieces : List (List UInt8)} (drains : ss.Drains id pieces [] ss')
    (lossy : Bool) : ss.Delivers id ⟨pieces, lossy⟩ ss' := ⟨[], drains, nofun⟩

theorem Delivers.refl (holds : ss.Holds id) : ss.Delivers id .nothing ss :=
  .of_drains (.refl holds) false

theorem Delivers.holds (delivers : ss.Delivers id d ss') : ss'.Holds id := by
  obtain ⟨lost, drains, -⟩ := delivers
  exact drains.holds

theorem Delivers.trans (first : ss.Delivers id d ss₁) (second : ss₁.Delivers id e ss') :
    ss.Delivers id (d ++ e) ss' := by
  obtain ⟨lost, drains, lossy⟩ := first
  obtain ⟨lost', drains', lossy'⟩ := second
  exact ⟨lost ++ lost', drains.trans drains', Delivery.lossy_append lossy lossy'⟩

/-- What happens behind it without touching the stream does not matter. -/
theorem Delivers.spare (delivers : ss.Delivers id d ss₁) (spared : ss₁.Drains id [] [] ss') :
    ss.Delivers id d ss' := by
  obtain ⟨lost, drains, lossy⟩ := delivers
  have both := drains.trans spared
  rw [List.append_nil, List.append_nil] at both
  exact ⟨lost, both, lossy⟩

end Streams

namespace StreamM

variable {ε ε' α β : Type} {id : StreamId} {m : StreamM ε α} {pieces : α → List (List UInt8)}
  {ss ss' : Streams}

/-- A computation that gives something has handed out these pieces of the stream with it; one that
fails has taken nothing. -/
structure Hands (id : StreamId) (m : StreamM ε α) (pieces : α → List (List UInt8)) : Prop where
  gives : ∀ {ss a ss'}, ss.Holds id → m ss = (.ok a, ss') → ss.Drains id (pieces a) [] ss'
  fails : ∀ {ss e ss'}, ss.Holds id → m ss = (.error e, ss') → ss.Drains id [] [] ss'

/-- The computation leaves the stream alone. -/
abbrev Spares (id : StreamId) (m : StreamM ε α) : Prop := Hands id m fun _ => []

theorem Hands.pure {a : α} (nothing : pieces a = []) :
    Hands id (Pure.pure a : StreamM ε α) pieces := by
  refine ⟨fun holds given => ?_, fun holds failed => ?_⟩
  · cases given
    rw [nothing]
    exact .refl holds
  · cases failed

theorem Hands.throw {e : ε} : Hands id (MonadExcept.throw e : StreamM ε α) pieces := by
  refine ⟨fun holds given => ?_, fun holds failed => ?_⟩
  · cases given
  · cases failed
    exact .refl holds

theorem Hands.ofExcept {r : Except ε α} (nothing : ∀ a, r = .ok a → pieces a = []) :
    Hands id (StreamM.ofExcept r) pieces := by
  refine ⟨fun holds given => ?_, fun holds failed => ?_⟩
  · obtain ⟨ok, rfl⟩ := ofExcept_run_eq_ok_iff.mp given
    rw [nothing _ ok]
    exact .refl holds
  · cases failed
    exact .refl holds

theorem Hands.mapError (f : ε → ε') (hands : Hands id m pieces) :
    Hands id (StreamM.mapError f m) pieces := by
  refine ⟨fun {ss a ss'} holds given => ?_, fun {ss e ss'} holds failed => ?_⟩
  · exact hands.gives holds (mapError_run_eq_ok_iff.mp given)
  · rw [StreamM.mapError] at failed
    split at failed
    · cases failed
    · rename_i ran
      cases failed
      exact hands.fails holds ran

/-- A first part that spares the stream. The second one is only reached with what the first gives
on streams that hold it. -/
theorem Hands.bind {f : α → StreamM ε β} {later : β → List (List UInt8)}
    (first : Hands id m fun _ => [])
    (second : ∀ {ss a ss'}, ss.Holds id → m ss = (.ok a, ss') → Hands id (f a) later) :
    Hands id (m >>= f) later := by
  refine ⟨fun {ss b ss'} holds given => ?_, fun {ss e ss'} holds failed => ?_⟩
  · obtain ⟨a, ss₁, ran, then_⟩ := bind_run_eq_ok_iff.mp given
    have spared := first.gives holds ran
    exact spared.trans ((second holds ran).gives spared.holds then_)
  · rw [bind_run] at failed
    split at failed
    · rename_i a ss₁ ran
      have spared := first.gives holds ran
      exact spared.trans ((second holds ran).fails spared.holds failed)
    · rename_i ran
      cases failed
      exact first.fails holds ran

theorem Hands.congr {later : α → List (List UInt8)} (hands : Hands id m pieces)
    (same : ∀ a, pieces a = later a) : Hands id m later := by
  have eq : pieces = later := funext same
  rw [← eq]
  exact hands

theorem Hands.map {f : α → β} {later : β → List (List UInt8)} (hands : Hands id m pieces)
    (same : ∀ {ss a ss'}, m ss = (.ok a, ss') → later (f a) = pieces a) :
    Hands id (m >>= fun a => Pure.pure (f a)) later := by
  refine ⟨fun {ss b ss'} holds given => ?_, fun {ss e ss'} holds failed => ?_⟩
  · obtain ⟨a, ss₁, ran, then_⟩ := bind_run_eq_ok_iff.mp given
    obtain ⟨rfl, rfl⟩ := pure_run_eq_ok_iff.mp then_
    rw [same ran]
    exact hands.gives holds ran
  · rw [bind_run] at failed
    split at failed
    · cases failed
    · rename_i ran
      cases failed
      exact hands.fails holds ran

/-- A second part that only looks at what the first one gives. It may refuse that only if nothing
was handed out with it. -/
theorem Hands.bind_ofExcept {g : α → Except ε β} {later : β → List (List UInt8)}
    (first : Hands id m pieces)
    (same : ∀ {ss a ss'}, m ss = (.ok a, ss') → ∀ b, g a = .ok b → later b = pieces a)
    (refuses : ∀ {ss a ss'}, m ss = (.ok a, ss') → ∀ e, g a = .error e → pieces a = []) :
    Hands id (m >>= fun a => StreamM.ofExcept (g a)) later := by
  refine ⟨fun {ss b ss'} holds given => ?_, fun {ss e ss'} holds failed => ?_⟩
  · obtain ⟨a, ss₁, ran, then_⟩ := bind_run_eq_ok_iff.mp given
    obtain ⟨ok, rfl⟩ := ofExcept_run_eq_ok_iff.mp then_
    rw [same ran b ok]
    exact first.gives holds ran
  · rw [bind_run] at failed
    split at failed
    · rename_i a ss₁ ran
      have refused : g a = .error e := congrArg Prod.fst failed
      have left : ss₁ = ss' := congrArg Prod.snd failed
      have drains := first.gives holds ran
      rw [refuses ran e refused, left] at drains
      exact drains
    · rename_i ran
      cases failed
      exact first.fails holds ran

theorem Hands.spares (spares : Spares id m) (holds : ss.Holds id) :
    ss.Drains id [] [] (m ss).2 := by
  rcases ran : m ss with ⟨e | a, ss'⟩
  · exact spares.fails holds ran
  · exact spares.gives holds ran

/-- A computation that does to the streams what a sparing one does. -/
theorem Hands.of_spares {n : StreamM ε' β} (spares : Spares id m)
    (same : ∀ ss, (n ss).2 = (m ss).2) : Spares id n := by
  refine ⟨fun {ss b ss'} holds given => ?_, fun {ss e ss'} holds failed => ?_⟩
  · have left := spares.spares holds
    rw [← same, given] at left
    exact left
  · have left := spares.spares holds
    rw [← same, failed] at left
    exact left

theorem Hands.delivers (hands : Hands id m pieces) (holds : ss.Holds id) :
    ss.Delivers id (.ofOutcome pieces (m ss).1) (m ss).2 := by
  rcases ran : m ss with ⟨e | a, ss'⟩
  · exact .of_drains (hands.fails holds ran) false
  · exact .of_drains (hands.gives holds ran) false

/-! ## Streams -/

theorem newStream_spares (s : Stream) : Spares id (newStream s : StreamM ε StreamId) := by
  refine ⟨fun holds given => ?_, fun holds failed => ?_⟩
  · cases given
    exact .add holds s
  · cases failed

/-- A new stream is another one. -/
theorem newStream_ne {s : Stream} {a : StreamId} (holds : ss.Holds id)
    (made : (newStream s : StreamM ε StreamId) ss = (.ok a, ss')) : a ≠ id := by
  cases made
  exact Nat.ne_of_gt holds.present

theorem onStream_spares {other : StreamId} (ne : other ≠ id)
    (f : Stream → Except String α × Stream) : Spares id (onStream f other) := by
  refine ⟨fun {ss a ss'} holds given => ?_, fun {ss e ss'} holds failed => ?_⟩
  · cases congrArg Prod.snd given
    exact .set_of_ne holds ne _
  · cases congrArg Prod.snd failed
    exact .set_of_ne holds ne _

theorem readAll_run (holds : ss.Holds id) :
    readAll id ss = (.ok (ss.rest id), ss.set id { ss.get id with rest := [] }) := by
  unfold readAll onStream
  rw [Stream.readAll_of_ends holds.ends]
  rfl

theorem readAll_hands : Hands id (readAll id) fun bytes => [bytes] := by
  refine ⟨fun holds given => ?_, fun holds failed => ?_⟩
  · rw [readAll_run holds] at given
    cases given
    exact .all holds
  · rw [readAll_run holds] at failed
    cases failed

/-- Reading some bytes takes them from the front. -/
theorem read_takes (holds : ss.Holds id) (count : Nat) :
    ∃ ss', read id count ss = (.ok ((ss.rest id).take count), ss') ∧
      ss.Takes id [(ss.rest id).take count] [] ss' := by
  refine ⟨ss.set id { ss.get id with rest := (ss.rest id).drop count }, ?_, holds.set_self _, ?_,
    nofun⟩
  · unfold read onStream
    dsimp only
    rw [Stream.read_of_ends holds.ends]
    rfl
  · rw [holds.rest_set_self]
    simp

end StreamM

end SqlAccess
