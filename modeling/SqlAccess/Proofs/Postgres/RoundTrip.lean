import Mathlib.Data.List.Forall2
import SqlAccess.Proofs.Number.Rounding
import SqlAccess.Proofs.Postgres.NumericRoundTrip
import SqlAccess.Proofs.Postgres.Parameters
import SqlAccess.Proofs.Postgres.ResultRows

/-!
# Writing back what was read

A value that a cell was decoded to is sent for a parameter of the same server type, and what is
sent is decoded to the value again. Object numbers are the exception: they are read as integers of
64 bits, and nothing brings them back to the form of 32 bits that their type takes.

* `SentBack`: a value is sent for a type and returns, with one lemma for each family of types.
* `sentBack_of_decode`: the values that are decoded, of every type but the numbers of objects.
* `row_bound_back`: a whole row of cells.
-/

namespace SqlAccess.Postgres

/-- What a value is when it returns: the value itself. One NaN stands for all of them, and a decimal
zero has neither sign nor fraction digits any more. -/
inductive Returns : Value → Value → Prop where
  | unchanged (v : Value) : Returns v v
  | nan {p : Precision} {x y : Binary p} (sent : x.isNaN = true) (received : y.isNaN = true) :
    Returns (.float p x) (.float p y)
  | zero {d : Decimal} (zero : d.magnitude = 0) : Returns (.decimal d) (.decimal .zero)

/-- What returns is equal to what was sent, but for a NaN, which equals nothing. -/
theorem Returns.same {v w : Value} (returns : Returns v w)
    (number : ∀ p x, v = .float p x → x.isNaN = false) : v.same w = true := by
  cases returns with
  | unchanged =>
    cases v with
    | float p x =>
      have number := number p x rfl
      cases p <;> simp [Value.same, Binary.sameNumber, number]
    | decimal d => simp [Value.same, Decimal.sameNumber]
    | _ => simp [Value.same]
  | @nan p x y sent received =>
    rw [number p x rfl] at sent
    cases sent
  | zero zero => simp [Value.same, Decimal.sameNumber, zero, Decimal.zero]

/-- The value is sent for a parameter of the type, and a cell of the type with these bytes is the
value again. -/
def SentBack (t : ServerType) (v : Value) : Prop :=
  ∃ n bytes w, native t v = .ok n ∧ n.fits t = true ∧ n.encode t = some bytes ∧
    decode t bytes = .ok w ∧ Returns v w

theorem decode_of_plain {t : ServerType} {bytes : List UInt8} {v : Value}
    (plain : decodePlain? t bytes = some v) : decode t bytes = .ok v := by
  have other : t ≠ .numeric := by
    rintro rfl
    cases plain
  unfold decode
  rw [if_neg other, plain]

theorem plain_of_decode {t : ServerType} {bytes : List UInt8} {v : Value}
    (decoded : decode t bytes = .ok v) (other : t ≠ .numeric) : decodePlain? t bytes = some v := by
  unfold decode at decoded
  rw [if_neg other] at decoded
  split at decoded
  · cases decoded
    assumption
  · cases decoded

/-- A value of a type other than decimals that is sent and returns unchanged. -/
theorem sentBack_plain {t : ServerType} {v : Value} {n : Native} {bytes : List UInt8}
    (form : native t v = .ok n) (fits : n.fits t = true) (encoded : n.encode t = some bytes)
    (read : decodePlain? t bytes = some v) : SentBack t v :=
  ⟨n, bytes, v, form, fits, encoded, decode_of_plain read, .unchanged v⟩

/-! ## Numbers -/

theorem readInteger_bytesOfSigned (w : Width) (n : Signed w.bits) :
    readInteger? w (bytesOfSigned (w.bits / 8) n.val) = some (.int w n) := by
  have ge := n.ge
  have lt := n.lt
  have value : signedOfBytes (bytesOfSigned (w.bits / 8) n.val) = n.val := by
    refine signedOfBytes_bytesOfSigned ?_ ?_
    · cases w <;> simp only [Width.bits] at * <;> omega
    · cases w <;> simp only [Width.bits] at * <;> omega
  unfold readInteger? readSigned?
  rw [if_pos (length_bytesOfSigned _ _)]
  dsimp only [bind, Option.bind]
  rw [value, Signed.ofInt?_eq_some_iff.2 rfl]
  rfl

theorem narrow_self (w : Width) (n : Signed w.bits) : narrow w n.val = .ok (.int w n) := by
  unfold narrow
  rw [Signed.ofInt?_eq_some_iff.2 rfl]

theorem readFloat_bytesOfUnsigned (p : Precision) (x : Binary p) :
    readFloat? p (bytesOfUnsigned p.bytes x.bits.toNat) = some (.float p x) := by
  have small : x.bits.toNat < 256 ^ p.bytes := by
    have bits := x.bits.isLt
    cases p <;> exact bits
  unfold readFloat? readUnsigned?
  rw [if_pos (length_bytesOfUnsigned _ _)]
  dsimp only [bind, Option.bind]
  rw [unsignedOfBytes_bytesOfUnsigned, Nat.mod_eq_of_lt small]
  simp [Binary.ofBits, pure]

/-- A number of single precision goes through double precision on its way. -/
theorem sentBack_float4 (x : Binary .single) : SentBack .float4 (.float .single x) := by
  have decoded := decode_of_plain (t := .float4)
    (readFloat_bytesOfUnsigned .single ((x.convert .double).convert .single))
  cases number : x.isNaN with
  | false =>
    refine ⟨_, _, _, rfl, rfl, rfl, decoded, ?_⟩
    rw [Binary.convert_convert number]
    exact .unchanged _
  | true =>
    have still := Binary.isNaN_convert .single (Binary.isNaN_convert .double number)
    exact ⟨_, _, _, rfl, rfl, rfl, decoded, .nan number still⟩

theorem sentBack_numeric (d : Decimal) : SentBack .numeric (.decimal d) := by
  refine ⟨.numeric d, _, _, rfl, rfl, rfl, NumericGroups.readNumeric_encode d, ?_⟩
  split
  · exact .zero ‹_›
  · exact .unchanged _

/-! ## Days and times -/

/-- A part of a second that is a whole number of microseconds. -/
def WholeMicros (nanos : Nat) : Prop := ∃ micros < 1000000, nanos = micros * 1000

theorem microseconds_eq {seconds : Int} {micros : Nat} :
    microseconds seconds (micros * 1000) = seconds * 1000000 + micros := by
  have split : seconds * nanosPerSecond + ((micros * 1000 : Nat) : Int) =
      1000 * (seconds * 1000000 + micros) := by
    simp only [nanosPerSecond]
    omega
  unfold microseconds
  rw [split]
  exact Int.mul_tdiv_cancel_left _ (by decide)

theorem readSigned_bytesOfSigned {count : Nat} {n : Int} (ge : -256 ^ count ≤ 2 * n)
    (lt : 2 * n < 256 ^ count) : readSigned? count (bytesOfSigned count n) = some n := by
  unfold readSigned?
  rw [if_pos (length_bytesOfSigned _ _), signedOfBytes_bytesOfSigned ge lt]

theorem readTime_eq_some {bytes : List UInt8} {v : Value} (read : readTime? bytes = some v) :
    ∃ t, v = .time t ∧ WholeMicros t.nanos := by
  simp only [readTime?, bind, Option.bind_eq_some_iff, pure, Option.some.injEq] at read
  obtain ⟨micros, -, t, parts, rfl⟩ := read
  unfold TimeOfDay.ofParts? at parts
  split at parts
  · cases parts
    exact ⟨_, rfl, _, Nat.mod_lt _ (by decide), rfl⟩
  · cases parts

theorem readTime_of_parts {bytes : List UInt8} {micros : Int} {ofDay : Nat} {t : TimeOfDay}
    (read : readSigned? 8 bytes = some micros)
    (reduced : (micros.emod (secondsPerDay * 1000000)).toNat = ofDay)
    (parts : TimeOfDay.ofParts? (ofDay / 1000000) (ofDay % 1000000 * 1000) = some t) :
    readTime? bytes = some (.time t) := by
  simp only [readTime?, read, bind, Option.bind_some, reduced, parts, pure]

theorem sentBack_time {t : TimeOfDay} (whole : WholeMicros t.nanos) :
    SentBack .time (.time t) := by
  obtain ⟨micros, small, whole⟩ := whole
  have within : t.seconds < 86400 := t.seconds_lt
  -- as a product with a large constant, the count would be unfolded when terms are compared
  obtain ⟨ofDay, sum⟩ : ∃ ofDay, ofDay = t.seconds * 1000000 + micros := ⟨_, rfl⟩
  have sent : microseconds t.seconds t.nanos = ofDay := by
    rw [whole, microseconds_eq, sum]
    rfl
  have read : readSigned? 8 (bytesOfSigned 8 (microseconds t.seconds t.nanos)) =
      some (ofDay : Int) := by
    rw [sent]
    exact readSigned_bytesOfSigned (by omega) (by omega)
  have reduced : ((ofDay : Int).emod (secondsPerDay * 1000000)).toNat = ofDay := by
    have below : (ofDay : Int) < secondsPerDay * 1000000 := by
      simp only [secondsPerDay]
      omega
    show ((ofDay : Int) % (secondsPerDay * 1000000)).toNat = ofDay
    rw [Int.emod_eq_of_lt (Int.natCast_nonneg _) below]
    rfl
  have parts : TimeOfDay.ofParts? (ofDay / 1000000) (ofDay % 1000000 * 1000) = some t := by
    have second : ofDay / 1000000 = t.seconds := by omega
    have fraction : ofDay % 1000000 * 1000 = t.nanos := by omega
    rw [second, fraction]
    exact dif_pos ⟨t.seconds_lt, t.nanos_lt⟩
  exact sentBack_plain (n := .time t) rfl rfl rfl (readTime_of_parts read reduced parts)

theorem readTimestamp_eq_some {bytes : List UInt8} {v : Value}
    (read : readTimestamp? bytes = some v) : ∃ t, v = .timestamp t ∧ WholeMicros t.nanos := by
  simp only [readTimestamp?, bind, Option.bind_eq_some_iff, pure, Option.some.injEq] at read
  obtain ⟨micros, -, t, parts, rfl⟩ := read
  have small : (micros.fmod 1000000).toNat < 1000000 := by
    have below := Int.fmod_lt_of_pos micros (b := 1000000) (by decide)
    omega
  unfold Timestamp.ofParts? at parts
  split at parts
  · cases parts
    exact ⟨_, rfl, _, small, rfl⟩
  · cases parts

theorem sentBack_timestamp {zoned : Bool} {t : ServerType} {ts : Timestamp}
    (whole : WholeMicros ts.nanos) (form : native t (.timestamp ts) = .ok (.timestamp zoned ts))
    (fits : (Native.timestamp zoned ts).fits t = true)
    (reader : ∀ bytes, decodePlain? t bytes = readTimestamp? bytes) :
    SentBack t (.timestamp ts) := by
  obtain ⟨micros, small, whole⟩ := whole
  have ge := ts.ge
  have lt := ts.lt
  simp only [firstDay, lastDay, secondsPerDay] at ge lt
  obtain ⟨count, sum⟩ : ∃ count, count = (ts.seconds - originSeconds) * 1000000 + micros :=
    ⟨_, rfl⟩
  have sent : microseconds (ts.seconds - originSeconds) ts.nanos = count := by
    rw [whole, microseconds_eq, sum]
  have read : readSigned? 8 (bytesOfSigned 8 (microseconds (ts.seconds - originSeconds) ts.nanos)) =
      some count := by
    simp only [originSeconds] at sum
    rw [sent]
    exact readSigned_bytesOfSigned (by omega) (by omega)
  have seconds : count.fdiv 1000000 + originSeconds = ts.seconds := by
    rw [Int.fdiv_eq_ediv_of_nonneg _ (by decide)]
    omega
  have nanos : (count.fmod 1000000).toNat * 1000 = ts.nanos := by
    rw [Int.fmod_eq_emod_of_nonneg _ (by decide)]
    omega
  refine sentBack_plain (n := .timestamp zoned ts) form fits rfl ?_
  rw [reader, readTimestamp?, read]
  dsimp only [bind, Option.bind]
  rw [seconds, nanos, Timestamp.ofParts?, dif_pos ⟨ts.ge, ts.lt, ts.nanos_lt⟩]
  rfl

theorem sentBack_date (d : Date) : SentBack .date (.date d) := by
  have ge := d.ge
  have le := d.le
  simp only [firstDay, lastDay] at ge le
  have read : readSigned? 4 (bytesOfSigned 4 (d.days - originDay)) = some (d.days - originDay) := by
    simp only [originDay]
    exact readSigned_bytesOfSigned (by omega) (by omega)
  refine sentBack_plain (n := .date d) rfl rfl rfl ?_
  rw [decodePlain?, read]
  dsimp only [bind, Option.bind]
  rw [Int.sub_add_cancel, Date.ofDays?, dif_pos ⟨d.ge, d.le⟩]
  rfl

/-! ## Values of a type -/

theorem decodePlain_toBytes {t : ServerType}
    (reader : ∀ bytes, decodePlain? t bytes = (Utf8.ofBytes? bytes).map .text) (s : String) :
    decodePlain? t (Utf8.toBytes s) = some (.text s) := by
  rw [reader, Utf8.ofBytes?_eq_some_iff.2 rfl]
  rfl

/-- The types whose cells are texts take a text without a header. -/
theorem sentBack_text {t : ServerType} (s : String) (fits : (Native.text s).fits t = true)
    (bare : t.textHeader = [])
    (reader : ∀ bytes, decodePlain? t bytes = (Utf8.ofBytes? bytes).map .text) :
    SentBack t (.text s) := by
  have sent : (Native.text s).encode t = some (Utf8.toBytes s) := by
    rw [Native.encode, bare, List.nil_append]
  exact sentBack_plain rfl fits sent (decodePlain_toBytes reader s)

/-- What a cell of a type is decoded to is sent for that type and returns, unless the type is that
of object numbers. -/
theorem sentBack_of_decode {t : ServerType} {bytes : List UInt8} {v : Value}
    (decoded : decode t bytes = .ok v) (notObject : t ≠ .oid) : SentBack t v := by
  have kind := kind_of_decode decoded
  cases t with
  | oid => exact absurd rfl notObject
  | other => cases decoded
  | bool =>
    cases v <;> cases kind
    rename_i b
    exact sentBack_plain (n := .bool b) rfl rfl rfl (by cases b <;> rfl)
  | char | int2 | int4 | int8 =>
    cases v <;> cases kind
    exact sentBack_plain (narrow_self _ _) rfl rfl (readInteger_bytesOfSigned _ _)
  | float4 =>
    cases v <;> cases kind
    exact sentBack_float4 _
  | float8 =>
    cases v <;> cases kind
    exact sentBack_plain rfl rfl rfl (readFloat_bytesOfUnsigned .double _)
  | numeric =>
    cases v <;> cases kind
    exact sentBack_numeric _
  | text | varchar | name | unknown | bpchar =>
    cases v <;> cases kind
    exact sentBack_text _ rfl rfl fun _ => rfl
  | bytea =>
    cases v <;> cases kind
    rename_i bs
    exact sentBack_plain (n := .bytea bs) rfl rfl rfl rfl
  | date =>
    cases v <;> cases kind
    exact sentBack_date _
  | time =>
    obtain ⟨time, rfl, whole⟩ := readTime_eq_some (plain_of_decode decoded nofun)
    exact sentBack_time whole
  | timestamp =>
    obtain ⟨ts, rfl, whole⟩ := readTimestamp_eq_some (plain_of_decode decoded nofun)
    exact sentBack_timestamp whole rfl rfl fun _ => rfl
  | timestamptz =>
    obtain ⟨ts, rfl, whole⟩ := readTimestamp_eq_some (plain_of_decode decoded nofun)
    exact sentBack_timestamp whole rfl rfl fun _ => rfl

/-- A value for a parameter that takes object numbers, if it is not missing. -/
def isObject : ServerType × Value → Bool
  | (t, v) => t = .oid && !v.isNull

/-- The form of an object number is an integer of 64 bits, which its type does not take. -/
theorem native_oid_of_decode {bytes : List UInt8} {v : Value} (decoded : decode .oid bytes = .ok v) :
    v.isNull = false ∧ ∃ n, native .oid v = .ok n ∧ n.fits .oid = false := by
  have kind := kind_of_decode decoded
  cases v <;> cases kind
  exact ⟨rfl, _, narrow_self .w64 _, rfl⟩

/-- What a cell is read as, whatever its column. -/
def ReadsAs (t : ServerType) (cell : Option (List UInt8)) (v : Value) : Prop :=
  ∀ column, readCell t column cell = .ok v

theorem readsAs_of_decode {t : ServerType} {bytes : List UInt8} {v : Value}
    (decoded : decode t bytes = .ok v) : ReadsAs t (some bytes) v := by
  intro column
  unfold readCell
  cases t with
  | other => cases decoded
  | _ => simp only [decoded]

/-- A cell that is read in one column is read as the same value in every other. -/
theorem readsAs_of_readCell {t : ServerType} {column : Nat} {cell : Option (List UInt8)} {v : Value}
    (read : readCell t column cell = .ok v) : ReadsAs t cell v := by
  obtain ⟨rfl, rfl⟩ | ⟨bytes, rfl, decoded⟩ := readCell_eq_ok read
  · cases t with
    | other => cases read
    | _ => exact fun _ => rfl
  · exact readsAs_of_decode decoded

/-- Every value of a cell has a form. Its type takes the form of all but object numbers, and then
what is sent is a cell of the value. -/
theorem ReadsAs.native {t : ServerType} {cell : Option (List UInt8)} {v : Value}
    (read : ReadsAs t cell v) :
    ∃ n, native t v = .ok n ∧ n.fits t = !isObject (t, v) ∧
      (isObject (t, v) = false → ∃ w, ReadsAs t (n.encode t) w ∧ Returns v w) := by
  obtain ⟨rfl, rfl⟩ | ⟨bytes, rfl, decoded⟩ := readCell_eq_ok (read 0)
  · refine ⟨.null, rfl, ?_, fun _ => ⟨.null, read, .unchanged _⟩⟩
    simp [Native.fits, isObject, Value.isNull]
  · by_cases object : t = .oid
    · subst object
      obtain ⟨present, n, form, refused⟩ := native_oid_of_decode decoded
      have found : isObject (.oid, v) = true := by simp [isObject, present]
      refine ⟨n, form, by rw [refused, found]; rfl, fun notFound => ?_⟩
      rw [found] at notFound
      cases notFound
    · obtain ⟨n, bytes, w, form, fits, encoded, received, returns⟩ :=
        sentBack_of_decode decoded object
      have notFound : isObject (t, v) = false := by simp [isObject, object]
      refine ⟨n, form, by rw [fits, notFound]; rfl, fun _ => ⟨w, ?_, returns⟩⟩
      rw [encoded]
      exact readsAs_of_decode received

/-- Values that are changed while they are bound do not come from cells. -/
theorem ReadsAs.kind_ne {t : ServerType} {cell : Option (List UInt8)} {v : Value}
    (read : ReadsAs t cell v) {k : Kind} (changed : k ∈ [.int .w128, .chars, .blob, .clob]) :
    v.kind ≠ some k := by
  obtain ⟨-, rfl⟩ | ⟨bytes, -, decoded⟩ := readCell_eq_ok (read 0)
  · nofun
  · rw [kind_of_decode decoded]
    cases t with
    | other => nofun
    | _ =>
      rintro ⟨⟩
      exact absurd changed (by decide)

/-! ## Rows -/

/-- The cells of a row as values, each of the type of its column. -/
inductive ReadRow : List ServerType → List (Option (List UInt8)) → List Value → Prop where
  | nil : ReadRow [] [] []
  | cons {t : ServerType} {cell : Option (List UInt8)} {v : Value} {ts : List ServerType}
    {cells : List (Option (List UInt8))} {vs : List Value} (first : ReadsAs t cell v)
    (others : ReadRow ts cells vs) : ReadRow (t :: ts) (cell :: cells) (v :: vs)

theorem ReadRow.lengths {ts : List ServerType} {cells : List (Option (List UInt8))}
    {vs : List Value} (read : ReadRow ts cells vs) :
    cells.length = ts.length ∧ vs.length = ts.length := by
  induction read with
  | nil => exact ⟨rfl, rfl⟩
  | cons _ _ ih => exact ⟨congrArg (· + 1) ih.1, congrArg (· + 1) ih.2⟩

theorem mapIdx_readCell_iff {columns : List (String × ServerType)}
    {cells : List (Option (List UInt8))} (start : Nat) {vs : List Value}
    (same : cells.length = columns.length) :
    ((columns.zip cells).mapIdx fun i ((_, type), cell) => readCell type (start + i) cell) =
        vs.map .ok ↔
      ReadRow (columns.map Prod.snd) cells vs := by
  induction columns generalizing cells vs start with
  | nil =>
    obtain rfl := List.eq_nil_of_length_eq_zero same
    cases vs with
    | nil => exact ⟨fun _ => .nil, fun _ => rfl⟩
    | cons =>
      constructor
      · intro none
        cases none
      · rintro ⟨⟩
  | cons column columns ih =>
    cases cells with
    | nil => cases same
    | cons cell cells =>
      rw [List.zip_cons_cons, List.mapIdx_cons]
      cases vs with
      | nil => exact ⟨nofun, nofun⟩
      | cons v vs =>
        have others := @ih cells (start + 1) vs (Nat.succ.inj same)
        simp only [List.map_cons, List.cons.injEq]
        simp only [Nat.add_assoc, Nat.add_comm 1] at others
        rw [others]
        constructor
        · rintro ⟨first, rest⟩
          exact .cons (readsAs_of_readCell first) rest
        · rintro ⟨⟩
          rename_i first rest
          exact ⟨first _, rest⟩

theorem readRow_eq_ok_iff {script : Script} {cells : List (Option (List UInt8))}
    {vs : List Value} :
    script.readRow cells = .ok (vs.map .ok) ↔ ReadRow (script.columns.map Prod.snd) cells vs := by
  unfold Script.readRow
  constructor
  · intro read
    split at read
    · rename_i same
      refine (mapIdx_readCell_iff 0 same).1 ?_
      simp only [Nat.zero_add]
      exact Except.ok.inj read
    · cases read
  · intro read
    have same : cells.length = script.columns.length := by
      rw [read.lengths.1, List.length_map]
    have row := (mapIdx_readCell_iff 0 same).2 read
    simp only [Nat.zero_add] at row
    rw [if_pos same, row]

/-- Without object numbers, the values of a row are sent, and what is sent is a row of them. -/
theorem ReadRow.sent {ts : List ServerType} {cells : List (Option (List UInt8))} {vs : List Value}
    (read : ReadRow ts cells vs) (taken : (ts.zip vs).findIdx? isObject = none) :
    ∃ entries ws, Encoded ts vs entries ∧ ReadRow ts entries ws ∧ List.Forall₂ Returns vs ws := by
  induction read with
  | nil => exact ⟨[], [], .nil, .nil, .nil⟩
  | @cons t cell v ts cells vs first others ih =>
    rw [List.zip_cons_cons, List.findIdx?_cons] at taken
    obtain ⟨n, form, fits, returned⟩ := first.native
    cases object : isObject (t, v) with
    | true => simp [object] at taken
    | false =>
      obtain ⟨w, received, returns⟩ := returned object
      obtain ⟨entries, ws, encoded, row, all⟩ := ih (by simpa [object] using taken)
      rw [object] at fits
      exact ⟨n.encode t :: entries, w :: ws, .cons ⟨n, form, fits, rfl⟩ encoded, .cons received row,
        .cons returns all⟩

/-- The values of a row have forms, and the first object number stops their encoding. -/
theorem ReadRow.refused {ts : List ServerType} {cells : List (Option (List UInt8))}
    {vs : List Value} (read : ReadRow ts cells vs) (i : Nat) :
    ∃ ns, Statement.natives i (ts.zip (vs.map some)) = .ok ns ∧
      ∀ j k, (ts.zip vs).findIdx? isObject = some k →
        Statement.encodeAll j (ts.zip ns) = .error (.query (.unserializable (j + k))) := by
  -- the second pass runs over the forms of the first, so one induction has to follow both
  induction read generalizing i with
  | nil => exact ⟨[], rfl, nofun⟩
  | @cons t cell v ts cells vs first others ih =>
    obtain ⟨n, form, fits, -⟩ := first.native
    obtain ⟨ns, rest, stops⟩ := ih (i + 1)
    refine ⟨n :: ns, natives_cons_eq_ok_iff.2 ⟨v, n, ns, rfl, form, rest, rfl⟩, ?_⟩
    intro j k found
    rw [List.zip_cons_cons, List.findIdx?_cons] at found
    rw [List.zip_cons_cons, Statement.encodeAll]
    cases object : isObject (t, v) with
    | true =>
      rw [object] at fits found
      cases found
      rw [fits]
      rfl
    | false =>
      rw [object] at fits found
      obtain ⟨k, later, rfl⟩ := Option.map_eq_some_iff.1 found
      rw [fits, stops (j + 1) k later, Nat.add_right_comm, Nat.add_assoc]
      rfl

/-- Values that were read are bound as they are. -/
theorem ReadRow.received {ts : List ServerType} {cells : List (Option (List UInt8))}
    {vs : List Value} (read : ReadRow ts cells vs) (r : Registry) (ss : Streams) :
    Binding.InOrder (Received r) vs ss vs ss := by
  induction read with
  | nil => exact .nil
  | cons first others ih =>
    refine .cons ⟨.plain ?_ ?_, .plain ?_ ?_⟩ ih
    · exact fun n same => first.kind_ne (by decide) (congrArg Value.kind same)
    · exact fun cs same => first.kind_ne (by decide) (congrArg Value.kind same)
    · exact fun id same => first.kind_ne (by decide) (congrArg Value.kind same)
    · exact fun id same => first.kind_ne (by decide) (congrArg Value.kind same)

/-- **Values that were read can be written back.** The values of a row are bound to a statement
whose parameters have the types of the row's columns; they are accepted as they are. Then one of
two things comes of running the statement:

* If no parameter gets an object number, one message is sent, with one entry for each value, and
  these entries are a row of the same values again.
* The first object number keeps the message from being sent, whatever the server would do. -/
theorem row_bound_back (r : Registry) (source target : Script) (keys : Keys)
    (cells : List (Option (List UInt8))) (vs : List Value) (ss : Streams)
    (types : target.params = source.columns.map Prod.snd)
    (read : source.readRow cells = .ok (vs.map .ok)) :
    let s := Statement.bound target keys vs
    Binding.bindAll r Statement.set vs (.prepared target keys) ss = ((.ok (), s), ss) ∧
      ((target.params.zip vs).findIdx? isObject = none → ∃ entries ws,
        (∀ server, (s.execute server).2.log = server.log ++ [.bind entries]) ∧
          source.readRow entries = .ok (ws.map .ok) ∧ List.Forall₂ Returns vs ws) ∧
      ∀ i, (target.params.zip vs).findIdx? isObject = some i →
        ∀ server, s.execute server = (.error (.query (.unserializable i)), server) := by
  intro s
  have row : ReadRow target.params cells vs := types ▸ readRow_eq_ok_iff.1 read
  have fits : vs.length ≤ target.params.length := Nat.le_of_eq row.lengths.2
  refine ⟨bindAll_eq_ok_iff.2 ⟨fits, vs, row.received r ss, rfl⟩, ?_, ?_⟩
  · intro taken
    obtain ⟨entries, ws, encoded, returned, returns⟩ := row.sent taken
    have message : s.encodeParams = .ok entries := (encodeParams_bound_iff fits).2 encoded
    refine ⟨entries, ws, ?_, readRow_eq_ok_iff.2 (types ▸ returned), returns⟩
    intro server
    unfold Statement.execute
    rw [message]
  · intro i object server
    have all : s.params = vs.map some := by
      show vs.map some ++ List.drop _ _ = _
      rw [List.drop_eq_nil_of_le (by simp [row.lengths.2]), List.append_nil]
    obtain ⟨ns, forms, stops⟩ := row.refused 0
    have refused : s.encodeParams = .error (.query (.unserializable i)) := by
      show Statement.natives 0 (target.params.zip s.params) >>= _ = _
      rw [all, forms]
      show Statement.encodeAll 0 (target.params.zip ns) = _
      rw [stops 0 i object, Nat.zero_add]
    unfold Statement.execute
    rw [refused]

/-- A NaN, a zero with two fraction digits and a missing object number are read and written back. -/
theorem row_bound_back_special :
    let source : Script :=
      { Script.empty with columns := [("x", .float4), ("d", .numeric), ("o", .oid)] }
    let target : Script := { Script.empty with params := [.float4, .numeric, .oid] }
    let cells := [some [0x7f, 0x80, 0, 1], some [0, 0, 0, 0, 0, 0, 0, 2], none]
    let vs : List Value := [.float .single (.ofBits .single 0x7f800001),
      .decimal ⟨false, 0, 2, by decide, by decide⟩, .null]
    target.params = source.columns.map Prod.snd ∧ source.readRow cells = .ok (vs.map .ok) ∧
      ∃ entries ws,
        (∀ server, ((Statement.bound target .none vs).execute server).2.log =
          server.log ++ [.bind entries]) ∧
        source.readRow entries = .ok (ws.map .ok) ∧ List.Forall₂ Returns vs ws := by
  intro source target cells vs
  have types : target.params = source.columns.map Prod.snd := rfl
  have read : source.readRow cells = .ok (vs.map .ok) := by decide +kernel
  obtain ⟨-, taken, -⟩ :=
    row_bound_back .standard source target .none cells vs .empty types read
  exact ⟨types, read, taken rfl⟩

/-- The object number 16385 is read and accepted, but no message with it is sent. -/
theorem object_number_not_sent :
    let target : Script := { Script.empty with params := [.oid] }
    let v : Value := .int .w64 ⟨16385, by decide, by decide⟩
    let s := Statement.bound target .none [v]
    readCell .oid 0 (some [0, 0, 0x40, 1]) = .ok v ∧
      (∀ r ss, Binding.bindAll r Statement.set [v] (.prepared target .none) ss =
        ((.ok (), s), ss)) ∧
      ∀ server, s.execute server = (.error (.query (.unserializable 0)), server) := by
  intro target v s
  exact ⟨by decide +kernel, fun _ _ => rfl, fun _ => rfl⟩

end SqlAccess.Postgres
