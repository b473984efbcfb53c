import SqlAccess.Proofs.Binding.Conversions
import SqlAccess.Proofs.Number.SignExtension
import SqlAccess.Proofs.Registry.Decimals

/-!
# Binary data as integers

Up to sixteen bytes of a binary column are an integer of 128 bits. There is no parameter of such a
type: the integer is bound as a decimal, which has place for 96 bits, and comes back from a DECIMAL
column as the same integer.

* `coerce_bytes_int_eq_ok_iff`: the bytes are read in two's complement.
* `coerce_bytes_int_eq_self_iff`: which bytes can be left out in front of an integer.
* `sends_decimal`, `refuses_of_large`: how the integer is bound.
* `binary_integers_round_trip`: the way from the bytes to the decimal and back.
-/

namespace SqlAccess

/-! ## From bytes -/

namespace Standard

theorem bytesIntoInteger_eq_ok_iff {bytes : List UInt8} {v : Value} :
    bytesIntoInteger bytes = .ok v ↔
      bytes.length ≤ 16 ∧ ∃ n : Signed 128, n.val = twosComplement bytes ∧ v = .int .w128 n := by
  rw [← signedOfBytes_eq_twosComplement]
  simp only [← Signed.ofInt?_eq_some_iff]
  unfold bytesIntoInteger
  by_cases short : bytes.length ≤ 16
  · rw [if_pos short]
    cases Signed.ofInt? 128 (signedOfBytes bytes) with
    | none => simp
    | some n => simp [short, eq_comm]
  · rw [if_neg short]
    exact iff_of_false nofun fun given => short given.1

theorem cell_of_binary {c : ColumnType} (type : c = .binary ∨ c = .varBinary ∨ c = .longVarBinary) :
    cell c = binaryCell := by
  rcases type with rfl | rfl | rfl
  · rfl
  · rfl
  · rfl

end Standard

namespace Registry

variable {c : ColumnType}

theorem coerce_bytes_int (type : c = .binary ∨ c = .varBinary ∨ c = .longVarBinary)
    (bytes : List UInt8) :
    standard.coerce (.bytes bytes) c (.host (.int .w128)) =
      StreamM.ofExcept ((Standard.bytesIntoInteger bytes).mapError
        fun e => ⟨c, .host (.int .w128), .failed e⟩) := by
  have found : Standard.cell c (.int .w128) = some (Standard.pureCell Standard.readBytes _) :=
    congrFun (Standard.cell_of_binary type) _
  exact standard_coerce_pure found rfl

/-- Bytes are converted exactly if there are at most sixteen. -/
theorem coerce_bytes_int_eq_ok_iff (type : c = .binary ∨ c = .varBinary ∨ c = .longVarBinary)
    {bytes : List UInt8} {v : Value} {ss ss' : Streams} :
    standard.coerce (.bytes bytes) c (.host (.int .w128)) ss = (.ok v, ss') ↔
      ss = ss' ∧ bytes.length ≤ 16 ∧
        ∃ n : Signed 128, n.val = twosComplement bytes ∧ v = .int .w128 n := by
  rw [coerce_bytes_int type, StreamM.ofExcept_run_eq_ok_iff, mapError_eq_ok_iff,
    Standard.bytesIntoInteger_eq_ok_iff, and_comm]

/-- Copies of the sign byte in front do not change the integer. -/
theorem coerce_bytes_int_replicate (type : c = .binary ∨ c = .varBinary ∨ c = .longVarBinary)
    {count : Nat} {bytes : List UInt8} (short : count + bytes.length ≤ 16) (ss : Streams) :
    standard.coerce (.bytes (List.replicate count (signByte bytes) ++ bytes)) c
        (.host (.int .w128)) ss =
      standard.coerce (.bytes bytes) c (.host (.int .w128)) ss := by
  have value : twosComplement (List.replicate count (signByte bytes) ++ bytes) =
      twosComplement bytes := by
    rw [← signedOfBytes_eq_twosComplement, signedOfBytes_replicate,
      signedOfBytes_eq_twosComplement]
  have within : ¬16 < bytes.length := by omega
  obtain ⟨v, converted⟩ := Standard.bytesIntoInteger_converts within
  obtain ⟨shorter, n, same, v_eq⟩ := Standard.bytesIntoInteger_eq_ok_iff.1 converted
  have length : (List.replicate count (signByte bytes) ++ bytes).length ≤ 16 := by
    rw [List.length_append, List.length_replicate]
    exact short
  rw [(coerce_bytes_int_eq_ok_iff type).2 ⟨rfl, length, n, same.trans value.symm, v_eq⟩,
    (coerce_bytes_int_eq_ok_iff type).2 ⟨rfl, shorter, n, same, v_eq⟩]

/-- Of the sixteen bytes of an integer, those in front that are copies of the sign byte of the
others can be left out, and no more. -/
theorem coerce_bytes_int_eq_self_iff (type : c = .binary ∨ c = .varBinary ∨ c = .longVarBinary)
    {n : Signed 128} {front bytes : List UInt8} (whole : bytesOfSigned 16 n.val = front ++ bytes)
    (ss : Streams) :
    standard.coerce (.bytes bytes) c (.host (.int .w128)) ss = (.ok (.int .w128 n), ss) ↔
      front = List.replicate front.length (signByte bytes) := by
  have length : front.length + bytes.length = 16 := by
    rw [← List.length_append, ← whole, length_bytesOfSigned]
  have value : signedOfBytes (front ++ bytes) = n.val := by
    have ge := n.ge
    have lt := n.lt
    rw [← whole]
    exact signedOfBytes_bytesOfSigned (by omega) (by omega)
  rw [coerce_bytes_int_eq_ok_iff type, ← signedOfBytes_append_iff, value,
    signedOfBytes_eq_twosComplement]
  constructor
  · intro ⟨_, _, m, same, v_eq⟩
    cases v_eq
    exact same
  · intro same
    exact ⟨rfl, by omega, n, same, rfl⟩

end Registry

/-! ## To decimals and back -/

namespace Binding

/-- The value is bound to no statement, and its setter is not asked. -/
def Refuses (r : Registry) (v : Value) : Prop :=
  ∀ (β : Type) (set : Setter β) (position : Nat) (vs : List Value) (b : β) (ss : Streams),
    ∃ reason, bindFrom r set position (v :: vs) b ss = ((.error (.bind position reason), b), ss)

variable (r : Registry) {n : Signed 128}

/-- An integer that a decimal can hold is sent as this decimal. -/
theorem sends_decimal {d : Decimal} (found : Decimal.ofInt? n.val = some d) :
    Sends r (.int .w128 n) (.decimal d) := by
  obtain ⟨scale, sign, size⟩ := Decimal.ofInt?_eq_some_iff.1 found
  exact sends_of_converted fun _ => .wide scale sign size

theorem refuses_of_large (large : 2 ^ 96 ≤ n.val.natAbs) : Refuses r (.int .w128 n) := by
  intro β set position vs b ss
  obtain ⟨reason, refused⟩ : ∃ reason, Refused r (.int .w128 n) ss reason ss := by
    by_cases negative : n.val < 0
    · exact ⟨_, .below (by omega)⟩
    · exact ⟨_, .above (by omega)⟩
  refine ⟨reason, ?_⟩
  rw [bindFrom_cons_run, captured_eq_error_iff.2 ⟨reason, refused, rfl⟩]

/-- A setter that takes the decimal of an integer takes the integer. -/
theorem bindFrom_wide_succeeds_iff {β : Type} {set : Setter β} {position : Nat} {b : β}
    {ss : Streams} (accepts : ∀ d, ∃ b' ss', set b position (.decimal d) ss = (.ok b', ss')) :
    (∃ b' ss', bindFrom r set position [.int .w128 n] b ss = ((.ok (), b'), ss')) ↔
      n.val.natAbs < 2 ^ 96 := by
  cases found : Decimal.ofInt? n.val with
  | none =>
    have large := Decimal.ofInt?_eq_none_iff.1 found
    obtain ⟨reason, refused⟩ := refuses_of_large r large β set position [] b ss
    rw [refused]
    exact iff_of_false nofun (Nat.not_lt.2 large)
  | some d =>
    obtain ⟨scale, sign, size⟩ := Decimal.ofInt?_eq_some_iff.1 found
    obtain ⟨b', ss', accepted⟩ := accepts d
    rw [sends_decimal r found β set position [] b ss, accepted]
    exact iff_of_true ⟨b', ss', rfl⟩ (size ▸ d.magnitude_lt)

end Binding

/-- The decimal of an integer, read from a DECIMAL column, is the integer. -/
theorem Registry.coerce_ofInt? {n : Signed 128} {d : Decimal}
    (found : Decimal.ofInt? n.val = some d) (ss : Streams) :
    standard.coerce (.decimal d) .decimal (.host (.int .w128)) ss = (.ok (.int .w128 n), ss) := by
  obtain ⟨scale, sign, size⟩ := Decimal.ofInt?_eq_some_iff.1 found
  have registered : Width.w128 ≠ .w8 := nofun
  refine (coerce_decimal_int_eq_ok_iff (.inl rfl) registered).2 ⟨rfl, n, ?_, rfl⟩
  rw [Decimal.toRat_of_integer scale sign size, towardZero_intCast]

/-- **Binary integers come back.** Bytes of a BINARY, VARBINARY or LONGVARBINARY column are an
integer of 128 bits exactly if there are at most sixteen, and then the integer is that of their bits
in two's complement. Copies of the sign byte in front do not change it, and of the sixteen bytes of
an integer only such copies can be left out. The integer is bound exactly if it has at most 96 bits
without its sign: then the setter receives the decimal of the same number, and a DECIMAL column
gives the integer for this decimal. -/
theorem binary_integers_round_trip {c : ColumnType}
    (type : c = .binary ∨ c = .varBinary ∨ c = .longVarBinary) :
    (∀ bytes ss,
      ((∃ v ss', Registry.standard.coerce (.bytes bytes) c (.host (.int .w128)) ss = (.ok v, ss')) ↔
        bytes.length ≤ 16) ∧
      ∀ v ss', Registry.standard.coerce (.bytes bytes) c (.host (.int .w128)) ss = (.ok v, ss') →
        ss' = ss ∧ ∃ n : Signed 128, v = .int .w128 n ∧ n.val = twosComplement bytes) ∧
    twosComplement [] = 0 ∧
    (∀ count bytes ss, count + bytes.length ≤ 16 →
      Registry.standard.coerce (.bytes (List.replicate count (signByte bytes) ++ bytes)) c
          (.host (.int .w128)) ss =
        Registry.standard.coerce (.bytes bytes) c (.host (.int .w128)) ss) ∧
    (∀ (n : Signed 128) front bytes ss, bytesOfSigned 16 n.val = front ++ bytes →
      (Registry.standard.coerce (.bytes bytes) c (.host (.int .w128)) ss =
          (.ok (.int .w128 n), ss) ↔
        front = List.replicate front.length (signByte bytes))) ∧
    ∀ n : Signed 128,
      (2 ^ 96 ≤ n.val.natAbs → ∀ r, Binding.Refuses r (.int .w128 n)) ∧
      (n.val.natAbs < 2 ^ 96 → ∃ d : Decimal, d.scale = 0 ∧ d.toRat = n.val ∧
        (∀ r, Binding.Sends r (.int .w128 n) (.decimal d)) ∧
        ∀ ss, Registry.standard.coerce (.decimal d) .decimal (.host (.int .w128)) ss =
          (.ok (.int .w128 n), ss)) ∧
      ∀ (β : Type) r (set : Setter β) position b ss,
        (∀ d, ∃ b' ss', set b position (.decimal d) ss = (.ok b', ss')) →
          ((∃ b' ss', Binding.bindFrom r set position [.int .w128 n] b ss =
              ((.ok (), b'), ss')) ↔
            n.val.natAbs < 2 ^ 96) := by
  refine ⟨fun bytes ss => ⟨?_, ?_⟩, rfl, ?_, ?_, fun n => ⟨?_, ?_, ?_⟩⟩
  · constructor
    · intro ⟨v, ss', converted⟩
      exact ((Registry.coerce_bytes_int_eq_ok_iff type).1 converted).2.1
    · intro short
      obtain ⟨v, converted⟩ := Standard.bytesIntoInteger_converts (Nat.not_lt.2 short)
      obtain ⟨-, n, value, v_eq⟩ := Standard.bytesIntoInteger_eq_ok_iff.1 converted
      exact ⟨v, ss, (Registry.coerce_bytes_int_eq_ok_iff type).2 ⟨rfl, short, n, value, v_eq⟩⟩
  · intro v ss' converted
    obtain ⟨same, -, n, value, v_eq⟩ := (Registry.coerce_bytes_int_eq_ok_iff type).1 converted
    exact ⟨same.symm, n, v_eq, value⟩
  · intro count bytes ss short
    exact Registry.coerce_bytes_int_replicate type short ss
  · intro n front bytes ss whole
    exact Registry.coerce_bytes_int_eq_self_iff type whole ss
  · intro large r
    exact Binding.refuses_of_large r large
  · intro small
    cases found : Decimal.ofInt? n.val with
    | none => exact absurd (Decimal.ofInt?_eq_none_iff.1 found) (Nat.not_le.2 small)
    | some d =>
      obtain ⟨scale, sign, size⟩ := Decimal.ofInt?_eq_some_iff.1 found
      exact ⟨d, scale, Decimal.toRat_of_integer scale sign size,
        fun r => Binding.sends_decimal r found, Registry.coerce_ofInt? found⟩
  · intro β r set position b ss accepts
    exact Binding.bindFrom_wide_succeeds_iff r accepts

/-- The number -500 in two bytes, and in three with one more byte of its sign. Of the bytes of -129
two have to stay, since a single one is above zero. The least integer of 128 bits is not bound. -/
theorem binary_integers_round_trip_negative :
    let least : Signed 128 := ⟨-2 ^ 127, by decide, by decide⟩
    let coerced (bytes : List UInt8) :=
      Registry.standard.coerce (.bytes bytes) .varBinary (.host (.int .w128)) .empty
    (ColumnType.varBinary = .binary ∨ ColumnType.varBinary = .varBinary ∨
        ColumnType.varBinary = .longVarBinary) ∧
      coerced [0xff, 0xfe, 0x0c] = coerced [0xfe, 0x0c] ∧
      (∃ n : Signed 128, coerced [0xfe, 0x0c] = (.ok (.int .w128 n), .empty) ∧ n.val = -500) ∧
      coerced [0x7f] ≠ (.ok (.int .w128 ⟨-129, by decide, by decide⟩), .empty) ∧
      Binding.Refuses Registry.standard (.int .w128 least) := by
  intro least coerced
  have type : ColumnType.varBinary = .binary ∨ ColumnType.varBinary = .varBinary ∨
      ColumnType.varBinary = .longVarBinary := .inr (.inl rfl)
  obtain ⟨read, -, extended, shortened, bound⟩ := binary_integers_round_trip type
  refine ⟨type, extended 1 [0xfe, 0x0c] .empty (by decide), ?_, ?_,
    (bound least).1 (by decide) Registry.standard⟩
  · obtain ⟨v, ss', converted⟩ := (read [0xfe, 0x0c] .empty).1.2 (by decide)
    obtain ⟨rfl, n, rfl, value⟩ := (read [0xfe, 0x0c] .empty).2 v ss' converted
    exact ⟨n, converted, value⟩
  · intro same
    have copies := (shortened ⟨-129, by decide, by decide⟩ (List.replicate 15 0xff) [0x7f] .empty
      (by decide)).1 same
    exact absurd copies (by decide)

end SqlAccess
