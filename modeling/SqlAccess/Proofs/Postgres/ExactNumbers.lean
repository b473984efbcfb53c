import SqlAccess.Proofs.Number.DecimalValue
import SqlAccess.Proofs.Postgres.Positions
import SqlAccess.Proofs.Postgres.RoundTrip

/-!
# Numbers are sent exactly

An integer or a decimal that is bound to a parameter of an integer type, of decimals or of text is
sent as a cell that holds the same number, or it is not sent at all. An integer type takes a decimal
without its fraction, and a text holds the digits.

* `Holds`: what a cell of the type has to be for a number.
* `holds_of_encodes`: whatever is sent for a number is such a cell.
* `encodes_iff_inRange`: which integers are sent.
* `numbers_sent_exactly`: a list of values that is bound and run.
-/

namespace SqlAccess.Postgres

open Binding (Converted InOrder)

/-- The types of text. -/
def textTypes : List ServerType := [.text, .varchar, .bpchar]

/-- The types that hold whole numbers, decimals or text. -/
def numberTypes : List ServerType := [.char, .int2, .int4, .int8, .numeric] ++ textTypes

/-- The number that a value is. -/
def numberOf : Value → Option ℚ
  | .int _ n => some n.val
  | .decimal d => some d.toRat
  | _ => none

/-- A cell of the type that holds a number as it was bound. -/
inductive Holds : ServerType → Value → Value → Prop where
  | char {v : Value} {m : Signed 8} (exact : numberOf v = some (m.val : ℚ)) :
    Holds .char v (.int .w8 m)
  | integer {t : ServerType} {w : Width} {v : Value} {q : ℚ} {m : Signed w.bits}
    (width : (t, w) ∈ [(.int2, .w16), (.int4, .w32), (.int8, .w64)]) (number : numberOf v = some q)
    (whole : m.val = towardZero q) : Holds t v (.int w m)
  | numeric {v : Value} {d : Decimal} (exact : numberOf v = some d.toRat) :
    Holds .numeric v (.decimal d)
  | digits {t : ServerType} {w : Width} {n : Signed w.bits} {s : String} (text : t ∈ textTypes)
    (digits : s.toList = Digits.ofInt n.val) (exact : Digits.toInt? s.toList = some n.val) :
    Holds t (.int w n) (.text s)
  | places {t : ServerType} {d : Decimal} {s : String} (text : t ∈ textTypes)
    (digits : s.toList = d.toText) (exact : Decimal.ofText? s.toList = some d) :
    Holds t (.decimal d) (.text s)

/-- What is sent for the value at a parameter of the type is read as a cell that holds it. -/
def SentExactly (t : ServerType) (v : Value) (entry : Option (List UInt8)) : Prop :=
  ∃ bytes x, entry = some bytes ∧ decode t bytes = .ok x ∧ Holds t v x

/-! ## The families of types -/

theorem narrow_eq_ok_iff {w : Width} {n : Int} {x : Native} :
    narrow w n = .ok x ↔ ∃ m : Signed w.bits, m.val = n ∧ x = .int w m := by
  simp only [← Signed.ofInt?_eq_some_iff]
  unfold narrow
  cases Signed.ofInt? w.bits n with
  | none => simp
  | some m => simp [eq_comm]

theorem narrowDecimal_eq_ok {t : ServerType} {w : Width} {d : Decimal} {x : Native}
    (form : narrowDecimal t w d = .ok x) :
    ∃ m : Signed w.bits, m.val = d.truncated ∧ x = .int w m := by
  unfold narrowDecimal at form
  split at form
  · rename_i m fits
    cases form
    exact ⟨m, Signed.ofInt?_eq_some_iff.1 fits, rfl⟩
  · cases form

/-- Integers are read as they are sent. -/
theorem decode_integer {t : ServerType} {w : Width}
    (width : (t, w) ∈ [(.char, .w8), (.int2, .w16), (.int4, .w32), (.int8, .w64)])
    (m : Signed w.bits) : decode t (bytesOfSigned (w.bits / 8) m.val) = .ok (.int w m) := by
  refine decode_of_plain ?_
  have read := readInteger_bytesOfSigned w m
  simp only [List.mem_cons, Prod.mk.injEq, List.not_mem_nil, or_false] at width
  rcases width with ⟨rfl, rfl⟩ | ⟨rfl, rfl⟩ | ⟨rfl, rfl⟩ | ⟨rfl, rfl⟩
  · exact read
  · exact read
  · exact read
  · exact read

theorem decode_text {t : ServerType} (text : t ∈ textTypes) (s : String) :
    decode t (Utf8.toBytes s) = .ok (.text s) := by
  refine decode_of_plain (decodePlain_toBytes ?_ s)
  simp only [textTypes, List.mem_cons, List.not_mem_nil, or_false] at text
  rcases text with rfl | rfl | rfl
  · exact fun _ => rfl
  · exact fun _ => rfl
  · exact fun _ => rfl

theorem sentExactly_numeric {v : Value} {d : Decimal} (exact : numberOf v = some d.toRat) :
    SentExactly .numeric v ((Native.numeric d).encode .numeric) := by
  refine ⟨_, _, rfl, NumericGroups.readNumeric_encode d, .numeric ?_⟩
  split
  · rename_i zero
    rw [exact, Decimal.toRat_of_zero zero, Decimal.toRat_of_zero rfl]
  · exact exact

/-! ## Values of a kind -/

theorem native_int (t : ServerType) {w : Width} (notWide : w ≠ .w128) (n : Signed w.bits) :
    native t (.int w n) = nativeInteger t n.val := by
  cases w with
  | w128 => exact absurd rfl notWide
  | _ => rfl

theorem sentExactly_integer {t : ServerType} (type : t ∈ numberTypes) {w : Width}
    (notWide : w ≠ .w128) {n : Signed w.bits} {entry : Option (List UInt8)}
    (encodes : Encodes t (.int w n) entry) : SentExactly t (.int w n) entry := by
  obtain ⟨x, form, fits, rfl⟩ := encodes
  rw [native_int t notWide] at form
  cases t with
  | char =>
    obtain ⟨m, same, rfl⟩ := narrow_eq_ok_iff.1 form
    refine ⟨_, _, rfl, decode_integer (by decide) m, .char ?_⟩
    rw [same]
    rfl
  | int2 | int4 | int8 =>
    obtain ⟨m, same, rfl⟩ := narrow_eq_ok_iff.1 form
    have whole := same.trans (towardZero_intCast n.val).symm
    exact ⟨_, _, rfl, decode_integer (by decide) m, .integer (by decide) rfl whole⟩
  | numeric =>
    unfold nativeInteger at form
    dsimp only at form
    split at form
    · rename_i d found
      cases form
      obtain ⟨scale, sign, size⟩ := Decimal.ofInt?_eq_some_iff.1 found
      exact sentExactly_numeric (congrArg some (Decimal.toRat_of_integer scale sign size).symm)
    · cases form
  | text | varchar | bpchar =>
    cases form
    have digits := String.toList_ofList (l := Digits.ofInt n.val)
    refine ⟨_, _, rfl, decode_text (by decide) _, .digits (by decide) digits ?_⟩
    rw [digits]
    exact Digits.toInt?_ofInt n.val
  | _ => simp [numberTypes, textTypes] at type

theorem sentExactly_decimal {t : ServerType} (type : t ∈ numberTypes) {d : Decimal}
    {entry : Option (List UInt8)} (encodes : Encodes t (.decimal d) entry) :
    SentExactly t (.decimal d) entry := by
  obtain ⟨x, form, fits, rfl⟩ := encodes
  change nativeDecimal t d = .ok x at form
  cases t with
  | char | bpchar =>
    -- the form is a decimal, which neither type takes
    cases form
    cases fits
  | int2 | int4 | int8 =>
    obtain ⟨m, same, rfl⟩ := narrowDecimal_eq_ok form
    have whole := same.trans d.truncated_eq
    exact ⟨_, _, rfl, decode_integer (by decide) m, .integer (by decide) rfl whole⟩
  | numeric =>
    cases form
    exact sentExactly_numeric rfl
  | text | varchar =>
    cases form
    have digits := String.toList_ofList (l := d.toText)
    refine ⟨_, _, rfl, decode_text (by decide) _, .places (by decide) digits ?_⟩
    rw [digits]
    exact d.ofText?_toText
  | _ => simp [numberTypes, textTypes] at type

/-- What holds the decimal of an integer holds the integer. -/
theorem Holds.of_wide {t : ServerType} {n : Signed 128} {d : Decimal} {x : Value}
    (scale : d.scale = 0) (sign : d.negative = decide (n.val < 0))
    (size : d.magnitude = n.val.natAbs) (holds : Holds t (.decimal d) x) :
    Holds t (.int .w128 n) x := by
  have same : numberOf (.int .w128 n) = numberOf (.decimal d) :=
    congrArg some (Decimal.toRat_of_integer scale sign size).symm
  cases holds with
  | char exact => exact .char (same.trans exact)
  | integer width number whole => exact .integer width (same.trans number) whole
  | numeric exact => exact .numeric (same.trans exact)
  | places text digits exact =>
    have integer := digits.trans (Decimal.toText_of_integer scale sign size)
    refine .digits text integer ?_
    rw [integer]
    exact Digits.toInt?_ofInt n.val

/-- Whatever is sent for a number that was bound holds this number. -/
theorem sentExactly_of_received {r : Registry} {t : ServerType} (type : t ∈ numberTypes)
    {v x : Value} {ss ss' : Streams} (number : (numberOf v).isSome)
    (received : Received r v ss x ss') {entry : Option (List UInt8)}
    (encodes : Encodes t x entry) : SentExactly t v entry := by
  obtain ⟨converted, drained⟩ := received
  cases converted with
  | plain notWide notCharacters =>
    cases drained with
    | plain noBytes noText =>
      cases v with
      | int w n =>
        by_cases wide : w = .w128
        · subst wide
          exact absurd rfl (notWide n)
        · exact sentExactly_integer type wide encodes
      | decimal d => exact sentExactly_decimal type encodes
      | _ => cases number
    | bytes => cases number
    | text => cases number
  | wide scale sign size =>
    cases drained
    obtain ⟨bytes, y, sent, decoded, holds⟩ := sentExactly_decimal type encodes
    exact ⟨bytes, y, sent, decoded, holds.of_wide scale sign size⟩
  | characters text => cases number

/-! ## Which integers are sent -/

/-- The integer is in the range of the type. -/
def InRange (t : ServerType) (n : Int) : Prop :=
  match t with
  | .char => -2 ^ 7 ≤ n ∧ n < 2 ^ 7
  | .int2 => -2 ^ 15 ≤ n ∧ n < 2 ^ 15
  | .int4 => -2 ^ 31 ≤ n ∧ n < 2 ^ 31
  | .int8 => -2 ^ 63 ≤ n ∧ n < 2 ^ 63
  | _ => True

/-- The numbers that are narrowed to a width are those of its range. -/
theorem narrow_sent_iff {t : ServerType} {w : Width}
    (takes : ∀ m : Signed w.bits, (Native.int w m).fits t = true) {n : Int} :
    (∃ entry x, narrow w n = .ok x ∧ x.fits t = true ∧ x.encode t = entry) ↔
      -2 ^ (w.bits - 1) ≤ n ∧ n < 2 ^ (w.bits - 1) := by
  constructor
  · intro ⟨entry, x, form, fits, encoded⟩
    obtain ⟨m, rfl, x_eq⟩ := narrow_eq_ok_iff.1 form
    exact ⟨m.ge, m.lt⟩
  · intro ⟨ge, lt⟩
    have form := narrow_eq_ok_iff.2 ⟨⟨n, ge, lt⟩, rfl, rfl⟩
    exact ⟨_, _, form, takes _, rfl⟩

/-- Every integer of up to 64 bits is a decimal. -/
theorem exists_decimal {w : Width} (notWide : w ≠ .w128) (n : Signed w.bits) :
    ∃ d, Decimal.ofInt? n.val = some d := by
  have ge := n.ge
  have lt := n.lt
  cases found : Decimal.ofInt? n.val with
  | some d => exact ⟨d, rfl⟩
  | none =>
    have large := Decimal.ofInt?_eq_none_iff.1 found
    cases w with
    | w128 => exact absurd rfl notWide
    | w8 | w16 | w32 | w64 =>
      simp only [Width.bits] at ge lt
      omega

/-- An integer of up to 64 bits is sent for a type if it is in the range of the type. -/
theorem encodes_iff_inRange {t : ServerType} (type : t ∈ numberTypes) {w : Width}
    (notWide : w ≠ .w128) (n : Signed w.bits) :
    (∃ entry, Encodes t (.int w n) entry) ↔ InRange t n.val := by
  unfold Encodes
  rw [native_int t notWide]
  cases t with
  | char | int2 | int4 | int8 => exact narrow_sent_iff fun m => rfl
  | numeric =>
    obtain ⟨d, found⟩ := exists_decimal notWide n
    refine iff_of_true ⟨_, .numeric d, ?_, rfl, rfl⟩ trivial
    unfold nativeInteger
    dsimp only
    rw [found]
  | text | varchar | bpchar => exact iff_of_true ⟨_, _, rfl, rfl, rfl⟩ trivial
  | _ => simp [numberTypes, textTypes] at type

/-! ## Messages -/

/-- The parameter has a value, which can be sent. -/
def Sendable (s : Statement) (i : Nat) : Prop :=
  ∀ t, s.script.params[i]? = some t → ∃ x entry, s.params[i]? = some (some x) ∧ Encodes t x entry

theorem exists_sends_iff {s : Statement} (whole : s.params.length = s.script.params.length) :
    (∃ entries, Sends s entries) ↔ ∀ i, Sendable s i := by
  constructor
  · intro ⟨entries, sends⟩ i t parameter
    obtain ⟨xs, params, encoded⟩ := (encodeParams_eq_ok_iff whole).1 (sends_iff.1 sends)
    obtain ⟨x, entry, value, -, encodes⟩ := encoded.getElem? parameter
    refine ⟨x, entry, ?_, encodes⟩
    rw [params, List.getElem?_map, value]
    rfl
  · intro all
    obtain ⟨xs, entries, params, encoded⟩ := exists_encoded whole all
    exact ⟨entries, sends_iff.2 ((encodeParams_eq_ok_iff whole).2 ⟨xs, params, encoded⟩)⟩

/-! ## Binding and running -/

theorem received_integer {r : Registry} {w : Width} (notWide : w ≠ .w128) {n : Signed w.bits}
    {x : Value} {ss ss' : Streams} (received : Received r (.int w n) ss x ss') : x = .int w n := by
  obtain ⟨converted, drained⟩ := received
  cases converted with
  | plain =>
    cases drained
    rfl
  | wide => exact absurd rfl notWide

/-- What binding has put at a parameter. -/
theorem received_of_bound {r : Registry} {s s' : Statement} {vs : List Value} {ss ss' : Streams}
    (bound : Binding.bindAll r Statement.set vs s ss = ((.ok (), s'), ss')) {i : Nat} {v : Value}
    (value : vs[i]? = some v) :
    s'.script = s.script ∧ s'.params.length = s.params.length ∧
      ∃ x ss₁ ss₂, s'.params[i]? = some (some x) ∧ Received r v ss₁ x ss₂ := by
  have params : s.params = [] ++ s.params := rfl
  obtain ⟨fits, xs, ordered, rfl⟩ := (bindFrom_eq_ok_iff params).1 bound
  have length := ordered.length_eq
  obtain ⟨x, ss₁, ss₂, there, received⟩ := ordered.getElem? value
  refine ⟨rfl, ?_, x, ss₁, ss₂, ?_, received⟩
  · show ([] ++ xs.map some ++ s.params.drop xs.length).length = _
    simp only [List.nil_append, List.length_append, List.length_map, List.length_drop]
    omega
  · show ([] ++ xs.map some ++ s.params.drop xs.length)[i]? = _
    have within : i < (xs.map some).length := by
      rw [List.length_map]
      exact (List.getElem?_eq_some_iff.1 there).1
    rw [List.nil_append, List.getElem?_append_left within, List.getElem?_map, there]
    rfl

/-- **Numbers are sent exactly or not at all.** After any calls on a statement, values are bound to
it and it is run. At a parameter of an integer type, of decimals or of text, a value that is an
integer or a decimal is sent as a cell that holds it exactly, or nothing is sent at all. If the
other parameters can be sent, an integer of up to 64 bits is sent if and only if it is in the range
of its type. -/
theorem numbers_sent_exactly {r : Registry} {script : Script} {keys : Keys} {s s' : Statement}
    {os : List (Occurrence Server Statement)}
    (history : History AnsweredOtherwise (.prepared script keys) os s) {vs : List Value}
    {ss ss' : Streams}
    (bound : Binding.bindAll r Statement.set vs s ss = ((.ok (), s'), ss')) {i : Nat}
    {t : ServerType} {v : Value} (parameter : script.params[i]? = some t) (type : t ∈ numberTypes)
    (value : vs[i]? = some v) (number : (numberOf v).isSome) :
    ((∃ e, FailsUnsent s' e) ∨
        ∃ entries entry, Sends s' entries ∧ entries[i]? = some entry ∧ SentExactly t v entry) ∧
      ∀ (w : Width) (n : Signed w.bits), v = .int w n → w ≠ .w128 →
        (∀ j, j ≠ i → Sendable s' j) → ((∃ entries, Sends s' entries) ↔ InRange t n.val) := by
  have inUse := inUse_of_history history
  obtain ⟨script_eq, length_eq, x, ss₁, ss₂, there, received⟩ := received_of_bound bound value
  have whole : s'.params.length = s'.script.params.length := by
    rw [script_eq, length_eq, inUse.length_eq, inUse.types_eq]
  have parameter' : s'.script.params[i]? = some t := by
    rw [script_eq, inUse.types_eq]
    exact parameter
  constructor
  · cases encoded : s'.encodeParams with
    | error e => exact .inl ⟨e, failsUnsent_of_error encoded⟩
    | ok entries =>
      obtain ⟨xs, params, all⟩ := (encodeParams_eq_ok_iff whole).1 encoded
      obtain ⟨x', entry, there', sent, encodes⟩ := all.getElem? parameter'
      have same : x' = x := by
        rw [params, List.getElem?_map, there'] at there
        cases there
        rfl
      rw [same] at encodes
      exact .inr ⟨entries, entry, sends_iff.2 encoded, sent,
        sentExactly_of_received type number received encodes⟩
  · intro w n v_eq notWide others
    rw [v_eq] at received
    have kept := received_integer notWide received
    rw [exists_sends_iff whole, ← encodes_iff_inRange type notWide n]
    constructor
    · intro all
      obtain ⟨x', entry, there', encodes⟩ := all i t parameter'
      rw [there, kept] at there'
      cases there'
      exact ⟨entry, encodes⟩
    · intro ⟨entry, encodes⟩ j
      by_cases here : j = i
      · intro t' parameter_j
        rw [here, parameter'] at parameter_j
        cases parameter_j
        refine ⟨x, entry, here ▸ there, ?_⟩
        rw [kept]
        exact encodes
      · exact others j here

/-- The number -123.7 is sent as the integer -123, next to a text of one digit; the integer 128 is
too large for one byte and is not sent. -/
theorem numbers_sent_exactly_truncated :
    let script : Script := { Script.empty with params := [.int2, .text] }
    let s := Statement.bound script .none
      [.decimal ⟨true, 1237, 1, by decide, by decide⟩, .decimal ⟨false, 5, 0, by decide, by decide⟩]
    let byte : Script := { Script.empty with params := [.char] }
    let s' := Statement.bound byte .none [.int .w16 (.clamp 16 128)]
    ((∃ e, FailsUnsent s e) ∨ ∃ entries entry, Sends s entries ∧ entries[0]? = some entry ∧
        SentExactly .int2 (.decimal ⟨true, 1237, 1, by decide, by decide⟩) entry) ∧
      Sends s [some [0xff, 0x85], some [0x35]] ∧ ¬ ∃ entries, Sends s' entries := by
  intro script s byte s'
  have bound : Binding.bindAll .standard Statement.set
      [.decimal ⟨true, 1237, 1, by decide, by decide⟩, .int .w128 (.clamp 128 5)]
      (.prepared script .none) .empty = ((.ok (), s), .empty) := rfl
  have bound' : Binding.bindAll .standard Statement.set [.int .w16 (.clamp 16 128)]
      (.prepared byte .none) .empty = ((.ok (), s'), .empty) := rfl
  refine ⟨?_, sends_iff.2 (by decide +kernel), ?_⟩
  · exact (numbers_sent_exactly .nil bound rfl (by decide) rfl rfl).1
  · have parameter : byte.params[0]? = some .char := rfl
    have rules := (numbers_sent_exactly .nil bound' parameter (by decide) rfl rfl).2
    rw [rules .w16 _ rfl (by decide)]
    · exact fun inRange => absurd inRange.2 (by decide)
    · intro j other t parameter
      cases j with
      | zero => exact absurd rfl other
      | succ j => cases parameter

end SqlAccess.Postgres
