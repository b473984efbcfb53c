import SqlAccess.Binding
import SqlAccess.Proofs.Outcome

/-!
# What values are bound as

Binding converts each value and hands it to the setter of its position. `Converted` says what a
conversion may do, without reference to how it is computed; `InOrder` strings such steps together
over a list of values, each on the streams that the one before has left.

* `captured_eq_ok_iff`: what a setter receives is the converted value.
* `captured_eq_error_iff`: which values are not converted.
* `sends_of_converted`: so binding it is handing the converted value to the setter.
* `bindFrom_cons_eq_ok_iff`: a list of values is bound if the first one is converted and accepted
  and the others are bound after it.
-/

namespace SqlAccess

theorem Decimal.ofInt?_eq_some_iff {n : Int} {d : Decimal} :
    Decimal.ofInt? n = some d ↔
      d.scale = 0 ∧ d.negative = decide (n < 0) ∧ d.magnitude = n.natAbs := by
  unfold Decimal.ofInt? Decimal.ofParts?
  constructor
  · intro h
    split at h
    · cases h
      exact ⟨rfl, rfl, rfl⟩
    · cases h
  · rintro ⟨scale, sign, size⟩
    have fits : n.natAbs < 2 ^ 96 ∧ 0 ≤ 28 := ⟨size ▸ d.magnitude_lt, Nat.zero_le 28⟩
    rw [dif_pos fits, Option.some.injEq]
    exact Decimal.ext sign.symm size.symm scale.symm

theorem Decimal.ofInt?_eq_none_iff {n : Int} : Decimal.ofInt? n = none ↔ 2 ^ 96 ≤ n.natAbs := by
  unfold Decimal.ofInt? Decimal.ofParts?
  split
  · rename_i fits
    exact iff_of_false (Option.some_ne_none _) (Nat.not_le_of_lt fits.1)
  · rename_i unfit
    exact iff_of_true rfl (Nat.le_of_not_lt fun fits => unfit ⟨fits, Nat.zero_le 28⟩)

namespace Binding

/-- What a value becomes on its way to the setter: character data the text that the registry's
conversion of CHAR columns gives, an integer of 128 bits the decimal of the same number without
fraction digits. Every other value stays as it is. -/
inductive Converted (r : Registry) : Value → Streams → Value → Streams → Prop where
  | plain {v : Value} {ss : Streams} (notWide : ∀ n, v ≠ .int .w128 n)
    (notCharacters : ∀ cs, v ≠ .chars cs) : Converted r v ss v ss
  | wide {n : Signed 128} {d : Decimal} {ss : Streams} (scale : d.scale = 0)
    (sign : d.negative = decide (n.val < 0)) (size : d.magnitude = n.val.natAbs) :
    Converted r (.int .w128 n) ss (.decimal d) ss
  | characters {cs : List Char} {s : String} {ss ss' : Streams}
    (text : (r.coerce (.chars cs) .char (.host .text)).run ss = (.ok (.text s), ss')) :
    Converted r (.chars cs) ss (.text s) ss'

/-- What keeps a value from its setter: an integer that no decimal can hold, or character data that
the registry does not convert to a text. -/
inductive Refused (r : Registry) : Value → Streams → BindReason → Streams → Prop where
  | above {n : Signed 128} {ss : Streams} (large : 2 ^ 96 ≤ n.val) :
    Refused r (.int .w128 n) ss .aboveDecimal ss
  | below {n : Signed 128} {ss : Streams} (small : n.val ≤ -2 ^ 96) :
    Refused r (.int .w128 n) ss .belowDecimal ss
  | notText {cs : List Char} {v : Value} {ss ss' : Streams}
    (converted : (r.coerce (.chars cs) .char (.host .text)).run ss = (.ok v, ss'))
    (other : ∀ s, v ≠ .text s) : Refused r (.chars cs) ss (.charactersConverted v.kind) ss'
  | failed {cs : List Char} {e : CoercionError} {ss ss' : Streams}
    (fails : (r.coerce (.chars cs) .char (.host .text)).run ss = (.error e, ss')) :
    Refused r (.chars cs) ss (.charactersFailed e) ss'

/-- The values become these values, one after the other. -/
inductive InOrder (R : Value → Streams → Value → Streams → Prop) :
    List Value → Streams → List Value → Streams → Prop where
  | nil {ss : Streams} : InOrder R [] ss [] ss
  | cons {v w : Value} {vs ws : List Value} {ss ss' ss'' : Streams} (first : R v ss w ss')
    (others : InOrder R vs ss' ws ss'') : InOrder R (v :: vs) ss (w :: ws) ss''

theorem InOrder.length_eq {R : Value → Streams → Value → Streams → Prop} {vs ws : List Value}
    {ss ss' : Streams} (ordered : InOrder R vs ss ws ss') : ws.length = vs.length := by
  induction ordered with
  | nil => rfl
  | cons _ _ ih => exact congrArg (· + 1) ih

theorem InOrder.getElem? {R : Value → Streams → Value → Streams → Prop} {vs ws : List Value}
    {ss ss' : Streams} (ordered : InOrder R vs ss ws ss') {i : Nat} {v : Value}
    (value : vs[i]? = some v) : ∃ w ss₁ ss₂, ws[i]? = some w ∧ R v ss₁ w ss₂ := by
  induction ordered generalizing i with
  | nil => cases value
  | cons first others ih =>
    cases i with
    | zero =>
      cases value
      exact ⟨_, _, _, rfl, first⟩
    | succ i => exact ih value

/-! ## One value -/

variable {r : Registry} {position : Nat} {v w : Value} {ss ss' : Streams}

theorem wideInteger_eq_ok_iff {n : Int} :
    wideInteger position n = .ok w ↔ ∃ d, Decimal.ofInt? n = some d ∧ w = .decimal d := by
  unfold wideInteger
  cases Decimal.ofInt? n with
  | none => simp
  | some d => simp [eq_comm]

theorem convertedText_eq_ok_iff {outcome : Except CoercionError Value} :
    convertedText position outcome = .ok w ↔ ∃ s, outcome = .ok (.text s) ∧ w = .text s := by
  unfold convertedText
  split
  · simp [eq_comm]
  · simp_all
  · simp

/-- The setter receives the converted value. -/
theorem captured_eq_ok_iff :
    captured r position v ss = (.ok w, ss') ↔ Converted r v ss w ss' := by
  constructor
  · intro given
    unfold captured at given
    split at given
    · rename_i n
      cases converted : wideInteger position n.val with
      | error e =>
        rw [converted] at given
        cases given
      | ok w' =>
        rw [converted] at given
        cases given
        obtain ⟨d, found, rfl⟩ := wideInteger_eq_ok_iff.1 converted
        obtain ⟨scale, sign, size⟩ := Decimal.ofInt?_eq_some_iff.1 found
        exact .wide scale sign size
    · rename_i cs
      dsimp only at given
      obtain ⟨converted, rfl⟩ := Prod.mk.inj given
      obtain ⟨s, text, rfl⟩ := convertedText_eq_ok_iff.1 converted
      exact .characters (Prod.ext text rfl)
    · rename_i notWide notCharacters
      cases given
      exact .plain notWide notCharacters
  · rintro (⟨notWide, notCharacters⟩ | ⟨scale, sign, size⟩ | ⟨text⟩)
    · rw [captured_of_plain r position notWide notCharacters]
      rfl
    · rename_i n d
      have found := Decimal.ofInt?_eq_some_iff.2 ⟨scale, sign, size⟩
      have converted : wideInteger position n.val = .ok (.decimal d) :=
        wideInteger_eq_ok_iff.2 ⟨d, found, rfl⟩
      unfold captured
      dsimp only
      rw [converted]
      rfl
    · unfold captured
      dsimp only
      rw [text]
      rfl

/-- An integer that no decimal can hold is refused. -/
theorem wideInteger_eq_error_iff {n : Int} {e : Error} :
    wideInteger position n = .error e ↔
      (2 ^ 96 ≤ n ∧ e = .bind position .aboveDecimal) ∨
        (n ≤ -2 ^ 96 ∧ e = .bind position .belowDecimal) := by
  unfold wideInteger
  cases found : Decimal.ofInt? n with
  | some d =>
    have size := (Decimal.ofInt?_eq_some_iff.1 found).2.2
    have small := d.magnitude_lt
    simp only [reduceCtorEq, false_iff]
    omega
  | none =>
    have large := Decimal.ofInt?_eq_none_iff.1 found
    simp only [Except.error.injEq]
    by_cases negative : n < 0
    · have small : n ≤ -2 ^ 96 := by omega
      have notLarge : ¬ 2 ^ 96 ≤ n := by omega
      simp only [if_pos negative, small, notLarge, true_and, false_and, false_or, eq_comm]
    · have notSmall : ¬ n ≤ -2 ^ 96 := by omega
      have large : 2 ^ 96 ≤ n := by omega
      simp only [if_neg negative, notSmall, large, true_and, false_and, or_false, eq_comm]

/-- Character data is refused if the registry fails or gives something other than a text. -/
theorem convertedText_eq_error_iff {outcome : Except CoercionError Value} {e : Error} :
    convertedText position outcome = .error e ↔
      (∃ v, outcome = .ok v ∧ (∀ s, v ≠ .text s) ∧
          e = .bind position (.charactersConverted v.kind)) ∨
        ∃ cause, outcome = .error cause ∧ e = .bind position (.charactersFailed cause) := by
  unfold convertedText
  split
  · simp
  · rename_i v notText
    simp only [Except.error.injEq, Except.ok.injEq, exists_eq_left', reduceCtorEq, false_and,
      exists_false, or_false]
    constructor
    · intro e_eq
      exact ⟨notText, e_eq.symm⟩
    · intro refused
      exact refused.2.symm
  · simp [eq_comm]

/-- A value that is not converted is refused at its position. -/
theorem captured_eq_error_iff {e : Error} :
    captured r position v ss = (.error e, ss') ↔
      ∃ reason, Refused r v ss reason ss' ∧ e = .bind position reason := by
  constructor
  · intro failed
    unfold captured at failed
    split at failed
    · rename_i n
      obtain ⟨refused, rfl⟩ := Prod.mk.inj failed
      rcases wideInteger_eq_error_iff.1 refused with ⟨large, e_eq⟩ | ⟨small, e_eq⟩
      · exact ⟨_, .above large, e_eq⟩
      · exact ⟨_, .below small, e_eq⟩
    · rename_i cs
      obtain ⟨refused, rest⟩ := Prod.mk.inj failed
      rcases convertedText_eq_error_iff.1 refused with
        ⟨v, given, other, e_eq⟩ | ⟨cause, given, e_eq⟩
      · exact ⟨_, .notText (Prod.ext given rest) other, e_eq⟩
      · exact ⟨_, .failed (Prod.ext given rest), e_eq⟩
    · cases failed
  · intro ⟨reason, refused, e_eq⟩
    rw [e_eq]
    cases refused with
    | above large =>
      exact Prod.ext (wideInteger_eq_error_iff.2 (.inl ⟨large, rfl⟩)) rfl
    | below small =>
      exact Prod.ext (wideInteger_eq_error_iff.2 (.inr ⟨small, rfl⟩)) rfl
    | notText converted other =>
      have given := congrArg Prod.fst converted
      have rest := congrArg Prod.snd converted
      exact Prod.ext (convertedText_eq_error_iff.2 (.inl ⟨_, given, other, rfl⟩)) rest
    | failed fails =>
      have given := congrArg Prod.fst fails
      have rest := congrArg Prod.snd fails
      exact Prod.ext (convertedText_eq_error_iff.2 (.inr ⟨_, given, rfl⟩)) rest

/-! ## Several values -/

section

variable {β : Type} {set : Setter β} {b b' : β} {vs : List Value}

theorem bindFrom_cons_run :
    bindFrom r set position (v :: vs) b ss =
      match captured r position v ss with
      | (.error e, ss') => ((.error e, b), ss')
      | (.ok w, ss') =>
        match set b position w ss' with
        | (.error e, ss'') => ((.error e, b), ss'')
        | (.ok b', ss'') => bindFrom r set (position + 1) vs b' ss'' := by
  simp only [bindFrom, bind_run]
  rcases captured r position v ss with ⟨_ | w, ss'⟩
  · rfl
  · dsimp only
    rcases set b position w ss' with ⟨_ | b', ss''⟩
    · rfl
    · rfl

/-- To bind the first value is to hand the second one to the setter. -/
def Sends (r : Registry) (v w : Value) : Prop :=
  ∀ (β : Type) (set : Setter β) (position : Nat) (vs : List Value) (b : β) (ss : Streams),
    bindFrom r set position (v :: vs) b ss =
      match set b position w ss with
      | (.error e, ss') => ((.error e, b), ss')
      | (.ok b', ss') => bindFrom r set (position + 1) vs b' ss'

theorem sends_of_converted (converted : ∀ ss, Converted r v ss w ss) : Sends r v w := by
  intro β set position vs b ss
  rw [bindFrom_cons_run, captured_eq_ok_iff.2 (converted ss)]

/-- A list of values is bound if the first one is converted and accepted, and the others are bound
after it. -/
theorem bindFrom_cons_eq_ok_iff :
    bindFrom r set position (v :: vs) b ss = ((.ok (), b'), ss') ↔
      ∃ w ss₁ b₁ ss₂, Converted r v ss w ss₁ ∧ set b position w ss₁ = (.ok b₁, ss₂) ∧
        bindFrom r set (position + 1) vs b₁ ss₂ = ((.ok (), b'), ss') := by
  rw [bindFrom_cons_run]
  constructor
  · intro bound
    rcases given : captured r position v ss with ⟨_ | w, ss₁⟩
    · rw [given] at bound
      cases bound
    · rw [given] at bound
      dsimp only at bound
      rcases accepted : set b position w ss₁ with ⟨_ | b₁, ss₂⟩
      · rw [accepted] at bound
        cases bound
      · rw [accepted] at bound
        exact ⟨w, ss₁, b₁, ss₂, captured_eq_ok_iff.1 given, accepted, bound⟩
  · rintro ⟨w, ss₁, b₁, ss₂, converted, accepted, bound⟩
    rw [captured_eq_ok_iff.2 converted]
    dsimp only
    rw [accepted]
    exact bound

/-- If a setter refuses at the position it is called for, so does binding at one of them. -/
theorem bindFrom_eq_error
    (refuses : ∀ {b position v ss e ss'}, set b position v ss = (.error e, ss') →
      ∃ reason, e = .bind position reason) {e : Error}
    (failed : bindFrom r set position vs b ss = ((.error e, b'), ss')) :
    ∃ position reason, e = .bind position reason := by
  induction vs generalizing position b ss with
  | nil => cases failed
  | cons v vs ih =>
    rw [bindFrom_cons_run] at failed
    rcases given : captured r position v ss with ⟨cause | w, ss₁⟩
    · rw [given] at failed
      cases failed
      obtain ⟨reason, -, cause_eq⟩ := captured_eq_error_iff.1 given
      exact ⟨position, reason, cause_eq⟩
    · rw [given] at failed
      dsimp only at failed
      rcases accepted : set b position w ss₁ with ⟨cause | b₁, ss₂⟩
      · rw [accepted] at failed
        cases failed
        exact ⟨position, refuses accepted⟩
      · rw [accepted] at failed
        exact ih failed

/-- What a setter keeps whenever it succeeds, binding keeps, also when it stops early. -/
theorem bindFrom_keeps {P : β → Prop}
    (step : ∀ {b b' : β} {position : Nat} {v : Value} {ss ss' : Streams},
      set b position v ss = (.ok b', ss') → P b → P b')
    (r : Registry) (position : Nat) (values : List Value) (b : β) (ss : Streams) (holds : P b) :
    P (bindFrom r set position values b ss).1.2 := by
  induction values generalizing position b ss with
  | nil => exact holds
  | cons v values ih =>
    rw [bindFrom_cons_run]
    rcases captured r position v ss with ⟨_ | converted, ss'⟩
    · exact holds
    · dsimp only
      rcases ran : set b position converted ss' with ⟨_ | b', ss''⟩
      · exact holds
      · exact ih (position + 1) b' ss'' (step ran holds)

end

end Binding

end SqlAccess
