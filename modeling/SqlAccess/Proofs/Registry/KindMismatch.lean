import SqlAccess.Identities
import SqlAccess.Proofs.Cursor.Reads
import SqlAccess.Proofs.Registry.Kinds

/-!
# No value of another kind

Whoever reads through the standard registry asks for a kind and never meets a value of another
one. A missing value that is read as such is the one exception.

* `Cursor.get_isKindMismatch_iff`: reads of a cursor.
* `Identities.asText_raises` and `Identities.asInteger_raises`: generated identities.
* `standard_kinds`: all of it, with the coercions that it comes from.
-/

namespace SqlAccess

/-- The failure says that a value was converted to another kind than the caller wants. -/
def Error.isKindMismatch : Error → Bool
  | .coercion ⟨_, _, .unreadableAs _ _⟩ | .coercion ⟨_, _, .convertedTo _⟩ => true
  | _ => false

theorem Error.isKindMismatch_of_registry {e : CoercionError} (h : e.ofRegistry) :
    (Error.coercion e).isKindMismatch = false := by
  obtain ⟨column, target, reason⟩ := e
  obtain h | ⟨cause, h⟩ := h
  · obtain rfl : reason = .unregistered := h
    rfl
  · obtain rfl : reason = .failed cause := h
    rfl

theorem HostType.accepts_of_kind {t : HostType} {v : Value} (h : v.kind = some t.kind) :
    t.accepts v = true := by
  rw [accepts, h]
  exact beq_self_eq_true t.kind

/-! ## Reads of a cursor -/

namespace Cursor

variable {S : Type} {c : Cursor S} {ref : ColumnRef} {i : Nat}

theorem coerceColumn_raises {raw : Value} (fetched : c.fetch i = .ok raw) (t : Target) :
    StreamM.Raises (c.coerceColumn i t) fun e => e.isKindMismatch = false := by
  cases compatible : c.registry.isCompatible (c.columnType i) t with
  | false =>
    rw [coerceColumn_unsupported compatible]
    exact .throw rfl
  | true =>
    by_cases missing : raw = .null ∧ c.allowNulls = true
    · obtain ⟨rfl, allowed⟩ := missing
      rw [coerceColumn_null fetched allowed compatible]
      exact .pure
    · rw [coerceColumn_coerce fetched missing compatible]
      exact .mapError fun ss e ss' failed =>
        Error.isKindMismatch_of_registry (Registry.coerce_raises _ _ _ _ ss e ss' failed)

/-- A column that is not found is a failure of its own, and no value is converted. -/
theorem get_of_resolve_eq_error {e : Error} (unresolved : c.resolve ref = .error e) (t : HostType)
    (ss : Streams) : (c.get ref t ss).1 = .error e ∧ e.isKindMismatch = false := by
  constructor
  · unfold get atColumn
    rw [unresolved]
    rfl
  · unfold resolve checkRow at unresolved
    by_cases onRow : c.state = .onRow
    · rw [if_pos onRow] at unresolved
      cases ref with
      | index j =>
        by_cases within : j < c.columns.length
        · simp [within, bind, Except.bind, pure, Except.pure] at unresolved
        · simp only [within, bind, Except.bind, if_false] at unresolved
          cases unresolved
          rfl
      | label label =>
        dsimp only [bind, Except.bind] at unresolved
        split at unresolved
        · cases unresolved
        · cases unresolved
          rfl
    · rw [if_neg onRow] at unresolved
      cases unresolved
      rfl

/-- The type NULL has no conversions, so a column with one is of another type. -/
theorem columnType_ne_null (standard : c.registry = .standard) {k : Kind}
    (compatible : c.registry.isCompatible (c.columnType i) (.host k) = true) :
    c.columnType i ≠ .null := by
  intro null
  rw [standard, null] at compatible
  cases compatible

theorem coerceColumn_ensures (standard : c.registry = .standard) {raw : Value}
    (fetched : c.fetch i = .ok raw) (present : ¬(raw = .null ∧ c.allowNulls = true)) {k : Kind}
    (compatible : c.registry.isCompatible (c.columnType i) (.host k) = true) :
    StreamM.Ensures (c.coerceColumn i (.host k)) fun v => v.kind = some k := by
  rw [coerceColumn_coerce fetched present compatible, standard]
  exact (Registry.standard_coerce_ensures (columnType_ne_null standard compatible) raw k).mapError _

/-- Through the standard registry, a value has another kind than the host type in one case only:
it is missing, may be read as such, and the host type does not take missing values. -/
theorem get_isKindMismatch_iff (standard : c.registry = .standard)
    (resolved : c.resolve ref = .ok i) {raw : Value} (fetched : c.fetch i = .ok raw)
    (t : HostType) (ss : Streams) :
    (∃ e, (c.get ref t ss).1 = .error e ∧ e.isKindMismatch = true) ↔
      c.registry.isCompatible (c.columnType i) (.host t.kind) = true ∧ raw = .null ∧
        c.allowNulls = true ∧ t.optional = false := by
  rw [get_run resolved]
  cases compatible : c.registry.isCompatible (c.columnType i) (.host t.kind) with
  | false =>
    rw [coerceColumn_unsupported compatible]
    constructor
    · rintro ⟨e, failed, mismatch⟩
      cases failed
      cases mismatch
    · rintro ⟨compatible, -⟩
      cases compatible
  | true =>
    by_cases missing : raw = .null ∧ c.allowNulls = true
    · obtain ⟨rfl, allowed⟩ := missing
      rw [coerceColumn_null fetched allowed compatible]
      obtain ⟨kind, optional⟩ := t
      cases optional with
      | true =>
        refine ⟨?_, by simp⟩
        rintro ⟨e, failed, -⟩
        cases failed
      | false => exact ⟨fun _ => ⟨rfl, rfl, allowed, rfl⟩, fun _ => ⟨_, rfl, rfl⟩⟩
    · refine ⟨?_, fun ⟨_, null, allowed, _⟩ => absurd ⟨null, allowed⟩ missing⟩
      rintro ⟨e, failed, mismatch⟩
      rcases ran : c.coerceColumn i (.host t.kind) ss with ⟨cause | v, ss'⟩
      · rw [ran] at failed
        cases failed
        rw [coerceColumn_raises fetched _ ss e ss' ran] at mismatch
        cases mismatch
      · have kind : v.kind = some t.kind :=
          coerceColumn_ensures standard fetched missing compatible ss v ss' ran
        rw [ran] at failed
        dsimp only at failed
        rw [if_pos (HostType.accepts_of_kind kind)] at failed
        cases failed

end Cursor

/-! ## Generated identities -/

theorem Value.eq_text_of_kind {v : Value} (h : v.kind = some .text) : ∃ s, v = .text s := by
  cases v with
  | text s => exact ⟨s, rfl⟩
  | _ => cases h

theorem Value.eq_int_of_kind {v : Value} {w : Width} (h : v.kind = some (.int w)) :
    ∃ n, v = .int w n := by
  cases v with
  | int w' n =>
    cases h
    exact ⟨n, rfl⟩
  | _ => cases h

namespace Identities

open StreamM (Ensures Raises)

theorem present_eq_ok {ids : Identities} {i : Nat} {t : Target} {c : ColumnType} {v : Value}
    (found : ids.present i t = .ok (c, v)) : v.isNull = false := by
  simp only [present, bind, Except.bind] at found
  split at found
  · cases found
  · split at found
    · cases found
    · cases found
      exact eq_false_of_ne_true ‹_›

theorem present_eq_error {ids : Identities} {i : Nat} {t : Target} {e : Error}
    (failed : ids.present i t = .error e) : e.isKindMismatch = false := by
  simp only [present, bind, Except.bind, entry] at failed
  cases found : ids.entries[i]? with
  | none =>
    rw [found] at failed
    cases failed
    rfl
  | some given =>
    rw [found] at failed
    dsimp only at failed
    split at failed
    · cases failed
      rfl
    · cases failed

/-- A value that is there is converted to the kind it is wanted as, or its conversion fails. -/
theorem coerce_raises_of_present {v : Value} (present : v.isNull = false) (c : ColumnType)
    (k : Kind) {α : Type} {next : Value → StreamM Error α}
    (reads : ∀ r, r.kind = some k → Raises (next r) fun e => e.isKindMismatch = false) :
    Raises (StreamM.mapError .coercion (Registry.standard.coerce v c (.host k)) >>= next)
      fun e => e.isKindMismatch = false := by
  refine Raises.bind (Q := fun r => r.kind = some k) ?_ ?_ reads
  · exact .mapError fun ss e ss' failed =>
      Error.isKindMismatch_of_registry (Registry.coerce_raises _ _ _ _ ss e ss' failed)
  · rw [Registry.coerce_of_not_isNull present]
    exact (Registry.standard_apply_ensures v c k).mapError _

theorem asText_raises (ids : Identities) (i : Nat) :
    Raises (ids.asText .standard i) fun e => e.isKindMismatch = false := by
  unfold asText
  split
  · exact .throw (present_eq_error ‹_›)
  · refine coerce_raises_of_present (present_eq_ok ‹_›) _ .text fun r kind => ?_
    obtain ⟨s, rfl⟩ := Value.eq_text_of_kind kind
    exact .pure

theorem asInteger_raises (ids : Identities) (i : Nat) :
    Raises (ids.asInteger .standard i) fun e => e.isKindMismatch = false := by
  unfold asInteger
  split
  · exact .throw (present_eq_error ‹_›)
  · split
    · refine coerce_raises_of_present (present_eq_ok ‹_›) _ (.int .w64) fun r kind => ?_
      obtain ⟨n, rfl⟩ := Value.eq_int_of_kind kind
      exact .pure
    · refine (ids.asText_raises i).bind (Ensures.trivial _) fun s _ => ?_
      split
      · exact .pure
      · exact .throw rfl

end Identities

/-! ## All of them -/

/-- **The standard registry keeps kinds.** A coercion of any value, missing or not, to a kind gives
a value of that kind or fails; only the column type NULL, whose missing values stay missing, is left
out. So:

* A cursor that reads a raw value as a host type finds another kind in one case only: the value is
  missing, may be read as such, and the host type does not take missing values. A column that is not
  found and a cell that cannot be read at all fail in their own words.
* A generated identity is never converted to another kind than asked for. -/
theorem standard_kinds :
    (∀ (c : ColumnType) (k : Kind) (v r : Value) (ss ss' : Streams), c ≠ .null →
      (Registry.standard.coerce v c (.host k)).run ss = (.ok r, ss') → r.kind = some k) ∧
    (∀ (S : Type) (c : Cursor S) (ref : ColumnRef) (t : HostType) (ss : Streams),
      c.registry = .standard →
      (∀ e, c.resolve ref = .error e →
        (c.get ref t ss).1 = .error e ∧ e.isKindMismatch = false) ∧
      ∀ i, c.resolve ref = .ok i →
        (∀ raw, c.fetch i = .ok raw →
          ((∃ e, (c.get ref t ss).1 = .error e ∧ e.isKindMismatch = true) ↔
            c.registry.isCompatible (c.columnType i) (.host t.kind) = true ∧ raw = .null ∧
              c.allowNulls = true ∧ t.optional = false)) ∧
        (∀ e, c.fetch i = .error e →
          c.registry.isCompatible (c.columnType i) (.host t.kind) = true →
            (c.get ref t ss).1 = .error e)) ∧
    (∀ (ids : Identities) (i : Nat) (ss : Streams) (e : Error),
      ((ids.asInteger .standard i).run ss).1 = .error e ∨
        ((ids.asText .standard i).run ss).1 = .error e → e.isKindMismatch = false) := by
  refine ⟨?_, ?_, ?_⟩
  · intro c k v r ss ss' named given
    exact Registry.standard_coerce_ensures named v k ss r ss' given
  · intro S c ref t ss standard
    refine ⟨fun e unresolved => Cursor.get_of_resolve_eq_error unresolved t ss, ?_⟩
    intro i resolved
    refine ⟨fun raw fetched => Cursor.get_isKindMismatch_iff standard resolved fetched t ss, ?_⟩
    intro e failed compatible
    rw [Cursor.get_run resolved]
    unfold Cursor.coerceColumn
    rw [if_pos compatible, failed]
    rfl
  · rintro ids i ss e (failed | failed)
    · exact ids.asInteger_raises i ss e _ (Prod.ext failed rfl)
    · exact ids.asText_raises i ss e _ (Prod.ext failed rfl)

/-- A missing number is converted to a text, but not read as a number where it may be missing. -/
theorem standard_kinds_missing :
    let c : Cursor Unit :=
      (Cursor.ofSource (.ofValues [⟨"id", .bigInt, none⟩] [[.null]]) none .standard true).advance.2
    (Registry.standard.coerce .null .bigInt (.host .text)).run .empty =
        (.ok (.text "0"), .empty) ∧
      (Value.text "0").kind = some .text ∧
      ∃ e, (c.get (.index 0) ⟨.int .w64, false⟩ .empty).1 = .error e ∧
        e.isKindMismatch = true := by
  intro c
  have converted : (Registry.standard.coerce .null .bigInt (.host .text)).run .empty =
      (.ok (.text "0"), .empty) := rfl
  obtain ⟨coercions, reads, -⟩ := standard_kinds
  refine ⟨converted, coercions .bigInt .text .null _ .empty .empty nofun converted, ?_⟩
  obtain ⟨-, found⟩ := reads Unit c (.index 0) ⟨.int .w64, false⟩ .empty rfl
  exact ((found 0 rfl).1 .null rfl).2 ⟨rfl, rfl, rfl, rfl⟩

end SqlAccess
