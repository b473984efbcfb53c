import SqlAccess.Proofs.Binding.Conversions
import SqlAccess.Proofs.Registry.MissingValues
import SqlAccess.Proofs.Registry.Outcomes
import SqlAccess.Proofs.Session.Readings
import SqlAccess.Registry.Converters

/-!
# Registries that nobody tells apart

Cursors, identities and binding see of a registry which conversions it has and what its coercions
do. Two registries that agree on this are indistinguishable. A registry hides something in this way:
what the conversions to kinds do with a missing value. They are never given one, even if the value
that stands for a missing one is missing itself.

* `Indistinguishable`: all that is read or bound through the registries is the same.
* `indistinguishable_of_coerce`: it is enough that coercions are.
* `indistinguishable_iff_agreeOnPresent`: which registries these are.
-/

namespace SqlAccess

/-- The cursor with another registry. -/
def Cursor.withRegistry {S : Type} (c : Cursor S) (r : Registry) : Cursor S :=
  { c with registry := r }

/-- Whatever is converted, read or bound through one of the registries, has the same outcome through
the other one and reads the same of every stream. -/
structure Indistinguishable (r r' : Registry) : Prop where
  compatible : ∀ c t, r'.isCompatible c t = r.isCompatible c t
  coerced : ∀ v c t, r'.coerce v c t = r.coerce v c t
  read : ∀ (S : Type) (c : Cursor S) (reading : Reading),
    Session.read (c.withRegistry r') reading = Session.read (c.withRegistry r) reading
  identityText : ∀ (ids : Identities) i, ids.asText r' i = ids.asText r i
  identityInteger : ∀ (ids : Identities) i, ids.asInteger r' i = ids.asInteger r i
  bound : ∀ (β : Type) (set : Setter β) (values : List Value) (b : β),
    Binding.bindAll r' set values b = Binding.bindAll r set values b

/-! ## Coercions are all that is seen -/

variable {r r' : Registry}

section

variable (compatible : ∀ c t, r'.isCompatible c t = r.isCompatible c t)
  (coerced : ∀ v c t, r'.coerce v c t = r.coerce v c t)
include coerced

theorem Identities.asText_congr (ids : Identities) (i : Nat) :
    ids.asText r' i = ids.asText r i := by
  unfold asText
  simp only [coerced]

theorem Binding.captured_congr (position : Nat) (v : Value) :
    captured r' position v = captured r position v := by
  unfold captured
  simp only [coerced]

theorem Binding.bindFrom_congr {β : Type} (set : Setter β) (position : Nat) (values : List Value)
    (b : β) : bindFrom r' set position values b = bindFrom r set position values b := by
  induction values generalizing position b with
  | nil => rfl
  | cons v values ih =>
    unfold bindFrom
    simp only [captured_congr coerced, ih]

include compatible

theorem Cursor.sameColumns_withRegistry {S : Type} (c : Cursor S) :
    SameColumns (c.withRegistry r') (c.withRegistry r) := by
  have same (i : Nat) (t : Target) :
      (c.withRegistry r').registry.isCompatible ((c.withRegistry r').columnType i) t =
        (c.withRegistry r).registry.isCompatible ((c.withRegistry r).columnType i) t :=
    compatible (c.columnType i) t
  refine ⟨rfl, rfl, same, fun i t => ?_⟩
  unfold coerceColumn
  rw [same, show (c.withRegistry r').fetch i = (c.withRegistry r).fetch i from rfl]
  simp only [withRegistry, coerced]
  rfl

theorem Identities.asInteger_congr (ids : Identities) (i : Nat) :
    ids.asInteger r' i = ids.asInteger r i := by
  unfold asInteger
  simp only [compatible, coerced, asText_congr coerced]

theorem indistinguishable_of_coerce : Indistinguishable r r' where
  compatible := compatible
  coerced := coerced
  read _ c := Session.read_of_sameColumns (c.sameColumns_withRegistry compatible coerced)
  identityText ids i := ids.asText_congr coerced i
  identityInteger ids i := ids.asInteger_congr compatible coerced i
  bound _ set values b := Binding.bindFrom_congr coerced set 1 values b

end

theorem Indistinguishable.refl (r : Registry) : Indistinguishable r r :=
  indistinguishable_of_coerce (fun _ _ => rfl) fun _ _ _ => rfl

/-! ## Conversions that agree -/

/-- The registries have conversions for the same column types and targets, and make the same values
in place of missing ones. Their conversions to kinds agree on all values that are not missing. -/
structure AgreeOnPresent (r r' : Registry) : Prop where
  void : ∀ c, r'.converter c .void = r.converter c .void
  kinds : ∀ c k, Option.Rel (fun f f' : Converter => ∀ v, v ≠ .null → f' v = f v)
    (r.converter c (.host k)) (r'.converter c (.host k))

theorem StreamM.mapError_injective {ε ε' α : Type} {f : ε → ε'} (injective : Function.Injective f) :
    Function.Injective (mapError f : StreamM ε α → StreamM ε' α) := by
  intro m m' same
  funext ss
  have ran : mapError f m ss = mapError f m' ss := congrFun same ss
  unfold mapError at ran
  rcases left : m ss with ⟨e | a, ss₁⟩
  · rcases right : m' ss with ⟨e' | a', ss₂⟩
    · rw [left, right] at ran
      obtain ⟨failed, rfl⟩ := Prod.mk.inj ran
      rw [injective (Except.error.inj failed)]
    · rw [left, right] at ran
      cases ran
  · rcases right : m' ss with ⟨e' | a', ss₂⟩
    · rw [left, right] at ran
      cases ran
    · rw [left, right] at ran
      cases ran
      rfl

namespace Registry

variable {v : Value} {c : ColumnType} {t : Target}

theorem apply_of_converter {f : Converter} (found : r.converter c t = some f) :
    r.apply v c t = StreamM.mapError (fun e => ⟨c, t, .failed e⟩) (f v) := by
  unfold apply
  rw [found]

/-- Two conversions do the same with a value if the registries do. -/
theorem convert_eq_of_apply {f f' : Converter} (found : r.converter c t = some f)
    (found' : r'.converter c t = some f') (same : r'.apply v c t = r.apply v c t) : f' v = f v := by
  rw [apply_of_converter found, apply_of_converter found'] at same
  refine StreamM.mapError_injective (fun e e' wrapped => ?_) same
  cases wrapped
  rfl

theorem apply_congr (same : r'.converter c t = r.converter c t) :
    r'.apply v c t = r.apply v c t := by
  unfold apply
  rw [same]

/-- A coercion is a single conversion if the value is there or is not to be converted any
further. -/
theorem coerce_eq_apply (single : v ≠ .null ∨ t = .void) : r.coerce v c t = r.apply v c t := by
  by_cases missing : v = .null
  · obtain rfl : t = .void := single.resolve_left (not_not_intro missing)
    subst missing
    funext ss
    exact coerce_null_void r c ss
  · exact coerce_of_not_isNull (Value.isNull_of_ne_null missing) c t

/-- A coercion of a missing value depends on two conversions, and one of any other value on one. -/
theorem coerce_congr (void : v = .null → r'.converter c .void = r.converter c .void)
    (applied : ∀ w, w ≠ .null → r'.apply w c t = r.apply w c t) :
    r'.coerce v c t = r.coerce v c t := by
  by_cases missing : v = .null
  · subst missing
    unfold coerce
    rw [if_pos (show Value.null.isNull = true from rfl), apply_congr (void rfl)]
    -- the value that stands for the missing one goes on only if it is there
    congr 1
    funext zero
    by_cases ends : t = .void ∨ zero.isNull = true
    · rw [if_pos ends, if_pos ends]
    · rw [if_neg ends, if_neg ends]
      exact applied zero (mt Value.isNull_eq_true_iff.2 (not_or.1 ends).2)
  · rw [coerce_eq_apply (.inl missing), coerce_eq_apply (.inl missing)]
    exact applied v missing

end Registry

namespace AgreeOnPresent

variable {v : Value} {c : ColumnType} {t : Target}

theorem isCompatible (agree : AgreeOnPresent r r') (c : ColumnType) (t : Target) :
    r'.isCompatible c t = r.isCompatible c t := by
  unfold Registry.isCompatible
  cases t with
  | void => rw [agree.void]
  | host k =>
    have related := agree.kinds c k
    generalize r.converter c (.host k) = cell, r'.converter c (.host k) = cell' at related ⊢
    cases related with
    | none => rfl
    | some _ => rfl

theorem apply (agree : AgreeOnPresent r r') (there : v ≠ .null) (c : ColumnType) (t : Target) :
    r'.apply v c t = r.apply v c t := by
  cases t with
  | void => exact Registry.apply_congr (agree.void c)
  | host k =>
    have related := agree.kinds c k
    unfold Registry.apply
    generalize r.converter c (.host k) = cell, r'.converter c (.host k) = cell' at related ⊢
    cases related with
    | none => rfl
    | some same =>
      dsimp only
      rw [same v there]

theorem coerce (agree : AgreeOnPresent r r') (v : Value) (c : ColumnType) (t : Target) :
    r'.coerce v c t = r.coerce v c t :=
  Registry.coerce_congr (fun _ => agree.void c) fun _ there => agree.apply there c t

/-- A registration on both sides, of conversions that agree. -/
theorem register {f f' : Converter} (agree : AgreeOnPresent r r') (c : ColumnType) (t : Target)
    (same : ∀ v, v ≠ .null → f' v = f v) (void : t = .void → f' = f) :
    AgreeOnPresent (r.register c t f) (r'.register c t f') := by
  constructor
  · intro c'
    rw [Registry.converter_register, Registry.converter_register, agree.void]
    by_cases here : c' = c ∧ Target.void = t
    · rw [if_pos here, if_pos here, void here.2.symm]
    · rw [if_neg here, if_neg here]
  · intro c' k
    rw [Registry.converter_register, Registry.converter_register]
    by_cases here : c' = c ∧ Target.host k = t
    · rw [if_pos here, if_pos here]
      exact .some same
    · rw [if_neg here, if_neg here]
      exact agree.kinds c' k

theorem refl (r : Registry) : AgreeOnPresent r r := by
  refine ⟨fun _ => rfl, fun c k => ?_⟩
  cases r.converter c (.host k) with
  | none => exact .none
  | some f => exact .some fun _ _ => rfl

/-- Coercions show everything else that conversions do. -/
theorem of_coerce (compatible : ∀ c t, r'.isCompatible c t = r.isCompatible c t)
    (coerced : ∀ v c t, r'.coerce v c t = r.coerce v c t) : AgreeOnPresent r r' := by
  have applied (v : Value) (c : ColumnType) (t : Target) (single : v ≠ .null ∨ t = .void) :
      r'.apply v c t = r.apply v c t := by
    rw [← Registry.coerce_eq_apply single, ← Registry.coerce_eq_apply single, coerced]
  have registered (c : ColumnType) (t : Target) :
      (r'.converter c t).isSome = (r.converter c t).isSome := compatible c t
  constructor
  · intro c
    have both := registered c .void
    cases found : r.converter c .void with
    | none =>
      rw [found] at both
      exact Option.not_isSome_iff_eq_none.1 (ne_true_of_eq_false both)
    | some f =>
      rw [found] at both
      obtain ⟨f', found'⟩ := Option.isSome_iff_exists.1 both
      rw [found', Option.some.injEq]
      funext v
      exact Registry.convert_eq_of_apply found found' (applied v c .void (.inr rfl))
  · intro c k
    have both := registered c (.host k)
    cases found : r.converter c (.host k) with
    | none =>
      rw [found] at both
      rw [Option.not_isSome_iff_eq_none.1 (ne_true_of_eq_false both)]
      exact .none
    | some f =>
      rw [found] at both
      obtain ⟨f', found'⟩ := Option.isSome_iff_exists.1 both
      rw [found']
      exact .some fun v there =>
        Registry.convert_eq_of_apply found found' (applied v c (.host k) (.inl there))

end AgreeOnPresent

/-- **Conversions to kinds never see a missing value.** Two registries are indistinguishable exactly
if they have conversions for the same column types and targets, the same ones to `void`, and
conversions to kinds that agree on all values that are not missing. What the latter do with a
missing value makes no difference to any coercion, reading of a cursor at any row, identity or
bound value; also where the conversion to `void` fails, or gives a missing value or one of any
kind. -/
theorem indistinguishable_iff_agreeOnPresent (r r' : Registry) :
    Indistinguishable r r' ↔ AgreeOnPresent r r' := by
  constructor
  · intro same
    exact .of_coerce same.compatible same.coerced
  · intro agree
    exact indistinguishable_of_coerce agree.isCompatible agree.coerce

/-- Two conversions of INTEGER and DATE columns to text, which give different answers for a missing
value. In place of one, the former type has a missing value, and the latter fails. -/
theorem indistinguishable_kindText :
    let refusing : Converter := fun v =>
      if v.isNull then throw (.refused "missing") else Converter.kindText v
    let registry (f : Converter) : Registry :=
      (((Registry.standard.register .integer .void (Converter.constant .null)).register
        .date .void (Converter.refuse "no date")).register
        .integer (.host .text) f).register .date (.host .text) f
    refusing .null .empty ≠ Converter.kindText .null .empty ∧
      Indistinguishable (registry Converter.kindText) (registry refusing) := by
  intro refusing registry
  refine ⟨nofun, (indistinguishable_iff_agreeOnPresent _ _).2 ?_⟩
  have same (v : Value) (there : v ≠ .null) : refusing v = Converter.kindText v :=
    if_neg (mt Value.isNull_eq_true_iff.1 there)
  refine AgreeOnPresent.register ?_ .date (.host .text) same nofun
  exact AgreeOnPresent.register (.refl _) .integer (.host .text) same nofun

end SqlAccess
