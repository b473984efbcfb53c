import Mathlib.Logic.Relation
import SqlAccess.Proofs.Registry.Indistinguishable

/-!
# Registering conversions

A registration takes the place of earlier ones of the same column type and target, and leaves all
others alone. Coercions of values that are there notice it at this column type and target only;
coercions of missing values also notice what their column type has for `void`.

* `coerce_register`: the coercions that do not notice a registration.
* `converter_registerAll`: after several registrations, the last one of each pair is in force.
* `Exchanged`: registrations of different pairs are exchanged.
* `registration_is_local`: all of it.
-/

namespace SqlAccess

/-- A conversion, and what it is registered for. -/
structure Registration where
  column : ColumnType
  target : Target
  converter : Converter

namespace Registration

/-- The column type and the target. -/
def pair (x : Registration) : ColumnType × Target := (x.column, x.target)

/-- The conversions registered for a column type and a target, in order. -/
def conversions (regs : List Registration) (c : ColumnType) (t : Target) : List Converter :=
  (regs.filter fun x => x.pair = (c, t)).map converter

theorem conversions_cons (x : Registration) (regs : List Registration) (c : ColumnType)
    (t : Target) :
    conversions (x :: regs) c t =
      if x.pair = (c, t) then x.converter :: conversions regs c t else conversions regs c t := by
  unfold conversions
  rw [List.filter_cons]
  by_cases here : x.pair = (c, t)
  · rw [if_pos (decide_eq_true here), if_pos here, List.map_cons]
  · rw [if_neg (by rwa [decide_eq_true_iff]), if_neg here]

end Registration

namespace Registry

variable {r : Registry} {c c' : ColumnType} {t t' : Target} {f : Converter} {v : Value}

/-- Registers several conversions, one after the other. -/
def registerAll (r : Registry) (regs : List Registration) : Registry :=
  regs.foldl (fun r x => r.register x.column x.target x.converter) r

/-! ## One registration -/

theorem converter_register_of_ne (other : ¬(c' = c ∧ t' = t)) :
    (r.register c t f).converter c' t' = r.converter c' t' := by
  rw [converter_register, if_neg other]

theorem isCompatible_register_self (r : Registry) (c : ColumnType) (t : Target) (f : Converter) :
    (r.register c t f).isCompatible c t = true := by
  unfold isCompatible
  rw [converter_register_self]
  rfl

theorem isCompatible_register_of_ne (other : ¬(c' = c ∧ t' = t)) :
    (r.register c t f).isCompatible c' t' = r.isCompatible c' t' := by
  unfold isCompatible
  rw [converter_register_of_ne other]

/-- A coercion notices a registration for its own column type and target, and, if the value is
missing, one for its column type and `void`. -/
theorem coerce_register (other : c' ≠ c ∨ t' ≠ t ∧ (t ≠ .void ∨ v ≠ .null)) :
    (r.register c t f).coerce v c' t' = r.coerce v c' t' := by
  refine coerce_congr (fun missing => ?_) fun w _ => ?_
  · refine converter_register_of_ne fun here => ?_
    rcases other with column | ⟨-, kind | there⟩
    · exact column here.1
    · exact kind here.2.symm
    · exact there missing
  · refine apply_congr (converter_register_of_ne fun here => ?_)
    rcases other with column | ⟨target, -⟩
    · exact column here.1
    · exact target here.2

/-! ## Several registrations -/

/-- The last registration of a pair is in force. Without one, the registry is as it was there. -/
theorem converter_registerAll (r : Registry) (regs : List Registration) (c : ColumnType)
    (t : Target) :
    (r.registerAll regs).converter c t =
      (Registration.conversions regs c t).getLast?.or (r.converter c t) := by
  induction regs generalizing r with
  | nil => rfl
  | cons x regs ih =>
    rw [registerAll, List.foldl_cons, ← registerAll, ih, Registration.conversions_cons]
    by_cases here : x.pair = (c, t)
    · obtain ⟨rfl, rfl⟩ := Prod.mk.inj here
      rw [if_pos here, converter_register_self, List.getLast?_cons]
      cases (Registration.conversions regs x.column x.target).getLast? with
      | none => rfl
      | some g => rfl
    · have other : ¬(c = x.column ∧ t = x.target) := by
        rintro ⟨rfl, rfl⟩
        exact here rfl
      rw [if_neg here, converter_register_of_ne other]

theorem registerAll_append (r : Registry) (front back : List Registration) :
    r.registerAll (front ++ back) = (r.registerAll front).registerAll back :=
  List.foldl_append

end Registry

/-! ## Registrations in another order -/

/-- Two registrations next to each other, of different pairs, change places. -/
inductive Exchanged : List Registration → List Registration → Prop where
  | intro (front : List Registration) {x y : Registration} (back : List Registration)
    (apart : x.pair ≠ y.pair) : Exchanged (front ++ x :: y :: back) (front ++ y :: x :: back)

/-- The registrations in another order; those of the same pair stay in order. -/
abbrev Reordered : List Registration → List Registration → Prop := Relation.ReflTransGen Exchanged

variable {regs regs' : List Registration}

theorem Exchanged.cons (x : Registration) (exchanged : Exchanged regs regs') :
    Exchanged (x :: regs) (x :: regs') := by
  obtain ⟨front, back, apart⟩ := exchanged
  exact .intro (x :: front) back apart

/-- Registrations of different pairs can be put in any order. -/
theorem reordered_of_perm (distinct : (regs.map Registration.pair).Nodup)
    (perm : regs.Perm regs') : Reordered regs regs' := by
  induction perm with
  | nil => exact .refl
  | cons x _ ih =>
    have others := ih (List.nodup_cons.1 distinct).2
    exact others.lift (x :: ·) fun _ _ exchanged => exchanged.cons x
  | swap x y regs =>
    have apart : y.pair ≠ x.pair := by
      intro same
      exact (List.nodup_cons.1 distinct).1 (same ▸ List.mem_cons_self)
    exact .single (.intro [] regs apart)
  | trans first _ ihFirst ihSecond =>
    exact (ihFirst distinct).trans (ihSecond ((first.map _).nodup_iff.1 distinct))

namespace Registry

variable (r : Registry)

theorem registerAll_exchanged (exchanged : Exchanged regs regs') :
    r.registerAll regs' = r.registerAll regs := by
  obtain ⟨front, back, apart⟩ := exchanged
  rename_i x y
  rw [registerAll_append, registerAll_append]
  refine congrArg (registerAll · back) ?_
  -- each pair is looked up in the two registrations, of which one at most is for it
  refine congrArg Registry.mk (funext fun c => funext fun t => ?_)
  by_cases hereX : c = x.column ∧ t = x.target
  · have notY : ¬(c = y.column ∧ t = y.target) := by
      rintro ⟨column, target⟩
      exact apart (Prod.ext (hereX.1.symm.trans column) (hereX.2.symm.trans target))
    simp only [converter_register, if_pos hereX, if_neg notY]
  · simp only [converter_register, if_neg hereX]

theorem registerAll_reordered (reordered : Reordered regs regs') :
    r.registerAll regs' = r.registerAll regs := by
  induction reordered with
  | refl => rfl
  | tail _ exchanged ih => rw [r.registerAll_exchanged exchanged, ih]

theorem indistinguishable_reordered (reordered : Reordered regs regs') :
    Indistinguishable (r.registerAll regs) (r.registerAll regs') := by
  rw [r.registerAll_reordered reordered]
  exact .refl _

end Registry

/-- **Registration is local.** Let a registry be built by registrations, from an empty one or from
any other.

* One more registration leaves the coercions of all other column types alone, and those of its own
  column type to all other targets; but if it is for `void`, this is said of values that are not
  missing. It adds its own pair to those with a conversion, and nothing else.
* Of the registrations of a pair the last one is in force: it converts each value that is there, and
  for `void` also the missing one. Pairs without a registration are as they were.
* Registrations of different pairs can be exchanged: the registry is not to be told apart from one
  that is built in another order. If no pair is registered twice, every order will do. -/
theorem registration_is_local (r : Registry) (regs : List Registration) :
    let built := r.registerAll regs
    (∀ c t f, (∀ v c' t', c' ≠ c ∨ t' ≠ t ∧ (t ≠ .void ∨ v ≠ .null) →
        (built.register c t f).coerce v c' t' = built.coerce v c' t') ∧
      (built.register c t f).isCompatible c t = true ∧
      ∀ c' t', ¬(c' = c ∧ t' = t) →
        (built.register c t f).isCompatible c' t' = built.isCompatible c' t') ∧
    (∀ c t, built.converter c t =
        (Registration.conversions regs c t).getLast?.or (r.converter c t) ∧
      ∀ f, built.converter c t = some f → ∀ v, v ≠ .null ∨ t = .void →
        built.coerce v c t = StreamM.mapError (fun e => ⟨c, t, .failed e⟩) (f v)) ∧
    (∀ regs', Reordered regs regs' → Indistinguishable built (r.registerAll regs')) ∧
    ((regs.map Registration.pair).Nodup → ∀ regs', regs.Perm regs' →
      Indistinguishable built (r.registerAll regs')) := by
  intro built
  refine ⟨fun c t f => ⟨?_, ?_, ?_⟩, fun c t => ⟨?_, ?_⟩, ?_, ?_⟩
  · intro v c' t' other
    exact Registry.coerce_register other
  · exact built.isCompatible_register_self c t f
  · intro c' t' other
    exact Registry.isCompatible_register_of_ne other
  · exact r.converter_registerAll regs c t
  · intro f found v single
    rw [Registry.coerce_eq_apply single, Registry.apply_of_converter found]
  · intro regs' reordered
    exact r.indistinguishable_reordered reordered
  · intro distinct regs' perm
    exact r.indistinguishable_reordered (reordered_of_perm distinct perm)

/-- An INTEGER column that is written as the name of a kind, and has a text in place of a missing
value. A number in place of the text is noticed where a value is missing, and there only. The two
registrations can be made in either order, one by one or all at once. -/
theorem registration_is_local_integer :
    let naming : Registration := ⟨.integer, .host .text, Converter.kindText⟩
    let standing : Registration := ⟨.integer, .void, Converter.constant (.text "none")⟩
    let built := Registry.standard.registerAll [naming, standing]
    let five : Value := .int .w32 (.clamp 32 5)
    let changed := built.register .integer .void (Converter.constant five)
    changed.coerce five .integer (.host .text) = built.coerce five .integer (.host .text) ∧
      built.coerce five .integer (.host .text) =
        StreamM.mapError (fun e => ⟨.integer, .host .text, .failed e⟩)
          (Converter.kindText five) ∧
      built.coerce .null .integer (.host .text) .empty = (.ok (.text "text"), .empty) ∧
      changed.coerce .null .integer (.host .text) .empty = (.ok (.text "i32"), .empty) ∧
      changed.isCompatible .integer (.host .date) = built.isCompatible .integer (.host .date) ∧
      Indistinguishable built (Registry.standard.registerAll [standing, naming]) ∧
      ([naming, standing].map Registration.pair).Nodup ∧
      Indistinguishable built (Registry.standard.registerAll [naming, standing].reverse) := by
  intro naming standing built five changed
  have distinct : ([naming, standing].map Registration.pair).Nodup := by decide
  obtain ⟨one, inForce, reordered, permuted⟩ :=
    registration_is_local .standard [naming, standing]
  obtain ⟨unnoticed, -, compatible⟩ := one .integer .void (Converter.constant five)
  refine ⟨unnoticed five _ _ (.inr ⟨nofun, .inr nofun⟩), ?_, rfl, rfl,
    compatible .integer (.host .date) nofun, ?_, distinct, ?_⟩
  · exact (inForce .integer (.host .text)).2 Converter.kindText rfl five (.inl nofun)
  · exact reordered _ (.single (.intro [] [] (by decide)))
  · exact permuted distinct _ (List.reverse_perm _).symm

end SqlAccess
