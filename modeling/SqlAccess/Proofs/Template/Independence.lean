import Mathlib.Data.Set.List
import SqlAccess.Proofs.Outcome
import SqlAccess.Template.Rewrite

/-!
# The text does not depend on the values

Values are handed out by `assign` without being looked at, so replacing every value by another
one changes nothing but the bound values themselves, which are replaced in the same way. That
holds of failures as well: the same markers fail for the same reason.

* `assign_map` carries it through the walk over the markers.
* `Slot` names a value by its place. A run on the slots of a shape, which are known from the
  number of values and the sizes of the groups alone, decides the text, the error and which value
  goes where; `rewrite_map` says so together with the replacement of values.
-/

namespace SqlAccess.Template

section

variable {α β : Type}

/-- The query with its values replaced. -/
def Query.map (f : α → β) (q : Query α) : Query β := ⟨q.sql, q.values.map f⟩

/-- The place of a value among those that come with a template. -/
inductive Slot where
  /-- The value with this number. -/
  | value (j : Nat)
  /-- The member with the number `j` of the group with the number `k`. -/
  | member (k j : Nat)
  deriving DecidableEq, Repr

/-- The value at a place. -/
def Slot.read (values : List α) (groups : List (List α)) : Slot → Option α
  | value j => values[j]?
  | member k j => groups[k]?.bind (·[j]?)

/-- The places of so many values. -/
def valueSlots (count : Nat) : List Slot := (List.range count).map .value

/-- The places of the members of groups of these sizes. -/
def groupSlots (sizes : List Nat) : List (List Slot) :=
  sizes.mapIdx fun k size => (List.range size).map (.member k)

/-! ## Replacing values -/

/-- Handing out replaced values is replacing the values that are handed out. -/
theorem assign_map (f : α → β) (n : Nat) (rs : List Role) (values : List α)
    (groups : List (List α)) :
    assign n rs (values.map f) (groups.map (List.map f)) =
      (assign n rs values groups).map (List.map f) := by
  induction rs generalizing values groups with
  | nil =>
    cases values with
    | nil =>
      cases groups with
      | nil => rfl
      | cons group groups => simp [assign, Except.map]
    | cons v values => simp [assign, Except.map]
  | cons r rs ih =>
    cases r with
    | literal text => exact ih values groups
    | skip =>
      rw [assign, assign, ← List.map_tail]
      exact ih values.tail groups
    | param =>
      cases values with
      | nil => rfl
      | cons v values =>
        rw [List.map_cons, assign, assign, ih values groups, map_map_eq, map_map_eq]
        rfl
    | expand =>
      cases groups with
      | nil => rfl
      | cons group groups =>
        cases group with
        | nil => rfl
        | cons v group =>
          rw [List.map_cons, List.map_cons, assign, assign, ih values groups, map_map_eq,
            map_map_eq]
          · congr 1
            funext bound
            simp
          · exact List.cons_ne_nil v group
          · exact List.cons_ne_nil (f v) (group.map f)

/-- Rewriting with replaced values. -/
theorem rewrite_replaced (f : α → β) (template : String) (values : List α)
    (groups : List (List α)) :
    rewrite template (values.map f) (groups.map (List.map f)) =
      (rewrite template values groups).map (Query.map f) := by
  have sizes : (groups.map (List.map f)).map List.length = groups.map List.length := by
    simp [Function.comp_def]
  dsimp only [rewrite]
  rw [List.length_map, assign_map, sizes, map_map_eq]
  split
  · rfl
  · rw [map_map_eq]
    rfl

/-- What holds of all values that come with a template holds of those that are bound. -/
theorem forall_mem_rewrite {P : α → Prop} {template : String} {values : List α}
    {groups : List (List α)} {q : Query α} (given : ∀ v ∈ values, P v)
    (grouped : ∀ group ∈ groups, ∀ v ∈ group, P v)
    (rewritten : rewrite template values groups = .ok q) : ∀ v ∈ q.values, P v := by
  lift values to List {v // P v} using given
  lift groups to List (List {v // P v}) using grouped
  rw [rewrite_replaced] at rewritten
  obtain ⟨q', -, rfl⟩ := map_eq_ok_iff.1 rewritten
  intro v mem
  obtain ⟨v', -, rfl⟩ := List.mem_map.1 mem
  exact v'.2

/-- A value that does not come with a template is not bound. -/
theorem not_mem_rewrite {v : α} {template : String} {values : List α} {groups : List (List α)}
    {q : Query α} (given : v ∉ values) (grouped : ∀ group ∈ groups, v ∉ group)
    (rewritten : rewrite template values groups = .ok q) : v ∉ q.values := by
  have others : ∀ w ∈ q.values, w ≠ v := by
    refine forall_mem_rewrite ?_ ?_ rewritten
    · rintro w mem rfl
      exact given mem
    · rintro group member w mem rfl
      exact grouped group member mem
  exact fun mem => others v mem rfl

/-! ## Places -/

/-- The slots of the values of a list are the places of its values. -/
theorem map_read_valueSlots (values : List α) (groups : List (List α)) :
    (valueSlots values.length).map (Slot.read values groups) = values.map some := by
  refine List.ext_getElem (by simp [valueSlots]) fun i _ lt => ?_
  have lt' : i < values.length := by simpa using lt
  simp [valueSlots, Slot.read, lt']

/-- The slots of the groups of a list are the places of their members. -/
theorem map_read_groupSlots (values : List α) (groups : List (List α)) :
    (groupSlots (groups.map List.length)).map (List.map (Slot.read values groups)) =
      groups.map (List.map some) := by
  refine List.ext_getElem (by simp [groupSlots]) fun k _ ltGroup => ?_
  have ltGroup' : k < groups.length := by simpa using ltGroup
  refine List.ext_getElem (by simp [groupSlots]) fun j _ ltMember => ?_
  have ltMember' : j < groups[k].length := by simpa using ltMember
  simp [groupSlots, Slot.read, ltGroup', ltMember']

/-- **Values never reach the text.** Rewriting with replaced values gives the same error, or the
same text and the replaced bound values. The run on the slots of the same shape tells which value
each placeholder gets, so text, error and assignment are fixed by the template, the number of
values and the sizes of the groups. -/
theorem rewrite_map (f : α → β) (template : String) (values : List α) (groups : List (List α)) :
    rewrite template (values.map f) (groups.map (List.map f)) =
        (rewrite template values groups).map (Query.map f) ∧
      (rewrite template values groups).map (Query.map some) =
        (rewrite template (valueSlots values.length)
          (groupSlots (groups.map List.length))).map (Query.map (Slot.read values groups)) := by
  refine ⟨rewrite_replaced f template values groups, ?_⟩
  rw [← rewrite_replaced, ← rewrite_replaced, map_read_valueSlots, map_read_groupSlots]

end

end SqlAccess.Template
