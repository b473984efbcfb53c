import Mathlib.Logic.ExistsUnique
import SqlAccess.Proofs.Outcome
import SqlAccess.Template.Rewrite

/-!
# Handing out values and groups

`assign` walks over the roles of the markers and keeps what is left of the values and groups.
This module says the same by position, without a walk: the marker at `i` gets the value with the
number `valuesBefore rs i` or the group with the number `groupsBefore rs i`, which are counted
over the markers in front of it.

* `Fits` is the condition under which values and groups go out exactly, and `share` what the
  marker at a place gets. `assign_eq_ok_iff` says that `assign` succeeds exactly when they fit,
  and then hands out the shares in order.
* `rewrite_consumes`: the same for a whole template. There, each value and each group has exactly
  one marker that takes it.
-/

namespace SqlAccess.Template

open SqlAccess.Text

/-- What the markers of a template ask for, from left to right. -/
def rolesOf (template : String) : List Role := roles (pieces template.toList)

/-- The marker takes the next value: a parameter binds it, a skip drops it. -/
def Role.takesValue : Role → Bool
  | .param => true
  | .skip => true
  | _ => false

/-- How many values the markers in front of the one at `i` have taken. -/
def valuesBefore (rs : List Role) (i : Nat) : Nat := (rs.take i).countP Role.takesValue

/-- How many groups the markers in front of the one at `i` have taken. -/
def groupsBefore (rs : List Role) (i : Nat) : Nat := (rs.take i).count .expand

section

variable {α : Type}

/-- The values and groups are those that the markers ask for. -/
structure Fits (rs : List Role) (values : List α) (groups : List (List α)) : Prop where
  /-- Every parameter finds its value. A skip need not find one. -/
  param_filled : ∀ i, rs[i]? = some .param → valuesBefore rs i < values.length
  /-- No value is left over. -/
  values_taken : values.length ≤ rs.countP Role.takesValue
  /-- There are as many groups as markers for them. -/
  groups_taken : rs.count .expand = groups.length
  /-- No group is empty. -/
  groups_filled : ∀ group ∈ groups, group ≠ []

/-- What the marker at `i` contributes to the bound values. -/
def share (rs : List Role) (values : List α) (groups : List (List α)) (i : Nat) : List α :=
  match rs[i]? with
  | some .param => (values[valuesBefore rs i]?).toList
  | some .expand => (groups[groupsBefore rs i]?).getD []
  | _ => []

/-- The shares of all markers, in order. -/
def shares (rs : List Role) (values : List α) (groups : List (List α)) : List α :=
  (List.range rs.length).flatMap (share rs values groups)

/-! ## One marker -/

theorem assign_nil_eq_ok_iff {n : Nat} {values : List α} {groups : List (List α)} {bound : List α} :
    assign n [] values groups = .ok bound ↔ values = [] ∧ groups = [] ∧ bound = [] := by
  rcases values with _ | ⟨v, values⟩ <;> rcases groups with _ | ⟨g, groups⟩ <;>
    simp [assign, eq_comm]

theorem assign_param_eq_ok_iff {n : Nat} {rs : List Role} {values : List α}
    {groups : List (List α)} {bound : List α} :
    assign n (.param :: rs) values groups = .ok bound ↔
      ∃ v values' bound', values = v :: values' ∧ bound = v :: bound' ∧
        assign n rs values' groups = .ok bound' := by
  cases values with
  | nil => simp [assign]
  | cons v values =>
    rw [assign, map_eq_ok_iff]
    constructor
    · rintro ⟨bound', assigned, rfl⟩
      exact ⟨v, values, bound', rfl, rfl, assigned⟩
    · rintro ⟨v', values', bound', same, rfl, assigned⟩
      cases same
      exact ⟨bound', assigned, rfl⟩

theorem assign_expand_eq_ok_iff {n : Nat} {rs : List Role} {values : List α}
    {groups : List (List α)} {bound : List α} :
    assign n (.expand :: rs) values groups = .ok bound ↔
      ∃ group groups' bound', groups = group :: groups' ∧ group ≠ [] ∧ bound = group ++ bound' ∧
        assign n rs values groups' = .ok bound' := by
  rcases groups with _ | ⟨_ | ⟨v, group⟩, groups⟩
  · simp [assign]
  · simp [assign]
  · rw [assign, map_eq_ok_iff]
    · constructor
      · rintro ⟨bound', assigned, rfl⟩
        exact ⟨_, groups, bound', rfl, List.cons_ne_nil v group, rfl, assigned⟩
      · rintro ⟨group', groups', bound', same, -, rfl, assigned⟩
        cases same
        exact ⟨bound', assigned, rfl⟩
    · exact List.cons_ne_nil v group

/-! ## Counting by position -/

theorem valuesBefore_succ (r : Role) (rs : List Role) (i : Nat) :
    valuesBefore (r :: rs) (i + 1) = valuesBefore rs i + if r.takesValue then 1 else 0 := by
  rw [valuesBefore, List.take_succ_cons, List.countP_cons, valuesBefore]

theorem groupsBefore_succ (r : Role) (rs : List Role) (i : Nat) :
    groupsBefore (r :: rs) (i + 1) = groupsBefore rs i + if r = .expand then 1 else 0 := by
  rw [groupsBefore, List.take_succ_cons, List.count_cons, groupsBefore]
  simp

/-- The share of a later marker, when the first one has taken what it takes. -/
theorem share_succ (r : Role) (rs : List Role) (values : List α) (groups : List (List α))
    (i : Nat) :
    share (r :: rs) values groups (i + 1) =
      share rs (if r.takesValue then values.tail else values)
        (if r = .expand then groups.tail else groups) i := by
  unfold share
  rw [List.getElem?_cons_succ, valuesBefore_succ, groupsBefore_succ]
  congr 1
  · split <;> simp
  · split <;> simp

theorem shares_cons (r : Role) (rs : List Role) (values : List α) (groups : List (List α)) :
    shares (r :: rs) values groups =
      share (r :: rs) values groups 0 ++
        shares rs (if r.takesValue then values.tail else values)
          (if r = .expand then groups.tail else groups) := by
  rw [shares, List.length_cons, List.range_succ_eq_map, List.flatMap_cons, List.flatMap_map]
  simp only [share_succ, shares]

/-! ## What fits, marker by marker -/

theorem fits_nil_iff {values : List α} {groups : List (List α)} :
    Fits [] values groups ↔ values = [] ∧ groups = [] := by
  constructor
  · intro fits
    have values_le := fits.values_taken
    have groups_eq := fits.groups_taken
    rw [List.countP_nil] at values_le
    rw [List.count_nil] at groups_eq
    exact ⟨List.eq_nil_of_length_eq_zero (Nat.le_zero.1 values_le),
      List.eq_nil_of_length_eq_zero groups_eq.symm⟩
  · rintro ⟨rfl, rfl⟩
    exact ⟨by simp, by simp, by simp, by simp⟩

theorem param_filled_cons_iff {r : Role} {rs : List Role} {n : Nat} :
    (∀ i, (r :: rs)[i]? = some .param → valuesBefore (r :: rs) i < n) ↔
      (r = .param → 0 < n) ∧
        ∀ i, rs[i]? = some .param →
          valuesBefore rs i + (if r.takesValue then 1 else 0) < n := by
  constructor
  · intro filled
    refine ⟨fun isParam => filled 0 (by rw [isParam]; rfl), fun i isParam => ?_⟩
    have later := filled (i + 1) isParam
    rwa [valuesBefore_succ] at later
  · rintro ⟨first, later⟩ i isParam
    cases i with
    | zero => exact first (Option.some.inj isParam)
    | succ i =>
      rw [valuesBefore_succ]
      exact later i isParam

/-- The groups that are asked for, when the first marker takes one or not. -/
theorem groups_cons_iff {r : Role} {rs : List Role} {groups : List (List α)} :
    (((r :: rs).count .expand = groups.length) ∧ ∀ group ∈ groups, group ≠ []) ↔
      (r = .expand → ∃ group ∈ groups.head?, group ≠ []) ∧
        rs.count .expand = (if r = .expand then groups.tail else groups).length ∧
          ∀ group ∈ (if r = .expand then groups.tail else groups), group ≠ [] := by
  by_cases isExpand : r = .expand
  · subst isExpand
    cases groups with
    | nil => simp
    | cons group groups => simp [and_left_comm]
  · simp [isExpand]

/-- The values and groups fit a list of markers exactly when the first marker finds what it
takes, and the rest fits the other markers. -/
theorem fits_cons_iff {r : Role} {rs : List Role} {values : List α} {groups : List (List α)} :
    Fits (r :: rs) values groups ↔
      (r = .param → values ≠ []) ∧
        (r = .expand → ∃ group ∈ groups.head?, group ≠ []) ∧
          Fits rs (if r.takesValue then values.tail else values)
            (if r = .expand then groups.tail else groups) := by
  have left_length : (if r.takesValue then values.tail else values).length =
      values.length - if r.takesValue then 1 else 0 := by
    split <;> simp
  constructor
  · intro fits
    obtain ⟨first, later⟩ := param_filled_cons_iff.1 fits.param_filled
    obtain ⟨group, taken, filled⟩ :=
      groups_cons_iff.1 ⟨fits.groups_taken, fits.groups_filled⟩
    have values_taken := fits.values_taken
    rw [List.countP_cons] at values_taken
    refine ⟨fun isParam => List.ne_nil_of_length_pos (first isParam), group, ?_, ?_, taken, filled⟩
    · intro i isParam
      have := later i isParam
      omega
    · omega
  · rintro ⟨first, group, fits⟩
    obtain ⟨taken, filled⟩ := groups_cons_iff.2 ⟨group, fits.groups_taken, fits.groups_filled⟩
    refine ⟨param_filled_cons_iff.2 ⟨?_, ?_⟩, ?_, taken, filled⟩
    · intro isParam
      exact List.length_pos_iff.2 (first isParam)
    · intro i isParam
      have := fits.param_filled i isParam
      omega
    · have := fits.values_taken
      rw [List.countP_cons]
      omega

/-! ## Success and outcome by position -/

/-- **Values and groups are handed out exactly when they fit,** and then every marker has its
share. The number `n` only appears in messages. -/
theorem assign_eq_ok_iff {n : Nat} {rs : List Role} {values : List α} {groups : List (List α)}
    {bound : List α} :
    assign n rs values groups = .ok bound ↔
      Fits rs values groups ∧ bound = shares rs values groups := by
  -- each marker moves on in the values and groups, so these are general in the induction
  induction rs generalizing values groups bound with
  | nil =>
    rw [assign_nil_eq_ok_iff, fits_nil_iff, and_assoc]
    rfl
  | cons r rs ih =>
    rw [fits_cons_iff, shares_cons]
    cases r with
    | param =>
      rw [assign_param_eq_ok_iff]
      constructor
      · rintro ⟨v, values, bound, rfl, rfl, assigned⟩
        obtain ⟨fits, rfl⟩ := ih.1 assigned
        exact ⟨⟨fun _ => List.cons_ne_nil v values, nofun, fits⟩, rfl⟩
      · rintro ⟨⟨found, -, fits⟩, rfl⟩
        obtain ⟨v, values, rfl⟩ := List.exists_cons_of_ne_nil (found rfl)
        exact ⟨v, values, _, rfl, rfl, ih.2 ⟨fits, rfl⟩⟩
    | expand =>
      rw [assign_expand_eq_ok_iff]
      constructor
      · rintro ⟨group, groups, bound, rfl, filled, rfl, assigned⟩
        obtain ⟨fits, rfl⟩ := ih.1 assigned
        exact ⟨⟨nofun, fun _ => ⟨group, rfl, filled⟩, fits⟩, rfl⟩
      · rintro ⟨⟨-, found, fits⟩, rfl⟩
        obtain ⟨group, first, filled⟩ := found rfl
        obtain ⟨groups, rfl⟩ := List.head?_eq_some_iff.1 first
        exact ⟨group, groups, _, rfl, filled, rfl, ih.2 ⟨fits, rfl⟩⟩
    | skip =>
      rw [assign, ih]
      simp [Role.takesValue, share]
    | literal text =>
      rw [assign, ih]
      simp [Role.takesValue, share]

/-- The marker at a place takes a value if it is a parameter or a skip. -/
theorem exists_takesValue_iff {o : Option Role} :
    (∃ r, o = some r ∧ r.takesValue = true) ↔ o = some .param ∨ o = some .skip := by
  rcases o with _ | r
  · simp
  · cases r <;> simp [Role.takesValue]

/-- Every number below the count of a class belongs to exactly one member of it: the one with so
many members in front. -/
theorem existsUnique_countP_take {β : Type} {p : β → Bool} {xs : List β} {j : Nat}
    (h : j < xs.countP p) :
    ∃! i, (∃ x, xs[i]? = some x ∧ p x = true) ∧ (xs.take i).countP p = j := by
  induction xs generalizing j with
  | nil => simp at h
  | cons x xs ih =>
    have count_succ : ∀ i, ((x :: xs).take (i + 1)).countP p =
        (xs.take i).countP p + if p x = true then 1 else 0 := fun i => by
      rw [List.take_succ_cons, List.countP_cons]
    rw [List.countP_cons] at h
    by_cases first : p x = true ∧ j = 0
    · obtain ⟨member, rfl⟩ := first
      refine ⟨0, ⟨⟨x, rfl, member⟩, rfl⟩, ?_⟩
      rintro (_ | i) ⟨-, counted⟩
      · rfl
      · rw [count_succ, if_pos member] at counted
        omega
    · -- the place is in the tail, with one member less in front of it if `x` is one
      have below : (if p x = true then 1 else 0) ≤ j := by
        by_cases member : p x = true
        · rw [if_pos member]
          exact Nat.pos_of_ne_zero fun zero => first ⟨member, zero⟩
        · rw [if_neg member]
          exact Nat.zero_le j
      generalize (if p x = true then 1 else 0) = d at h count_succ below
      have inTail : j - d < xs.countP p := by omega
      obtain ⟨i, ⟨member, counted⟩, unique⟩ := ih inTail
      refine ⟨i + 1, ⟨member, ?_⟩, ?_⟩
      · rw [count_succ, counted]
        exact Nat.sub_add_cancel below
      · rintro (_ | i') ⟨member', counted'⟩
        · obtain ⟨y, same, holds⟩ := member'
          cases same
          exact (first ⟨holds, counted'.symm⟩).elim
        · rw [count_succ] at counted'
          exact congrArg (· + 1) (unique i' ⟨member', Nat.eq_sub_of_add_eq counted'⟩)

theorem existsUnique_valuesBefore {rs : List Role} {j : Nat} (h : j < rs.countP Role.takesValue) :
    ∃! i, (rs[i]? = some .param ∨ rs[i]? = some .skip) ∧ valuesBefore rs i = j := by
  have place := existsUnique_countP_take h
  simp only [exists_takesValue_iff] at place
  exact place

theorem existsUnique_groupsBefore {rs : List Role} {k : Nat} (h : k < rs.count .expand) :
    ∃! i, rs[i]? = some .expand ∧ groupsBefore rs i = k := by
  have place := existsUnique_countP_take h
  simp only [beq_iff_eq, exists_eq_right] at place
  exact place

/-! ## Whole templates -/

theorem allBlank_eq_false_iff {cs : List Char} :
    allBlank cs = false ↔ ∃ c ∈ cs, isBlank c = false := by
  simp [allBlank]

/-- What it takes to rewrite a template, and what comes of it. -/
theorem rewrite_eq_ok_iff {template : String} {values : List α} {groups : List (List α)}
    {q : Query α} :
    rewrite template values groups = .ok q ↔
      (∃ c ∈ template.toList, isBlank c = false) ∧
        Fits (rolesOf template) values groups ∧
          q = ⟨String.ofList (render (pieces template.toList) (groups.map List.length)),
            shares (rolesOf template) values groups⟩ := by
  rw [← allBlank_eq_false_iff, rewrite]
  cases blank : allBlank template.toList with
  | true => simp
  | false =>
    simp only [Bool.false_eq_true, if_false, true_and, map_eq_ok_iff, assign_eq_ok_iff]
    constructor
    · rintro ⟨bound, ⟨fits, rfl⟩, rfl⟩
      exact ⟨fits, rfl⟩
    · rintro ⟨fits, rfl⟩
      exact ⟨_, ⟨fits, rfl⟩, rfl⟩

/-- A template is rewritten to a query if its values are those handed out and its text is the one
that the pieces write. The number `n` only appears in messages. -/
theorem rewrite_eq_ok_iff_assign {template : String} {values : List α} {groups : List (List α)}
    {q : Query α} (n : Nat) :
    rewrite template values groups = .ok q ↔
      (∃ c ∈ template.toList, isBlank c = false) ∧
        assign n (rolesOf template) values groups = .ok q.values ∧
          q.sql = String.ofList (render (pieces template.toList) (groups.map List.length)) := by
  rw [rewrite_eq_ok_iff, assign_eq_ok_iff, and_assoc]
  refine and_congr_right fun _ => and_congr_right fun _ => ?_
  obtain ⟨sql, bound⟩ := q
  rw [Query.mk.injEq, and_comm]

/-- **Values and groups are used up exactly.** A template is rewritten if and only if it has a
character that is not blank and its markers ask for just these values and groups. The bound
values are then the shares of the markers in their order, and each value and each group is the
one of exactly one marker, so that only a skip can drop a value. -/
theorem rewrite_consumes (template : String) (values : List α) (groups : List (List α)) :
    ((∃ q, rewrite template values groups = .ok q) ↔
        (∃ c ∈ template.toList, isBlank c = false) ∧ Fits (rolesOf template) values groups) ∧
      ∀ q, rewrite template values groups = .ok q →
        q.values = shares (rolesOf template) values groups ∧
        (∀ j < values.length,
          ∃! i, ((rolesOf template)[i]? = some .param ∨ (rolesOf template)[i]? = some .skip) ∧
            valuesBefore (rolesOf template) i = j) ∧
        (∀ k < groups.length,
          ∃! i, (rolesOf template)[i]? = some .expand ∧ groupsBefore (rolesOf template) i = k) := by
  refine ⟨?_, fun q ok => ?_⟩
  · constructor
    · rintro ⟨q, ok⟩
      obtain ⟨visible, fits, -⟩ := rewrite_eq_ok_iff.1 ok
      exact ⟨visible, fits⟩
    · rintro ⟨visible, fits⟩
      exact ⟨_, rewrite_eq_ok_iff.2 ⟨visible, fits, rfl⟩⟩
  · obtain ⟨-, fits, rfl⟩ := rewrite_eq_ok_iff.1 ok
    refine ⟨rfl, fun j lt => ?_, fun k lt => ?_⟩
    · exact existsUnique_valuesBefore (Nat.lt_of_lt_of_le lt fits.values_taken)
    · exact existsUnique_groupsBefore (fits.groups_taken ▸ lt)

/-- The skip drops the first value, and with it the comma of the marker behind. -/
example : (rewrite "(#, ?, ??)" [1, 5] [[10, 20, 30]]).toOption =
    some ⟨"(?, ?,?,?)", [5, 10, 20, 30]⟩ := by
  decide +kernel

end

end SqlAccess.Template
