import SqlAccess.Session

/-!
# Things under names

A session keeps its objects under names, at most one under each. `Named.total` adds up a weight
over all of them, and `total_erase` says that taking a name away takes away the weight of the
thing that had it, which holds because names are distinct.
-/

namespace SqlAccess.Named

variable {α : Type}

/-- No name is used twice. -/
def Distinct (xs : Named α) : Prop := (xs.map Prod.fst).Nodup

/-- The property holds of everything under a name. -/
def All (P : α → Prop) (xs : Named α) : Prop := ∀ x ∈ xs, P x.2

/-- The weight of all things together. -/
def total (weight : α → Nat) : Named α → Nat
  | [] => 0
  | x :: xs => weight x.2 + total weight xs

theorem erase_cons_self (name : String) (a : α) (xs : Named α) :
    Named.erase ((name, a) :: xs) name = Named.erase xs name := by
  simp [Named.erase]

theorem erase_cons_of_ne {name other : String} (h : other ≠ name) (a : α) (xs : Named α) :
    Named.erase ((other, a) :: xs) name = (other, a) :: Named.erase xs name := by
  simp [Named.erase, h]

/-- Where a name is not used, there is nothing to take away. -/
theorem erase_of_not_mem {name : String} {xs : Named α} (h : name ∉ xs.map Prod.fst) :
    Named.erase xs name = xs := by
  rw [Named.erase, List.filter_eq_self]
  intro x mem
  rw [bne_iff_ne]
  rintro rfl
  exact h (List.mem_map_of_mem mem)

theorem erase_sublist (xs : Named α) (name : String) :
    List.Sublist (Named.erase xs name) xs := List.filter_sublist

theorem Distinct.erase {xs : Named α} (distinct : Distinct xs) (name : String) :
    Distinct (Named.erase xs name) :=
  List.Nodup.sublist ((erase_sublist xs name).map Prod.fst) distinct

theorem Distinct.put {xs : Named α} (distinct : Distinct xs) (name : String) (a : α) :
    Distinct (Named.put xs name a) := by
  refine List.nodup_cons.2 ⟨?_, distinct.erase name⟩
  intro mem
  obtain ⟨x, kept, same⟩ := List.mem_map.1 mem
  have other := (List.mem_filter.1 kept).2
  rw [bne_iff_ne] at other
  exact other same

theorem All.nil {P : α → Prop} : All P [] := by
  intro x mem
  cases mem

theorem All.erase {P : α → Prop} {xs : Named α} (all : All P xs) (name : String) :
    All P (Named.erase xs name) :=
  fun x mem => all x ((erase_sublist xs name).mem mem)

theorem All.put {P : α → Prop} {xs : Named α} (all : All P xs) (name : String) {a : α}
    (holds : P a) : All P (Named.put xs name a) := by
  intro x mem
  rcases List.mem_cons.1 mem with rfl | mem
  · exact holds
  · exact all.erase name x mem

theorem All.of_lookup {P : α → Prop} {xs : Named α} (all : All P xs) {name : String} {a : α}
    (found : xs.lookup name = some a) : P a := by
  induction xs with
  | nil => cases found
  | cons x xs ih =>
    obtain ⟨other, b⟩ := x
    rw [List.lookup_cons] at found
    split at found
    · cases found
      exact all (other, a) List.mem_cons_self
    · exact ih (fun x mem => all x (List.mem_cons_of_mem _ mem)) found

theorem total_cons (weight : α → Nat) (x : String × α) (xs : Named α) :
    total weight (x :: xs) = weight x.2 + total weight xs := rfl

/-- Taking a name away takes away the weight of what had it. -/
theorem total_erase {xs : Named α} (distinct : Distinct xs) (weight : α → Nat) (name : String) :
    total weight (Named.erase xs name) + (xs.lookup name).elim 0 weight = total weight xs := by
  induction xs with
  | nil => rfl
  | cons x xs ih =>
    obtain ⟨other, b⟩ := x
    obtain ⟨fresh, distinct⟩ := List.nodup_cons.1 distinct
    by_cases same : other = name
    · subst same
      rw [erase_cons_self, erase_of_not_mem fresh, List.lookup_cons_self, total_cons, Nat.add_comm]
      rfl
    · have unlike : (name == other) = false := beq_false_of_ne (Ne.symm same)
      rw [erase_cons_of_ne same, total_cons, total_cons, List.lookup_cons, unlike, Nat.add_assoc]
      exact congrArg (weight b + ·) (ih distinct)

theorem lookup_put_self (xs : Named α) (name : String) (a : α) :
    (Named.put xs name a).lookup name = some a := List.lookup_cons_self

theorem lookup_erase_of_ne {name other : String} (ne : other ≠ name) (xs : Named α) :
    (Named.erase xs other).lookup name = xs.lookup name := by
  induction xs with
  | nil => rfl
  | cons x xs ih =>
    obtain ⟨used, a⟩ := x
    by_cases taken : used = other
    · subst taken
      have unlike : (name == used) = false := beq_false_of_ne (Ne.symm ne)
      rw [erase_cons_self, ih, List.lookup_cons, unlike]
    · rw [erase_cons_of_ne taken, List.lookup_cons, List.lookup_cons, ih]

theorem lookup_put_of_ne {name other : String} (ne : other ≠ name) (xs : Named α) (a : α) :
    (Named.put xs other a).lookup name = xs.lookup name := by
  have unlike : (name == other) = false := beq_false_of_ne (Ne.symm ne)
  refine Eq.trans ?_ (lookup_erase_of_ne ne xs)
  show List.lookup name ((other, a) :: Named.erase xs other) = _
  rw [List.lookup_cons, unlike]

theorem lookup_erase_self (xs : Named α) (name : String) :
    (Named.erase xs name).lookup name = none := by
  rw [List.lookup_eq_none_iff]
  intro x mem
  have other := (List.mem_filter.1 mem).2
  rw [bne_iff_ne] at other ⊢
  exact Ne.symm other

end SqlAccess.Named
