import SqlAccess.Number.Digits
import SqlAccess.Proofs.Template.Reading

/-!
# How integers are spelled

A text spells an integer by decimal digits behind an optional sign. Leading zeros and a plus sign
are allowed, so an integer has many spellings; one of them is the text that it is written as.

* `toInt?_eq_some_iff`: an integer is read from the texts that spell it, and from no others.
* `ofInt_eq_toString`: it is written as Lean writes it.
* `spells_trim_iff`: what is left of a text without the blanks at its ends spells an integer if the
  text is a spelling between blanks.
-/

namespace SqlAccess

namespace Digits

/-- There is at least one character, and all of them are digits. -/
def AreDigits (ds : List Char) : Prop := ds ≠ [] ∧ ∀ c ∈ ds, c.isDigit = true

/-- The text is a decimal integer, with an optional sign, and this is the number. -/
inductive Spells : List Char → Int → Prop where
  | unsigned {ds : List Char} (digits : AreDigits ds) : Spells ds (toNat ds)
  | plus {ds : List Char} (digits : AreDigits ds) : Spells ('+' :: ds) (toNat ds)
  | minus {ds : List Char} (digits : AreDigits ds) : Spells ('-' :: ds) (-(toNat ds : Int))

/-! ## The number that digits stand for -/

theorem toNat_append (ds es : List Char) :
    toNat (ds ++ es) = 10 ^ es.length * toNat ds + toNat es := by
  unfold toNat
  rw [Nat.ofDigitChars_append, Nat.ofDigitChars_eq_ofDigitChars_zero]

theorem toNat_lt {ds : List Char} (digits : ∀ c ∈ ds, c.isDigit = true) :
    toNat ds < 10 ^ ds.length := by
  induction ds with
  | nil => decide
  | cons c ds ih =>
    have digit : toNat [c] < 10 := by
      have high := (Char.isDigit_iff_toNat.1 (digits c List.mem_cons_self)).2
      have nine : '9'.toNat = 57 := rfl
      show 10 * 0 + (c.toNat - 48) < 10
      omega
    have rest := ih fun d mem => digits d (List.mem_cons_of_mem c mem)
    calc toNat (c :: ds)
        = 10 ^ ds.length * toNat [c] + toNat ds := toNat_append [c] ds
      _ < 10 ^ ds.length * toNat [c] + 10 ^ ds.length := Nat.add_lt_add_left rest _
      _ = 10 ^ ds.length * (toNat [c] + 1) := (Nat.mul_succ _ _).symm
      _ ≤ 10 ^ ds.length * 10 := Nat.mul_le_mul_left _ digit
      _ = 10 ^ (c :: ds).length := rfl

/-! ## Reading -/

theorem toNat?_eq_some_iff {ds : List Char} {n : Nat} :
    toNat? ds = some n ↔ AreDigits ds ∧ toNat ds = n := by
  unfold toNat? AreDigits
  simp only [List.all_eq_true]
  split
  · rename_i digits
    rw [Option.some.injEq]
    exact (and_iff_right digits).symm
  · rename_i other
    exact iff_of_false nofun fun digits => other digits.1

/-- A sign is not a digit. -/
theorem AreDigits.head_ne {ds rest : List Char} {c : Char} (digits : AreDigits ds)
    (sign : c.isDigit = false) : ds ≠ c :: rest := by
  intro split
  have digit := digits.2 c (split ▸ List.mem_cons_self)
  rw [sign] at digit
  cases digit

theorem toInt?_eq_some_iff {cs : List Char} {n : Int} : toInt? cs = some n ↔ Spells cs n := by
  constructor
  · intro read
    unfold toInt? at read
    split at read
    · obtain ⟨m, found, rfl⟩ := Option.map_eq_some_iff.1 read
      obtain ⟨digits, rfl⟩ := toNat?_eq_some_iff.1 found
      exact .minus digits
    · obtain ⟨m, found, rfl⟩ := Option.map_eq_some_iff.1 read
      obtain ⟨digits, rfl⟩ := toNat?_eq_some_iff.1 found
      exact .plus digits
    · obtain ⟨m, found, rfl⟩ := Option.map_eq_some_iff.1 read
      obtain ⟨digits, rfl⟩ := toNat?_eq_some_iff.1 found
      exact .unsigned digits
  · intro spells
    cases spells with
    | unsigned digits =>
      have found := toNat?_eq_some_iff.2 ⟨digits, rfl⟩
      unfold toInt?
      split
      · exact absurd rfl (digits.head_ne (by decide))
      · exact absurd rfl (digits.head_ne (by decide))
      · rw [found]
        rfl
    | plus digits | minus digits =>
      rw [toInt?, toNat?_eq_some_iff.2 ⟨digits, rfl⟩]
      rfl

/-! ## Writing -/

theorem ofInt_eq_toString (n : Int) : String.ofList (ofInt n) = toString n := by
  show _ = n.repr
  rw [Int.repr_eq_if, Nat.repr_eq_ofList_toDigits, Nat.repr_eq_ofList_toDigits, ofInt]
  by_cases negative : n < 0
  · have size : n.natAbs = (-n).toNat := by omega
    rw [if_pos negative, if_neg (Int.not_le.2 negative), size]
    exact String.ofList_cons
  · have size : n.natAbs = n.toNat := by omega
    rw [if_neg negative, if_pos (Int.not_lt.1 negative), size]
    rfl

theorem spells_ofInt (n : Int) : Spells (ofInt n) n := toInt?_eq_some_iff.1 (toInt?_ofInt n)

end Digits

namespace Text

open Digits

/-! ## Blanks around a spelling -/

theorem isBlank_eq_false_of_isDigit {c : Char} (digit : c.isDigit = true) : isBlank c = false := by
  refine eq_false_of_ne_true fun blank => ?_
  have other := Template.isAlphanum_of_isBlank blank
  rw [Char.isAlphanum, digit, Bool.or_true] at other
  cases other

/-- No character of a spelling is blank, and there is one. -/
theorem solid_of_spells {cs : List Char} {n : Int} (spells : Spells cs n) :
    cs ≠ [] ∧ ∀ c ∈ cs, isBlank c = false := by
  have solid {ds : List Char} (digits : AreDigits ds) : ∀ c ∈ ds, isBlank c = false :=
    fun c mem => isBlank_eq_false_of_isDigit (digits.2 c mem)
  cases spells with
  | unsigned digits => exact ⟨digits.1, solid digits⟩
  | plus digits | minus digits =>
    exact ⟨List.cons_ne_nil _ _, List.forall_mem_cons.2 ⟨by decide, solid digits⟩⟩

theorem dropWhile_isBlank_append {front cs rest : List Char} (blank : allBlank front = true)
    (some_char : cs ≠ []) (solid : ∀ c ∈ cs, isBlank c = false) :
    (front ++ (cs ++ rest)).dropWhile isBlank = cs ++ rest := by
  obtain ⟨c, cs, rfl⟩ := List.exists_cons_of_ne_nil some_char
  rw [List.dropWhile_append_of_pos (List.all_eq_true.1 blank), List.cons_append,
    List.dropWhile_cons, solid c List.mem_cons_self]
  rfl

/-- Blanks at the two ends are cut off. -/
theorem trim_append {front cs back : List Char} (before : allBlank front = true)
    (some_char : cs ≠ []) (solid : ∀ c ∈ cs, isBlank c = false) (behind : allBlank back = true) :
    trim (front ++ cs ++ back) = cs := by
  have backward : allBlank back.reverse = true := by
    rw [allBlank, List.all_reverse]
    exact behind
  have reversed := @dropWhile_isBlank_append back.reverse cs.reverse [] backward
    (mt List.reverse_eq_nil_iff.1 some_char) fun c mem => solid c (List.mem_reverse.1 mem)
  rw [List.append_nil, ← List.reverse_append] at reversed
  rw [trim, List.append_assoc, dropWhile_isBlank_append before some_char solid, reversed,
    List.reverse_reverse]

/-- A text is what is left of it between blanks. -/
theorem exists_trim (cs : List Char) :
    ∃ front back, cs = front ++ trim cs ++ back ∧ allBlank front = true ∧
      allBlank back = true := by
  have left : cs.takeWhile isBlank ++ cs.dropWhile isBlank = cs := List.takeWhile_append_dropWhile
  have right : (cs.dropWhile isBlank).reverse.takeWhile isBlank ++
      (cs.dropWhile isBlank).reverse.dropWhile isBlank = (cs.dropWhile isBlank).reverse :=
    List.takeWhile_append_dropWhile
  refine ⟨cs.takeWhile isBlank, ((cs.dropWhile isBlank).reverse.takeWhile isBlank).reverse, ?_,
    List.all_takeWhile, ?_⟩
  · rw [trim, List.append_assoc, ← List.reverse_append, right, List.reverse_reverse, left]
  · rw [allBlank, List.all_reverse]
    exact List.all_takeWhile

/-- What is left of a text without the blanks at its ends spells the integer. -/
theorem spells_trim_iff {cs : List Char} {n : Int} :
    Spells (trim cs) n ↔
      ∃ front middle back, cs = front ++ middle ++ back ∧ allBlank front = true ∧
        Spells middle n ∧ allBlank back = true := by
  constructor
  · intro spells
    obtain ⟨front, back, split, before, behind⟩ := exists_trim cs
    exact ⟨front, trim cs, back, split, before, spells, behind⟩
  · intro ⟨front, middle, back, split, before, spells, behind⟩
    obtain ⟨some_char, solid⟩ := solid_of_spells spells
    rw [split, trim_append before some_char solid behind]
    exact spells

end Text

end SqlAccess
