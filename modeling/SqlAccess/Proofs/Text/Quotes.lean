/-!
# Open quotes

A text read from left to right is inside a quote or outside. A quote character opens a quote
when none is open, and only the same character closes it again. `quoteAfter` is the quote that
is open at the end; a text leaves its quotes closed when that is none.

`Escaped q` holds of what may stand between two quotes `q`: inside, the quote is doubled. A
doubled quote closes a quote and opens the next at once, so `Escaped.quoteAfter` finds the same
quote open behind such a text as in front of it.
-/

namespace SqlAccess.Text

/-- The character opens and closes quoted text. -/
def IsQuote (c : Char) : Prop := c = '\'' ∨ c = '"'

instance (c : Char) : Decidable (IsQuote c) := inferInstanceAs (Decidable (_ ∨ _))

theorem IsQuote.ne {q c : Char} (quote : IsQuote q) (other : ¬IsQuote c) : q ≠ c := by
  rintro rfl
  exact other quote

/-- The quote that is open after one more character. -/
def quoteStep : Option Char → Char → Option Char
  | some q, c => if c = q then none else some q
  | none, c => if IsQuote c then some c else none

/-- The quote that is open at the end of a text, when `quote` is open in front of it. -/
def quoteAfter (quote : Option Char) (cs : List Char) : Option Char := cs.foldl quoteStep quote

@[simp] theorem quoteAfter_nil (quote : Option Char) : quoteAfter quote [] = quote := rfl

@[simp] theorem quoteAfter_cons (quote : Option Char) (c : Char) (cs : List Char) :
    quoteAfter quote (c :: cs) = quoteAfter (quoteStep quote c) cs := rfl

theorem quoteAfter_append (quote : Option Char) (cs ds : List Char) :
    quoteAfter quote (cs ++ ds) = quoteAfter (quoteAfter quote cs) ds :=
  List.foldl_append

@[simp] theorem quoteStep_self (q : Char) : quoteStep (some q) q = none := by
  simp [quoteStep]

theorem quoteStep_of_ne {q c : Char} (h : c ≠ q) : quoteStep (some q) c = some q :=
  if_neg h

theorem quoteStep_of_isQuote {q : Char} (h : IsQuote q) : quoteStep none q = some q :=
  if_pos h

theorem quoteStep_of_not_isQuote {c : Char} (h : ¬IsQuote c) : quoteStep none c = none :=
  if_neg h

/-- A quote stays open through a text in which it does not occur. -/
theorem quoteAfter_of_not_mem {q : Char} {cs : List Char} (h : q ∉ cs) :
    quoteAfter (some q) cs = some q := by
  induction cs with
  | nil => rfl
  | cons c cs ih =>
    rw [List.mem_cons, not_or] at h
    rw [quoteAfter_cons, quoteStep_of_ne (Ne.symm h.1)]
    exact ih h.2

/-- A text without quotes opens none. -/
theorem quoteAfter_of_plain {cs : List Char} (h : ∀ c ∈ cs, ¬IsQuote c) :
    quoteAfter none cs = none := by
  induction cs with
  | nil => rfl
  | cons c cs ih =>
    rw [quoteAfter_cons, quoteStep_of_not_isQuote (h c List.mem_cons_self)]
    exact ih fun d mem => h d (List.mem_cons_of_mem c mem)

/-- A text that can stand between two quotes `q`: inside it the quote is doubled. -/
inductive Escaped (q : Char) : List Char → Prop
  | nil : Escaped q []
  | char {c : Char} {cs : List Char} : c ≠ q → Escaped q cs → Escaped q (c :: cs)
  | doubled {cs : List Char} : Escaped q cs → Escaped q (q :: q :: cs)

theorem Escaped.quoteAfter {q : Char} {cs : List Char} (escaped : Escaped q cs)
    (quote : IsQuote q) : quoteAfter (some q) cs = some q := by
  induction escaped with
  | nil => rfl
  | char ne _ ih =>
    rw [quoteAfter_cons, quoteStep_of_ne ne]
    exact ih
  | doubled _ ih =>
    rw [quoteAfter_cons, quoteAfter_cons, quoteStep_self, quoteStep_of_isQuote quote]
    exact ih

end SqlAccess.Text
