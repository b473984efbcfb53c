/-!
# Blank characters

The blank characters are those with the Unicode property `White_Space`. A template's
separators, the trimming of literal texts and of identities read as text, and the test
for an empty template all use this one set.

* `mem_trim`: trimming only removes characters.
-/

namespace SqlAccess.Text

/-- The character has the Unicode property `White_Space`. -/
def isBlank (c : Char) : Bool :=
  let n := c.toNat
  (0x09 ≤ n && n ≤ 0x0D) || n == 0x20 || n == 0x85 || n == 0xA0 || n == 0x1680 ||
    (0x2000 ≤ n && n ≤ 0x200A) || n == 0x2028 || n == 0x2029 || n == 0x202F ||
    n == 0x205F || n == 0x3000

/-- The text holds blank characters only. -/
def allBlank (cs : List Char) : Bool := cs.all isBlank

/-- The text without the blanks at its two ends. -/
def trim (cs : List Char) : List Char :=
  ((cs.dropWhile isBlank).reverse.dropWhile isBlank).reverse

theorem mem_trim {c : Char} {cs : List Char} (h : c ∈ trim cs) : c ∈ cs := by
  have h₁ := List.dropWhile_sublist isBlank |>.mem (List.mem_reverse.1 h)
  exact (List.dropWhile_sublist isBlank).mem (List.mem_reverse.1 h₁)

end SqlAccess.Text
