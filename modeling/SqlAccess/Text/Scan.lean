/-!
# Reading from the front of a text

A `Scan` takes characters from the front of a text and hands on the rest, or does not read it
at all. What repeats is told by `Scan.all`: a step that is read again and again until it says
that it was the last one.
-/

namespace SqlAccess.Text

/-- Reading from the front of a text. -/
abbrev Scan := StateT (List Char) Option

namespace Scan

variable {α : Type}

/-- Reads all of a text. -/
def whole (s : Scan α) (cs : List Char) : Option α :=
  match s.run cs with
  | some (a, []) => some a
  | _ => none

/-- Takes one character. -/
def next : Scan Char
  | c :: rest => some (c, rest)
  | [] => none

/-- The next character, which stays; none at the end. -/
def peek : Scan (Option Char) := fun cs => some (cs.head?, cs)

/-- The text that is left, which stays. -/
def rest : Scan (List Char) := fun cs => some (cs, cs)

/-- Takes the characters of a class at the front, which can be none. -/
def takeWhile (p : Char → Bool) : Scan (List Char) :=
  fun cs => some (cs.takeWhile p, cs.dropWhile p)

/-- Takes the characters of a class at the front, of which there is one at least. -/
def takeWhile1 (p : Char → Bool) : Scan (List Char) := do
  let taken ← takeWhile p
  guard (taken ≠ [])
  return taken

/-- Takes so many characters. -/
def take (count : Nat) : Scan (List Char) :=
  fun cs => if count ≤ cs.length then some (cs.take count, cs.drop count) else none

/-- Takes a character if it is the next one, and tells whether it was. -/
def skips (c : Char) : Scan Bool
  | d :: rest => some (if d = c then (true, rest) else (false, d :: rest))
  | [] => some (false, [])

/-- Takes a character, which has to be the next one. -/
def expect (c : Char) : Scan Unit := do guard (← skips c)

/-- Takes some characters if they are the next ones, and tells whether they were. -/
def skipsAll (ds : List Char) : Scan Bool :=
  fun cs => some (if ds.isPrefixOf cs then (true, cs.drop ds.length) else (false, cs))

/-- The character is a space or a tab. -/
def isGap (c : Char) : Bool := c == ' ' || c == '\t'

/-- Takes spaces and tabs. -/
def skipGap : Scan Unit := do let _ ← takeWhile isGap

/-- Takes at most `fuel` steps, up to the one that is the last. -/
def upTo (step : Scan (Option α)) : (fuel : Nat) → Scan (List α)
  | 0 => failure
  | fuel + 1 => do
    match ← step with
    | none => return []
    | some a => return a :: (← upTo step fuel)

/-- Takes steps up to the one that gives nothing. Each other step has to take a character, so
that there are no more of them than characters. -/
def all (step : Scan (Option α)) : Scan (List α) := fun cs => upTo step (cs.length + 1) cs

end Scan

end SqlAccess.Text
