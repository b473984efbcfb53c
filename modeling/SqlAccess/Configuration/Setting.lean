import SqlAccess.Number.Shortest
import SqlAccess.Number.Signed
import SqlAccess.Text.Scan

/-!
# Trees of settings

What a configuration file and the environment say comes together in one tree. A `Setting` is a
single value, an array or a table; the entries of a table have different keys.

* `Setting.overlay` lays one tree over another: a table is merged entry by entry, and all else
  replaces what was there.
* A `Path` names a place in a tree. `Setting.set` lays a tree over what is at that place, and
  makes the tables and arrays on the way.
* `lookup_put`: after a change of one entry, that entry is the changed one and the others are
  as they were.
-/

namespace SqlAccess.Configuration

open Text

/-- A tree of settings. -/
inductive Setting where
  /-- The gap in front of an array element that was set by its number. -/
  | absent
  | boolean (b : Bool)
  | integer (n : Signed 64)
  | float (x : Binary .double)
  | text (s : String)
  | array (items : List Setting)
  | table (entries : List (String × Setting))

/-! ## Entries -/

/-- Changes the entry of a key. If there is none, a new one goes to the end. -/
def put {α : Type} (key : String) (f : Option α → α) : List (String × α) → List (String × α)
  | [] => [(key, f none)]
  | (k, a) :: rest => if k = key then (k, f (some a)) :: rest else (k, a) :: put key f rest

theorem lookup_put {α : Type} (key : String) (f : Option α → α) (entries : List (String × α))
    (k : String) :
    (put key f entries).lookup k =
      if k = key then some (f (entries.lookup key)) else entries.lookup k := by
  induction entries with
  | nil =>
    by_cases h : k = key
    · simp [put, h]
    · have : (k == key) = false := by simpa using h
      simp [put, List.lookup_cons, h, this]
  | cons e rest ih =>
    obtain ⟨k', a⟩ := e
    by_cases h' : k' = key
    · subst h'
      by_cases h : k = k'
      · subst h; simp [put]
      · have : (k == k') = false := by simpa using h
        simp [put, List.lookup_cons, h, this]
    · by_cases h : k = k'
      · subst h
        simp [put, h']
      · have hk : (k == k') = false := by simpa using h
        have hkey : (key == k') = false := by simpa using Ne.symm h'
        simp [put, List.lookup_cons, h', hk, hkey, ih]

namespace Setting

/-- The entries of a table; all else has none. -/
def entries : Setting → List (String × Setting)
  | table es => es
  | _ => []

/-- The items of an array; all else has none. -/
def items : Setting → List Setting
  | array is => is
  | _ => []

mutual

/-- Lays a tree over another one. -/
def overlay (target : Setting) : Setting → Setting
  | table incoming => .table (overlayEntries target.entries incoming)
  | incoming => incoming

/-- Lays entries over those of a table. -/
def overlayEntries (target : List (String × Setting)) :
    List (String × Setting) → List (String × Setting)
  | [] => target
  | (key, incoming) :: rest =>
    overlayEntries (put key (fun old => overlay (old.getD .absent) incoming) target) rest

end

end Setting

/-! ## Paths -/

/-- One step down into a tree. -/
inductive Step where
  | key (name : String)
  /-- An item of an array; a number below zero counts from the end. -/
  | item (number : Int)
  deriving DecidableEq, Repr

/-- A place in a tree. -/
abbrev Path := List Step

namespace Path

/-- The characters of keys that need no quotes. -/
def isNameChar (c : Char) : Bool := c.isAlphanum || c == '_' || c == '-'

def scanName : Scan Step := do return .key (String.ofList (← Scan.takeWhile1 isNameChar))

def scanNumber : Scan Step := do
  Scan.skipGap
  let negative ← Scan.skips '-'
  let n := Digits.toNat (← Scan.takeWhile1 Char.isDigit)
  let number ← (Signed.ofInt? 64 (if negative then -(n : Int) else n) : Option (Signed 64))
  Scan.skipGap
  Scan.expect ']'
  return .item number.val

/-- Reads one more step, if the path goes on. -/
def scanStep : Scan (Option Step) := do
  if (← Scan.peek) = none then return none
  if ← Scan.skips '.' then some <$> scanName
  else
    Scan.expect '['
    some <$> scanNumber

/-- Reads a path such as `a.b[0]`. -/
def ofText? (cs : List Char) : Option Path :=
  Scan.whole (do return (← scanName) :: (← Scan.all scanStep)) cs

/-- The path that a key stands for. A key that is no path stands for itself. -/
def ofKey (key : String) : Path := (ofText? key.toList).getD [.key key]

end Path

namespace Setting

/-- Changes the item with a number. An array that is too short is filled up with gaps, behind
its items or, if the number counts from the end, in front of them. -/
def putItem (number : Int) (f : Setting → Setting) (items : List Setting) : List Setting :=
  let position := if number < 0 then number + items.length else number
  let items := List.replicate (-position).toNat .absent ++ items
  let items := items ++ List.replicate (position.toNat + 1 - items.length) .absent
  items.modify position.toNat f

/-- Changes what is at a place. -/
def change : Path → (Setting → Setting) → Setting → Setting
  | [], f, s => f s
  | .key name :: path, f, s =>
    .table (put name (fun old => change path f (old.getD .absent)) s.entries)
  | .item number :: path, f, s => .array (putItem number (change path f) s.items)

/-- Lays a tree over what is at a place. -/
def set (s : Setting) (path : Path) (incoming : Setting) : Setting :=
  s.change path fun old => old.overlay incoming

/-- Lays entries over a tree. Their keys are paths. -/
def setAll (entries : List (String × Setting)) (s : Setting) : Setting :=
  entries.foldl (fun s (key, incoming) => s.set (.ofKey key) incoming) s

end Setting

end SqlAccess.Configuration
