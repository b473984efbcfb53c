import SqlAccess.Configuration.Setting

/-!
# Tables that grow

A TOML document fills its tables in any order, but each table only in one way. An `Item` is
what is known of an entry while a document is read; an `Origin` tells how a table came to be
and so what may still be added to it.

* A header opens a table once. A table that only stood on the way to another one can still be
  opened.
* A dotted key fills tables that dotted keys have made and tables that only stood on the way to
  another one. It neither fills a table that a header opened nor goes through one, unless that
  is the last table of an array: the tables below it can be filled.
* Arrays of tables grow by headers only, and all else is closed as soon as it is read.
-/

namespace SqlAccess.Toml

open SqlAccess.Configuration

/-- How a table came to be. -/
inductive Origin where
  /-- It is the document, or a header opened it. -/
  | opened
  /-- It was on the way to a table that a header opened. -/
  | passed
  /-- A dotted key made it. -/
  | dotted
  deriving DecidableEq, Repr

/-- An entry of a table. -/
inductive Item where
  /-- Nothing can be added. -/
  | closed (value : Setting)
  | table (origin : Origin) (entries : List (String × Item))
  /-- An array of tables; the last of them is apart. -/
  | tables (earlier : List (List (String × Item))) (last : List (String × Item))

/-- The entries of a table. -/
abbrev Entries := List (String × Item)

/-! ## Reading the result -/

mutual

/-- The settings that an entry holds. -/
def Item.setting : Item → Setting
  | .closed value => value
  | .table _ entries => .table (settingsOf entries)
  | .tables earlier last => .array (tablesOf earlier ++ [.table (settingsOf last)])

/-- The settings that entries hold. -/
def settingsOf : List (String × Item) → List (String × Setting)
  | [] => []
  | (key, item) :: rest => (key, item.setting) :: settingsOf rest

/-- The settings that the tables of an array hold. -/
def tablesOf : List (List (String × Item)) → List Setting
  | [] => []
  | entries :: rest => .table (settingsOf entries) :: tablesOf rest

end

/-! ## Adding -/

namespace Entries

/-- Changes the entry of a key, if the change is possible. If there is none, a new one goes to
the end. -/
def change (key : String) (f : Option Item → Option Item) : Entries → Option Entries
  | [] => do return [(key, ← f none)]
  | (k, item) :: rest =>
    if k = key then do return (k, ← f (some item)) :: rest
    else do return (k, item) :: (← change key f rest)

/-- Goes down a path and changes the table at its end, which has the given origin if the path
is empty. Tables that are missing are made, with the origin `way`. -/
def within (way : Origin) (f : Origin → Entries → Option Entries) :
    List String → Origin → Entries → Option Entries
  | [], origin, entries => f origin entries
  | key :: path, _, entries =>
    entries.change key fun
      | none => do return .table way (← within way f path way [])
      | some (.table origin inner) =>
        if way = .dotted ∧ origin = .opened then none
        else do return .table origin (← within way f path origin inner)
      | some (.tables earlier last) => do
        return .tables earlier (← within way f path .opened last)
      | some (.closed _) => none

/-- Adds a closed entry to a table. -/
def add (key : String) (value : Setting) : Entries → Option Entries :=
  change key fun
    | none => some (.closed value)
    | some _ => none

/-- Adds a closed entry whose key may be dotted. -/
def addDotted (key : List String) (value : Setting) (entries : Entries) : Option Entries :=
  match key.getLast? with
  | none => none
  | some name =>
    let way := key.dropLast
    within .dotted (fun origin inner =>
      if way ≠ [] ∧ origin = .opened then none else inner.add name value) way .opened entries

/-- Changes the entry that a header names. -/
def changeNamed (path : List String) (f : Option Item → Option Item) (entries : Entries) :
    Option Entries :=
  match path.getLast? with
  | none => none
  | some name => within .passed (fun _ inner => inner.change name f) path.dropLast .opened entries

/-- Opens the table that a header names. -/
def openTable (path : List String) : Entries → Option Entries :=
  changeNamed path fun
    | none => some (.table .opened [])
    | some (.table .passed inner) => some (.table .opened inner)
    | some _ => none

/-- Opens a further table of the array of tables that a header names. -/
def openElement (path : List String) : Entries → Option Entries :=
  changeNamed path fun
    | none => some (.tables [] [])
    | some (.tables earlier last) => some (.tables (earlier ++ [last]) [])
    | some _ => none

/-- Adds an entry to the table that the last header has opened. -/
def addAt (path key : List String) (value : Setting) : Entries → Option Entries :=
  within .passed (fun _ inner => inner.addDotted key value) path .opened

end Entries

end SqlAccess.Toml
