import SqlAccess.Toml.Item
import SqlAccess.Toml.Quoted
import SqlAccess.Toml.Scalar

/-!
# TOML documents

A document is a list of lines: headers, which open tables, and entries, which go to the table
that was opened last. `Toml.settings?` reads a document; a text that is no TOML 1.1 document
has no settings. Arrays and tables in braces may go over several lines, with comments and with a
comma behind their last item.
-/

namespace SqlAccess.Toml

open SqlAccess.Configuration Text

/-! ## Values -/

/-- The characters of values without quotes and brackets. -/
def isScalarChar (c : Char) : Bool :=
  c.isAlphanum || c == '+' || c == '-' || c == '_' || c == '.' || c == ':'

/-- Takes a value without quotes and brackets. Between a date and a time a space may stand. -/
def scanScalarText : Scan (List Char) := do
  let word ← Scan.takeWhile1 isScalarChar
  match ← Scan.rest with
  | ' ' :: c :: _ =>
    if c.isDigit ∧ (scanDate.whole word).isSome then
      let _ ← Scan.next
      return word ++ ' ' :: (← Scan.takeWhile isScalarChar)
    else return word
  | _ => return word

/-- The setting that a value without quotes and brackets stands for. -/
def scalar? (cs : List Char) : Option Setting :=
  if cs = ['t', 'r', 'u', 'e'] then some (.boolean true)
  else if cs = ['f', 'a', 'l', 's', 'e'] then some (.boolean false)
  else
    (((integer? cs).map .integer).or ((float? cs).map .float)).or
      ((moment? cs).map fun m => .text (String.ofList m))

def scanScalar : Scan Setting := do
  let cs ← scanScalarText
  (scalar? cs : Option Setting)

/-- Reads one more element of an array, up to the bracket that ends it. -/
def elementStep (value : Scan Setting) : Scan (Option Setting) := do
  scanBlank
  if ← Scan.skips ']' then return none
  let v ← value
  scanBlank
  if !(← Scan.skips ',') then guard ((← Scan.peek) = some ']')
  return some v

/-- Reads an entry of a table. What `gap` takes may stand around the equals sign. -/
def scanEntry (gap : Scan Unit) (value : Scan Setting) : Scan (List String × Setting) := do
  let key ← scanKey
  gap
  Scan.expect '='
  gap
  return (key, ← value)

/-- Reads one more entry of a table in braces, up to the brace that ends it. -/
def entryStep (value : Scan Setting) : Scan (Option (List String × Setting)) := do
  scanBlank
  if ← Scan.skips '\x7d' then return none
  let entry ← scanEntry scanBlank value
  scanBlank
  if !(← Scan.skips ',') then guard ((← Scan.peek) = some '\x7d')
  return some entry

/-- Reads a table behind its opening brace. -/
def scanBraced (value : Scan Setting) : Scan Setting := do
  let written ← Scan.all (entryStep value)
  let entries ← (written.foldlM (fun es (key, v) => es.addDotted key v) [] : Option Entries)
  return .table (settingsOf entries)

/-- Reads a value in which arrays and tables stand at most `depth` deep in each other. -/
def scanValue (depth : Nat) : Scan Setting := do
  match ← Scan.peek with
  | some '"' => .text <$> scanString '"'
  | some '\'' => .text <$> scanString '\''
  | some '[' =>
    match depth with
    | 0 => failure
    | depth + 1 => do
      let _ ← Scan.next
      .array <$> Scan.all (elementStep (scanValue depth))
  | some '\x7b' =>
    match depth with
    | 0 => failure
    | depth + 1 => do
      let _ ← Scan.next
      scanBraced (scanValue depth)
  | _ => scanScalar

/-- Values are read up to this depth. -/
def depthLimit : Nat := 80

/-! ## Lines -/

/-- A line of a document. -/
inductive Line where
  | blank
  /-- A header in single brackets. -/
  | table (path : List String)
  /-- A header in double brackets. -/
  | element (path : List String)
  | entry (key : List String) (value : Setting)

/-- Reads a header behind its first bracket. -/
def scanHeader : Scan Line := do
  if ← Scan.skips '[' then
    let path ← scanKey
    Scan.expect ']'
    Scan.expect ']'
    return .element path
  else
    let path ← scanKey
    Scan.expect ']'
    return .table path

/-- Reads what a line says, without the rest of it. -/
def scanStatement : Scan Line := do
  match ← Scan.peek with
  | some '[' => do
    let _ ← Scan.next
    scanHeader
  | some '#' | some '\n' | some '\r' | none => return .blank
  | _ => do
    let (key, value) ← scanEntry Scan.skipGap (scanValue depthLimit)
    return .entry key value

/-- Reads one more line, unless the text is at its end. -/
def lineStep : Scan (Option Line) := do
  if (← Scan.peek) = none then return none
  Scan.skipGap
  let line ← scanStatement
  scanLineRest
  return some line

/-! ## Documents -/

/-- A document up to a line: its entries, and the path of the table that was opened last. -/
structure Document where
  entries : Entries
  path : List String

/-- Reads the next line into a document. -/
def Document.read (d : Document) : Line → Option Document
  | .blank => some d
  | .table path => do return ⟨← d.entries.openTable path, path⟩
  | .element path => do return ⟨← d.entries.openElement path, path⟩
  | .entry key value => do return ⟨← d.entries.addAt d.path key value, d.path⟩

/-- The settings of a TOML document. A byte order mark may stand in front of it. -/
def settings? (text : String) : Option (List (String × Setting)) := do
  let cs := match text.toList with
    | '\ufeff' :: rest => rest
    | cs => cs
  let lines ← (Scan.all lineStep).whole cs
  let document ← lines.foldlM Document.read ⟨[], []⟩
  return settingsOf document.entries

end SqlAccess.Toml
