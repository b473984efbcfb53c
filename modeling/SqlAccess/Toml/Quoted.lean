import SqlAccess.Number.Digits
import SqlAccess.Text.Scan

/-!
# Blanks, comments and strings of TOML

A string stands between single or double quotes, on one line between one of them and on
several between three. Double quotes allow escapes. No control character but the tab stands in
a string or a comment; a line ends with a line feed, which a carriage return may precede. The
line ends within a string are kept as they are written.

A key has at most `partLimit` parts.
-/

namespace SqlAccess.Toml

open Text

/-! ## Blanks and comments -/

/-- The character can stand in a comment or a string: it is no control character but the tab. -/
def isPlain (c : Char) : Bool := c == '\t' || (0x20 ≤ c.toNat && c.toNat ≠ 0x7F)

/-- Takes the end of a line, which is empty if there is none. -/
def scanLineEnd : Scan (List Char) := do
  if ← Scan.skips '\n' then return ['\n']
  else if ← Scan.skipsAll ['\r', '\n'] then return ['\r', '\n']
  else return []

/-- The text without the spaces, tabs and line ends at its front. -/
def dropBlank : List Char → List Char
  | ' ' :: rest => dropBlank rest
  | '\t' :: rest => dropBlank rest
  | '\n' :: rest => dropBlank rest
  | '\r' :: '\n' :: rest => dropBlank rest
  | cs => cs

/-- Takes a comment, if there is one, up to the end of its line. -/
def scanComment : Scan Unit := do
  if ← Scan.skips '#' then
    let _ ← Scan.takeWhile isPlain

/-- Takes a comment with the blanks in front of it. -/
def blankStep : Scan (Option Unit) := do
  StateT.modifyGet fun cs => ((), dropBlank cs)
  if (← Scan.peek) = some '#' then some <$> scanComment
  else return none

/-- Takes blanks and comments over any number of lines. -/
def scanBlank : Scan Unit := do let _ ← Scan.all blankStep

/-- Takes what may stand behind a statement up to the end of its line or of the text. -/
def scanLineRest : Scan Unit := do
  Scan.skipGap
  scanComment
  if (← scanLineEnd) = [] then guard ((← Scan.peek) = none)

/-! ## Escapes -/

/-- Reads so many hexadecimal digits as the number of a character. -/
def scanCodePoint (count : Nat) : Scan Char := do
  let values ← (← Scan.take count).mapM fun c => (Digits.hexValue? c : Option Nat)
  let n := values.foldl (fun n v => n * 16 + v) 0
  guard n.isValidChar
  return Char.ofNat n

/-- Reads an escape behind its backslash. -/
def scanEscape : Scan Char := do
  match ← Scan.next with
  | 'b' => return '\x08'
  | 'e' => return '\x1B'
  | 't' => return '\t'
  | 'n' => return '\n'
  | 'f' => return '\x0C'
  | 'r' => return '\r'
  | '"' => return '"'
  | '\\' => return '\\'
  | 'x' => scanCodePoint 2
  | 'u' => scanCodePoint 4
  | 'U' => scanCodePoint 8
  | _ => failure

/-! ## Strings on one line -/

/-- Reads one more character of a string, up to the quote that ends it. -/
def charStep (quote : Char) : Scan (Option Char) := do
  let c ← Scan.next
  if c = quote then return none
  else if c = '\\' ∧ quote = '"' then some <$> scanEscape
  else
    guard (isPlain c)
    return some c

/-- Reads a string behind its opening quote. -/
def scanLine (quote : Char) : Scan (List Char) := Scan.all (charStep quote)

/-! ## Strings on several lines -/

/-- Takes a backslash that ends a line, with all blanks behind it. It is known that a backslash
is next. -/
def skipsJoint : Scan Bool := fun cs =>
  match (cs.drop 1).dropWhile Scan.isGap with
  | '\n' :: rest => some (true, dropBlank rest)
  | '\r' :: '\n' :: rest => some (true, dropBlank rest)
  | _ => some (false, cs.drop 1)

/-- Reads one more piece of a string. Three quotes end it; one or two more quotes directly in
front of them belong to the string. -/
def blockStep (quote : Char) : Scan (Option (List Char)) := do
  let quotes := ((← Scan.rest).takeWhile (· = quote)).length
  if quotes = 3 then
    let _ ← Scan.take 3
    return none
  else if 0 < quotes then
    guard (quotes ≤ 5)
    let _ ← Scan.next
    return some [quote]
  else if (← Scan.peek) = some '\\' ∧ quote = '"' then
    if ← skipsJoint then return some []
    else return some [← scanEscape]
  else
    let lineEnd ← scanLineEnd
    if lineEnd ≠ [] then return some lineEnd
    else
      let c ← Scan.next
      guard (isPlain c)
      return some [c]

/-- Reads a string behind its three opening quotes. A line end directly behind them does not
belong to it. -/
def scanBlock (quote : Char) : Scan (List Char) := do
  let _ ← scanLineEnd
  return (← Scan.all (blockStep quote)).flatten

/-- Reads a string that stands as a value. -/
def scanString (quote : Char) : Scan String := do
  if ← Scan.skipsAll [quote, quote, quote] then String.ofList <$> scanBlock quote
  else
    Scan.expect quote
    String.ofList <$> scanLine quote

/-! ## Keys -/

/-- The characters of keys without quotes. -/
def isBare (c : Char) : Bool := c.isAlphanum || c == '_' || c == '-'

/-- Reads one part of a key. -/
def scanKeyPart : Scan String := do
  match ← Scan.peek with
  | some '"' => do
    let _ ← Scan.next
    String.ofList <$> scanLine '"'
  | some '\'' => do
    let _ ← Scan.next
    String.ofList <$> scanLine '\''
  | _ => String.ofList <$> Scan.takeWhile1 isBare

/-- Reads one more part of a key, if a point comes next. -/
def keyStep : Scan (Option String) := do
  Scan.skipGap
  if ← Scan.skips '.' then
    Scan.skipGap
    some <$> scanKeyPart
  else return none

/-- The greatest number of parts of a key. -/
def partLimit : Nat := 80

/-- Reads a key, whose parts have points between them, with the gaps around it. -/
def scanKey : Scan (List String) := do
  Scan.skipGap
  let key := (← scanKeyPart) :: (← Scan.all keyStep)
  guard (key.length ≤ partLimit)
  return key

end SqlAccess.Toml
