import SqlAccess.Calendar.Date
import SqlAccess.Number.Numeral
import SqlAccess.Number.Signed

/-!
# Numbers, dates and times of TOML

Between the digits of a number single underscores may stand. An integer has 64 bits; in base
ten it has no leading zeros, and in the bases sixteen, eight and two it has no sign. A floating
point number that is written with digits has to be finite.

Dates and times are kept as text, in one form: a `T` between the two, the fraction of a second
cut to nine digits and without the zeros at its end but for a first one, and `Z` for the offset
of UTC when it is written so. What is left out, be it the seconds, stays left out.
-/

namespace SqlAccess.Toml

open Text

/-! ## Numbers -/

/-- The digits of a number, where single underscores may stand between digits. -/
def digits? (isDigit : Char → Bool) : List Char → Option (List Char)
  | [] => none
  | [c] => if isDigit c then some [c] else none
  | c :: '_' :: rest => if isDigit c then (digits? isDigit rest).map (c :: ·) else none
  | c :: rest => if isDigit c then (digits? isDigit rest).map (c :: ·) else none

/-- Digits in base ten without leading zeros. -/
def whole? (cs : List Char) : Option (List Char) := do
  let ds ← digits? Char.isDigit cs
  guard (ds.head? ≠ some '0' ∨ ds.length = 1)
  return ds

/-- The character is a digit in a base up to sixteen. -/
def isDigitIn (base : Nat) (c : Char) : Bool :=
  match Digits.hexValue? c with
  | some value => value < base
  | none => false

/-- Reads digits in a base up to sixteen. -/
def natural? (base : Nat) (cs : List Char) : Option Nat := do
  let ds ← digits? (isDigitIn base) cs
  return ds.foldl (fun n c => n * base + (Digits.hexValue? c).getD 0) 0

/-- Reads an integer. -/
def integer? (cs : List Char) : Option (Signed 64) := do
  match cs with
  | '0' :: 'x' :: rest => Signed.ofInt? 64 (← natural? 16 rest)
  | '0' :: 'o' :: rest => Signed.ofInt? 64 (← natural? 8 rest)
  | '0' :: 'b' :: rest => Signed.ofInt? 64 (← natural? 2 rest)
  | _ =>
    let (negative, unsigned) := Digits.splitSign cs
    let n : Int := Digits.toNat (← whole? unsigned)
    Signed.ofInt? 64 (if negative then -n else n)

/-- Reads the exponent of a floating point number. -/
def exponent? (cs : List Char) : Option Int := do
  let (negative, unsigned) := Digits.splitSign cs
  let n : Int := Digits.toNat (← digits? Char.isDigit unsigned)
  return if negative then -n else n

/-- Reads a floating point number that is written with digits. It has a fraction or an exponent
or both. -/
def numeral? (cs : List Char) : Option Numeral := do
  let isMark (c : Char) : Bool := c == 'e' || c == 'E'
  let (negative, unsigned) := Digits.splitSign cs
  let mantissa := unsigned.takeWhile (!isMark ·)
  let exponent ← match unsigned.dropWhile (!isMark ·) with
    | [] => some none
    | _ :: rest => (exponent? rest).map some
  let whole ← whole? (mantissa.takeWhile (· ≠ '.'))
  match mantissa.dropWhile (· ≠ '.') with
  | [] => do return ⟨negative, whole, [], ← exponent⟩
  | _ :: rest => do return ⟨negative, whole, ← digits? Char.isDigit rest, exponent.getD 0⟩

/-- Reads a floating point number. -/
def float? (cs : List Char) : Option (Binary .double) :=
  let (negative, unsigned) := Digits.splitSign cs
  if unsigned = ['i', 'n', 'f'] then some (.infinity .double negative)
  else if unsigned = ['n', 'a', 'n'] then some (.nan .double)
  else do
    let x := (← numeral? cs).toBinary .double
    guard (x.field ≠ Precision.double.topField)
    return x

/-! ## Dates and times -/

/-- Reads so many digits, and gives them and their value if it is in the range. -/
def scanField (width low high : Nat) : Scan (List Char × Nat) := do
  let ds ← Scan.take width
  let n ← (Digits.toNat? ds : Option Nat)
  guard (low ≤ n ∧ n ≤ high)
  return (ds, n)

/-- Reads a day of the calendar. -/
def scanDate : Scan (List Char) := do
  let (year, y) ← scanField 4 0 9999
  Scan.expect '-'
  let (month, m) ← scanField 2 1 12
  Scan.expect '-'
  let (day, d) ← scanField 2 1 31
  guard (Date.ofCivil? y m d).isSome
  return year ++ '-' :: month ++ '-' :: day

/-- The text without the zeros at its end. -/
def trimZeros (cs : List Char) : List Char := (cs.reverse.dropWhile (· = '0')).reverse

/-- Reads the fraction of a second, if there is one. -/
def scanFraction : Scan (List Char) := do
  if ← Scan.skips '.' then
    let shown := trimZeros ((← Scan.takeWhile1 Char.isDigit).take 9)
    return '.' :: if shown = [] then ['0'] else shown
  else return []

/-- Reads the seconds of a time with their fraction, if there are any. A leap second can be in
any minute. -/
def scanSeconds : Scan (List Char) := do
  if ← Scan.skips ':' then
    let (second, _) ← scanField 2 0 60
    return ':' :: second ++ (← scanFraction)
  else return []

/-- Reads a time of day. -/
def scanTime : Scan (List Char) := do
  let (hour, _) ← scanField 2 0 23
  Scan.expect ':'
  let (minute, _) ← scanField 2 0 59
  return hour ++ ':' :: minute ++ (← scanSeconds)

/-- Reads the offset from UTC, if there is one. -/
def scanOffset : Scan (List Char) := do
  match ← Scan.peek with
  | none => return []
  | some c =>
    let _ ← Scan.next
    if c = 'Z' ∨ c = 'z' then return ['Z']
    else
      guard (c = '+' ∨ c = '-')
      let (hour, h) ← scanField 2 0 23
      Scan.expect ':'
      let (minute, m) ← scanField 2 0 59
      return (if h + m = 0 then '+' else c) :: hour ++ ':' :: minute

/-- Reads a date with a time and, if it has one, an offset. -/
def scanDateTime : Scan (List Char) := do
  let date ← scanDate
  let c ← Scan.next
  guard (c = 'T' ∨ c = 't' ∨ c = ' ')
  let time ← scanTime
  return date ++ 'T' :: time ++ (← scanOffset)

/-- Reads a date, a time or both, and gives the one form in which it is kept. -/
def moment? (cs : List Char) : Option (List Char) :=
  ((scanDate.whole cs).or (scanTime.whole cs)).or (scanDateTime.whole cs)

end SqlAccess.Toml
