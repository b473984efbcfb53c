import SqlAccess.Configuration.Basic
import SqlAccess.Postgres.Endpoint
import SqlAccess.Text.Blank
import SqlAccess.Text.Scan

/-!
# Connection strings

Where to connect to is told in one of two forms: pairs `name=value` with blanks between them,
or a URL that starts with `postgres://` or `postgresql://`. In both, `connect` goes to the first
endpoint that is reachable.

* In a pair, a value with blanks stands in single quotes, and a backslash takes the next
  character as it is.
* In a URL, a percent sign with two hexadecimal digits stands for a byte.
-/

namespace SqlAccess.Postgres

open Text

/-! ## Pairs -/

namespace Pairs

/-- Reads one more character of a value in quotes, up to the quote that ends it. Nothing follows
a backslash at the end of the text. -/
def quotedStep : Scan (Option (List Char)) := do
  match ← Scan.next with
  | '\'' => return none
  | '\\' => return some (← Scan.take (min 1 (← Scan.rest).length))
  | c => return some [c]

/-- Reads one more character of a value without quotes, up to a blank or the end. -/
def plainStep : Scan (Option (List Char)) := do
  match ← Scan.peek with
  | none => return none
  | some c =>
    if isBlank c then return none
    let _ ← Scan.next
    if c = '\\' then return some (← Scan.take (min 1 (← Scan.rest).length))
    else return some [c]

/-- Reads a value. Without quotes it is not empty. -/
def scanValue : Scan String := do
  if ← Scan.skips '\'' then
    return String.ofList (← Scan.all quotedStep).flatten
  else
    let value := (← Scan.all plainStep).flatten
    guard (value ≠ [])
    return String.ofList value

def scanBlanks : Scan Unit := do let _ ← Scan.takeWhile isBlank

/-- Reads one more pair. The pairs end where there is no name. -/
def pairStep : Scan (Option (String × String)) := do
  scanBlanks
  let name ← Scan.takeWhile fun c => !isBlank c && c != '='
  if name = [] then return none
  scanBlanks
  Scan.expect '='
  scanBlanks
  return some (String.ofList name, ← scanValue)

/-- The parameters that pairs set. What follows the last pair does not matter. -/
def parameters? (cs : List Char) : Option Parameters := do
  let (pairs, _) ← (Scan.all pairStep).run cs
  pairs.foldlM (fun p (name, value) => p.set? name value) .empty

end Pairs

/-! ## URLs -/

namespace Url

/-- The value of a hexadecimal digit, which is one byte. -/
def hexValue? (b : UInt8) : Option Nat := Digits.hexValue? (Char.ofNat b.toNat)

/-- The byte that a percent sign and two hexadecimal digits stand for. -/
def escaped? (percent high low : UInt8) : Option UInt8 := do
  guard (percent = 0x25)
  return UInt8.ofNat ((← hexValue? high) * 16 + (← hexValue? low))

/-- Replaces each percent sign with two hexadecimal digits behind it by the byte that they stand
for. -/
def decodeBytes : List UInt8 → List UInt8
  | b :: high :: low :: rest =>
    match escaped? b high low with
    | some c => c :: decodeBytes rest
    | none => b :: decodeBytes (high :: low :: rest)
  | bs => bs

/-- The bytes that a part of a URL stands for. -/
def bytes (cs : List Char) : List UInt8 := decodeBytes (Utf8.toBytes (String.ofList cs))

/-- The text that a part of a URL stands for, if its bytes are one. -/
def text? (cs : List Char) : Option String := Utf8.ofBytes? (bytes cs)

/-- The part in front of the first character of a class, and the rest from it on. -/
def splitAt (p : Char → Bool) (cs : List Char) : List Char × List Char :=
  (cs.takeWhile (!p ·), cs.dropWhile (!p ·))

/-- Adds a host. -/
def addHost (p : Parameters) (cs : List Char) : Option Parameters := do
  return { p with hosts := p.hosts ++ [← Host.ofBytes? (bytes cs)] }

/-- Separates a host from its port. A host with colons stands in brackets. -/
def splitPort? : List Char → Option (List Char × Option (List Char))
  | '[' :: cs =>
    let (host, rest) := splitAt (· = ']') cs
    match rest with
    | [_] => some (host, none)
    | _ :: ':' :: port => some (host, some port)
    | _ => none
  | cs =>
    match splitAt (· = ':') cs with
    | (host, _ :: port) => some (host, some port)
    | (host, []) => some (host, none)

/-- Adds a host and its port. -/
def addEndpoint (p : Parameters) (cs : List Char) : Option Parameters := do
  let (host, port) ← splitPort? cs
  let p ← addHost p host
  match port with
  | some port => p.set? "port" (← text? port)
  | none => return { p with ports := p.ports ++ [Parameters.defaultPort] }

/-- Sets the parameters behind the question mark. -/
def addQuery (p : Parameters) : (fuel : Nat) → List Char → Option Parameters
  | _, [] => some p
  | 0, _ => none
  | fuel + 1, cs => do
    let (name, rest) := splitAt (· = '=') cs
    guard (rest ≠ [])
    let name ← text? name
    let (value, rest) := splitAt (· = '&') (rest.drop 1)
    let p ← if name = "host" then addHost p value else p.set? name (← text? value)
    addQuery p fuel (rest.drop 1)

/-- The text behind the start of a URL, if it has one. -/
def body? (cs : List Char) : Option (List Char) :=
  let starts := ["postgres://".toList, "postgresql://".toList]
  (starts.find? (·.isPrefixOf cs)).map fun start => cs.drop start.length

/-- The parameters that a URL sets: the user in front of an at sign, hosts with commas between
them, a database behind a slash, and other parameters behind a question mark. -/
def parameters? (cs : List Char) : Option Parameters := do
  let cs ← match splitAt (· = '@') cs with
    | (credentials, _ :: cs) => do
      let _ ← text? (splitAt (· = ':') credentials).1
      pure cs
    | (_, []) => pure cs
  let (hosts, cs) := splitAt (fun c => c = '/' ∨ c = '?') cs
  let p ← if hosts = [] then pure Parameters.empty
    else (Address.split ',' hosts).foldlM addEndpoint Parameters.empty
  let cs ← match cs with
    | '/' :: cs => do
      let (database, cs) := splitAt (· = '?') cs
      let _ ← text? database
      pure cs
    | cs => pure cs
  addQuery p cs.length (cs.drop 1)

end Url

/-! ## Connecting -/

/-- The parameters of a connection string. -/
def Parameters.ofString? (s : String) : Option Parameters :=
  match Url.body? s.toList with
  | some cs => Url.parameters? cs
  | none => Pairs.parameters? s.toList

/-- The first endpoint of a connection string that is reachable. -/
def connect (reachable : Endpoint → Bool) (s : String) : Except ConnectionError Endpoint := do
  let some p := Parameters.ofString? s | throw .invalidString
  let endpoints ← p.endpoints
  let some endpoint := endpoints.find? reachable | throw .unreachable
  return endpoint

/-- The endpoint for a configuration, which has to have a connection string. -/
def connectConfigured (reachable : Endpoint → Bool) (c : Configuration) :
    Except ConnectionError Endpoint :=
  match c.databaseUrl with
  | some url => connect reachable url
  | none => .error .noUrl

end SqlAccess.Postgres
