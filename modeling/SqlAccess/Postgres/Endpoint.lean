import SqlAccess.Error
import SqlAccess.Number.Digits
import SqlAccess.Text.Utf8

/-!
# Where a PostgreSQL server is

The parameters of a connection say at which endpoints a server may be. Only hosts, addresses and
ports are kept; the other parameters are checked and have no further use here.

* `Parameters.set?`: the parameters that exist, and the values that they take.
* `Parameters.endpoints`: hosts, addresses and ports belong together by their places in their
  lists, so the lists have to have the same length; a single port is that of all hosts.
-/

namespace SqlAccess.Postgres

/-- A host: one on the network, or a directory with a socket of the machine itself. The path of
a directory is bytes. -/
inductive Host where
  | network (name : String)
  | directory (path : List UInt8)
  deriving DecidableEq

/-- The bytes of a path start with a slash; all else is a name. -/
def Host.ofBytes? (bytes : List UInt8) : Option Host :=
  if bytes.head? = some 0x2F then some (.directory bytes)
  else (Utf8.ofBytes? bytes).map .network

/-- A place where a server may be. -/
structure Endpoint where
  host : Host
  port : Nat
  deriving DecidableEq

/-! ## Network addresses -/

namespace Address

/-- The parts of a text between the occurrences of a character. -/
def split (separator : Char) (cs : List Char) : List (List Char) := cs.splitOn separator

/-- One of the four numbers of an address: at most three digits, without leading zeros. -/
def isOctet (cs : List Char) : Bool :=
  cs.length ≤ 3 && (cs.head? ≠ some '0' || cs.length == 1) &&
    match Digits.toNat? cs with
    | some n => n < 256
    | none => false

/-- An address of the form `127.0.0.1`. -/
def isFour (cs : List Char) : Bool :=
  let parts := split '.' cs
  parts.length == 4 && parts.all isOctet

/-- One to four hexadecimal digits. -/
def isGroup (cs : List Char) : Bool :=
  cs ≠ [] && cs.length ≤ 4 && cs.all fun c => (Digits.hexValue? c).isSome

/-- The number of groups that parts of an address fill. The last part may be an address with
four numbers, which fills two groups. -/
def groups? : List (List Char) → Option Nat
  | [] => some 0
  | [part] => if isGroup part then some 1 else if isFour part then some 2 else none
  | part :: rest => if isGroup part then (groups? rest).map (· + 1) else none

/-- The parts around the first pair of colons. -/
def splitPair : List Char → Option (List Char × List Char)
  | ':' :: ':' :: rest => some ([], rest)
  | c :: rest => (splitPair rest).map fun (before, after) => (c :: before, after)
  | [] => none

/-- The parts between colons; an empty text has none. -/
def parts (cs : List Char) : List (List Char) := if cs = [] then [] else split ':' cs

/-- An address of eight groups with colons between them, where a pair of colons stands for one
group of zeros or more. -/
def isSix (cs : List Char) : Bool :=
  match splitPair cs with
  | none => groups? (parts cs) == some 8
  | some (before, after) =>
    (parts before).all isGroup &&
      match groups? (parts after) with
      | some n => (parts before).length + n ≤ 7
      | none => false

end Address

/-! ## Parameters -/

/-- What the parameters of a connection say about its endpoints. -/
structure Parameters where
  hosts : List Host
  addresses : List String
  ports : List Nat

namespace Parameters

/-- Nothing is said. -/
def empty : Parameters := ⟨[], [], []⟩

/-- The port that is meant if none is said. -/
def defaultPort : Nat := 5432

/-- Reads a number without a minus sign that is below a bound. -/
def natural? (bound : Nat) (cs : List Char) : Option Nat := do
  let n ← Digits.toNat? (if cs.head? = some '+' then cs.drop 1 else cs)
  guard (n < bound)
  return n

/-- Reads a port; an empty text is the default one. -/
def port? (cs : List Char) : Option Nat :=
  if cs = [] then some defaultPort else natural? (2 ^ 16) cs

/-- Takes a parameter that has no say in the endpoints, if its value is possible. -/
def unchanged (p : Parameters) (possible : Bool) : Option Parameters :=
  if possible then some p else none

/-- The text is a number of 64 bits. -/
def isInteger (cs : List Char) : Bool := ((Digits.toInt? cs).bind (Signed.ofInt? 64)).isSome

/-- Sets a parameter. Lists have commas between their items and are added to those that were
set before. -/
def set? (p : Parameters) (name value : String) : Option Parameters :=
  let cs := value.toList
  let items := Address.split ',' cs
  match name with
  | "user" | "password" | "dbname" | "options" | "application_name" => some p
  | "sslmode" => p.unchanged (["disable", "prefer", "require"].contains value)
  | "sslnegotiation" => p.unchanged (["postgres", "direct"].contains value)
  | "target_session_attrs" => p.unchanged (["any", "read-write", "read-only"].contains value)
  | "channel_binding" => p.unchanged (["disable", "prefer", "require"].contains value)
  | "load_balance_hosts" => p.unchanged (["disable", "random"].contains value)
  | "connect_timeout" | "tcp_user_timeout" | "keepalives_idle" | "keepalives_interval" =>
    p.unchanged (isInteger cs)
  | "keepalives" => p.unchanged (natural? (2 ^ 64) cs).isSome
  | "keepalives_retries" => p.unchanged (natural? (2 ^ 32) cs).isSome
  | "host" => do
    let hosts ← items.mapM fun item => Host.ofBytes? (Utf8.toBytes (String.ofList item))
    return { p with hosts := p.hosts ++ hosts }
  | "hostaddr" =>
    if items.all fun item => Address.isFour item || Address.isSix item then
      some { p with addresses := p.addresses ++ items.map String.ofList }
    else none
  | "port" => do return { p with ports := p.ports ++ (← items.mapM port?) }
  | _ => none

/-- The hosts to go to: addresses, if there are any, and names otherwise. -/
def targets (p : Parameters) : List Host :=
  if p.addresses = [] then p.hosts else p.addresses.map .network

/-- The endpoints that the parameters name. -/
def endpoints (p : Parameters) : Except ConnectionError (List Endpoint) :=
  let count := p.targets.length
  if count = 0 ∨ (p.hosts ≠ [] ∧ p.hosts.length ≠ count) then .error .invalidConfiguration
  else if 1 < p.ports.length ∧ p.ports.length ≠ count then .error .invalidConfiguration
  else .ok (p.targets.mapIdx fun i host => ⟨host, (p.ports[i]?.or p.ports[0]?).getD defaultPort⟩)

end Parameters

end SqlAccess.Postgres
