import SqlAccess.Configuration.Environment
import SqlAccess.Dao
import SqlAccess.Toml.Document

/-!
# Configuration

The configuration of a client: where its database is, and its features. It comes from the text
of a TOML file, over which the environment may be laid. What is not set has its default, and
what is not known is ignored.

Settings are read generously: a text is had from every single value, and a switch from numbers
and from some words.
-/

namespace SqlAccess

/-- The configuration of a client. -/
structure Configuration where
  databaseUrl : Option String
  features : Features
  deriving DecidableEq

/-- Why there is no configuration. -/
inductive ConfigurationError where
  /-- The text of the file is no TOML document. -/
  | malformed
  /-- A setting has no text. -/
  | notText
  /-- A setting is no switch. -/
  | notSwitch
  /-- The features are no table. -/
  | notFeatures
  deriving DecidableEq, Repr

namespace Configuration

/-! ## Reading settings -/

namespace Setting

/-- The text of a single value. -/
def toText : Setting → Except ConfigurationError String
  | .text s => .ok s
  | .boolean b => .ok (if b then "true" else "false")
  | .integer n => .ok (String.ofList (Digits.ofInt n.val))
  | .float x => .ok (String.ofList x.toText)
  | .absent | .array _ | .table _ => .error .notText

/-- The position of a switch. A number is on unless it is zero. -/
def toSwitch : Setting → Except ConfigurationError Bool
  | .boolean b => .ok b
  | .integer n => .ok (n.val != 0)
  | .float x => .ok (!x.isZero)
  | .text s =>
    let word := Text.lower s
    if ["1", "true", "on", "yes"].contains word then .ok true
    else if ["0", "false", "off", "no"].contains word then .ok false
    else .error .notSwitch
  | .absent | .array _ | .table _ => .error .notSwitch

/-- A switch that may be missing; then it is off. -/
def switchOrOff : Option Setting → Except ConfigurationError Bool
  | some s => s.toSwitch
  | none => .ok false

/-- The features of a table, or of an array that lists the switches in their order. -/
def toFeatures : Setting → Except ConfigurationError Features
  | .table es => do
    return ⟨← switchOrOff (es.lookup "use_generated_keys"),
      ← switchOrOff (es.lookup "null_results_disabled")⟩
  | .array items => do return ⟨← switchOrOff items[0]?, ← switchOrOff items[1]?⟩
  | _ => .error .notFeatures

end Setting

/-- The configuration that a tree of settings holds. -/
def ofSetting (s : Setting) : Except ConfigurationError Configuration := do
  let url ← match s.entries.lookup "database_url" with
    | none => pure none
    | some url => some <$> url.toText
  let features ← match s.entries.lookup "features" with
    | none => pure default
    | some features => features.toFeatures
  return ⟨url, features⟩

/-! ## Sources -/

/-- Lays the settings of a TOML document over others. -/
def layToml (text : String) (s : Setting) : Except ConfigurationError Setting :=
  match Toml.settings? text with
  | some entries => .ok (s.setAll entries)
  | none => .error .malformed

/-- The configuration of a TOML document. -/
def ofToml (text : String) : Except ConfigurationError Configuration :=
  layToml text (.table []) >>= ofSetting

/-- The text of a file. A byte order mark in front of it is not part of the text. -/
def fileText (content : String) : String :=
  match content.toList with
  | '\ufeff' :: rest => String.ofList rest
  | _ => content

/-- The configuration of a file, which may be missing, with an environment laid over it. -/
def load (file : Option String) (env : List (String × String)) :
    Except ConfigurationError Configuration := do
  let s ← match file with
    | some content => layToml (fileText content) (.table [])
    | none => pure (.table [])
  ofSetting (s.setAll (Environment.settings env))

end Configuration

end SqlAccess
