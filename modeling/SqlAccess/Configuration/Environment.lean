import SqlAccess.Configuration.Setting
import SqlAccess.Number.Numeral
import SqlAccess.Text.Case

/-!
# Settings from the environment

A variable whose name starts with `RDAX_`, in any case, is a setting. The rest of its name, in
lower case, is the path of the setting, where two underscores separate the levels. Its value is
a truth value, an integer or a floating point number if it reads as one, and a text otherwise.
-/

namespace SqlAccess.Configuration.Environment

open Text

/-- What the names of settings start with, in lower case. -/
def lead : List Char := ['r', 'd', 'a', 'x', '_']

/-- A name with a point for each two underscores, from the front. -/
def levels : List Char → List Char
  | '_' :: '_' :: rest => '.' :: levels rest
  | c :: rest => c :: levels rest
  | [] => []

/-- The key of the setting that a variable stands for, if it stands for one. -/
def key? (name : String) : Option String :=
  let cs := (lower name).toList
  if lead.isPrefixOf cs then some (String.ofList (levels (cs.drop lead.length))) else none

/-- The setting that the value of a variable stands for. -/
def value (s : String) : Setting :=
  if lower s = "true" then .boolean true
  else if lower s = "false" then .boolean false
  else
    match (Digits.toInt? s.toList).bind (Signed.ofInt? 64) with
    | some n => .integer n
    | none =>
      match Binary.ofText? .double s.toList with
      | some x => .float x
      | none => .text s

/-- The settings of an environment. Of two variables for one key the later one counts. -/
def settings (env : List (String × String)) : List (String × Setting) :=
  env.foldl (fun found (name, text) =>
    match key? name with
    | some key => put key (fun _ => value text) found
    | none => found) []

end SqlAccess.Configuration.Environment
