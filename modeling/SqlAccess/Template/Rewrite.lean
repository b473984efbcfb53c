import SqlAccess.Template.Marker

/-!
# Rewriting a template

`rewrite` turns a template, a list of values and a list of groups of values into the SQL text
that is prepared and the list of values that is bound to it. It works in two halves that do
not look at each other's data:

* `assign` walks over the roles of the markers and hands out values and groups. Every value
  and every group has to be used up;
* `render` walks over the pieces and writes the text. Of the values it needs only the sizes
  of the groups.

The text is rendered as a list of `Glyph`s, which tells a placeholder that a marker has put
there from a question mark that is copied.
-/

namespace SqlAccess.Template

open SqlAccess.Text

/-- Why a template cannot be used with the values and groups that come with it. -/
inductive TemplateError where
  /-- The template has no character that is not blank. -/
  | blank
  /-- A `??` has no group. -/
  | noGroupLeft
  /-- A `??` meets a group without values. -/
  | emptyGroup
  /-- A `?` has no value; so many were supplied. -/
  | tooFewValues (supplied : Nat)
  /-- No marker takes the last values. -/
  | unusedValues (unused supplied : Nat)
  /-- No marker takes the last groups. -/
  | unusedGroups (unused : Nat)
  deriving DecidableEq, Repr

namespace TemplateError

def message : TemplateError → String
  | blank => "query template is empty"
  | noGroupLeft => "no IN group left for '??' marker"
  | emptyGroup => "IN group is empty"
  | tooFewValues supplied => s!"insufficient values for query params, {supplied} supplied"
  | unusedValues unused supplied =>
    s!"{unused} of {supplied} values not consumed by any marker"
  | unusedGroups unused => s!"{unused} IN group(s) not consumed by any '??' marker"

end TemplateError

/-- SQL text ready for a driver and the values of its placeholders, in order. -/
structure Query (α : Type) where
  sql : String
  values : List α
  deriving DecidableEq, Repr

/-! ## Handing out values -/

/-- Hands the values and groups to the markers in order. A skip drops a value if there is one
left; `supplied` is the number of values at the start, for the messages. -/
def assign {α : Type} (supplied : Nat) :
    List Role → List α → List (List α) → Except TemplateError (List α)
  | [], [], [] => .ok []
  | [], [], groups => .error (.unusedGroups groups.length)
  | [], values, _ => .error (.unusedValues values.length supplied)
  | .literal _ :: roles, values, groups => assign supplied roles values groups
  | .skip :: roles, values, groups => assign supplied roles values.tail groups
  | .param :: _, [], _ => .error (.tooFewValues supplied)
  | .param :: roles, value :: values, groups =>
    (assign supplied roles values groups).map (value :: ·)
  | .expand :: _, _, [] => .error .noGroupLeft
  | .expand :: _, _, [] :: _ => .error .emptyGroup
  | .expand :: roles, values, group :: groups =>
    (assign supplied roles values groups).map (group ++ ·)

/-! ## Writing the text -/

/-- One character of the rewritten text. -/
inductive Glyph where
  /-- A character of the template. -/
  | copied (c : Char)
  /-- A question mark that stands for a bound value. -/
  | placeholder
  /-- A comma between the placeholders of one group. -/
  | groupComma
  deriving DecidableEq, Repr

/-- The character that is written. -/
def Glyph.char : Glyph → Char
  | copied c => c
  | placeholder => '?'
  | groupComma => ','

/-- As many placeholders as a group has values, with commas between them. -/
def placeholders : Nat → List Glyph
  | 0 => []
  | 1 => [.placeholder]
  | n + 2 => .placeholder :: .groupComma :: placeholders (n + 1)

/-- The separator of a marker is dropped at the first marker that writes something. -/
def separatorGlyphs (first : Bool) (separator : List Char) : List Glyph :=
  if first then [] else separator.map .copied

/-- Writes the pieces, given the sizes of the groups. `first` says that no marker has written
anything yet. -/
def glyphs (first : Bool) : List Piece → List Nat → List Glyph
  | [], _ => []
  | .char c :: ps, sizes => .copied c :: glyphs first ps sizes
  | .quoted text :: ps, sizes => text.map .copied ++ glyphs first ps sizes
  | .marker separator m :: ps, sizes =>
    match m.role with
    | .skip => glyphs first ps sizes
    | .literal text =>
      separatorGlyphs first separator ++ text.map .copied ++ glyphs false ps sizes
    | .param => separatorGlyphs first separator ++ .placeholder :: glyphs false ps sizes
    | .expand =>
      separatorGlyphs first separator ++ placeholders (sizes.headD 0) ++
        glyphs false ps sizes.tail

/-- The text of the pieces with groups of the given sizes. -/
def render (ps : List Piece) (sizes : List Nat) : List Char :=
  (glyphs true ps sizes).map Glyph.char

/-- Rewrites a template. -/
def rewrite {α : Type} (template : String) (values : List α) (groups : List (List α)) :
    Except TemplateError (Query α) :=
  let ps := pieces template.toList
  if allBlank template.toList then .error .blank
  else (assign values.length (roles ps) values groups).map fun bound =>
    { sql := String.ofList (render ps (groups.map List.length)), values := bound }

/-! ## Placeholders and values match -/

theorem count_placeholders (n : Nat) : (placeholders n).count .placeholder = n := by
  induction n using placeholders.induct with
  | case1 => rfl
  | case2 => rfl
  | case3 n ih => simp [placeholders, ih]

end SqlAccess.Template
