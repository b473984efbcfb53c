import SqlAccess.Registry.Basic
import SqlAccess.Text.Case

/-!
# Converters for custom entries

Small converters that an application can register for column types and targets of its own.
-/

namespace SqlAccess.Converter

/-- Hands the value on. -/
def identity : Converter := fun v => pure v

/-- Gives the same value for every value. -/
def constant (v : Value) : Converter := fun _ => pure v

/-- Refuses every value. -/
def refuse (reason : String) : Converter := fun _ => throw (.refused reason)

/-- The reason for refusing a value because of its kind. -/
def unexpected (v : Value) : ConversionError := .refused s!"unexpected {kindName v.kind}"

/-- The name of the value's kind. -/
def kindText : Converter := fun v => pure (.text (kindName v.kind))

/-- A text in upper case. -/
def upperCase : Converter
  | .text s => pure (.text (Text.upper s))
  | v => throw (unexpected v)

/-- Bytes read as UTF-8. -/
def decodeText : Converter
  | .bytes bs =>
    match Utf8.ofBytes? bs with
    | some s => pure (.text s)
    | none => throw (.refused "not utf8")
  | v => throw (unexpected v)

end SqlAccess.Converter
