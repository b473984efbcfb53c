import SqlAccess.Error

/-!
# The conversion registry

A registry says, for a column type and a target, how a value of such a column is converted.
The entry of a column type at `void` makes the value that stands for a missing one.

* `coerce` converts. A missing value is first replaced by the one that stands for it, so the
  converters of kinds never see a missing value.
* `converter_register` says what a registration changes: its own entry and nothing else.
-/

namespace SqlAccess

/-- Converts a value or says why not. -/
abbrev Converter := Value → StreamM ConversionError Value

/-- The conversions that are known. -/
structure Registry where
  converter : ColumnType → Target → Option Converter

namespace Registry

/-- The registry without conversions. -/
def empty : Registry := ⟨fun _ _ => none⟩

/-- Adds a conversion, in place of an earlier one of the same column type and target. -/
def register (r : Registry) (c : ColumnType) (t : Target) (f : Converter) : Registry :=
  ⟨fun c' t' => if c' = c ∧ t' = t then some f else r.converter c' t'⟩

/-- There is a conversion. -/
def isCompatible (r : Registry) (c : ColumnType) (t : Target) : Bool := (r.converter c t).isSome

/-- Converts with the entry of a column type and a target. -/
def apply (r : Registry) (v : Value) (c : ColumnType) (t : Target) : StreamM CoercionError Value :=
  match r.converter c t with
  | none => throw ⟨c, t, .unregistered⟩
  | some f => StreamM.mapError (fun e => ⟨c, t, .failed e⟩) (f v)

/-- Converts a value of a column type to a target. -/
def coerce (r : Registry) (v : Value) (c : ColumnType) (t : Target) :
    StreamM CoercionError Value :=
  if v.isNull then do
    let zero ← r.apply .null c .void
    if t = .void ∨ zero.isNull = true then return zero else r.apply zero c t
  else r.apply v c t

theorem converter_register (r : Registry) (c c' : ColumnType) (t t' : Target) (f : Converter) :
    (r.register c t f).converter c' t' =
      if c' = c ∧ t' = t then some f else r.converter c' t' := rfl

theorem converter_register_self (r : Registry) (c : ColumnType) (t : Target) (f : Converter) :
    (r.register c t f).converter c t = some f := by simp [register]

theorem coerce_of_not_isNull {r : Registry} {v : Value} (h : v.isNull = false) (c : ColumnType)
    (t : Target) : r.coerce v c t = r.apply v c t := by simp [coerce, h]

end Registry

end SqlAccess
