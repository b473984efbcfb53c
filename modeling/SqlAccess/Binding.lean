import SqlAccess.Registry.Basic

/-!
# Binding values to parameters

Values are bound to the positions 1, 2, 3, … in order, each through the binder's setter. Two
kinds have no setter and are converted first: character data goes through the registry's
conversion of CHAR columns to text, and an integer of 128 bits becomes a decimal.

* `bindFrom` stops at the first value that is not accepted. What was set before stays set, and
  no later position is touched.
* `captured_of_plain`: a value of any other kind reaches the setter as it is.
-/

namespace SqlAccess

/-- Sets the value of a position. A binder that refuses stays as it was. -/
abbrev Setter (β : Type) := β → Nat → Value → StreamM Error β

namespace Binding

/-- An integer as the decimal of the same number. -/
def wideInteger (position : Nat) (n : Int) : Except Error Value :=
  match Decimal.ofInt? n with
  | some d => .ok (.decimal d)
  | none => .error (.bind position (if n < 0 then .belowDecimal else .aboveDecimal))

/-- What the registry makes of character data, which has to be a text. -/
def convertedText (position : Nat) : Except CoercionError Value → Except Error Value
  | .ok (.text s) => .ok (.text s)
  | .ok v => .error (.bind position (.charactersConverted v.kind))
  | .error e => .error (.bind position (.charactersFailed e))

/-- The value that the setter of a position receives. -/
def captured (r : Registry) (position : Nat) : Value → StreamM Error Value
  | .int .w128 n => StreamM.ofExcept (wideInteger position n.val)
  | .chars cs => fun ss =>
    let (converted, ss') := (r.coerce (.chars cs) .char (.host .text)).run ss
    (convertedText position converted, ss')
  | v => pure v

/-- Binds values to the positions from `position` on. -/
def bindFrom {β : Type} (r : Registry) (set : Setter β) :
    Nat → List Value → β → StateM Streams (Except Error Unit × β)
  | _, [], b => pure (.ok (), b)
  | position, v :: vs, b => fun ss =>
    match (captured r position v >>= set b position) ss with
    | (.ok b', ss') => bindFrom r set (position + 1) vs b' ss'
    | (.error e, ss') => ((.error e, b), ss')

/-- Binds values to the positions from 1 on. -/
def bindAll {β : Type} (r : Registry) (set : Setter β) (values : List Value) (b : β) :
    StateM Streams (Except Error Unit × β) :=
  bindFrom r set 1 values b

/-- A setter that takes no streams. They are refused unread. -/
def withoutStreams {β : Type} (set : Setter β) : Setter β
  | _, position, .blob _ => throw (.bind position (.unsupportedStream .blob))
  | _, position, .clob _ => throw (.bind position (.unsupportedStream .clob))
  | b, position, v => set b position v

/-! ## A binder that takes notes -/

/-- The calls of a setter so far, with position and value. -/
abbrev Notes := List (Nat × Value)

/-- Notes every call. At `refusedAt`, the call is refused in the words of `message` instead. -/
def noting (refusedAt : Option Nat) (message : String) : Setter Notes := fun notes position v =>
  if refusedAt = some position then throw (.query (.reported message))
  else pure (notes ++ [(position, v)])

theorem captured_of_plain (r : Registry) (position : Nat) {v : Value}
    (wide : ∀ n, v ≠ .int .w128 n) (characters : ∀ cs, v ≠ .chars cs) :
    captured r position v = pure v := by
  unfold captured
  split
  · exact absurd rfl (wide _)
  · exact absurd rfl (characters _)
  · rfl

end Binding

end SqlAccess
