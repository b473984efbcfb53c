import SqlAccess.Calendar.Date
import SqlAccess.Number.Power

/-!
# Times of day and timestamps

A time of day is a second of the day and nanoseconds after its start. A leap second is told
as the second before it with one to two thousand million nanoseconds. A timestamp is an
instant in UTC: whole seconds since 1970-01-01T00:00:00Z, rounded down, and nanoseconds.
-/

namespace SqlAccess

def secondsPerDay : Nat := 86400

def nanosPerSecond : Nat := 1000000000

/-- A time of day. -/
structure TimeOfDay where
  /-- Whole seconds since midnight. -/
  seconds : Nat
  nanos : Nat
  seconds_lt : seconds < secondsPerDay
  nanos_lt : nanos < 2 * nanosPerSecond

namespace TimeOfDay

theorem ext {a b : TimeOfDay} (hs : a.seconds = b.seconds) (hn : a.nanos = b.nanos) : a = b := by
  cases a; cases b; simp_all

instance : DecidableEq TimeOfDay := fun a b =>
  if h : a.seconds = b.seconds ∧ a.nanos = b.nanos then .isTrue (ext h.1 h.2)
  else .isFalse fun e => h (by simp [e])

/-- The time with these parts, if they are in range. -/
def ofParts? (seconds nanos : Nat) : Option TimeOfDay :=
  if h : seconds < secondsPerDay ∧ nanos < 2 * nanosPerSecond then
    some ⟨seconds, nanos, h.1, h.2⟩
  else none

def midnight : TimeOfDay := ⟨0, 0, by decide, by decide⟩

instance : Inhabited TimeOfDay := ⟨midnight⟩

/-- The fraction of a second with three, six or nine digits, the fewest that are exact; nothing
for zero. -/
def fractionText (nanos : Nat) : List Char :=
  if nanos = 0 then []
  else if nanos % 1000000 = 0 then '.' :: Digits.padded 3 (nanos / 1000000)
  else if nanos % 1000 = 0 then '.' :: Digits.padded 6 (nanos / 1000)
  else '.' :: Digits.padded 9 nanos

/-- Hours, minutes and seconds, and the fraction if there is one. A leap second adds one to the
second, which then can be 60. -/
def toText (t : TimeOfDay) : List Char :=
  Digits.padded 2 (t.seconds / 3600) ++ ':' :: Digits.padded 2 (t.seconds / 60 % 60) ++
    ':' :: Digits.padded 2 (t.seconds % 60 + t.nanos / nanosPerSecond) ++
    fractionText (t.nanos % nanosPerSecond)

end TimeOfDay

/-- An instant in UTC of the supported years. -/
structure Timestamp where
  /-- Whole seconds since 1970-01-01T00:00:00Z, rounded down. -/
  seconds : Int
  nanos : Nat
  ge : firstDay * secondsPerDay ≤ seconds
  lt : seconds < (lastDay + 1) * secondsPerDay
  nanos_lt : nanos < 2 * nanosPerSecond

namespace Timestamp

theorem ext {a b : Timestamp} (hs : a.seconds = b.seconds) (hn : a.nanos = b.nanos) : a = b := by
  cases a; cases b; simp_all

instance : DecidableEq Timestamp := fun a b =>
  if h : a.seconds = b.seconds ∧ a.nanos = b.nanos then .isTrue (ext h.1 h.2)
  else .isFalse fun e => h (by simp [e])

/-- The instant with these parts, if they are in range. -/
def ofParts? (seconds : Int) (nanos : Nat) : Option Timestamp :=
  if h : firstDay * secondsPerDay ≤ seconds ∧ seconds < (lastDay + 1) * secondsPerDay ∧
      nanos < 2 * nanosPerSecond then
    some ⟨seconds, nanos, h.1, h.2.1, h.2.2⟩
  else none

/-- 1970-01-01T00:00:00Z -/
def epoch : Timestamp := ⟨0, 0, by decide, by decide, by decide⟩

instance : Inhabited Timestamp := ⟨epoch⟩

/-- Whole milliseconds since 1970-01-01T00:00:00Z, rounded down. -/
def millis (t : Timestamp) : Int := t.seconds * 1000 + (t.nanos / 1000000 : Nat)

theorem millis_range (t : Timestamp) : -2 ^ 63 ≤ t.millis ∧ t.millis < 2 ^ 63 := by
  have h₁ := t.ge; have h₂ := t.lt; have h₃ := t.nanos_lt
  simp only [millis, firstDay, lastDay, secondsPerDay, nanosPerSecond] at *
  omega

/-- The clock of a place that is `offset` seconds ahead of UTC, read as if it were UTC. -/
def shifted? (t : Timestamp) (offset : Int) : Option Timestamp :=
  ofParts? (t.seconds + offset) t.nanos

/-- Date and time with a `T` between them, and the offset of UTC. -/
def toText (t : Timestamp) : List Char :=
  let days := t.seconds.fdiv secondsPerDay
  let seconds := (t.seconds.fmod secondsPerDay).toNat
  let date := ((Date.ofDays? days).getD default).toText
  let time := ((TimeOfDay.ofParts? seconds t.nanos).getD default).toText
  date ++ 'T' :: time ++ ['+', '0', '0', ':', '0', '0']

end Timestamp

end SqlAccess
