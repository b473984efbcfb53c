import SqlAccess.Text.Utf8

/-!
# Streams

A stream is a source of bytes that is read once. A value that holds a stream holds its handle
only, so all copies of the value share the stream: what one of them reads, none of the others
reads again. The bytes that are still to come are kept in `Streams`, one entry for each handle,
and every operation that may read a stream runs in `StreamM`.

* `Stream.read_append`: reading some bytes takes them from the front and leaves the others.
* `Stream.readAll_rest`: reading to the end leaves nothing.
-/

namespace SqlAccess

/-- What is left of a stream. -/
structure Stream where
  /-- The bytes still to come. -/
  rest : List UInt8
  /-- The message of every read at the end, if the end cannot be reached. -/
  failure : Option String
  /-- The bytes are a text in memory, and stay where they are when they cannot be decoded. -/
  inMemory : Bool
  deriving DecidableEq, Repr

namespace Stream

def empty : Stream := ⟨[], none, true⟩

/-- A stream of bytes in memory. -/
def ofBytes (bytes : List UInt8) : Stream := ⟨bytes, none, true⟩

/-- A stream of a text in memory. -/
def ofText (s : String) : Stream := ⟨Utf8.toBytes s, none, true⟩

/-- Reads up to `count` bytes at once: all of them, if there are so many. A source that hands out
fewer bytes than it is asked for is read with a smaller count. -/
def read (s : Stream) (count : Nat) : Except String (List UInt8) × Stream :=
  match s.rest, s.failure with
  | [], some message => (.error message, s)
  | _, _ => (.ok (s.rest.take count), { s with rest := s.rest.drop count })

/-- Reads to the end. The bytes are taken also when the end fails. -/
def readAll (s : Stream) : Except String (List UInt8) × Stream :=
  (match s.failure with
    | some message => .error message
    | none => .ok s.rest, { s with rest := [] })

/-- The message for bytes that are not UTF-8. -/
def undecodable : String := "stream did not contain valid UTF-8"

/-- Reads to the end as text. -/
def readText (s : Stream) : Except String String × Stream :=
  match s.failure, Utf8.ofBytes? s.rest with
  | some message, _ => (.error message, { s with rest := [] })
  | none, some text => (.ok text, { s with rest := [] })
  | none, none => (.error undecodable, if s.inMemory then s else { s with rest := [] })

theorem read_append {s : Stream} {count : Nat} {bytes : List UInt8}
    (h : (s.read count).1 = .ok bytes) : bytes ++ (s.read count).2.rest = s.rest := by
  unfold read at h ⊢
  split at h
  · simp at h
  · simp only [Except.ok.injEq] at h
    rw [← h]
    exact List.take_append_drop count s.rest

theorem readAll_rest (s : Stream) : s.readAll.2.rest = [] := rfl

end Stream

/-- Names a stream. -/
abbrev StreamId := Nat

/-- What is left of each stream; the handle is the position. -/
structure Streams where
  entries : List Stream
  deriving DecidableEq, Repr

namespace Streams

def empty : Streams := ⟨[]⟩

instance : Inhabited Streams := ⟨empty⟩

/-- The stream of a handle. -/
def get (ss : Streams) (id : StreamId) : Stream := (ss.entries[id]?).getD .empty

/-- The streams after one of them has changed. -/
def set (ss : Streams) (id : StreamId) (s : Stream) : Streams := ⟨ss.entries.set id s⟩

/-- A new stream and its handle. -/
def add (ss : Streams) (s : Stream) : StreamId × Streams :=
  (ss.entries.length, ⟨ss.entries ++ [s]⟩)

end Streams

/-- A computation that may read streams and may fail with an `ε`. What it has read stays read
also when it fails. -/
abbrev StreamM (ε α : Type) := ExceptT ε (StateM Streams) α

namespace StreamM

/-- Runs a computation on the streams as they are now. -/
def run {ε α : Type} (m : StreamM ε α) (ss : Streams) : Except ε α × Streams := m ss

/-- Fails for another reason. -/
def mapError {ε ε' α : Type} (f : ε → ε') (m : StreamM ε α) : StreamM ε' α := fun ss =>
  match m ss with
  | (.ok a, ss') => (.ok a, ss')
  | (.error e, ss') => (.error (f e), ss')

/-- The result of a computation that reads no stream. -/
def ofExcept {ε α : Type} (r : Except ε α) : StreamM ε α := fun ss => (r, ss)

/-- Makes a stream. -/
def newStream {ε : Type} (s : Stream) : StreamM ε StreamId := fun ss =>
  let (id, ss') := ss.add s
  (.ok id, ss')

/-- Applies a reading operation to the stream of a handle. -/
def onStream {α : Type} (f : Stream → Except String α × Stream) (id : StreamId) :
    StreamM String α := fun ss =>
  let (r, s) := f (ss.get id)
  (r, ss.set id s)

/-- Reads up to `count` bytes. -/
def read (id : StreamId) (count : Nat) : StreamM String (List UInt8) :=
  onStream (·.read count) id

/-- Reads to the end. -/
def readAll (id : StreamId) : StreamM String (List UInt8) := onStream Stream.readAll id

/-- Reads to the end as text. -/
def readText (id : StreamId) : StreamM String String := onStream Stream.readText id

end StreamM

end SqlAccess
