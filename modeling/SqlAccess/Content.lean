import SqlAccess.Value

/-!
# Contents

What a value shows when it is written out. A stream shows what is left of it, and is read to
its end by that; every other value shows itself.
-/

namespace SqlAccess

/-- A value with its streams read. -/
inductive Content where
  | plain (v : Value)
  /-- The bytes of a stream, or why it cannot be read. -/
  | blob (read : Except String (List UInt8))
  /-- The text of a stream, or why it cannot be read. -/
  | clob (read : Except String String)

/-- Reads the value's stream to the end, if it has one. -/
def Value.content : Value → StateM Streams Content
  | .blob s => do return .blob (← (StreamM.readAll s).run)
  | .clob s => do return .clob (← (StreamM.readText s).run)
  | v => return .plain v

end SqlAccess
