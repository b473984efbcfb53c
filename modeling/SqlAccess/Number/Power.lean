/-!
# Powers

A power `x ^ n` of a number is always the one of the core library. Another library may bring a
power of its own for the same types. Both give the same number, but a definition should say the
same wherever it is read.
-/

namespace SqlAccess

attribute [instance (high), default_instance 20000] instPowNat

end SqlAccess
