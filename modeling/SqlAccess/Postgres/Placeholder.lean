import SqlAccess.Number.Digits

/-!
# Numbered placeholders

The server wants its parameters numbered: the question marks outside quotes become `$1`, `$2`
and so on. A quote runs to the next quote of its kind; a doubled quote inside a text ends one
quote and starts the next, which comes to the same.
-/

namespace SqlAccess.Postgres

/-- Numbers the question marks outside quotes. `quote` is the quote the text is in, and `next`
the number of the next placeholder. -/
def numberFrom (quote : Option Char) (next : Nat) : List Char → List Char
  | [] => []
  | c :: rest =>
    match quote with
    | some q => c :: numberFrom (if c = q then none else some q) next rest
    | none =>
      if c = '?' then '$' :: Digits.ofNat next ++ numberFrom none (next + 1) rest
      else c :: numberFrom (if c = '\'' ∨ c = '"' then some c else none) next rest

/-- Numbers the placeholders of a statement from 1 on. -/
def numberPlaceholders (sql : String) : String := String.ofList (numberFrom none 1 sql.toList)

end SqlAccess.Postgres
