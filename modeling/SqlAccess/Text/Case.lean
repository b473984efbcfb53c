import SqlAccess.Text.CaseTables

/-!
# Letter case

The full case mappings of Unicode, independent of language. A capital sigma becomes the final
form of the small one at the end of a word, and a capital I with a dot becomes two characters;
in upper case many more characters become several.
-/

namespace SqlAccess.Text

/-- Some range holds the character. -/
def inRanges (ranges : List (Nat × Nat)) (c : Char) : Bool :=
  ranges.any fun r => r.1 ≤ c.toNat && c.toNat ≤ r.2

/-- The character is a letter with case. -/
def isCased (c : Char) : Bool :=
  if c.toNat < 128 then c.isAlpha else inRanges casedRanges c

/-- The character does not end a word when a letter's place in it is looked for. -/
def isCaseIgnorable (c : Char) : Bool := inRanges caseIgnorableRanges c

/-- The character that a table of ranges gives. -/
def mapByRanges (ranges : List CaseRange) (c : Char) : Char :=
  match ranges.find? (·.contains c.toNat) with
  | some r => Char.ofNat (c.toNat + r.shift).toNat
  | none => c

/-- The lower-case form of a character by itself. -/
def lowerChar (c : Char) : List Char :=
  if c.toNat < 128 then [c.toLower]
  else if c = 'İ' then ['i', Char.ofNat 0x307]
  else [mapByRanges lowerRanges c]

/-- The upper-case form of a character. -/
def upperChar (c : Char) : List Char :=
  if c.toNat < 128 then [c.toUpper]
  else match upperSequences.find? (·.1 == c.toNat) with
    | some (_, cs) => cs.map Char.ofNat
    | none => [mapByRanges upperRanges c]

/-- After characters without influence, the text goes on with a letter. -/
def meetsLetter (cs : List Char) : Bool :=
  ((cs.dropWhile isCaseIgnorable).head?.map isCased).getD false

/-- Maps a text to lower case. `before` holds the characters in front of it, the nearest one
first: a sigma with a letter before it and none after it is final. -/
def lowerFrom (before : List Char) : List Char → List Char
  | [] => []
  | c :: rest =>
    (if c = 'Σ' then
        [if meetsLetter before && !meetsLetter rest then 'ς' else 'σ']
      else lowerChar c) ++ lowerFrom (c :: before) rest

/-- The text in lower case. -/
def lower (s : String) : String := String.ofList (lowerFrom [] s.toList)

/-- The text in upper case. -/
def upper (s : String) : String := String.ofList (s.toList.flatMap upperChar)

end SqlAccess.Text
