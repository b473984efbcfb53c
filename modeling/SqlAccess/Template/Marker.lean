import SqlAccess.Text.Blank

/-!
# Markers of a query template

A template is SQL text with markers in it. This module cuts a template into `Piece`s:

* a `Marker` is `?`, `??`, or a `#` followed by characters of the literal alphabet, the last
  one also in single quotes. A comma in front of a marker, with the blanks between them,
  belongs to the marker;
* quoted text is one piece. A doubled quote inside it stands for a quote. No marker is
  looked for inside, the quoted form `'#...'` of a marker excepted;
* every other character is a piece of its own.

`lexemes_pieces` says that the pieces spell the template: nothing is lost or added.
-/

namespace SqlAccess.Template

open SqlAccess.Text

/-- A marker as it is written. -/
inductive Marker where
  /-- One question mark: the next value. -/
  | param
  /-- Two question marks: the next group of values. -/
  | expand
  /-- A number sign and what follows it, possibly in single quotes. -/
  | hash (quoted : Bool) (content : List Char)
  deriving DecidableEq, Repr

/-- What a marker asks for. -/
inductive Role where
  /-- Bind the next value. -/
  | param
  /-- Bind the next group. -/
  | expand
  /-- Drop the next value. -/
  | skip
  /-- Write a text. -/
  | literal (text : List Char)
  deriving DecidableEq, Repr

namespace Marker

/-- The characters of the marker in the template. -/
def lexeme : Marker → List Char
  | param => ['?']
  | expand => ['?', '?']
  | hash true content => '\'' :: '#' :: content ++ ['\'']
  | hash false content => '#' :: content

/-- A number sign with nothing but blanks after it skips a value; otherwise the text after
it, trimmed, is written. -/
def role : Marker → Role
  | param => .param
  | expand => .expand
  | hash _ content => if trim content = [] then .skip else .literal (trim content)

end Marker

/-- The characters that may follow the number sign of a marker. -/
def isLiteralChar (c : Char) : Bool :=
  c.isAlphanum || c = '_' || c = '-' || c = '.' || c = ':' || c = '(' || c = ' '

/-- A stretch of a template. -/
inductive Piece where
  /-- One character that is copied. -/
  | char (c : Char)
  /-- Quoted text with its quotes, copied as a whole. -/
  | quoted (text : List Char)
  /-- A marker with the comma and blanks in front of it, if there are any. -/
  | marker (separator : List Char) (marker : Marker)
  deriving DecidableEq, Repr

/-- The characters of the piece in the template. -/
def Piece.lexeme : Piece → List Char
  | char c => [c]
  | quoted text => text
  | marker separator m => separator ++ m.lexeme

/-! ## Reading one piece -/

/-- Reads up to the end of a text quoted with `q`, whose opening quote is already read. The
text ends at the first quote that is not doubled. If there is none, it ends at the first
half of the last doubled quote, and without any quote it does not end. The answer holds the
closing quote in its first part. -/
def closeQuote (q : Char) : List Char → Option (List Char × List Char)
  | [] => none
  | [c] => if c = q then some ([c], []) else none
  | c :: d :: rest =>
    if c = q then
      if d = q then
        match closeQuote q rest with
        | some (text, after) => some (c :: d :: text, after)
        | none => some ([c], d :: rest)
      else some ([c], d :: rest)
    else
      (closeQuote q (d :: rest)).map fun (text, after) => (c :: text, after)

/-- Reads a marker at the front. -/
def readMarker : List Char → Option (Marker × List Char)
  | '?' :: '?' :: rest => some (.expand, rest)
  | '?' :: rest => some (.param, rest)
  | '#' :: rest => some (.hash false (rest.takeWhile isLiteralChar), rest.dropWhile isLiteralChar)
  | '\'' :: '#' :: rest =>
    match rest.dropWhile isLiteralChar with
    | '\'' :: after => some (.hash true (rest.takeWhile isLiteralChar), after)
    | _ => none
  | _ => none

/-- Reads a marker with the comma in front of it, if the text starts with a comma. -/
def readSeparated : List Char → Option (Piece × List Char)
  | ',' :: rest =>
    (readMarker (rest.dropWhile isBlank)).map fun (m, after) =>
      (.marker (',' :: rest.takeWhile isBlank) m, after)
  | cs => (readMarker cs).map fun (m, after) => (.marker [] m, after)

/-- Reads quoted text at the front. -/
def readQuoted : List Char → Option (Piece × List Char)
  | c :: rest =>
    if c = '\'' ∨ c = '"' then
      (closeQuote c rest).map fun (text, after) => (.quoted (c :: text), after)
    else none
  | [] => none

/-- Reads the piece that starts with `c`: a marker if there is one, else quoted text if it
is closed, else the character alone. -/
def readPiece (c : Char) (rest : List Char) : Piece × List Char :=
  ((readSeparated (c :: rest)).orElse fun _ => readQuoted (c :: rest)).getD (.char c, rest)

/-! ## The pieces spell the template -/

theorem closeQuote_append {q : Char} {cs text after : List Char}
    (h : closeQuote q cs = some (text, after)) : text ++ after = cs := by
  fun_induction closeQuote q cs generalizing text after with
  | case1 => simp at h
  | case2 => simp at h; simp [← h.1, ← h.2]
  | case3 => simp at h
  | case4 rest text' after' heq ih => simp at h; simp [← h.1, ← h.2, ih heq]
  | case5 rest heq => simp at h; simp [← h.1, ← h.2]
  | case6 d rest hd => simp at h; simp [← h.1, ← h.2]
  | case7 c d rest hc ih =>
    simp only [Option.map_eq_some_iff, Prod.exists, Prod.mk.injEq] at h
    obtain ⟨text', after', heq, rfl, rfl⟩ := h
    simp [ih heq]

theorem readMarker_append {cs after : List Char} {m : Marker}
    (h : readMarker cs = some (m, after)) : m.lexeme ++ after = cs := by
  unfold readMarker at h
  split at h
  · simp at h; simp [← h.1, ← h.2, Marker.lexeme]
  · simp at h; simp [← h.1, ← h.2, Marker.lexeme]
  · simp at h; simp [← h.1, ← h.2, Marker.lexeme]
  · split at h
    · rename_i rest _ _ heq
      simp at h
      have split := List.takeWhile_append_dropWhile (p := isLiteralChar) (l := rest)
      rw [heq] at split
      simp [← h.1, ← h.2, Marker.lexeme, split]
    · simp at h
  · simp at h

theorem readSeparated_append {cs after : List Char} {p : Piece}
    (h : readSeparated cs = some (p, after)) : p.lexeme ++ after = cs := by
  unfold readSeparated at h
  split at h
  · simp only [Option.map_eq_some_iff, Prod.exists, Prod.mk.injEq] at h
    obtain ⟨m, after', heq, rfl, rfl⟩ := h
    simp [Piece.lexeme, readMarker_append heq]
  · simp only [Option.map_eq_some_iff, Prod.exists, Prod.mk.injEq] at h
    obtain ⟨m, after', heq, rfl, rfl⟩ := h
    simp [Piece.lexeme, readMarker_append heq]

theorem readQuoted_append {cs after : List Char} {p : Piece}
    (h : readQuoted cs = some (p, after)) : p.lexeme ++ after = cs := by
  unfold readQuoted at h
  split at h
  · split at h
    · simp only [Option.map_eq_some_iff, Prod.exists, Prod.mk.injEq] at h
      obtain ⟨text, after', heq, rfl, rfl⟩ := h
      simp [Piece.lexeme, closeQuote_append heq]
    · simp at h
  · simp at h

theorem readPiece_append (c : Char) (rest : List Char) :
    (readPiece c rest).1.lexeme ++ (readPiece c rest).2 = c :: rest := by
  unfold readPiece
  cases hs : readSeparated (c :: rest) with
  | some r => exact readSeparated_append hs
  | none =>
    cases hq : readQuoted (c :: rest) with
    | some r => exact readQuoted_append hq
    | none => simp [Piece.lexeme]

theorem Marker.lexeme_ne_nil (m : Marker) : m.lexeme ≠ [] := by
  rcases m with _ | _ | ⟨_ | _, content⟩ <;> simp [Marker.lexeme]

theorem readQuoted_lexeme_ne_nil {cs after : List Char} {p : Piece}
    (h : readQuoted cs = some (p, after)) : p.lexeme ≠ [] := by
  unfold readQuoted at h
  split at h
  · split at h
    · simp only [Option.map_eq_some_iff, Prod.exists, Prod.mk.injEq] at h
      obtain ⟨text, after', _, rfl, _⟩ := h
      simp [Piece.lexeme]
    · simp at h
  · simp at h

theorem readSeparated_lexeme_ne_nil {cs after : List Char} {p : Piece}
    (h : readSeparated cs = some (p, after)) : p.lexeme ≠ [] := by
  unfold readSeparated at h
  split at h <;>
  · simp only [Option.map_eq_some_iff, Prod.exists, Prod.mk.injEq] at h
    obtain ⟨m, after', _, rfl, _⟩ := h
    simp [Piece.lexeme, m.lexeme_ne_nil]

/-- Every piece takes at least one character. -/
theorem readPiece_lexeme_ne_nil (c : Char) (rest : List Char) :
    (readPiece c rest).1.lexeme ≠ [] := by
  unfold readPiece
  cases hs : readSeparated (c :: rest) with
  | some r => exact readSeparated_lexeme_ne_nil hs
  | none =>
    cases hq : readQuoted (c :: rest) with
    | some r => exact readQuoted_lexeme_ne_nil hq
    | none => simp [Piece.lexeme]

theorem readPiece_length_le (c : Char) (rest : List Char) :
    (readPiece c rest).2.length ≤ rest.length := by
  have spelled := congrArg List.length (readPiece_append c rest)
  have taken := List.length_pos_iff.2 (readPiece_lexeme_ne_nil c rest)
  simp only [List.length_append, List.length_cons] at spelled
  omega

/-! ## Reading a whole template -/

/-- The pieces of a template, in order. -/
def pieces : List Char → List Piece
  | [] => []
  | c :: rest => (readPiece c rest).1 :: pieces (readPiece c rest).2
  termination_by cs => cs.length
  decreasing_by simpa [Nat.lt_succ_iff] using readPiece_length_le c rest

@[simp] theorem pieces_nil : pieces [] = [] := by rw [pieces]

/-- The pieces spell the template. -/
theorem lexemes_pieces (cs : List Char) : (pieces cs).flatMap Piece.lexeme = cs := by
  fun_induction pieces cs with
  | case1 => rfl
  | case2 c rest ih => rw [List.flatMap_cons, ih, readPiece_append]

/-- What the markers of a template ask for, in order. -/
def roles (ps : List Piece) : List Role :=
  ps.filterMap fun
    | .marker _ m => some m.role
    | _ => none

end SqlAccess.Template
