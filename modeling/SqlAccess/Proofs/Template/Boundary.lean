import SqlAccess.Proofs.Template.Reading

/-!
# Where a template can be cut

Pieces are read from left to right, and a piece takes as much as it can. So a template falls into
the pieces of its two halves only if nothing in front of the cut goes on behind it: a quoted text,
a question mark, the text of a number sign or the separator of a marker.

* `Parted` says that none of these goes on, and `pieces_append` that the pieces are then those of
  the two halves.
* `pieces_marker` reads a marker with the separator in front of it.
* `not_endsInSeparator`: a marker without a separator has no comma and blanks in front of it that
  it could have taken.
-/

namespace SqlAccess.Template

open SqlAccess.Text

/-- The text ends with a comma and blanks, which a marker behind it would take. -/
def EndsInSeparator (cs : List Char) : Prop :=
  ∃ front blanks, cs = front ++ ',' :: blanks ∧ ∀ b ∈ blanks, isBlank b = true

/-- Nothing in the text in front goes on in the text behind it, which starts with `c`. -/
structure Parted (front : List Char) (c : Char) (behind : List Char) : Prop where
  /-- All quotes in front are closed. -/
  closed : quoteAfter none front = none
  /-- The last one of them is not doubled. -/
  undoubled : IsQuote c → front.getLast? ≠ some c
  /-- Nor is a question mark. -/
  single : c = '?' → front.getLast? ≠ some '?'
  /-- The text of a number sign ends. -/
  literal : '#' ∈ front → isLiteralChar c = false
  /-- No marker behind takes a comma in front. -/
  unseparated : EndsInSeparator front → isBlank c = false ∧ readMarker (c :: behind) = none

/-- A comma and a space are a separator. -/
theorem isSeparator_comma_space : IsSeparator [',', ' '] := by
  refine Or.inr ⟨[' '], rfl, fun b mem => ?_⟩
  rw [List.mem_singleton.1 mem]
  decide

/-! ## Taking characters up to the cut -/

section

variable {p : Char → Bool} {tail : List Char} (stops : ∀ c ∈ tail.head?, p c = false)
include stops

theorem takeWhile_append_of_stops (cs : List Char) :
    (cs ++ tail).takeWhile p = cs.takeWhile p := by
  induction cs with
  | nil =>
    cases tail with
    | nil => rfl
    | cons c tail => simp [stops c rfl]
  | cons c cs ih => simp [List.takeWhile_cons, ih]

theorem dropWhile_append_of_stops (cs : List Char) :
    (cs ++ tail).dropWhile p = cs.dropWhile p ++ tail := by
  induction cs with
  | nil =>
    cases tail with
    | nil => rfl
    | cons c tail => simp [stops c rfl]
  | cons c cs ih =>
    rw [List.cons_append, List.dropWhile_cons, List.dropWhile_cons, ih]
    split <;> rfl

end

section

variable {p : Char → Bool} {cs : List Char} (left : cs.dropWhile p ≠ []) (tail : List Char)
include left

theorem takeWhile_append_of_left : (cs ++ tail).takeWhile p = cs.takeWhile p := by
  induction cs with
  | nil => exact absurd rfl left
  | cons c cs ih =>
    rw [List.cons_append, List.takeWhile_cons, List.takeWhile_cons]
    split
    case isTrue taken =>
      rw [List.dropWhile_cons_of_pos taken] at left
      rw [ih left]
    case isFalse => rfl

theorem dropWhile_append_of_left : (cs ++ tail).dropWhile p = cs.dropWhile p ++ tail := by
  rw [List.dropWhile_append, if_neg (by simpa using left)]

end

/-! ## Texts and their ends -/

/-- What a text does not end with, none of its ends ends with. -/
theorem getLast?_ne_of_append (cs : List Char) {ds : List Char} {c : Char}
    (ne : (cs ++ ds).getLast? ≠ some c) : ds.getLast? ≠ some c := by
  intro last
  rw [List.getLast?_append, last] at ne
  exact ne rfl

theorem EndsInSeparator.append {cs : List Char} (ends : EndsInSeparator cs) (front : List Char) :
    EndsInSeparator (front ++ cs) := by
  obtain ⟨before, blanks, rfl, blank⟩ := ends
  exact ⟨front ++ before, blanks, (List.append_assoc front before _).symm, blank⟩

/-- A marker closes the quotes that it opens. -/
theorem quoteAfter_marker {m : Marker} (written : m.Written) : quoteAfter none m.lexeme = none := by
  cases m with
  | param => rfl
  | expand => rfl
  | hash quoted content =>
    have plain : ∀ c ∈ '#' :: content, ¬IsQuote c := by
      intro c mem
      rcases List.mem_cons.1 mem with rfl | mem
      · decide
      · exact not_isQuote_of_isLiteralChar (written c mem)
    cases quoted with
    | false => exact quoteAfter_of_plain plain
    | true =>
      have inside : quoteAfter (some '\'') ('#' :: content) = some '\'' :=
        quoteAfter_of_not_mem fun mem => plain _ mem (by decide)
      show quoteAfter none ('\'' :: (('#' :: content) ++ ['\''])) = none
      rw [quoteAfter_cons, quoteStep_of_isQuote (by decide), quoteAfter_append, inside]
      rfl

theorem quoteAfter_separator {separator : List Char} (isSeparator : IsSeparator separator) :
    quoteAfter none separator = none := by
  rcases isSeparator with rfl | ⟨blanks, rfl, blank⟩
  · rfl
  · rw [quoteAfter_cons, quoteStep_of_not_isQuote (by decide)]
    exact quoteAfter_of_plain fun c mem => not_isQuote_of_isBlank (blank c mem)

/-- Blanks open and close no quotes. -/
theorem quoteAfter_dropWhile_isBlank (cs : List Char) :
    quoteAfter none (cs.dropWhile isBlank) = quoteAfter none cs := by
  have blanks : quoteAfter none (cs.takeWhile isBlank) = none :=
    quoteAfter_of_plain fun c mem => not_isQuote_of_isBlank (List.mem_takeWhile_imp mem)
  have spelled := quoteAfter_append none (cs.takeWhile isBlank) (cs.dropWhile isBlank)
  rw [List.takeWhile_append_dropWhile, blanks] at spelled
  exact spelled.symm

/-- A piece of a text whose quotes are closed leaves them closed. -/
theorem quoteAfter_readPiece {c : Char} {cs : List Char}
    (closed : quoteAfter none (c :: cs) = none) :
    quoteAfter none (readPiece c cs).2 = none := by
  have spelled := readPiece_append c cs
  suffices outside : quoteAfter none (readPiece c cs).1.lexeme = none by
    rw [← spelled, quoteAfter_append, outside] at closed
    exact closed
  rcases read : readPiece c cs with ⟨p, after⟩
  rcases readPiece_cases read with ⟨separator, m, rfl, isSeparator, written⟩ |
    ⟨body, rfl, isQuote, closes⟩ | ⟨rfl, rfl, -, -, alone⟩
  · show quoteAfter none (separator ++ m.lexeme) = none
    rw [quoteAfter_append, quoteAfter_separator isSeparator, quoteAfter_marker written]
  · obtain ⟨content, rfl, escaped⟩ := closeQuote_escaped closes
    show quoteAfter none (c :: (content ++ [c])) = none
    rw [quoteAfter_cons, quoteStep_of_isQuote isQuote, quoteAfter_append,
      escaped.quoteAfter isQuote, quoteAfter_cons, quoteStep_self]
    rfl
  · show quoteAfter none [c] = none
    by_cases isQuote : IsQuote c
    · rw [quoteAfter_cons, quoteStep_of_isQuote isQuote,
        quoteAfter_of_not_mem (alone isQuote)] at closed
      cases closed
    · rw [quoteAfter_cons, quoteStep_of_not_isQuote isQuote]
      rfl

/-! ## One piece in front of the cut -/

theorem closeQuote_cons_of_ne {q c : Char} (ne : c ≠ q) (cs : List Char) :
    closeQuote q (c :: cs) =
      (closeQuote q cs).map fun (text, after) => (c :: text, after) := by
  cases cs <;> simp [closeQuote, ne]

/-- A quoted text that is closed in front of the cut ends there, if its last quote is not
doubled. -/
theorem closeQuote_append_of_undoubled {opening c : Char} (isQuote : IsQuote opening)
    {cs tail : List Char} (closed : quoteAfter (some opening) cs = none)
    (undoubled : IsQuote c → cs.getLast? ≠ some c) :
    closeQuote opening (cs ++ c :: tail) =
      (closeQuote opening cs).map fun (text, after) => (text, after ++ c :: tail) := by
  fun_induction closeQuote opening cs with
  | case1 => cases closed
  | case2 =>
    have ne : c ≠ opening := by
      rintro rfl
      exact undoubled isQuote rfl
    simp [closeQuote, ne]
  | case3 d ne =>
    rw [quoteAfter_cons, quoteStep_of_ne ne] at closed
    cases closed
  | case4 rest text after found ih =>
    rw [quoteAfter_cons, quoteAfter_cons, quoteStep_self, quoteStep_of_isQuote isQuote] at closed
    have rest_closes := ih closed fun quote => getLast?_ne_of_append [_, _] (undoubled quote)
    simp [closeQuote, rest_closes, found]
  | case5 rest found ih =>
    rw [quoteAfter_cons, quoteAfter_cons, quoteStep_self, quoteStep_of_isQuote isQuote,
      quoteAfter_of_not_mem (closeQuote_eq_none_iff.1 found)] at closed
    cases closed
  | case6 d rest ne => simp [closeQuote, ne]
  | case7 d e rest ne ih =>
    rw [quoteAfter_cons, quoteStep_of_ne ne] at closed
    have rest_closes := ih closed fun quote => getLast?_ne_of_append [d] (undoubled quote)
    rw [List.cons_append, closeQuote_cons_of_ne ne, rest_closes, Option.map_map, Option.map_map]
    rfl

/-- A quoted marker whose quotes are closed in front of the cut ends there. -/
theorem readMarker_quoted_append {rest tail : List Char}
    (closed : quoteAfter none ('\'' :: '#' :: rest) = none)
    (stops : ∀ d ∈ tail.head?, isLiteralChar d = false) :
    readMarker ('\'' :: '#' :: (rest ++ tail)) =
      (readMarker ('\'' :: '#' :: rest)).map fun (m, after) => (m, after ++ tail) := by
  simp only [readMarker, takeWhile_append_of_stops stops, dropWhile_append_of_stops stops]
  cases left : rest.dropWhile isLiteralChar with
  | nil =>
    -- the quote in front of the number sign would still be open
    have plain : ∀ c ∈ rest, isLiteralChar c = true := List.dropWhile_eq_nil_iff.1 left
    have isOpen : quoteAfter (some '\'') rest = some '\'' :=
      quoteAfter_of_not_mem fun mem => absurd (plain _ mem) (by decide)
    exact absurd (isOpen.symm.trans closed) (by decide)
  | cons e left =>
    by_cases ends : e = '\''
    · simp [ends]
    · simp [ends]

/-- A marker that is read in front of the cut ends there. -/
theorem readMarker_append_of_closed {front : List Char} {c : Char} (nonempty : front ≠ [])
    (closed : quoteAfter none front = none) (single : c = '?' → front.getLast? ≠ some '?')
    (literal : '#' ∈ front → isLiteralChar c = false) (tail : List Char) :
    readMarker (front ++ c :: tail) =
      (readMarker front).map fun (m, after) => (m, after ++ c :: tail) := by
  have stops (hash : '#' ∈ front) : ∀ d ∈ (c :: tail).head?, isLiteralChar d = false := by
    rintro d ⟨⟩
    exact literal hash
  obtain ⟨d, rest, rfl⟩ := List.exists_cons_of_ne_nil nonempty
  by_cases param : d = '?'
  · subst param
    cases rest with
    | nil =>
      have ne : c ≠ '?' := fun same => single same rfl
      simp [readMarker, ne]
    | cons e rest =>
      by_cases expand : e = '?'
      · simp [readMarker, expand]
      · simp [readMarker, expand]
  by_cases hash : d = '#'
  · subst hash
    have stops := stops (by simp)
    simp [readMarker, takeWhile_append_of_stops stops, dropWhile_append_of_stops stops]
  by_cases quote : d = '\''
  · subst quote
    cases rest with
    | nil => cases closed
    | cons e rest =>
      by_cases hash : e = '#'
      · subst hash
        exact readMarker_quoted_append closed (stops (by simp))
      · simp [readMarker, hash]
  · simp [readMarker, param, hash, quote]

section

variable {c : Char} {front tail : List Char}

/-- The same with a comma in front of the marker. -/
theorem Parted.readSeparated_ends (parted : Parted front c tail) (nonempty : front ≠ []) :
    readSeparated (front ++ c :: tail) =
      (readSeparated front).map fun (p, after) => (p, after ++ c :: tail) := by
  obtain ⟨d, rest, rfl⟩ := List.exists_cons_of_ne_nil nonempty
  by_cases comma : d = ','
  · subst comma
    by_cases blank : rest.dropWhile isBlank = []
    · -- only blanks are left in front of the cut, and no marker stands behind it
      have blanks : ∀ b ∈ rest, isBlank b = true := by
        simpa [List.dropWhile_eq_nil_iff] using blank
      obtain ⟨visible, noMarker⟩ := parted.unseparated ⟨[], rest, rfl, blanks⟩
      have stops : ∀ d ∈ (c :: tail).head?, isBlank d = false := by
        rintro d ⟨⟩
        exact visible
      simp only [List.cons_append, readSeparated, dropWhile_append_of_stops stops, blank,
        List.nil_append, noMarker]
      rfl
    · have closed : quoteAfter none (rest.dropWhile isBlank) = none := by
        have closed := parted.closed
        rwa [quoteAfter_cons, quoteStep_of_not_isQuote (by decide),
          ← quoteAfter_dropWhile_isBlank] at closed
      have spelled : ',' :: rest = (',' :: rest.takeWhile isBlank) ++ rest.dropWhile isBlank := by
        rw [List.cons_append, List.takeWhile_append_dropWhile]
      have read := readMarker_append_of_closed blank closed
        (fun same => getLast?_ne_of_append _ (spelled ▸ parted.single same))
        (fun hash => parted.literal (spelled ▸ List.mem_append_right _ hash))
      simp only [List.cons_append, readSeparated, takeWhile_append_of_left blank,
        dropWhile_append_of_left blank, read]
      cases readMarker (rest.dropWhile isBlank) <;> rfl
  · have separated (cs : List Char) :
        readSeparated (d :: cs) = (readMarker (d :: cs)).map fun (m, after) =>
          (.marker [] m, after) := by
      simp [readSeparated, comma]
    rw [List.cons_append, separated, separated, ← List.cons_append,
      readMarker_append_of_closed nonempty parted.closed parted.single parted.literal]
    cases readMarker (d :: rest) <;> rfl

/-- A piece that is read in front of the cut ends there. -/
theorem Parted.readPiece_ends {d : Char} (parted : Parted (d :: front) c tail) :
    readPiece d (front ++ c :: tail) =
      ((readPiece d front).1, (readPiece d front).2 ++ c :: tail) := by
  have separated := parted.readSeparated_ends (List.cons_ne_nil d front)
  have quoted : readQuoted (d :: front ++ c :: tail) =
      (readQuoted (d :: front)).map fun (p, after) => (p, after ++ c :: tail) := by
    rw [List.cons_append, readQuoted_cons, readQuoted_cons]
    by_cases isQuote : IsQuote d
    · have closed := parted.closed
      rw [quoteAfter_cons, quoteStep_of_isQuote isQuote] at closed
      rw [if_pos isQuote, if_pos isQuote, closeQuote_append_of_undoubled isQuote closed
        fun quote => getLast?_ne_of_append [d] (parted.undoubled quote)]
      cases closeQuote d front <;> rfl
    · rw [if_neg isQuote, if_neg isQuote]
      rfl
  unfold readPiece
  rw [← List.cons_append, separated, quoted]
  cases readSeparated (d :: front) with
  | some read => rfl
  | none => cases readQuoted (d :: front) <;> rfl

/-- What is left behind a piece is still parted. -/
theorem Parted.behind_readPiece {d : Char} (parted : Parted (d :: front) c tail) :
    Parted (readPiece d front).2 c tail := by
  have spelled := readPiece_append d front
  refine ⟨quoteAfter_readPiece parted.closed, ?_, ?_, ?_, ?_⟩
  · intro quote
    exact getLast?_ne_of_append _ (spelled.symm ▸ parted.undoubled quote)
  · intro question
    exact getLast?_ne_of_append _ (spelled.symm ▸ parted.single question)
  · intro hash
    exact parted.literal (spelled ▸ List.mem_append_right _ hash)
  · intro ends
    exact parted.unseparated (spelled ▸ ends.append _)

end

/-! ## The pieces of both halves -/

/-- **A template falls into the pieces of its two halves** if nothing goes on behind the cut. -/
theorem pieces_append {front tail : List Char} {c : Char} (parted : Parted front c tail) :
    pieces (front ++ c :: tail) = pieces front ++ pieces (c :: tail) := by
  fun_induction pieces front with
  | case1 => rfl
  | case2 d rest ih =>
    rw [List.cons_append, pieces, parted.readPiece_ends, ih parted.behind_readPiece,
      List.cons_append]

/-! ## Delimiters -/

/-- The character ends a slot of a list. -/
def IsDelimiter (c : Char) : Prop := c = ',' ∨ c = ')'

section

variable {c : Char} (delimiter : IsDelimiter c)
include delimiter

theorem IsDelimiter.not_isQuote : ¬IsQuote c := by
  rcases delimiter with rfl | rfl <;> decide

theorem IsDelimiter.isLiteralChar_eq_false : isLiteralChar c = false := by
  rcases delimiter with rfl | rfl <;> decide

theorem IsDelimiter.isBlank_eq_false : isBlank c = false := by
  rcases delimiter with rfl | rfl <;> decide

theorem IsDelimiter.ne_question : c ≠ '?' := by
  rcases delimiter with rfl | rfl <;> decide

theorem IsDelimiter.readMarker_eq_none (rest : List Char) : readMarker (c :: rest) = none := by
  rcases delimiter with rfl | rfl <;> rfl

/-- A text whose quotes are closed goes on no further than to a delimiter. -/
theorem Parted.of_delimiter {front : List Char} (closed : quoteAfter none front = none)
    (behind : List Char) : Parted front c behind where
  closed := closed
  undoubled quote := absurd quote delimiter.not_isQuote
  single same := absurd same delimiter.ne_question
  literal _ := delimiter.isLiteralChar_eq_false
  unseparated _ := ⟨delimiter.isBlank_eq_false, delimiter.readMarker_eq_none behind⟩

end

/-! ## Separators are taken whole -/

theorem EndsInSeparator.of_append {cs ds : List Char} (ends : EndsInSeparator (cs ++ ds)) :
    EndsInSeparator ds ∨ (EndsInSeparator cs ∧ ∀ d ∈ ds, isBlank d = true) := by
  obtain ⟨front, blanks, spelled, blank⟩ := ends
  rcases List.append_eq_append_iff.1 spelled with ⟨between, rfl, rfl⟩ | ⟨between, rfl, same⟩
  · exact Or.inl ⟨between, blanks, rfl, blank⟩
  · cases between with
    | nil => exact Or.inl ⟨[], blanks, same.symm, blank⟩
    | cons c between =>
      obtain ⟨rfl, rfl⟩ := List.cons.inj same
      refine Or.inr ⟨⟨front, between, rfl, ?_⟩, ?_⟩
      · exact fun b mem => blank b (List.mem_append_left ds mem)
      · exact fun d mem => blank d (List.mem_append_right between mem)

theorem EndsInSeparator.comma_mem {cs : List Char} (ends : EndsInSeparator cs) : ',' ∈ cs := by
  obtain ⟨front, blanks, rfl, -⟩ := ends
  simp

theorem comma_not_mem_lexeme {m : Marker} (written : m.Written) : ',' ∉ m.lexeme := by
  cases m with
  | param => decide
  | expand => decide
  | hash quoted content =>
    have notIn : ',' ∉ content := fun mem => absurd (written _ mem) (by decide)
    cases quoted <;> simp [Marker.lexeme, notIn]

/-- A marker starts with no character of a separator. -/
theorem lexeme_eq_cons (m : Marker) :
    ∃ c cs, m.lexeme = c :: cs ∧ isBlank c = false ∧ c ≠ ',' := by
  cases m with
  | param => exact ⟨_, _, rfl, by decide, by decide⟩
  | expand => exact ⟨_, _, rfl, by decide, by decide⟩
  | hash quoted content => cases quoted <;> exact ⟨_, _, rfl, by decide, by decide⟩

/-- A marker that is read is a piece, with the separator in front of it. -/
theorem pieces_marker {separator rest : List Char} {m : Marker}
    (isSeparator : IsSeparator separator)
    (read : readMarker (m.lexeme ++ rest) = some (m, rest)) :
    pieces (separator ++ (m.lexeme ++ rest)) = .marker separator m :: pieces rest := by
  obtain ⟨c, cs, spelled, visible, notComma⟩ := lexeme_eq_cons m
  rw [spelled, List.cons_append] at read ⊢
  rcases isSeparator with rfl | ⟨blanks, rfl, blank⟩
  · have piece : readPiece c (cs ++ rest) = (.marker [] m, rest) := by
      simp [readPiece, readSeparated, notComma, read]
    rw [List.nil_append, pieces, piece]
  · have stops : ∀ d ∈ (c :: (cs ++ rest)).head?, isBlank d = false := by
      rintro d ⟨⟩
      exact visible
    have all : blanks.takeWhile isBlank = blanks := List.takeWhile_eq_self_iff.2 blank
    have none_left : blanks.dropWhile isBlank = [] := List.dropWhile_eq_nil_iff.2 blank
    have piece : readPiece ',' (blanks ++ c :: (cs ++ rest)) =
        (.marker (',' :: blanks) m, rest) := by
      simp [readPiece, readSeparated, takeWhile_append_of_stops stops,
        dropWhile_append_of_stops stops, all, none_left, read]
    rw [List.cons_append, pieces, piece]

/-- Only a comma that is a piece of its own can be the end of a piece. -/
theorem Piece.Formed.eq_of_endsInSeparator {p : Piece} (formed : p.Formed)
    (ends : EndsInSeparator p.lexeme) : p = .char ',' := by
  cases p with
  | char c =>
    have same := List.mem_singleton.1 ends.comma_mem
    rw [same]
  | quoted text =>
    obtain ⟨q, content, quote, -, rfl⟩ := formed
    rcases EndsInSeparator.of_append ends with ends | ⟨-, blank⟩
    · exact absurd (List.mem_singleton.1 ends.comma_mem).symm (quote.ne (by decide))
    · exact absurd quote (not_isQuote_of_isBlank (blank q (by simp)))
  | marker separator m =>
    obtain ⟨c, cs, spelled, visible, -⟩ := lexeme_eq_cons m
    rcases EndsInSeparator.of_append ends with ends | ⟨-, blank⟩
    · exact absurd ends.comma_mem (comma_not_mem_lexeme formed.2)
    · exact absurd (blank c (by simp [spelled])) (by simp [visible])

/-- A marker is read where its characters stand. -/
theorem readMarker_lexeme_ne_none {m : Marker} (written : m.Written) (rest : List Char) :
    readMarker (m.lexeme ++ rest) ≠ none := by
  cases m with
  | param =>
    rcases rest with _ | ⟨c, rest⟩
    · simp [Marker.lexeme, readMarker]
    · by_cases same : c = '?' <;> simp [Marker.lexeme, readMarker, same]
  | expand => simp [Marker.lexeme, readMarker]
  | hash quoted content =>
    cases quoted with
    | false => simp [Marker.lexeme, readMarker]
    | true =>
      have stops : ∀ d ∈ ('\'' :: rest).head?, isLiteralChar d = false := by
        rintro d ⟨⟩
        decide
      have all : content.dropWhile isLiteralChar = [] := List.dropWhile_eq_nil_iff.2 written
      simp [Marker.lexeme, readMarker, dropWhile_append_of_stops stops, all]

/-- A comma that is a piece of its own has no marker behind it, blanks left out. -/
theorem readPiece_comma {c : Char} {rest : List Char} (read : (readPiece c rest).1 = .char ',') :
    c = ',' ∧ (readPiece c rest).2 = rest ∧ readMarker (rest.dropWhile isBlank) = none := by
  have spelled := readPiece_append c rest
  rw [read, Piece.lexeme, List.singleton_append] at spelled
  obtain ⟨rfl, same⟩ := List.cons.inj spelled
  refine ⟨rfl, same, ?_⟩
  unfold readPiece at read
  cases found : readMarker (rest.dropWhile isBlank) with
  | none => rfl
  | some result => simp [readSeparated, found] at read

/-- A marker without a separator has no comma in front of it, blanks left out. -/
theorem not_endsInSeparator {cs : List Char} {ps qs : List Piece} {m : Marker}
    (cut : pieces cs = ps ++ .marker [] m :: qs) :
    ¬EndsInSeparator (ps.flatMap Piece.lexeme) := by
  induction ps generalizing cs with
  | nil =>
    intro ends
    cases ends.comma_mem
  | cons p ps ih =>
    intro ends
    cases cs with
    | nil => simp at cut
    | cons c rest =>
      rw [pieces, List.cons_append, List.cons.injEq] at cut
      obtain ⟨rfl, cut⟩ := cut
      rcases EndsInSeparator.of_append (List.flatMap_cons ▸ ends) with ends | ⟨ends, blank⟩
      · exact ih cut ends
      · have isComma := (formed_readPiece c rest).eq_of_endsInSeparator ends
        obtain ⟨-, after, noMarker⟩ := readPiece_comma isComma
        rw [after] at cut
        -- behind the comma stand blanks and then the marker
        have spelled : rest.dropWhile isBlank = m.lexeme ++ qs.flatMap Piece.lexeme := by
          obtain ⟨d, ds, lexeme, visible, -⟩ := lexeme_eq_cons m
          rw [← lexemes_pieces rest, cut, List.flatMap_append, List.dropWhile_append_of_pos blank,
            List.flatMap_cons]
          simp [Piece.lexeme, lexeme, visible]
        have mem : .marker [] m ∈ pieces rest := cut ▸ List.mem_append_right ps List.mem_cons_self
        rw [spelled] at noMarker
        exact readMarker_lexeme_ne_none (formed_of_mem_pieces mem).2 _ noMarker

end SqlAccess.Template
