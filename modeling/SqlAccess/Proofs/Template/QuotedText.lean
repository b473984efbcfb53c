import SqlAccess.Proofs.Template.Boundary
import SqlAccess.Proofs.Template.Glyphs

/-!
# Quoted text in a template

Reading a template takes a quoted text as one piece, whatever stands in it, and copies it. Three
things could come in between: an open quote in front of it, a quote beside it that doubles one of
its own, and a content that reads as a marker.

* `Surrounds` rules out the first two. No piece in front of the quoted text reaches into it then
  (`Surrounds.parted`).
* `OpensMarker` is the third, and it is exactly the case in which a marker is read at the quoted
  text (`readMarker_inQuotes_eq_none_iff`). A content that is nothing but a number sign and literal
  characters opens a marker. So does one that goes on behind these with a doubled quote.
* `quotedText_copied`: in all other cases the quoted text is a piece, stands in the rewritten text
  where it stands in the template, and its content decides nothing else.
-/

namespace SqlAccess.Template

open SqlAccess.Text

/-- A text in quotes. -/
def inQuotes (q : Char) (content : List Char) : List Char := q :: content ++ [q]

/-- The texts in front of a quoted text and behind it: all quotes in front are closed, and no quote
beside the quoted text doubles its first or its last one. -/
structure Surrounds (q : Char) (front behind : List Char) : Prop where
  quote : IsQuote q
  closed : quoteAfter none front = none
  undoubled_front : front.getLast? ≠ some q
  undoubled_behind : behind.head? ≠ some q

/-- A marker is read where a text with this content stands in quotes: what is left behind a number
sign and the literal characters that follow it is nothing, or starts with a single quote. -/
def OpensMarker (q : Char) (content : List Char) : Prop :=
  q = '\'' ∧ ∃ text, content = '#' :: text ∧
    ∀ c ∈ (text.dropWhile isLiteralChar).head?, c = '\''

/-! ## The quoted text -/

section

variable {q : Char} {front behind : List Char} (around : Surrounds q front behind)
  {content : List Char} (escaped : Escaped q content)

include around escaped in
/-- The quoted text ends at its own last quote. -/
theorem closeQuote_content :
    closeQuote q (content ++ q :: behind) = some (content ++ [q], behind) := by
  induction escaped with
  | nil =>
    cases behind with
    | nil => simp [closeQuote]
    | cons c behind =>
      have ne : c ≠ q := fun same => around.undoubled_behind (congrArg some same)
      simp [closeQuote, ne]
  | @char c cs ne _ ih =>
    rw [List.cons_append, closeQuote_cons_of_ne ne, ih]
    rfl
  | doubled _ ih => simp [closeQuote, ih]

include around in
/-- A marker is read at a quoted text exactly if its content opens one. -/
theorem readMarker_inQuotes_eq_none_iff :
    readMarker (inQuotes q content ++ behind) = none ↔ ¬OpensMarker q content := by
  by_cases single : q = '\''
  · subst single
    rcases content with _ | ⟨c, text⟩
    · simp [inQuotes, readMarker, OpensMarker]
    · by_cases hash : c = '#'
      · subst hash
        have stops : ∀ c ∈ ('\'' :: behind).head?, isLiteralChar c = false := by
          rintro c ⟨⟩
          decide
        have spelled : inQuotes '\'' ('#' :: text) ++ behind =
            '\'' :: '#' :: (text ++ '\'' :: behind) := by
          simp [inQuotes]
        rw [spelled, readMarker, dropWhile_append_of_stops stops]
        cases left : text.dropWhile isLiteralChar with
        | nil => simp [OpensMarker, left]
        | cons d left' => by_cases ends : d = '\'' <;> simp [OpensMarker, left, ends]
      · simp [inQuotes, readMarker, OpensMarker, hash]
  · have double : q = '"' := around.quote.resolve_left single
    subst double
    simp [inQuotes, readMarker, OpensMarker]

include around in
/-- Nothing in front of the quoted text goes on in it, unless a marker is read there. -/
theorem Surrounds.parted {tail : List Char} (noMarker : readMarker (q :: tail) = none) :
    Parted front q tail where
  closed := around.closed
  undoubled _ := around.undoubled_front
  single same := absurd (same ▸ around.quote) (by decide)
  literal _ := isLiteralChar_quote around.quote
  unseparated _ := ⟨isBlank_quote around.quote, noMarker⟩

/-- A quoted text that opens no marker is one piece, and parts the pieces around it. -/
theorem pieces_inQuotes (around : Surrounds q front behind) (escaped : Escaped q content)
    (opensNone : ¬OpensMarker q content) :
    pieces (front ++ (inQuotes q content ++ behind)) =
      pieces front ++ .quoted (inQuotes q content) :: pieces behind := by
  have spelled : inQuotes q content ++ behind = q :: (content ++ q :: behind) := by
    simp [inQuotes]
  have noMarker := (readMarker_inQuotes_eq_none_iff around).2 opensNone
  rw [spelled] at noMarker ⊢
  have separated : readSeparated (q :: (content ++ q :: behind)) = none := by
    have ne : q ≠ ',' := around.quote.ne (by decide)
    rw [readSeparated, noMarker]
    · rfl
    · exact fun rest same => ne (List.cons.inj same).1
  have read : readPiece q (content ++ q :: behind) = (.quoted (inQuotes q content), behind) := by
    unfold readPiece
    rw [separated, readQuoted_cons, if_pos around.quote, closeQuote_content around escaped]
    rfl
  rw [pieces_append (around.parted noMarker), pieces, read]

end

/-! ## The rewritten text -/

theorem roles_around (ps qs : List Piece) (text : List Char) :
    roles (ps ++ .quoted text :: qs) = roles ps ++ roles qs :=
  roles_append ps _

/-- What the pieces behind others write depends on these only through what they have left over. -/
theorem glyphs_append (first : Bool) (ps qs : List Piece) (sizes : List Nat) :
    ∃ first' sizes', ∀ text, glyphs first (ps ++ .quoted text :: qs) sizes =
      glyphs first ps sizes ++ text.map .copied ++ glyphs first' qs sizes' := by
  refine ⟨ps.foldl Piece.firstAfter first, ps.foldl Piece.sizesAfter sizes, fun text => ?_⟩
  rw [glyphs_behind, glyphs_cons, List.append_assoc]
  rfl

/-- **Quoted text is copied.** A template holds a quoted text whose content opens no marker. The
quoted text is one piece then, so no marker is read inside it. Its content has no part in whether
the template is rewritten, which error there is and which values are bound; and in the rewritten
text it stands as it is, behind what is written for the text in front of it. A marker is read at
the quoted text in no other case. -/
theorem quotedText_copied {α : Type} {q : Char} {front behind : List Char}
    (around : Surrounds q front behind) (values : List α) (groups : List (List α)) :
    ∃ (outcome : Except TemplateError (List α)) (after : List Char),
      ∀ content, Escaped q content →
        (readMarker (inQuotes q content ++ behind) = none ↔ ¬OpensMarker q content) ∧
        (¬OpensMarker q content →
          pieces (front ++ (inQuotes q content ++ behind)) =
            pieces front ++ .quoted (inQuotes q content) :: pieces behind ∧
          rewrite (String.ofList (front ++ (inQuotes q content ++ behind))) values groups =
            outcome.map fun bound =>
              ⟨String.ofList (render (pieces front) (groups.map List.length) ++
                (inQuotes q content ++ after)), bound⟩) := by
  obtain ⟨first, sizes, written⟩ :=
    glyphs_append true (pieces front) (pieces behind) (groups.map List.length)
  refine ⟨assign values.length (roles (pieces front) ++ roles (pieces behind)) values groups,
    (glyphs first (pieces behind) sizes).map Glyph.char, fun content escaped =>
      ⟨readMarker_inQuotes_eq_none_iff around, fun opensNone => ?_⟩⟩
  have cut := pieces_inQuotes around escaped opensNone
  have notBlank : allBlank (front ++ (inQuotes q content ++ behind)) = false :=
    allBlank_eq_false_iff.2 ⟨q, by simp [inQuotes], isBlank_quote around.quote⟩
  refine ⟨cut, ?_⟩
  rw [rewrite, String.toList_ofList, notBlank, cut, roles_around, render, written]
  simp [render, Function.comp_def, Glyph.char]

/-- Markers and a doubled quote in a quoted text, between markers outside of it. -/
theorem quotedText_copied_markers :
    let content := ['?', '\'', '\'', ',', ' ', '#', 'b']
    Surrounds '\'' "a = ?, c = ".toList ", ??".toList ∧ Escaped '\'' content ∧
      ¬OpensMarker '\'' content ∧
      pieces "a = ?, c = '?'', #b', ??".toList =
        pieces "a = ?, c = ".toList ++ .quoted "'?'', #b'".toList :: pieces ", ??".toList := by
  intro content
  have around : Surrounds '\'' "a = ?, c = ".toList ", ??".toList :=
    ⟨by decide, by decide, by decide, by decide⟩
  have escaped : Escaped '\'' content :=
    .char (by decide) <| .doubled <| .char (by decide) <| .char (by decide) <| .char (by decide) <|
      .char (by decide) .nil
  have opensNone : ¬OpensMarker '\'' content := by
    rintro ⟨-, text, same, -⟩
    exact absurd (List.cons.inj same).1 (by decide)
  obtain ⟨outcome, after, copied⟩ := quotedText_copied around ([] : List Nat) []
  exact ⟨around, escaped, opensNone, ((copied content escaped).2 opensNone).1⟩

/-- A quoted text whose content is a number sign, literal characters and then a doubled quote is
taken apart: its first half is read as a marker, and loses its quotes. -/
theorem doubled_quote_not_copied :
    let content := ['#', 'a', '\'', '\'', 'b']
    Surrounds '\'' [] [] ∧ Escaped '\'' content ∧
      (¬∃ text, content = '#' :: text ∧ ∀ c ∈ text, isLiteralChar c = true) ∧
      rewrite "'#a''b'" ([] : List Nat) [] = .ok ⟨"a'b'", []⟩ := by
  intro content
  refine ⟨⟨by decide, rfl, nofun, nofun⟩, ?_, ?_, ?_⟩
  · exact .char (by decide) <| .char (by decide) <| .doubled <| .char (by decide) .nil
  · rintro ⟨text, same, literal⟩
    obtain ⟨-, rfl⟩ := List.cons.inj same
    exact absurd (literal '\'' (by decide)) (by decide)
  · exact eq_ok_of_toOption_eq_some (by decide +kernel)

end SqlAccess.Template
