import SqlAccess.Proofs.Template.Boundary
import SqlAccess.Proofs.Template.Glyphs

/-!
# A list of markers

A list of values in parentheses, such as that of an insert, has a marker for each column. What is
left of it after rewriting is a list again, however its markers are mixed with skips: the texts of
the others, with a comma between any two of them.

* `pieces_markerList` reads the list: the first marker has no separator, and each other one the
  comma and blank in front of it.
* `glyphs_markers` says what the markers write. Behind a marker that has written something, each one
  writes its separator and its text; in front of all others the first text stands without a
  separator, whichever marker writes it.
* `markerList_rewritten`: the list in a template whose other text has no markers and no quotes.
-/

namespace SqlAccess.Template

open SqlAccess.Text

/-- The character begins no marker and no quoted text. -/
def IsOrdinary (c : Char) : Prop := ¬IsQuote c ∧ c ≠ '?' ∧ c ≠ '#'

instance (c : Char) : Decidable (IsOrdinary c) := inferInstanceAs (Decidable (_ ∧ _))

/-- The marker stands without quotes and without blanks at the ends of its text. -/
def Marker.Tidy : Marker → Prop
  | .hash quoted content =>
    quoted = false ∧ content.all isLiteralChar = true ∧
      content.head? ≠ some ' ' ∧ content.getLast? ≠ some ' '
  | _ => True

instance : (m : Marker) → Decidable m.Tidy
  | .param => isTrue trivial
  | .expand => isTrue trivial
  | .hash _ _ => inferInstanceAs (Decidable (_ ∧ _))

/-- Texts with a comma and a blank between any two of them. -/
def commaList (texts : List (List Char)) : List Char := [',', ' '].intercalate texts

/-- The texts that the markers write, given the sizes of the groups. A skip writes none. -/
def renderings : List Marker → List Nat → List (List Char)
  | [], _ => []
  | .param :: ms, sizes => ['?'] :: renderings ms sizes
  | .expand :: ms, sizes =>
    [','].intercalate (List.replicate (sizes.headD 0) ['?']) :: renderings ms sizes.tail
  | .hash _ [] :: ms, sizes => renderings ms sizes
  | .hash _ text :: ms, sizes => text :: renderings ms sizes

theorem commaList_cons (text : List Char) (texts : List (List Char)) :
    commaList (text :: texts) = text ++ texts.flatMap fun next => ',' :: ' ' :: next := by
  induction texts generalizing text with
  | nil => simp [commaList]
  | cons next texts ih =>
    rw [commaList, List.intercalate_cons_cons, ← commaList, ih next, List.flatMap_cons]
    simp

/-- The list, or what is left of it behind a text. -/
def commaListFrom (first : Bool) (texts : List (List Char)) : List Char :=
  if first then commaList texts else texts.flatMap fun next => ',' :: ' ' :: next

theorem commaListFrom_cons (first : Bool) (text : List Char) (texts : List (List Char)) :
    commaListFrom first (text :: texts) =
      (separatorGlyphs first [',', ' ']).map Glyph.char ++ text ++ commaListFrom false texts := by
  cases first with
  | true => exact commaList_cons text texts
  | false => simp [commaListFrom, separatorGlyphs, Glyph.char]

/-! ## Ordinary text -/

theorem Marker.mem_lexeme (m : Marker) : '?' ∈ m.lexeme ∨ '#' ∈ m.lexeme := by
  cases m with
  | param => exact Or.inl (by decide)
  | expand => exact Or.inl (by decide)
  | hash quoted content => exact Or.inr (by cases quoted <;> simp [Marker.lexeme])

/-- The pieces of ordinary text are its characters. -/
theorem pieces_ordinary {cs : List Char} (ordinary : ∀ c ∈ cs, IsOrdinary c) :
    pieces cs = cs.map .char := by
  fun_induction pieces cs with
  | case1 => rfl
  | case2 c rest ih =>
    have spelled := readPiece_append c rest
    rcases read : readPiece c rest with ⟨p, after⟩
    rw [read] at ih spelled
    rcases readPiece_cases read with ⟨separator, m, rfl, -, -⟩ | ⟨body, -, quote, -⟩ |
      ⟨rfl, rfl, -⟩
    · have inText : ∀ d ∈ m.lexeme, d ∈ c :: rest := fun d mem =>
        spelled ▸ List.mem_append_left after (List.mem_append_right separator mem)
      rcases m.mem_lexeme with mem | mem
      · exact absurd rfl (ordinary _ (inText _ mem)).2.1
      · exact absurd rfl (ordinary _ (inText _ mem)).2.2
    · exact absurd quote (ordinary c List.mem_cons_self).1
    · rw [ih fun d mem => ordinary d (List.mem_cons_of_mem c mem)]
      rfl

/-- Ordinary text ends in front of a parenthesis. -/
theorem Parted.of_ordinary {front : List Char} (ordinary : ∀ c ∈ front, IsOrdinary c)
    (behind : List Char) : Parted front '(' behind where
  closed := quoteAfter_of_plain fun c mem => (ordinary c mem).1
  undoubled quote := absurd quote (by decide)
  single := nofun
  literal mem := absurd rfl (ordinary _ mem).2.2
  unseparated _ := ⟨by decide, rfl⟩

theorem roles_chars (cs : List Char) : roles (cs.map .char) = [] := by
  simp [roles]

/-- Ordinary text writes itself. -/
theorem glyphs_chars (first : Bool) (cs : List Char) (ps : List Piece) (sizes : List Nat) :
    glyphs first (cs.map .char ++ ps) sizes = cs.map .copied ++ glyphs first ps sizes := by
  induction cs with
  | nil => rfl
  | cons c cs ih =>
    rw [List.map_cons, List.cons_append, glyphs, ih]
    rfl

/-! ## Reading the list -/

theorem dropWhile_of_head {p : Char → Bool} {cs : List Char} (h : ∀ c ∈ cs.head?, p c = false) :
    cs.dropWhile p = cs := by
  cases cs with
  | nil => rfl
  | cons c cs => simp [h c rfl]

/-- A text without blanks at its ends is trimmed. -/
theorem trim_eq_self {cs : List Char} (head : ∀ c ∈ cs.head?, isBlank c = false)
    (last : ∀ c ∈ cs.getLast?, isBlank c = false) : trim cs = cs := by
  rw [← List.head?_reverse] at last
  rw [trim, dropWhile_of_head head, dropWhile_of_head last, List.reverse_reverse]

theorem Marker.Tidy.trim_eq {quoted : Bool} {content : List Char}
    (tidy : (Marker.hash quoted content).Tidy) : trim content = content := by
  obtain ⟨-, every, head, last⟩ := tidy
  have literal := List.all_eq_true.1 every
  refine trim_eq_self (fun c mem => ?_) (fun c mem => ?_)
  · refine eq_false_of_ne_true fun blank => head ?_
    rw [← eq_space_of_isLiteralChar (literal c (List.mem_of_mem_head? mem)) blank]
    exact mem
  · refine eq_false_of_ne_true fun blank => last ?_
    rw [← eq_space_of_isLiteralChar (literal c (List.mem_of_mem_getLast? mem)) blank]
    exact mem

/-- In front of a delimiter a marker is read as it is written. -/
theorem readMarker_tidy {m : Marker} (tidy : m.Tidy) {c : Char} (delimiter : IsDelimiter c)
    (rest : List Char) : readMarker (m.lexeme ++ c :: rest) = some (m, c :: rest) := by
  cases m with
  | param => simp [Marker.lexeme, readMarker, delimiter.ne_question]
  | expand => rfl
  | hash quoted content =>
    obtain ⟨rfl, every, -, -⟩ := tidy
    have literal := List.all_eq_true.1 every
    have stops : ∀ d ∈ (c :: rest).head?, isLiteralChar d = false := by
      rintro d ⟨⟩
      exact delimiter.isLiteralChar_eq_false
    have all : content.takeWhile isLiteralChar = content := List.takeWhile_eq_self_iff.2 literal
    have none_left : content.dropWhile isLiteralChar = [] := List.dropWhile_eq_nil_iff.2 literal
    simp [Marker.lexeme, readMarker, takeWhile_append_of_stops stops,
      dropWhile_append_of_stops stops, all, none_left]

/-- The markers of a list as pieces. -/
def listPieces : List Marker → List Piece
  | [] => []
  | m :: ms => .marker [] m :: ms.map (.marker [',', ' '])

section

variable {ms : List Marker} (tidy : ∀ m ∈ ms, m.Tidy) (behind : List Char)

/-- What follows a marker of a list starts with a delimiter. -/
theorem exists_delimiter (ms : List Marker) (behind : List Char) :
    ∃ c rest, IsDelimiter c ∧
      (ms.flatMap fun m => ',' :: ' ' :: m.lexeme) ++ ')' :: behind = c :: rest := by
  cases ms with
  | nil => exact ⟨_, _, Or.inr rfl, rfl⟩
  | cons m ms => exact ⟨_, _, Or.inl rfl, rfl⟩

include tidy

theorem pieces_nextMarkers :
    pieces ((ms.flatMap fun m => ',' :: ' ' :: m.lexeme) ++ ')' :: behind) =
      ms.map (.marker [',', ' ']) ++ pieces (')' :: behind) := by
  induction ms with
  | nil => rfl
  | cons m ms ih =>
    have rest := ih fun m mem => tidy m (List.mem_cons_of_mem _ mem)
    obtain ⟨c, cs, delimiter, next⟩ := exists_delimiter ms behind
    have read := readMarker_tidy (tidy m List.mem_cons_self) delimiter cs
    rw [← next] at read
    have first := pieces_marker isSeparator_comma_space read
    rw [rest] at first
    rw [List.flatMap_cons, List.append_assoc]
    exact first

/-- The markers of a list are read one by one. -/
theorem pieces_markerList :
    pieces (commaList (ms.map Marker.lexeme) ++ ')' :: behind) =
      listPieces ms ++ pieces (')' :: behind) := by
  cases ms with
  | nil => rfl
  | cons m ms =>
    have rest := pieces_nextMarkers (fun m mem => tidy m (List.mem_cons_of_mem _ mem)) behind
    obtain ⟨c, cs, delimiter, next⟩ := exists_delimiter ms behind
    have read := readMarker_tidy (tidy m List.mem_cons_self) delimiter cs
    rw [← next] at read
    have first := pieces_marker (Or.inl rfl) read
    rw [rest, List.nil_append] at first
    rw [List.map_cons, commaList_cons, List.flatMap_map, List.append_assoc]
    exact first

end

theorem roles_map_marker (separator : List Char) (ms : List Marker) :
    roles (ms.map (.marker separator)) = ms.map Marker.role := by
  rw [roles, List.filterMap_map]
  exact congrFun List.filterMap_eq_map ms

theorem roles_listPieces (ms : List Marker) : roles (listPieces ms) = ms.map Marker.role := by
  cases ms with
  | nil => rfl
  | cons m ms => exact congrArg (m.role :: ·) (roles_map_marker [',', ' '] ms)

/-! ## Writing the list -/

theorem map_char_placeholders (n : Nat) :
    (placeholders n).map Glyph.char = [','].intercalate (List.replicate n ['?']) := by
  induction n using placeholders.induct with
  | case1 => rfl
  | case2 => rfl
  | case3 n ih =>
    rw [placeholders, List.replicate_succ, List.replicate_succ, List.intercalate_cons_cons,
      ← List.replicate_succ, ← ih]
    rfl

theorem Marker.Tidy.role_eq {quoted : Bool} {c : Char} {cs : List Char}
    (tidy : (Marker.hash quoted (c :: cs)).Tidy) :
    (Marker.hash quoted (c :: cs)).role = .literal (c :: cs) := by
  rw [Marker.role, tidy.trim_eq, if_neg (List.cons_ne_nil c cs)]

/-- **What the markers of a list write,** with text behind it. Until a marker writes something no
separator is written; from then on each text has its own. -/
theorem glyphs_markers {ms : List Marker} (tidy : ∀ m ∈ ms, m.Tidy) (first : Bool)
    (sizes : List Nat) (cs : List Char) :
    (glyphs first (ms.map (.marker [',', ' ']) ++ cs.map .char) sizes).map Glyph.char =
      commaListFrom first (renderings ms sizes) ++ cs := by
  -- a marker that writes something clears `first`, and a group marker takes a size
  induction ms generalizing first sizes with
  | nil =>
    have chars := glyphs_chars first cs [] sizes
    rw [List.append_nil] at chars
    cases first <;> simp [chars, commaListFrom, commaList, renderings, glyphs]
  | cons m ms ih =>
    have rest := ih fun m mem => tidy m (List.mem_cons_of_mem _ mem)
    rw [List.map_cons, List.cons_append, glyphs_cons, List.map_append]
    cases m with
    | param =>
      simp [Piece.written, Piece.firstAfter, Piece.sizesAfter, renderings, commaListFrom_cons,
        Glyph.char, rest false sizes]
    | expand =>
      simp [Piece.written, Piece.firstAfter, Piece.sizesAfter, renderings, commaListFrom_cons,
        map_char_placeholders, rest false sizes.tail]
    | hash quoted content =>
      cases content with
      | nil =>
        simp [Piece.written, Piece.firstAfter, Piece.sizesAfter, renderings, rest first sizes]
      | cons c content =>
        have role := (tidy _ List.mem_cons_self).role_eq
        simp [Piece.written, Piece.firstAfter, Piece.sizesAfter, role, renderings,
          commaListFrom_cons, Glyph.char, rest false sizes]

/-- The separator of the first marker of all is never written. -/
theorem glyphs_listPieces (ms : List Marker) (ps : List Piece) (sizes : List Nat) :
    glyphs true (listPieces ms ++ ps) sizes =
      glyphs true (ms.map (.marker [',', ' ']) ++ ps) sizes := by
  cases ms with
  | nil => rfl
  | cons m ms => rfl

/-- **A list of markers is repaired.** A template has a list of markers in parentheses, and text
around it without quotes, number signs and question marks. With values and groups that fit the
markers it is rewritten to the same text around the list of what its markers write, skips left
out, with a comma and a blank between any two of these. -/
theorem markerList_rewritten {α : Type} {front behind : List Char} {ms : List Marker}
    (ordinaryFront : ∀ c ∈ front, IsOrdinary c) (ordinaryBehind : ∀ c ∈ behind, IsOrdinary c)
    (tidy : ∀ m ∈ ms, m.Tidy) {values : List α} {groups : List (List α)}
    (fits : Fits (ms.map Marker.role) values groups) :
    rewrite (String.ofList (front ++ '(' :: (commaList (ms.map Marker.lexeme) ++ ')' :: behind)))
        values groups =
      .ok ⟨String.ofList (front ++ '(' ::
          (commaList (renderings ms (groups.map List.length)) ++ ')' :: behind)),
        shares (ms.map Marker.role) values groups⟩ := by
  have opening : readPiece '(' (commaList (ms.map Marker.lexeme) ++ ')' :: behind) =
      (.char '(', commaList (ms.map Marker.lexeme) ++ ')' :: behind) := rfl
  have closing : ∀ c ∈ ')' :: behind, IsOrdinary c := by
    intro c mem
    rcases List.mem_cons.1 mem with rfl | mem
    · exact ⟨by decide, by decide, by decide⟩
    · exact ordinaryBehind c mem
  have cut : pieces (front ++ '(' :: (commaList (ms.map Marker.lexeme) ++ ')' :: behind)) =
      (front ++ ['(']).map .char ++ (listPieces ms ++ (')' :: behind).map .char) := by
    rw [pieces_append (.of_ordinary ordinaryFront _), pieces_ordinary ordinaryFront, pieces,
      opening, pieces_markerList tidy, pieces_ordinary closing, List.map_append, List.append_assoc]
    rfl
  refine (rewrite_eq_ok_iff_assign 0).2 ⟨⟨'(', by simp, by decide⟩, ?_, ?_⟩
  · rw [rolesOf, String.toList_ofList, cut, roles_append, roles_append, roles_chars, roles_chars,
      roles_listPieces, List.nil_append, List.append_nil]
    exact assign_eq_ok_iff.2 ⟨fits, rfl⟩
  · rw [String.toList_ofList, cut, render, glyphs_chars, glyphs_listPieces, List.map_append,
      glyphs_markers tidy]
    simp [commaListFrom, Glyph.char]

theorem forall_mem_of_all {β : Type} {p : β → Prop} [DecidablePred p] {xs : List β}
    (all : xs.all (fun x => p x) = true) : ∀ x ∈ xs, p x :=
  fun x mem => of_decide_eq_true (List.all_eq_true.1 all x mem)

/-- Skips at both ends and in the middle, with a text and a group between them. -/
theorem markerList_rewritten_skips :
    let front := "insert into t values ".toList
    let behind := " returning a".toList
    let ms : List Marker := [.hash false [], .param, .hash false [],
      .hash false "next value".toList, .expand, .hash false []]
    (∀ c ∈ front, IsOrdinary c) ∧ (∀ c ∈ behind, IsOrdinary c) ∧ (∀ m ∈ ms, m.Tidy) ∧
      Fits (ms.map Marker.role) [1, 2, 3, 4] [[10, 20]] ∧
      rewrite "insert into t values (#, ?, #, #next value, ??, #) returning a" [1, 2, 3, 4]
          [[10, 20]] =
        .ok ⟨"insert into t values (?, next value, ?,?) returning a", [2, 10, 20]⟩ := by
  intro front behind ms
  have ordinaryFront : ∀ c ∈ front, IsOrdinary c :=
    forall_mem_of_all (by decide)
  have ordinaryBehind : ∀ c ∈ behind, IsOrdinary c :=
    forall_mem_of_all (by decide)
  have tidy : ∀ m ∈ ms, m.Tidy := forall_mem_of_all (by decide)
  have fits : Fits (ms.map Marker.role) [1, 2, 3, 4] [[10, 20]] := by
    have assigned : assign 4 (ms.map Marker.role) [1, 2, 3, 4] [[10, 20]] = .ok [2, 10, 20] :=
      eq_ok_of_toOption_eq_some (by decide +kernel)
    exact (assign_eq_ok_iff.1 assigned).1
  exact ⟨ordinaryFront, ordinaryBehind, tidy, fits,
    markerList_rewritten ordinaryFront ordinaryBehind tidy fits⟩

end SqlAccess.Template
