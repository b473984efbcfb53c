import SqlAccess.Proofs.Template.Boundary
import SqlAccess.Proofs.Template.Glyphs

/-!
# Templates with parameters only

In a template without number signs and without two question marks in a row, every marker is a
parameter. Each one writes its separator and itself, and that is how it stands in the template. The
first one alone loses its separator.

* `eq_param_of_mem_pieces`: such a template has no other markers.
* `exists_first_marker` finds the first one, and `glyphs_params` what is written behind it.
* `parameters_keep_text` puts them together, with the values, which are all bound.
-/

namespace SqlAccess.Template

open SqlAccess.Text

/-- The finished text is that of the template, but for the comma and the blanks that stand directly
in front of the first marker, if any do. -/
def KeepsText (template sql : String) : Prop :=
  (roles (pieces template.toList) = [] ∧ sql = template) ∨
    ∃ front separator behind,
      pieces template.toList = front ++ .marker separator .param :: behind ∧
      roles front = [] ∧ IsSeparator separator ∧
      (separator = [] → ¬EndsInSeparator (front.flatMap Piece.lexeme)) ∧
      template = String.ofList (front.flatMap Piece.lexeme ++
        (separator ++ '?' :: behind.flatMap Piece.lexeme)) ∧
      sql = String.ofList (front.flatMap Piece.lexeme ++ '?' :: behind.flatMap Piece.lexeme)

/-! ## Every marker is a parameter -/

theorem infix_of_mem_pieces {cs : List Char} {p : Piece} (mem : p ∈ pieces cs) :
    p.lexeme <:+: cs := by
  have inText : p.lexeme <:+: ((pieces cs).map Piece.lexeme).flatten :=
    List.infix_of_mem_flatten (List.mem_map_of_mem mem)
  rwa [← List.flatMap_def, lexemes_pieces] at inText

theorem eq_param_of_mem_pieces {cs : List Char} (noSign : '#' ∉ cs) (noPair : ¬['?', '?'] <:+: cs)
    {separator : List Char} {m : Marker} (mem : .marker separator m ∈ pieces cs) : m = .param := by
  have inText : m.lexeme <:+: cs :=
    (List.suffix_append separator m.lexeme).isInfix.trans (infix_of_mem_pieces mem)
  cases m with
  | param => rfl
  | expand => exact (noPair inText).elim
  | hash quoted content =>
    refine (noSign (inText.subset ?_)).elim
    cases quoted <;> simp [Marker.lexeme]

theorem exists_of_mem_roles {ps : List Piece} {r : Role} (mem : r ∈ roles ps) :
    ∃ separator m, .marker separator m ∈ ps ∧ m.role = r := by
  obtain ⟨p, inPieces, role⟩ := List.mem_filterMap.1 mem
  cases p with
  | char c => cases role
  | quoted text => cases role
  | marker separator m => exact ⟨separator, m, inPieces, Option.some.inj role⟩

/-- Parameters take the values as they come. -/
theorem assign_params {α : Type} {n : Nat} {rs : List Role} {values bound : List α}
    {groups : List (List α)} (params : ∀ r ∈ rs, r = .param)
    (assigned : assign n rs values groups = .ok bound) : bound = values := by
  induction rs generalizing values bound with
  | nil =>
    obtain ⟨rfl, -, rfl⟩ := assign_nil_eq_ok_iff.1 assigned
    rfl
  | cons r rs ih =>
    obtain rfl := params r List.mem_cons_self
    obtain ⟨v, values, bound, rfl, rfl, behind⟩ := assign_param_eq_ok_iff.1 assigned
    rw [ih (fun r mem => params r (List.mem_cons_of_mem _ mem)) behind]

/-! ## The first marker -/

/-- A template has no marker, or a first one. -/
theorem exists_first_marker (ps : List Piece) :
    roles ps = [] ∨
      ∃ front separator m behind, ps = front ++ .marker separator m :: behind ∧
        roles front = [] := by
  induction ps with
  | nil => exact Or.inl rfl
  | cons p ps ih =>
    have behindText (text : roles [p] = []) :
        roles (p :: ps) = [] ∨ ∃ front separator m behind,
          p :: ps = front ++ .marker separator m :: behind ∧ roles front = [] := by
      rcases ih with none_left | ⟨front, separator, m, behind, rfl, noMarker⟩
      · exact Or.inl ((roles_append [p] ps).trans (by rw [text, none_left, List.append_nil]))
      · exact Or.inr ⟨p :: front, separator, m, behind, rfl,
          (roles_append [p] front).trans (by rw [text, noMarker, List.append_nil])⟩
    cases p with
    | char c => exact behindText rfl
    | quoted text => exact behindText rfl
    | marker separator m => exact Or.inr ⟨[], separator, m, ps, rfl, rfl⟩

/-! ## What is written -/

theorem not_mem_of_roles_eq_nil {ps : List Piece} (noMarker : roles ps = [])
    (separator : List Char) (m : Marker) : .marker separator m ∉ ps :=
  fun mem => Option.some_ne_none m.role (List.filterMap_eq_nil_iff.1 noMarker _ mem)

/-- Text and parameters write themselves, with their separators. The first marker of all, which
would lose its separator, is none of them. -/
theorem glyphs_params {first : Bool} {ps : List Piece}
    (params : ∀ separator m, .marker separator m ∈ ps → m = .param ∧ first = false)
    (sizes : List Nat) : (glyphs first ps sizes).map Glyph.char = ps.flatMap Piece.lexeme := by
  induction ps with
  | nil => rfl
  | cons p ps ih =>
    have rest := ih fun separator m mem => params separator m (List.mem_cons_of_mem _ mem)
    rw [glyphs_cons, List.map_append, List.flatMap_cons]
    cases p with
    | char c => exact congrArg (c :: ·) rest
    | quoted text =>
      rw [Piece.written, map_char_copied]
      exact congrArg (text ++ ·) rest
    | marker separator m =>
      obtain ⟨rfl, rfl⟩ := params separator m List.mem_cons_self
      simpa [Piece.written, Piece.firstAfter, Piece.sizesAfter, Piece.lexeme, Marker.lexeme,
        separatorGlyphs, Glyph.char] using rest

/-- Text in front of the first marker writes itself. -/
theorem glyphs_text {ps : List Piece} (noMarker : roles ps = []) (first : Bool)
    (sizes : List Nat) : (glyphs first ps sizes).map Glyph.char = ps.flatMap Piece.lexeme :=
  glyphs_params (fun separator m mem => (not_mem_of_roles_eq_nil noMarker separator m mem).elim)
    sizes

/-- **Parameters leave the text alone.** Let a template without number signs and without two
question marks in a row be rewritten with values and no groups. The values are bound as they are,
and the text is kept but for the separator of the first marker. -/
theorem parameters_keep_text {α : Type} {template : String} {values : List α} {q : Query α}
    (noSign : '#' ∉ template.toList) (noPair : ¬['?', '?'] <:+: template.toList)
    (ok : rewrite template values [] = .ok q) :
    q.values = values ∧ KeepsText template q.sql := by
  obtain ⟨-, assigned, written⟩ := (rewrite_eq_ok_iff_assign 0).1 ok
  have spelled := lexemes_pieces template.toList
  have params : ∀ separator m, .marker separator m ∈ pieces template.toList → m = .param :=
    fun separator m mem => eq_param_of_mem_pieces noSign noPair mem
  have bound : q.values = values := by
    refine assign_params (fun r mem => ?_) assigned
    obtain ⟨separator, m, inPieces, rfl⟩ := exists_of_mem_roles mem
    rw [params separator m inPieces]
    rfl
  refine ⟨bound, ?_⟩
  rw [KeepsText, written, render]
  rcases exists_first_marker (pieces template.toList) with
    noMarker | ⟨front, separator, m, behind, cut, noMarker⟩
  · rw [glyphs_text noMarker, spelled, String.ofList_toList]
    exact Or.inl ⟨noMarker, rfl⟩
  · rw [cut] at params spelled
    obtain rfl := params separator m (by simp)
    have mem : .marker separator .param ∈ pieces template.toList := by
      rw [cut]
      simp
    have isSeparator : IsSeparator separator := (formed_of_mem_pieces mem).1
    have nothingWritten : front.foldl Piece.firstAfter true = true := by
      rw [foldl_firstAfter, noMarker]
      rfl
    refine Or.inr ⟨front, separator, behind, cut, noMarker, isSeparator, ?_, ?_, ?_⟩
    · rintro rfl
      exact not_endsInSeparator cut
    · rw [← String.ofList_toList (s := template), ← spelled, List.flatMap_append,
        List.flatMap_cons, Piece.lexeme, Marker.lexeme, List.append_assoc]
      rfl
    · have behindFirst (sizes : List Nat) :
          (glyphs false behind sizes).map Glyph.char = behind.flatMap Piece.lexeme :=
        glyphs_params (fun separator m mem => ⟨params separator m (by simp [mem]), rfl⟩) sizes
      rw [cut, glyphs_behind, nothingWritten, List.map_append, glyphs_text noMarker, glyphs_cons,
        List.map_append]
      simp [Piece.written, Piece.firstAfter, Piece.sizesAfter, separatorGlyphs, Glyph.char,
        behindFirst]

/-- Commas and question marks in quoted texts, of which the last one is never closed. -/
theorem parameters_keep_text_unclosed :
    let template := "select ', ?' from t where \"a,?\" in (1,\t ?, ?) and b = 'it''s, ?"
    '#' ∉ template.toList ∧ ¬['?', '?'] <:+: template.toList ∧
      rewrite template [1, 2, 3] [] =
        .ok ⟨"select ', ?' from t where \"a,?\" in (1?, ?) and b = 'it''s, ?", [1, 2, 3]⟩ ∧
      KeepsText template "select ', ?' from t where \"a,?\" in (1?, ?) and b = 'it''s, ?" := by
  intro template
  have noSign : '#' ∉ template.toList := by decide +kernel
  have noPair : ¬['?', '?'] <:+: template.toList := by decide +kernel
  have ok : rewrite template [1, 2, 3] [] =
      .ok ⟨"select ', ?' from t where \"a,?\" in (1?, ?) and b = 'it''s, ?", [1, 2, 3]⟩ :=
    eq_ok_of_toOption_eq_some (by decide +kernel)
  exact ⟨noSign, noPair, ok, (parameters_keep_text noSign noPair ok).2⟩

end SqlAccess.Template
