import SqlAccess.Proofs.Template.Assignment
import SqlAccess.Proofs.Template.Reading

/-!
# What the pieces write

`glyphs` walks over the pieces with two things in hand: whether a marker has written anything
yet, and the sizes of the groups that are left. `Piece.written` is what one piece writes with
these in hand, and `glyphs_cons` cuts the walk there.

* `glyphs_behind`: of the pieces in front, only whether they have written something and how many
  groups they have taken matters to the pieces behind them.
* `mem_of_copied_mem_glyphs`: every copied character is one of the template.
* `count_glyphs`: there are as many placeholders as bound values.
-/

namespace SqlAccess.Template

open SqlAccess.Text

@[simp] theorem Marker.role_param : Marker.param.role = .param := rfl

@[simp] theorem Marker.role_expand : Marker.expand.role = .expand := rfl

@[simp] theorem Marker.role_hash_nil (quoted : Bool) : (Marker.hash quoted []).role = .skip := rfl

@[simp] theorem Glyph.char_comp_copied : Glyph.char ∘ Glyph.copied = id := rfl

/-- Copied characters are written as they are. -/
theorem map_char_copied (cs : List Char) : (cs.map Glyph.copied).map Glyph.char = cs := by
  simp

/-! ## One piece at a time -/

/-- What a piece writes. -/
def Piece.written (first : Bool) (sizes : List Nat) : Piece → List Glyph
  | .char c => [.copied c]
  | .quoted text => text.map .copied
  | .marker separator m =>
    match m.role with
    | .skip => []
    | .literal text => separatorGlyphs first separator ++ text.map .copied
    | .param => separatorGlyphs first separator ++ [.placeholder]
    | .expand => separatorGlyphs first separator ++ placeholders (sizes.headD 0)

/-- Whether still no marker has written anything behind the piece. -/
def Piece.firstAfter (first : Bool) : Piece → Bool
  | .marker _ m => first && m.role = .skip
  | _ => first

/-- The sizes of the groups that are left behind the piece. -/
def Piece.sizesAfter (sizes : List Nat) : Piece → List Nat
  | .marker _ m => if m.role = .expand then sizes.tail else sizes
  | _ => sizes

theorem glyphs_cons (first : Bool) (p : Piece) (ps : List Piece) (sizes : List Nat) :
    glyphs first (p :: ps) sizes =
      p.written first sizes ++ glyphs (p.firstAfter first) ps (p.sizesAfter sizes) := by
  cases p with
  | char c => rfl
  | quoted text => rfl
  | marker separator m =>
    rw [glyphs]
    cases role : m.role <;> simp [Piece.written, Piece.firstAfter, Piece.sizesAfter, role]

/-- The pieces behind others write what they do with what these leave to them. -/
theorem glyphs_behind (first : Bool) (ps qs : List Piece) (sizes : List Nat) :
    glyphs first (ps ++ qs) sizes =
      glyphs first ps sizes ++
        glyphs (ps.foldl Piece.firstAfter first) qs (ps.foldl Piece.sizesAfter sizes) := by
  induction ps generalizing first sizes with
  | nil => rfl
  | cons p ps ih =>
    rw [List.cons_append, glyphs_cons, glyphs_cons, ih, List.append_assoc]
    rfl

theorem roles_append (ps qs : List Piece) : roles (ps ++ qs) = roles ps ++ roles qs :=
  List.filterMap_append

/-- No marker has written anything behind pieces whose markers are all skips. -/
theorem foldl_firstAfter (first : Bool) (ps : List Piece) :
    ps.foldl Piece.firstAfter first = (first && (roles ps).all fun r => r = .skip) := by
  induction ps generalizing first with
  | nil => simp [roles]
  | cons p ps ih =>
    rw [List.foldl_cons, ih]
    cases p with
    | char c => rfl
    | quoted text => rfl
    | marker separator m => exact Bool.and_assoc first _ _

/-- Each marker of a group takes the size in front. -/
theorem foldl_sizesAfter (ps : List Piece) (sizes : List Nat) :
    ps.foldl Piece.sizesAfter sizes = sizes.drop ((roles ps).count .expand) := by
  induction ps generalizing sizes with
  | nil => rfl
  | cons p ps ih =>
    rw [List.foldl_cons, ih]
    cases p with
    | char c => rfl
    | quoted text => rfl
    | marker separator m =>
      have roles_eq : roles (.marker separator m :: ps) = m.role :: roles ps := rfl
      rw [roles_eq, Piece.sizesAfter, List.count_cons]
      by_cases expand : m.role = .expand
      · simp [expand]
      · simp [expand]

/-! ## Where the characters come from -/

theorem not_copied_mem_placeholders {c : Char} {n : Nat} : Glyph.copied c ∉ placeholders n := by
  induction n using placeholders.induct with
  | case1 => simp [placeholders]
  | case2 => simp [placeholders]
  | case3 n ih => simp [placeholders, ih]

theorem copied_mem_separatorGlyphs {first : Bool} {separator : List Char} {c : Char}
    (mem : Glyph.copied c ∈ separatorGlyphs first separator) : c ∈ separator := by
  cases first with
  | true => cases mem
  | false => simpa [separatorGlyphs] using mem

/-- A text that a marker writes is the trimmed text after its number sign. -/
theorem Marker.role_eq_literal {m : Marker} {text : List Char} (h : m.role = .literal text) :
    ∃ quoted content, m = .hash quoted content ∧ text = trim content := by
  cases m with
  | param => cases h
  | expand => cases h
  | hash quoted content =>
    rw [Marker.role] at h
    split at h
    · cases h
    · cases h
      exact ⟨quoted, content, rfl, rfl⟩

theorem Marker.mem_lexeme_of_role_eq_literal {m : Marker} {text : List Char} {c : Char}
    (h : m.role = .literal text) (mem : c ∈ text) : c ∈ m.lexeme := by
  obtain ⟨quoted, content, rfl, rfl⟩ := Marker.role_eq_literal h
  have inContent := mem_trim mem
  cases quoted <;> simp [Marker.lexeme, inContent]

theorem Piece.mem_lexeme_of_copied_mem_written {first : Bool} {sizes : List Nat} {p : Piece}
    {c : Char} (mem : Glyph.copied c ∈ p.written first sizes) : c ∈ p.lexeme := by
  cases p with
  | char d => simpa [Piece.written, Piece.lexeme] using mem
  | quoted text => simpa [Piece.written, Piece.lexeme] using mem
  | marker separator m =>
    rw [Piece.lexeme, List.mem_append]
    cases role : m.role with
    | skip => simp [Piece.written, role] at mem
    | literal text =>
      simp only [Piece.written, role, List.mem_append] at mem
      rcases mem with mem | mem
      · exact Or.inl (copied_mem_separatorGlyphs mem)
      · have inText : c ∈ text := by simpa using mem
        exact Or.inr (m.mem_lexeme_of_role_eq_literal role inText)
    | param =>
      simp only [Piece.written, role, List.mem_append] at mem
      rcases mem with mem | mem
      · exact Or.inl (copied_mem_separatorGlyphs mem)
      · simp at mem
    | expand =>
      simp only [Piece.written, role, List.mem_append] at mem
      rcases mem with mem | mem
      · exact Or.inl (copied_mem_separatorGlyphs mem)
      · exact (not_copied_mem_placeholders mem).elim

/-- Every copied character is one of the template. -/
theorem mem_of_copied_mem_glyphs {first : Bool} {cs : List Char} {sizes : List Nat} {c : Char}
    (mem : Glyph.copied c ∈ glyphs first (pieces cs) sizes) : c ∈ cs := by
  have inLexemes : ∀ ps first sizes, Glyph.copied c ∈ glyphs first ps sizes →
      c ∈ ps.flatMap Piece.lexeme := by
    intro ps
    induction ps with
    | nil => intro first sizes mem; cases mem
    | cons p ps ih =>
      intro first sizes mem
      rw [glyphs_cons, List.mem_append] at mem
      rw [List.flatMap_cons, List.mem_append]
      rcases mem with mem | mem
      · exact Or.inl (p.mem_lexeme_of_copied_mem_written mem)
      · exact Or.inr (ih _ _ mem)
  have spelled := inLexemes _ _ _ mem
  rwa [lexemes_pieces] at spelled

/-! ## Counting placeholders -/

theorem count_placeholder_copied (cs : List Char) :
    (cs.map Glyph.copied).count .placeholder = 0 := by
  rw [List.count_eq_zero]
  simp

theorem count_placeholder_separatorGlyphs (first : Bool) (separator : List Char) :
    (separatorGlyphs first separator).count .placeholder = 0 := by
  cases first with
  | true => rfl
  | false => exact count_placeholder_copied separator

/-- There are as many placeholders as bound values. -/
theorem count_glyphs {α : Type} {n : Nat} {ps : List Piece} {values : List α}
    {groups : List (List α)} {bound : List α} (first : Bool)
    (h : assign n (roles ps) values groups = .ok bound) :
    (glyphs first ps (groups.map List.length)).count .placeholder = bound.length := by
  induction ps generalizing first values groups bound with
  | nil =>
    obtain ⟨-, -, rfl⟩ := assign_nil_eq_ok_iff.1 h
    rfl
  | cons p ps ih =>
    rw [glyphs_cons, List.count_append]
    cases p with
    | char c =>
      have rest := ih first h
      simpa [Piece.written, Piece.firstAfter, Piece.sizesAfter] using rest
    | quoted text =>
      have rest := ih first h
      rw [Piece.written, count_placeholder_copied, Nat.zero_add]
      exact rest
    | marker separator m =>
      have h : assign n (m.role :: roles ps) values groups = .ok bound := h
      cases role : m.role with
      | skip =>
        rw [role, assign] at h
        have rest := ih first h
        simpa [Piece.written, Piece.firstAfter, Piece.sizesAfter, role] using rest
      | literal text =>
        rw [role, assign] at h
        have rest := ih false h
        simpa [Piece.written, Piece.firstAfter, Piece.sizesAfter, role, count_placeholder_copied,
          count_placeholder_separatorGlyphs] using rest
      | param =>
        rw [role] at h
        obtain ⟨v, values, bound, rfl, rfl, assigned⟩ := assign_param_eq_ok_iff.1 h
        have rest := ih false assigned
        simp [Piece.written, Piece.firstAfter, Piece.sizesAfter, role,
          count_placeholder_separatorGlyphs, rest, Nat.add_comm]
      | expand =>
        rw [role] at h
        obtain ⟨group, groups, bound, rfl, -, rfl, assigned⟩ := assign_expand_eq_ok_iff.1 h
        have rest := ih false assigned
        simp [Piece.written, Piece.firstAfter, Piece.sizesAfter, role,
          count_placeholder_separatorGlyphs, count_placeholders, rest]

end SqlAccess.Template
