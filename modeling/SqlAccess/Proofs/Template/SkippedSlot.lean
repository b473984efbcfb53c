import SqlAccess.Proofs.Template.Boundary
import SqlAccess.Proofs.Template.Glyphs

/-!
# A skipped slot

A lone number sign in a list leaves out a slot: its marker, the comma in front of it and the value
that would have gone there. So a template with such a slot says the same as the template without
it, when the value is left out too.

* `pieces_skippedSlot` reads the template with the slot.
* `assign_skipped` hands out the values of both templates, step by step.
* `skippedSlot_deleted` puts the two together.
-/

namespace SqlAccess.Template

open SqlAccess.Text

/-! ## Reading the slot -/

/-- A number sign in front of a delimiter is a skip. -/
theorem readMarker_skip {c : Char} (delimiter : IsDelimiter c) (rest : List Char) :
    readMarker ((Marker.hash false []).lexeme ++ c :: rest) =
      some (.hash false [], c :: rest) := by
  simp [Marker.lexeme, readMarker, delimiter.isLiteralChar_eq_false]

/-- The slot parts the pieces around it. -/
theorem pieces_skippedSlot {front separator : List Char} {c : Char}
    (closed : quoteAfter none front = none) (isSeparator : IsSeparator separator)
    (apart : separator = [] → ¬EndsInSeparator front) (delimiter : IsDelimiter c)
    (rest : List Char) :
    pieces (front ++ (separator ++ '#' :: c :: rest)) =
      pieces front ++ .marker separator (.hash false []) :: pieces (c :: rest) := by
  rw [← pieces_marker isSeparator (readMarker_skip delimiter rest)]
  rcases isSeparator with rfl | ⟨blanks, rfl, blank⟩
  · exact pieces_append {
      closed := closed
      undoubled := fun quote => absurd quote (by decide)
      single := nofun
      literal := fun _ => by decide
      unseparated := fun ends => (apart rfl ends).elim }
  · exact pieces_append (.of_delimiter (Or.inl rfl) closed _)

/-! ## Handing out the other values -/

section

variable {α : Type}

/-- A skip whose value comes right behind those of the markers in front takes away just this
value. -/
theorem assign_skipped {n : Nat} {rs qs : List Role} {values₁ : List α} {x : α}
    {values₂ : List α} {groups : List (List α)} {bound : List α}
    (taken : values₁.length = rs.countP Role.takesValue) :
    assign n (rs ++ .skip :: qs) (values₁ ++ x :: values₂) groups = .ok bound ↔
      assign n (rs ++ qs) (values₁ ++ values₂) groups = .ok bound := by
  induction rs generalizing values₁ groups bound with
  | nil =>
    obtain rfl := List.eq_nil_of_length_eq_zero taken
    rfl
  | cons r rs ih =>
    rw [List.countP_cons] at taken
    cases r with
    | literal text => exact ih taken
    | param =>
      obtain ⟨v, values₁, rfl⟩ := List.exists_cons_of_length_eq_add_one taken
      simp only [List.cons_append, assign, map_eq_ok_iff, ih (Nat.succ.inj taken)]
    | skip =>
      obtain ⟨v, values₁, rfl⟩ := List.exists_cons_of_length_eq_add_one taken
      exact ih (Nat.succ.inj taken)
    | expand =>
      simp only [List.cons_append, assign_expand_eq_ok_iff, ih taken]

/-- Without the skip the same text is written. -/
theorem render_skip {m : Marker} (skip : m.role = .skip) (ps qs : List Piece)
    (separator : List Char) (sizes : List Nat) :
    render (ps ++ .marker separator m :: qs) sizes = render (ps ++ qs) sizes := by
  rw [render, render, glyphs_behind, glyphs_behind, glyphs_cons]
  simp [Piece.written, Piece.firstAfter, Piece.sizesAfter, skip]

/-- **A skip deletes its slot and its value.** Let all quotes in front of the slot be closed, let
the slot end with a comma or a parenthesis, and let no comma in front of it be left to the marker
if the slot has none of its own. When the values in front are those of the markers in front, a
template with the slot is rewritten to the same query as the template without it and without its
value. -/
theorem skippedSlot_deleted {front separator : List Char} {c : Char}
    (closed : quoteAfter none front = none) (isSeparator : IsSeparator separator)
    (apart : separator = [] → ¬EndsInSeparator front) (delimiter : IsDelimiter c)
    (behind : List Char) {values₁ : List α}
    (taken : values₁.length = (roles (pieces front)).countP Role.takesValue) (x : α)
    (values₂ : List α) (groups : List (List α)) (q : Query α) :
    rewrite (String.ofList (front ++ (separator ++ '#' :: c :: behind)))
        (values₁ ++ x :: values₂) groups = .ok q ↔
      rewrite (String.ofList (front ++ c :: behind)) (values₁ ++ values₂) groups = .ok q := by
  have withSlot := pieces_skippedSlot closed isSeparator apart delimiter behind
  have without := pieces_append (.of_delimiter delimiter closed behind)
  have visibleWith : ∃ d ∈ front ++ (separator ++ '#' :: c :: behind), isBlank d = false :=
    ⟨c, by simp, delimiter.isBlank_eq_false⟩
  have visibleWithout : ∃ d ∈ front ++ c :: behind, isBlank d = false :=
    ⟨c, by simp, delimiter.isBlank_eq_false⟩
  rw [rewrite_eq_ok_iff_assign 0, rewrite_eq_ok_iff_assign 0, rolesOf, rolesOf,
    String.toList_ofList, String.toList_ofList, withSlot, without,
    render_skip (Marker.role_hash_nil false), roles_append, roles_append]
  constructor
  · rintro ⟨-, assigned, written⟩
    exact ⟨visibleWithout, (assign_skipped taken).1 assigned, written⟩
  · rintro ⟨-, assigned, written⟩
    exact ⟨visibleWith, (assign_skipped taken).2 assigned, written⟩

/-- A slot between others, behind a text, a quoted text with markers in it, a group and another
skip. -/
theorem skippedSlot_deleted_between :
    let front := "(#now(), 'it''s ?, #', ??, #, ?".toList
    quoteAfter none front = none ∧ IsSeparator [',', ' '] ∧
      ([',', ' '] = [] → ¬EndsInSeparator front) ∧ IsDelimiter ',' ∧
      [1, 2].length = (roles (pieces front)).countP Role.takesValue ∧
      rewrite "(#now(), 'it''s ?, #', ??, #, ?, ?)" [1, 2, 4] [[10, 20]] =
        .ok ⟨"(now(), 'it''s ?, #', ?,?, ?, ?)", [10, 20, 2, 4]⟩ ∧
      rewrite "(#now(), 'it''s ?, #', ??, #, ?, #, ?)" [1, 2, 3, 4] [[10, 20]] =
        .ok ⟨"(now(), 'it''s ?, #', ?,?, ?, ?)", [10, 20, 2, 4]⟩ := by
  intro front
  have closed : quoteAfter none front = none := by decide +kernel
  have apart : [',', ' '] = [] → ¬EndsInSeparator front := nofun
  have taken : [1, 2].length = (roles (pieces front)).countP Role.takesValue := by decide +kernel
  have without : rewrite "(#now(), 'it''s ?, #', ??, #, ?, ?)" [1, 2, 4] [[10, 20]] =
      .ok ⟨"(now(), 'it''s ?, #', ?,?, ?, ?)", [10, 20, 2, 4]⟩ :=
    eq_ok_of_toOption_eq_some (by decide +kernel)
  exact ⟨closed, isSeparator_comma_space, apart, Or.inl rfl, taken, without,
    (skippedSlot_deleted closed isSeparator_comma_space apart (Or.inl rfl) " ?)".toList taken 3 [4]
      [[10, 20]] _).2 without⟩

end

end SqlAccess.Template
