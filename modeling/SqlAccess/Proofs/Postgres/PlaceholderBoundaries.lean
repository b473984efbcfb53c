import Mathlib.Data.List.Induction
import SqlAccess.Proofs.Postgres.PlaceholderOrder

/-!
# What stands in front of a placeholder

A placeholder that follows directly on a letter, a digit, an underscore or a dollar sign is read as
the end of a word once it is numbered. In a template a marker can stand apart from the word in
front of it by characters that rewriting drops: a separator that is not written, skips, the quotes
around a text or a blank at its end. This module says that there is no other way to such a
placeholder.

* `exists_writer` finds the marker that has written a placeholder, and `written_cases` what else
  the marker has written in front of it: its separator, or other placeholders of its group.
* `exists_word_in_front` finds the piece that has written a word at the end of some pieces.
* `Exposed` puts both together, and `placeholders_apart` says that the placeholders behind a word
  are the exposed ones. Numbering adds no word in front of a placeholder but the number of another
  one.
-/

namespace SqlAccess.Postgres

open SqlAccess.Template SqlAccess.Text

/-- A letter, a digit, an underscore or a dollar sign. -/
def isWordChar (c : Char) : Bool := c.isAlphanum || c = '_' || c = '$'

/-- The text ends with a character of a word. -/
def EndsInWord (cs : List Char) : Prop := cs.getLast?.any isWordChar = true

instance (cs : List Char) : Decidable (EndsInWord cs) :=
  inferInstanceAs (Decidable (_ = true))

/-- No marker among the pieces stands directly behind a word, its separator counted as text in
front of it. All of the text `front` stands in front of the pieces. -/
def BodiesApart (front : List Char) : List Piece → Prop
  | [] => True
  | .char c :: ps => BodiesApart (front ++ [c]) ps
  | .quoted text :: ps => BodiesApart (front ++ text) ps
  | .marker separator m :: ps =>
    ¬EndsInWord (front ++ separator) ∧ BodiesApart (front ++ separator ++ m.lexeme) ps

instance decidableBodiesApart : (front : List Char) → (ps : List Piece) →
    Decidable (BodiesApart front ps)
  | _, [] => isTrue trivial
  | front, .char c :: ps => decidableBodiesApart (front ++ [c]) ps
  | front, .quoted text :: ps => decidableBodiesApart (front ++ text) ps
  | front, .marker separator m :: ps =>
    have := decidableBodiesApart (front ++ separator ++ m.lexeme) ps
    inferInstanceAs (Decidable (_ ∧ _))

/-- The piece is a skip. -/
def IsSkip (p : Piece) : Prop := ∃ separator m, p = .marker separator m ∧ m.role = .skip

/-- A marker behind the pieces has a word in front of it once it is rewritten, although it stands
apart from it in the template. -/
inductive Bared : List Piece → List Char → Prop
  /-- Behind a text that is written, with nothing but skips between them. The marker has no
  separator. -/
  | text {ps skips : List Piece} {separator : List Char} {m : Marker} {text : List Char} :
    (∀ p ∈ skips, IsSkip p) → m.role = .literal text → EndsInWord text →
    Bared (ps ++ .marker separator m :: skips) []
  /-- Behind a word of the template, with nothing but skips between them. A comma follows on the
  word, and is dropped with one of the skips or as the separator of the first marker that writes
  something. -/
  | word {ps skips : List Piece} {c : Char} {separator : List Char} :
    (∀ p ∈ skips, IsSkip p) → isWordChar c = true →
    (skips.flatMap Piece.lexeme ++ separator).head? = some ',' →
    (separator = [] ∨ ∀ r ∈ roles ps, r = .skip) →
    Bared (ps ++ .char c :: skips) separator

/-- A placeholder behind the glyphs `before` is the first one of a marker that has written no
separator and has a word in front of it. -/
def Exposed (ps : List Piece) (sizes : List Nat) (before : List Glyph) : Prop :=
  ∃ front separator m behind, ps = front ++ .marker separator m :: behind ∧
    (m.role = .param ∨ m.role = .expand) ∧ before = glyphs true front sizes ∧
      Bared front separator

/-! ## Words at the end -/

theorem endsInWord_concat {cs : List Char} {c : Char} :
    EndsInWord (cs ++ [c]) ↔ isWordChar c = true := by
  simp [EndsInWord]

/-- The end of a text is the end of its last part. -/
theorem endsInWord_append {cs ds : List Char} (ne : ds ≠ []) :
    EndsInWord (cs ++ ds) ↔ EndsInWord ds := by
  rw [EndsInWord, EndsInWord, List.getLast?_append, List.getLast?_eq_some_getLast ne,
    Option.some_or]

theorem isWordChar_eq_false_of_isBlank {c : Char} (blank : isBlank c = true) :
    isWordChar c = false := by
  refine eq_false_of_ne_true fun word => ?_
  simp only [isWordChar, isAlphanum_of_isBlank blank, Bool.false_or, Bool.or_eq_true,
    decide_eq_true_eq] at word
  rcases word with rfl | rfl
  · exact absurd blank (by decide)
  · exact absurd blank (by decide)

theorem isWordChar_eq_false_of_isQuote {q : Char} (quote : IsQuote q) : isWordChar q = false := by
  rcases quote with rfl | rfl <;> decide

/-- A separator does not end in a word. -/
theorem not_endsInWord_separator {separator : List Char} (isSeparator : IsSeparator separator) :
    ¬EndsInWord separator := by
  intro ends
  obtain ⟨c, last, word⟩ := (Option.any_eq_true _ _).1 ends
  have mem := List.mem_of_getLast? last
  rcases isSeparator with rfl | ⟨blanks, rfl, blank⟩
  · cases mem
  · rcases List.mem_cons.1 mem with rfl | mem
    · exact absurd word (by decide)
    · exact absurd word (by simp [isWordChar_eq_false_of_isBlank (blank c mem)])

/-! ## The writer of a placeholder -/

/-- A placeholder of a finished text is written by a marker. -/
theorem exists_writer {first : Bool} {ps : List Piece} {sizes : List Nat}
    {before after : List Glyph}
    (h : glyphs first ps sizes = before ++ .placeholder :: after) :
    ∃ front separator m behind own rest, ps = front ++ .marker separator m :: behind ∧
      before = glyphs first front sizes ++ own ∧
      Piece.written (front.foldl Piece.firstAfter first) (front.foldl Piece.sizesAfter sizes)
        (.marker separator m) = own ++ .placeholder :: rest := by
  induction ps generalizing first sizes before with
  | nil => simp [glyphs] at h
  | cons p ps ih =>
    rw [glyphs_cons] at h
    have later (before' : List Glyph) (split : before = p.written first sizes ++ before')
        (h : glyphs (p.firstAfter first) ps (p.sizesAfter sizes) =
          before' ++ .placeholder :: after) :
        ∃ front separator m behind own rest, p :: ps = front ++ .marker separator m :: behind ∧
          before = glyphs first front sizes ++ own ∧
          Piece.written (front.foldl Piece.firstAfter first)
            (front.foldl Piece.sizesAfter sizes) (.marker separator m) =
              own ++ .placeholder :: rest := by
      obtain ⟨front, separator, m, behind, own, rest, rfl, rfl, written⟩ := ih h
      refine ⟨p :: front, separator, m, behind, own, rest, rfl, ?_, written⟩
      rw [split, glyphs_cons, List.append_assoc]
    rcases List.append_eq_append_iff.1 h with ⟨before', split, h⟩ | ⟨rest, split, h⟩
    · exact later before' split h
    · cases rest with
      | nil =>
        rw [List.append_nil] at split
        exact later [] (by rw [split, List.append_nil]) h.symm
      | cons g rest =>
        obtain ⟨rfl, -⟩ := List.cons.inj h
        have mem : .placeholder ∈ p.written first sizes := by simp [split]
        cases p with
        | char c => simp [Piece.written] at mem
        | quoted text => simp [Piece.written] at mem
        | marker separator m => exact ⟨[], separator, m, ps, before, rest, rfl, rfl, split⟩

/-- In front of a placeholder of a group stands nothing, or the comma between two of them. -/
theorem placeholders_cases {n : Nat} {before after : List Glyph}
    (h : placeholders n = before ++ .placeholder :: after) :
    before = [] ∨ before.getLast? = some .groupComma := by
  induction n using placeholders.induct generalizing before with
  | case1 => simp [placeholders] at h
  | case2 =>
    cases before with
    | nil => exact Or.inl rfl
    | cons g before => simp [placeholders] at h
  | case3 n ih =>
    rw [placeholders] at h
    rcases before with _ | ⟨g, _ | ⟨comma, before⟩⟩
    · exact Or.inl rfl
    · cases (List.cons.inj (List.cons.inj h).2).1
    · obtain ⟨rfl, behind⟩ := List.cons.inj (List.cons.inj h).2
      rcases ih behind with rfl | last
      · exact Or.inr rfl
      · exact Or.inr (by simp [List.getLast?_cons, last])

theorem placeholder_not_mem_separatorGlyphs (first : Bool) (separator : List Char) :
    Glyph.placeholder ∉ separatorGlyphs first separator := by
  cases first <;> simp [separatorGlyphs]

/-- A marker writes a placeholder if it asks for values. In front of the placeholder it has written
its separator, or a comma of its group. -/
theorem written_cases {first : Bool} {sizes : List Nat} {separator : List Char} {m : Marker}
    {own rest : List Glyph}
    (h : Piece.written first sizes (.marker separator m) = own ++ .placeholder :: rest) :
    (m.role = .param ∨ m.role = .expand) ∧
      (own = separatorGlyphs first separator ∨ own.getLast? = some .groupComma) := by
  have behind {n : Nat} (h : separatorGlyphs first separator ++ placeholders n =
      own ++ .placeholder :: rest) :
      own = separatorGlyphs first separator ∨ own.getLast? = some .groupComma := by
    rcases List.append_eq_append_iff.1 h with
      ⟨others, rfl, group⟩ | ⟨others, split, same⟩
    · rcases placeholders_cases group with rfl | last
      · exact Or.inl (List.append_nil _)
      · exact Or.inr (by rw [List.getLast?_append, last, Option.some_or])
    · cases others with
      | nil => exact Or.inl (by rw [split, List.append_nil])
      | cons g others =>
        obtain ⟨rfl, -⟩ := List.cons.inj same
        exact absurd (split ▸ by simp) (placeholder_not_mem_separatorGlyphs first separator)
  rw [Piece.written] at h
  cases role : m.role with
  | skip => simp [role] at h
  | literal text =>
    have mem : .placeholder ∈ separatorGlyphs first separator ++ text.map .copied := by
      simp only [role] at h
      simp [h]
    simp [placeholder_not_mem_separatorGlyphs] at mem
  | param =>
    simp only [role] at h
    exact ⟨Or.inl rfl, behind (n := 1) h⟩
  | expand =>
    simp only [role] at h
    exact ⟨Or.inr rfl, behind h⟩

/-! ## The writer of a word -/

/-- What the piece writes ends in a word. -/
def WritesWord : Piece → Prop
  | .char c => isWordChar c = true
  | .quoted _ => False
  | .marker _ m => ∃ text, m.role = .literal text ∧ EndsInWord text

theorem ne_nil_of_role_eq_literal {m : Marker} {text : List Char} (role : m.role = .literal text) :
    text ≠ [] := by
  obtain ⟨quoted, content, rfl, rfl⟩ := Marker.role_eq_literal role
  intro empty
  rw [Marker.role, if_pos empty] at role
  cases role

theorem placeholders_eq_concat {n : Nat} (pos : 0 < n) :
    ∃ gs, placeholders n = gs ++ [.placeholder] := by
  induction n using placeholders.induct with
  | case1 => cases pos
  | case2 => exact ⟨[], rfl⟩
  | case3 n ih =>
    obtain ⟨gs, same⟩ := ih (Nat.succ_pos n)
    exact ⟨.placeholder :: .groupComma :: gs, by rw [placeholders, same]; rfl⟩

/-- A word at the end of a text is one that the last piece has written, if this piece writes
anything. -/
theorem writesWord_of_endsInWord {first : Bool} {sizes : List Nat} {p : Piece} {front : List Char}
    (formed : p.Formed) (noSkip : ¬IsSkip p)
    (filled : ∀ separator m, p = .marker separator m → m.role = .expand → 0 < sizes.headD 0)
    (ends : EndsInWord (front ++ (p.written first sizes).map Glyph.char)) : WritesWord p := by
  cases p with
  | char c => exact endsInWord_concat.1 ends
  | quoted text =>
    obtain ⟨q, content, quote, -, rfl⟩ := formed
    rw [Piece.written, map_char_copied, ← List.append_assoc] at ends
    exact absurd (endsInWord_concat.1 ends) (by simp [isWordChar_eq_false_of_isQuote quote])
  | marker separator m =>
    rw [Piece.written] at ends
    cases role : m.role with
    | skip => exact absurd ⟨separator, m, rfl, role⟩ noSkip
    | literal text =>
      simp only [role, List.map_append, map_char_copied, ← List.append_assoc] at ends
      exact ⟨text, role, (endsInWord_append (ne_nil_of_role_eq_literal role)).1 ends⟩
    | param =>
      simp only [role, List.map_append, ← List.append_assoc] at ends
      exact absurd (endsInWord_concat.1 ends) (by decide)
    | expand =>
      obtain ⟨gs, same⟩ := placeholders_eq_concat (filled separator m rfl role)
      simp only [role, same, List.map_append, ← List.append_assoc] at ends
      exact absurd (endsInWord_concat.1 ends) (by decide)

/-- A word at the end of what some pieces write is written by one of them, and only skips stand
behind it. -/
theorem exists_word_in_front {first : Bool} {ps : List Piece} {sizes : List Nat}
    (formed : ∀ p ∈ ps, p.Formed) (filled : ∀ n ∈ sizes, 0 < n)
    (enough : (roles ps).count .expand ≤ sizes.length)
    (ends : EndsInWord ((glyphs first ps sizes).map Glyph.char)) :
    ∃ front p skips, ps = front ++ p :: skips ∧ (∀ p ∈ skips, IsSkip p) ∧ WritesWord p := by
  induction ps using List.reverseRecOn with
  | nil => simp [glyphs, EndsInWord] at ends
  | append_singleton ps p ih =>
    rw [glyphs_behind, glyphs_cons, glyphs, List.append_nil, List.map_append] at ends
    rw [roles_append, List.count_append] at enough
    by_cases skip : IsSkip p
    · obtain ⟨separator, m, rfl, role⟩ := skip
      have empty : Piece.written (ps.foldl Piece.firstAfter first)
          (ps.foldl Piece.sizesAfter sizes) (.marker separator m) = [] := by
        simp [Piece.written, role]
      rw [empty, List.map_nil, List.append_nil] at ends
      obtain ⟨front, word, skips, rfl, onlySkips, writes⟩ :=
        ih (fun p mem => formed p (List.mem_append_left _ mem)) (Nat.le_of_add_right_le enough) ends
      refine ⟨front, word, skips ++ [.marker separator m], by simp, fun p mem => ?_, writes⟩
      rcases List.mem_append.1 mem with mem | mem
      · exact onlySkips p mem
      · exact ⟨separator, m, List.mem_singleton.1 mem, role⟩
    · refine ⟨ps, p, [], rfl, by simp, ?_⟩
      refine writesWord_of_endsInWord (formed p (by simp)) skip ?_ ends
      intro separator m same role
      have one : (roles [p]).count .expand = 1 := by simp [roles, same, role]
      have lt : (roles ps).count .expand < sizes.length := by omega
      rw [foldl_sizesAfter, List.headD_eq_head?_getD, List.head?_drop, List.getElem?_eq_getElem lt]
      exact filled _ (List.getElem_mem lt)

/-! ## Placeholders behind a word -/

theorem BodiesApart.of_append {front : List Char} {ps qs : List Piece}
    (apart : BodiesApart front (ps ++ qs)) : BodiesApart (front ++ ps.flatMap Piece.lexeme) qs := by
  induction ps generalizing front with
  | nil =>
    rw [List.flatMap_nil, List.append_nil]
    exact apart
  | cons p ps ih =>
    rw [List.flatMap_cons, ← List.append_assoc]
    cases p with
    | char c => exact ih apart
    | quoted text => exact ih apart
    | marker separator m =>
      have behind := ih apart.2
      rwa [List.append_assoc front] at behind

/-- A marker behind a word has a separator. -/
theorem head_separator {front separator : List Char} {c : Char} {m : Marker} {ps : List Piece}
    (isSeparator : IsSeparator separator) (word : isWordChar c = true)
    (apart : BodiesApart (front ++ [c]) (.marker separator m :: ps)) :
    separator.head? = some ',' := by
  rcases isSeparator with rfl | ⟨blanks, rfl, -⟩
  · exact absurd (endsInWord_concat.2 word) (by simpa using apart.1)
  · rfl

/-- Behind a word a comma follows, if only skips stand between the word and a marker. -/
theorem head_behind_word {front separator : List Char} {c : Char} {m : Marker}
    {skips ps : List Piece} (formed : ∀ p ∈ skips ++ .marker separator m :: ps, p.Formed)
    (onlySkips : ∀ p ∈ skips, IsSkip p) (word : isWordChar c = true)
    (apart : BodiesApart (front ++ [c]) (skips ++ .marker separator m :: ps)) :
    (skips.flatMap Piece.lexeme ++ separator).head? = some ',' := by
  cases skips with
  | nil => exact head_separator (formed _ List.mem_cons_self).1 word apart
  | cons p skips =>
    obtain ⟨separator', m', rfl, -⟩ := onlySkips p List.mem_cons_self
    have comma := head_separator (formed _ List.mem_cons_self).1 word apart
    rw [List.flatMap_cons, Piece.lexeme, List.append_assoc, List.append_assoc, List.head?_append,
      comma, Option.some_or]

/-- What a marker has written in front of its placeholder ends in no word. So there is a word in
front of the placeholder only if the marker has written nothing there. -/
theorem eq_nil_of_endsInWord {first : Bool} {separator : List Char} {own : List Glyph}
    {front : List Char} (isSeparator : IsSeparator separator)
    (own_cases : own = separatorGlyphs first separator ∨ own.getLast? = some .groupComma)
    (ends : EndsInWord (front ++ own.map Glyph.char)) :
    own = [] ∧ (separator = [] ∨ first = true) := by
  rcases own_cases with rfl | comma
  · cases first with
    | true => exact ⟨rfl, Or.inr rfl⟩
    | false =>
      rw [separatorGlyphs, if_neg (by decide), map_char_copied] at ends
      by_cases bare : separator = []
      · exact ⟨by rw [bare]; rfl, Or.inl bare⟩
      · exact (not_endsInWord_separator isSeparator ((endsInWord_append bare).1 ends)).elim
  · obtain ⟨others, rfl⟩ := List.getLast?_eq_some_iff.1 comma
    rw [List.map_append, ← List.append_assoc] at ends
    exact absurd (endsInWord_concat.1 ends) (by decide)

/-- A placeholder behind a word is exposed. -/
theorem exposed_of_endsInWord {cs : List Char} {sizes : List Nat} {before after : List Glyph}
    (apart : BodiesApart [] (pieces cs)) (filled : ∀ n ∈ sizes, 0 < n)
    (enough : (roles (pieces cs)).count .expand ≤ sizes.length)
    (written : glyphs true (pieces cs) sizes = before ++ .placeholder :: after)
    (ends : EndsInWord (before.map Glyph.char)) : Exposed (pieces cs) sizes before := by
  obtain ⟨front, separator, m, behind, own, rest, cut, rfl, ownWritten⟩ := exists_writer written
  obtain ⟨asks, own_cases⟩ := written_cases ownWritten
  have formed : ∀ p ∈ front ++ .marker separator m :: behind, p.Formed :=
    fun p mem => formed_of_mem_pieces (cut ▸ mem)
  have isSeparator : IsSeparator separator := (formed (.marker separator m) (by simp)).1
  rw [cut] at apart enough
  rw [List.map_append] at ends
  obtain ⟨rfl, unwritten⟩ := eq_nil_of_endsInWord isSeparator own_cases ends
  rw [List.map_nil, List.append_nil] at ends
  rw [roles_append, List.count_append] at enough
  obtain ⟨ps, p, skips, rfl, onlySkips, writes⟩ :=
    exists_word_in_front (fun p mem => formed p (List.mem_append_left _ mem)) filled
      (Nat.le_of_add_right_le enough) ends
  refine ⟨ps ++ p :: skips, separator, m, behind, cut, asks, List.append_nil _, ?_⟩
  rw [foldl_firstAfter, roles_append] at unwritten
  cases p with
  | char c =>
    have onlySkipsBefore : separator = [] ∨ ∀ r ∈ roles ps, r = .skip := by
      refine unwritten.imp_right fun all r mem => ?_
      simp only [List.all_append, Bool.true_and, Bool.and_eq_true, List.all_eq_true,
        decide_eq_true_eq] at all
      exact all.1 r mem
    rw [List.append_assoc] at apart formed
    have behindWord : BodiesApart (ps.flatMap Piece.lexeme ++ [c])
        (skips ++ .marker separator m :: behind) := apart.of_append
    have formedBehind : ∀ p ∈ skips ++ .marker separator m :: behind, p.Formed := fun p mem =>
      formed p (List.mem_append_right ps (List.mem_cons_of_mem _ mem))
    exact .word onlySkips writes (head_behind_word formedBehind onlySkips writes behindWord)
      onlySkipsBefore
  | quoted text => cases writes
  | marker separator' m' =>
    obtain ⟨text, role, ends⟩ := writes
    have noSeparator : separator = [] := by
      refine unwritten.resolve_right fun all => ?_
      simp [roles, role] at all
    subst noSeparator
    exact .text onlySkips role ends

theorem glyphs_skips {skips : List Piece} (onlySkips : ∀ p ∈ skips, IsSkip p) (first : Bool)
    (sizes : List Nat) : glyphs first skips sizes = [] := by
  induction skips generalizing first sizes with
  | nil => rfl
  | cons p skips ih =>
    obtain ⟨separator, m, rfl, role⟩ := onlySkips p List.mem_cons_self
    rw [glyphs_cons, ih fun p mem => onlySkips p (List.mem_cons_of_mem _ mem)]
    simp [Piece.written, role]

/-- What is written in front of a marker that is bared ends in a word. -/
theorem Bared.endsInWord {ps : List Piece} {separator : List Char} (bared : Bared ps separator)
    (first : Bool) (sizes : List Nat) : EndsInWord ((glyphs first ps sizes).map Glyph.char) := by
  cases bared with
  | text onlySkips role ends =>
    rw [glyphs_behind, glyphs_cons, glyphs_skips onlySkips, List.append_nil, Piece.written, role]
    simp only [List.map_append, map_char_copied, ← List.append_assoc]
    exact (endsInWord_append (ne_nil_of_role_eq_literal role)).2 ends
  | word onlySkips word _ _ =>
    rw [glyphs_behind, glyphs_cons, glyphs_skips onlySkips, List.append_nil, Piece.written,
      List.map_append]
    exact endsInWord_concat.2 word

theorem Exposed.endsInWord {ps : List Piece} {sizes : List Nat} {before : List Glyph}
    (exposed : Exposed ps sizes before) : EndsInWord (before.map Glyph.char) := by
  obtain ⟨front, separator, m, behind, -, -, rfl, bared⟩ := exposed
  exact bared.endsInWord true sizes

/-! ## Numbered placeholders -/

/-- Numbering a finished text numbers its first placeholders, as many as there are question marks
outside quotes. -/
theorem numberFrom_glyphs (cs : List Char) (sizes : List Nat) (next : Nat) :
    let text := glyphs true (pieces cs) sizes
    numberFrom none next (text.map Glyph.char) =
      numberFirst (questions none (text.map Glyph.char)) next text := by
  obtain ⟨before, after, split, inStep, tail⟩ := glyphs_pieces_split true cs sizes
  intro text
  have text_eq : text = before ++ after := split
  rw [text_eq, questions_split inStep tail, numberFrom_split inStep tail]

/-- In front of a numbered placeholder stands its text, with the placeholders in it numbered. -/
theorem numberFirst_split {count : Nat} {before : List Glyph}
    (lt : before.count .placeholder < count) (next : Nat) (after : List Glyph) :
    ∃ behind, numberFirst count next (before ++ .placeholder :: after) =
      numberFirst (before.count .placeholder) next before ++
        ('$' :: Digits.ofNat (next + before.count .placeholder) ++ behind) := by
  obtain ⟨others, rfl⟩ := Nat.exists_eq_add_of_lt lt
  refine ⟨numberFirst others (next + before.count .placeholder + 1) after, ?_⟩
  rw [Nat.add_assoc, numberFirst_append]
  rfl

/-- Numbering leaves a text its end, unless that is a placeholder. -/
theorem endsInWord_of_numberFirst {next : Nat} {before : List Glyph}
    (ends : EndsInWord (numberFirst (before.count .placeholder) next before)) :
    before.getLast? = some .placeholder ∨ EndsInWord (before.map Glyph.char) := by
  rcases List.eq_nil_or_concat before with rfl | ⟨gs, g, rfl⟩
  · exact Or.inr ends
  · by_cases placeholder : g = .placeholder
    · exact Or.inl (by rw [placeholder, List.concat_eq_append, List.getLast?_concat])
    · have none_in : [g].count .placeholder = 0 := by simp [placeholder]
      rw [List.concat_eq_append, List.count_append, none_in, numberFirst_append,
        numberFirst_zero] at ends
      rw [List.concat_eq_append, List.map_append]
      exact Or.inr (endsInWord_concat.2 (endsInWord_concat.1 ends))

/-- **Placeholders stay apart from words.** Let no marker of a template stand directly behind a
word, and let the template be rewritten. A placeholder of the finished text has a word in front of
it if and only if it is exposed: it is the first one of a marker that has written no separator,
and what kept the two apart in the template was dropped. When it is numbered, nothing else gets in
front of it but the number of another placeholder. -/
theorem placeholders_apart {α : Type} {template : String} {values : List α}
    {groups : List (List α)} {q : Query α} (apart : BodiesApart [] (pieces template.toList))
    (ok : rewrite template values groups = .ok q) {before after : List Glyph}
    (written : glyphs true (pieces template.toList) (groups.map List.length) =
      before ++ .placeholder :: after) :
    let number := before.count .placeholder + 1
    let exposed := Exposed (pieces template.toList) (groups.map List.length) before
    q.sql = String.ofList (before.map Glyph.char ++ '?' :: after.map Glyph.char) ∧
      (EndsInWord (before.map Glyph.char) ↔ exposed) ∧
      (number ≤ questions none q.sql.toList →
        ∃ front behind, numberPlaceholders q.sql =
            String.ofList (front ++ ('$' :: Digits.ofNat number ++ behind)) ∧
          (EndsInWord front → before.getLast? = some .placeholder ∨ exposed)) := by
  intro number exposed
  obtain ⟨-, fits, rfl⟩ := rewrite_eq_ok_iff.1 ok
  have filled : ∀ n ∈ groups.map List.length, 0 < n := by
    intro n mem
    obtain ⟨group, inGroups, rfl⟩ := List.mem_map.1 mem
    exact List.length_pos_iff.2 (fits.groups_filled group inGroups)
  have enough : (roles (pieces template.toList)).count .expand ≤
      (groups.map List.length).length := by
    rw [List.length_map]
    exact fits.groups_taken.le
  have behindWord : EndsInWord (before.map Glyph.char) ↔ exposed :=
    ⟨exposed_of_endsInWord apart filled enough written, Exposed.endsInWord⟩
  refine ⟨?_, behindWord, fun numbered => ?_⟩
  · rw [render, written, List.map_append, List.map_cons]
    rfl
  · rw [String.toList_ofList, render, written] at numbered
    obtain ⟨behind, split⟩ := numberFirst_split numbered 1 after
    refine ⟨numberFirst (before.count .placeholder) 1 before, behind, ?_, fun ends =>
      (endsInWord_of_numberFirst ends).imp_right behindWord.1⟩
    rw [numberPlaceholders, String.toList_ofList, render, numberFrom_glyphs, written, split,
      Nat.add_comm 1]

/-- A skip takes the comma between a word and the placeholder behind it. -/
theorem placeholders_apart_skip :
    let ps := pieces "a in (??), b,# ? or c".toList
    let before := "a in (".toList.map .copied ++ placeholders 2 ++ "), b".toList.map .copied
    BodiesApart [] ps ∧
      rewrite "a in (??), b,# ? or c" [1, 2] [[10, 20]] =
        .ok ⟨"a in (?,?), b? or c", [10, 20, 2]⟩ ∧
      glyphs true ps [2] = before ++ .placeholder :: " or c".toList.map .copied ∧
      EndsInWord (before.map Glyph.char) ∧ Exposed ps [2] before ∧
      ∃ front behind, numberPlaceholders "a in (?,?), b? or c" =
        String.ofList (front ++ ('$' :: Digits.ofNat 3 ++ behind)) := by
  intro ps before
  have apart : BodiesApart [] ps := by decide +kernel
  have ok : rewrite "a in (??), b,# ? or c" [1, 2] [[10, 20]] =
      .ok ⟨"a in (?,?), b? or c", [10, 20, 2]⟩ := eq_ok_of_toOption_eq_some (by decide +kernel)
  have written : glyphs true ps [2] = before ++ .placeholder :: " or c".toList.map .copied := by
    decide +kernel
  have ends : EndsInWord (before.map Glyph.char) := by decide +kernel
  obtain ⟨-, behindWord, numbered⟩ := placeholders_apart apart ok written
  obtain ⟨front, behind, sent, -⟩ := numbered (by decide +kernel)
  exact ⟨apart, ok, written, ends, behindWord.1 ends, front, behind, sent⟩

-- a text loses the blank at its end, and its quotes
example : (rewrite "limit #n ?" [1] []).toOption = some ⟨"limit n?", [1]⟩ ∧
    (rewrite "limit '#n'?" [1] []).toOption = some ⟨"limit n?", [1]⟩ := by
  decide +kernel

/-- The separator of the first marker is not written, and a word stands in front of it. -/
theorem separator_dropped_behind_word :
    BodiesApart [] (pieces "select a, ?".toList) ∧
      rewrite "select a, ?" [1] [] = .ok ⟨"select a?", [1]⟩ ∧
      glyphs true (pieces "select a, ?".toList) [] =
        "select a".toList.map .copied ++ [.placeholder] ∧
      EndsInWord "select a".toList ∧
      numberPlaceholders "select a?" = "select a$1" :=
  ⟨by decide +kernel, eq_ok_of_toOption_eq_some (by decide +kernel), by decide +kernel,
    by decide +kernel, by decide +kernel⟩

end SqlAccess.Postgres
