import Mathlib.Data.List.TakeWhile
import SqlAccess.Proofs.Text.Quotes
import SqlAccess.Template.Marker

/-!
# What reading a template gives

`readPiece` tries three readers in turn: one for markers, one for quoted text, and the character
alone when neither takes anything. `readPiece_cases` says once what comes of it; whoever asks how
a template is cut into pieces starts there and unfolds no reader.

* `closeQuote_eq_none_iff` and `closeQuote_escaped`: a quoted text has no end exactly when its
  quote does not occur any more; up to its end the quote is doubled.
* `IsSeparator` and `Marker.Written` name the characters that a marker is made of.
* `Piece.Formed` is the form that every piece of a template has (`formed_of_mem_pieces`).
-/

namespace SqlAccess.Template

open SqlAccess.Text

/-- The characters in front of a marker: nothing, or a comma and blanks. -/
def IsSeparator (cs : List Char) : Prop :=
  cs = [] ∨ ∃ blanks, cs = ',' :: blanks ∧ ∀ b ∈ blanks, isBlank b = true

/-- The marker can be read: its characters after the number sign are of the literal alphabet. -/
def Marker.Written : Marker → Prop
  | .hash _ content => ∀ c ∈ content, isLiteralChar c = true
  | _ => True

/-! ## No quotes among them -/

theorem not_isQuote_of_isBlank {c : Char} (blank : isBlank c = true) : ¬IsQuote c := by
  rintro (rfl | rfl) <;> revert blank <;> decide

theorem not_isQuote_of_isLiteralChar {c : Char} (literal : isLiteralChar c = true) :
    ¬IsQuote c := by
  rintro (rfl | rfl) <;> revert literal <;> decide

theorem isBlank_quote {q : Char} (quote : IsQuote q) : isBlank q = false :=
  eq_false_of_ne_true fun blank => not_isQuote_of_isBlank blank quote

theorem isLiteralChar_quote {q : Char} (quote : IsQuote q) : isLiteralChar q = false :=
  eq_false_of_ne_true fun literal => not_isQuote_of_isLiteralChar literal quote

/-! ## Blanks among the literal characters -/

/-- The blanks stand in front of the ASCII letters and digits, or behind them. -/
theorem isAlphanum_of_isBlank {c : Char} (blank : isBlank c = true) : c.isAlphanum = false := by
  have outside : c.toNat ≤ 32 ∨ 133 ≤ c.toNat := by
    simp only [isBlank, Bool.or_eq_true, Bool.and_eq_true, decide_eq_true_eq, beq_iff_eq] at blank
    omega
  refine eq_false_of_ne_true fun alphanum => ?_
  unfold Char.isAlphanum Char.isAlpha Char.isUpper Char.isLower Char.isDigit at alphanum
  simp only [Bool.or_eq_true, Bool.and_eq_true, decide_eq_true_eq, ge_iff_le,
    UInt32.le_iff_toNat_le] at alphanum
  have inside : 48 ≤ c.toNat ∧ c.toNat ≤ 122 := by
    rcases alphanum with (⟨low, high⟩ | ⟨low, high⟩) | ⟨low, high⟩
    · exact ⟨Nat.le_trans (by decide) low, Nat.le_trans high (by decide)⟩
    · exact ⟨Nat.le_trans (by decide) low, Nat.le_trans high (by decide)⟩
    · exact ⟨Nat.le_trans (by decide) low, Nat.le_trans high (by decide)⟩
  omega

/-- The only blank of the literal alphabet is the space. -/
theorem eq_space_of_isLiteralChar {c : Char} (literal : isLiteralChar c = true)
    (blank : isBlank c = true) : c = ' ' := by
  simp only [isLiteralChar, isAlphanum_of_isBlank blank, Bool.false_or, Bool.or_eq_true,
    decide_eq_true_eq] at literal
  rcases literal with ((((rfl | rfl) | rfl) | rfl) | rfl) | isSpace
  · exact absurd blank (by decide)
  · exact absurd blank (by decide)
  · exact absurd blank (by decide)
  · exact absurd blank (by decide)
  · exact absurd blank (by decide)
  · exact isSpace

/-! ## The end of a quoted text -/

/-- A quoted text has no end exactly when its quote does not occur any more. -/
theorem closeQuote_eq_none_iff {q : Char} {cs : List Char} :
    closeQuote q cs = none ↔ q ∉ cs := by
  fun_induction closeQuote q cs with
  | case1 => simp
  | case2 => simp
  | case3 c hc => simp [Ne.symm hc]
  | case4 rest text after heq ih => simp
  | case5 rest heq ih => simp
  | case6 d rest hd => simp
  | case7 c d rest hc ih => simp [ih, Ne.symm hc]

/-- What is read up to the end of a quoted text is a text with its quotes doubled, and the
closing quote. -/
theorem closeQuote_escaped {q : Char} {cs body after : List Char}
    (h : closeQuote q cs = some (body, after)) :
    ∃ content, body = content ++ [q] ∧ Escaped q content := by
  fun_induction closeQuote q cs generalizing body after with
  | case1 => cases h
  | case2 => cases h; exact ⟨[], rfl, .nil⟩
  | case3 => cases h
  | case4 rest text after' found ih =>
    cases h
    obtain ⟨content, rfl, escaped⟩ := ih found
    exact ⟨_ :: _ :: content, rfl, .doubled escaped⟩
  | case5 => cases h; exact ⟨[], rfl, .nil⟩
  | case6 => cases h; exact ⟨[], rfl, .nil⟩
  | case7 c d rest ne ih =>
    obtain ⟨⟨text, after'⟩, found, same⟩ := Option.map_eq_some_iff.1 h
    cases same
    obtain ⟨content, rfl, escaped⟩ := ih found
    exact ⟨c :: content, rfl, .char ne escaped⟩

/-! ## One marker -/

theorem readMarker_written {cs after : List Char} {m : Marker}
    (h : readMarker cs = some (m, after)) : m.Written := by
  unfold readMarker at h
  split at h
  · cases h; trivial
  · cases h; trivial
  · cases h
    intro c mem
    exact List.mem_takeWhile_imp mem
  · split at h
    · cases h
      intro c mem
      exact List.mem_takeWhile_imp mem
    · cases h
  · cases h

/-- What the reader of separated markers gives is a separator and a marker. -/
theorem readSeparated_cases {cs after : List Char} {p : Piece}
    (h : readSeparated cs = some (p, after)) :
    ∃ separator m, p = .marker separator m ∧ IsSeparator separator ∧ m.Written := by
  unfold readSeparated at h
  split at h
  · rename_i rest
    obtain ⟨⟨m, after'⟩, read, same⟩ := Option.map_eq_some_iff.1 h
    cases same
    have blanks : ∀ b ∈ rest.takeWhile isBlank, isBlank b = true :=
      fun b mem => List.mem_takeWhile_imp mem
    exact ⟨_, m, rfl, Or.inr ⟨_, rfl, blanks⟩, readMarker_written read⟩
  · obtain ⟨⟨m, after'⟩, read, same⟩ := Option.map_eq_some_iff.1 h
    cases same
    exact ⟨[], m, rfl, Or.inl rfl, readMarker_written read⟩

/-- A question mark or a number sign always starts a marker. -/
theorem readSeparated_ne_none {c : Char} (start : c = '?' ∨ c = '#') (rest : List Char) :
    readSeparated (c :: rest) ≠ none := by
  rcases start with rfl | rfl
  · cases rest with
    | nil => simp [readSeparated, readMarker]
    | cons d rest =>
      by_cases hd : d = '?'
      · subst hd
        simp [readSeparated, readMarker]
      · simp [readSeparated, readMarker, hd]
  · simp [readSeparated, readMarker]

/-! ## One piece -/

theorem readQuoted_cons (c : Char) (rest : List Char) :
    readQuoted (c :: rest) =
      if IsQuote c then
        (closeQuote c rest).map fun (text, after) => (.quoted (c :: text), after)
      else none := rfl

/-- **What one piece can be.** It is a marker; or closed quoted text; or a single character,
which then starts no marker, and no text that is closed if it is a quote. -/
theorem readPiece_cases {c : Char} {rest after : List Char} {p : Piece}
    (h : readPiece c rest = (p, after)) :
    (∃ separator m, p = .marker separator m ∧ IsSeparator separator ∧ m.Written) ∨
      (∃ body, p = .quoted (c :: body) ∧ IsQuote c ∧ closeQuote c rest = some (body, after)) ∨
      (p = .char c ∧ after = rest ∧ c ≠ '?' ∧ c ≠ '#' ∧ (IsQuote c → c ∉ rest)) := by
  unfold readPiece at h
  cases separated : readSeparated (c :: rest) with
  | some read =>
    rw [separated] at h
    cases h
    exact Or.inl (readSeparated_cases separated)
  | none =>
    have noStart : ¬(c = '?' ∨ c = '#') := fun start => readSeparated_ne_none start rest separated
    rw [not_or] at noStart
    rw [separated, readQuoted_cons] at h
    by_cases quote : IsQuote c
    · cases close : closeQuote c rest with
      | some found =>
        obtain ⟨body, after'⟩ := found
        simp only [if_pos quote, close] at h
        cases h
        exact Or.inr (Or.inl ⟨body, rfl, quote, rfl⟩)
      | none =>
        simp only [if_pos quote, close] at h
        cases h
        exact Or.inr (Or.inr ⟨rfl, rfl, noStart.1, noStart.2,
          fun _ => closeQuote_eq_none_iff.1 close⟩)
    · simp only [if_neg quote] at h
      cases h
      exact Or.inr (Or.inr ⟨rfl, rfl, noStart.1, noStart.2, fun q => (quote q).elim⟩)

/-! ## All pieces -/

/-- The form of a piece: a character alone starts no marker, a quoted text has its two quotes, and
a marker has a separator in front and only literal characters in it. -/
def Piece.Formed : Piece → Prop
  | .char c => c ≠ '?' ∧ c ≠ '#'
  | .quoted text => ∃ q content, IsQuote q ∧ Escaped q content ∧ text = q :: content ++ [q]
  | .marker separator m => IsSeparator separator ∧ m.Written

theorem formed_readPiece (c : Char) (rest : List Char) : (readPiece c rest).1.Formed := by
  rcases read : readPiece c rest with ⟨p, after⟩
  rcases readPiece_cases read with ⟨separator, m, rfl, isSeparator, written⟩ |
    ⟨body, rfl, quote, closed⟩ | ⟨rfl, -, noQuestion, noSign, -⟩
  · exact ⟨isSeparator, written⟩
  · obtain ⟨content, rfl, escaped⟩ := closeQuote_escaped closed
    exact ⟨c, content, quote, escaped, rfl⟩
  · exact ⟨noQuestion, noSign⟩

theorem formed_of_mem_pieces {cs : List Char} {p : Piece} (mem : p ∈ pieces cs) : p.Formed := by
  fun_induction pieces cs with
  | case1 => cases mem
  | case2 c rest ih =>
    rcases List.mem_cons.1 mem with rfl | mem
    · exact formed_readPiece c rest
    · exact ih mem

end SqlAccess.Template
