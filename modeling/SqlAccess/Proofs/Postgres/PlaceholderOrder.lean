import SqlAccess.Postgres.Placeholder
import SqlAccess.Proofs.Template.Glyphs

/-!
# The numbered placeholders are those of the markers

Two scans decide what is quoted. Reading a template takes quoted text as a piece, ended by a
quote that is not doubled; numbering switches at every quote of the finished text, from which
markers, separators and the quotes around literal markers are gone. They agree nevertheless.

* `InStep` holds of a stretch of the finished text that numbering enters and leaves outside
  quotes and in which it numbers exactly the placeholders. What a marker writes is such a stretch
  (`InStep.of_marker`), and so is quoted text (`InStep.of_quoted`).
* A lone quote is the last one of its kind, so behind it nothing is numbered any more.
  `glyphs_pieces_split` cuts a finished text at the first lone quote.
* `numberPlaceholders_rewrite` puts the two together.
-/

namespace SqlAccess.Postgres

open SqlAccess.Template SqlAccess.Text

/-- The number of question marks outside quotes, when `quote` is open in front. -/
def questions (quote : Option Char) : List Char → Nat
  | [] => 0
  | c :: cs => (if quote = none ∧ c = '?' then 1 else 0) + questions (quoteStep quote c) cs

/-- Writes glyphs with the first `count` placeholders numbered from `next` on, and everything
else as it is. -/
def numberFirst : (count next : Nat) → List Glyph → List Char
  | _, _, [] => []
  | count + 1, next, .placeholder :: gs =>
    '$' :: Digits.ofNat next ++ numberFirst count (next + 1) gs
  | count, next, g :: gs => g.char :: numberFirst count next gs

/-- The character has no meaning to either scan. -/
def IsPlain (c : Char) : Prop := ¬IsQuote c ∧ c ≠ '?'

/-! ## Plain characters -/

theorem not_isQuote_question : ¬IsQuote '?' := by decide

theorem isPlain_of_isBlank {c : Char} (blank : isBlank c = true) : IsPlain c := by
  refine ⟨not_isQuote_of_isBlank blank, ?_⟩
  rintro rfl
  revert blank
  decide

theorem isPlain_of_isLiteralChar {c : Char} (literal : isLiteralChar c = true) : IsPlain c := by
  refine ⟨not_isQuote_of_isLiteralChar literal, ?_⟩
  rintro rfl
  revert literal
  decide

theorem isPlain_of_isSeparator {cs : List Char} (separator : IsSeparator cs) :
    ∀ c ∈ cs, IsPlain c := by
  rcases separator with rfl | ⟨blanks, rfl, blank⟩
  · exact nofun
  · intro c mem
    rcases List.mem_cons.1 mem with rfl | mem
    · exact ⟨by decide, by decide⟩
    · exact isPlain_of_isBlank (blank c mem)

theorem isPlain_of_role_eq_literal {m : Marker} {text : List Char} (written : m.Written)
    (h : m.role = .literal text) : ∀ c ∈ text, IsPlain c := by
  obtain ⟨quoted, content, rfl, rfl⟩ := Marker.role_eq_literal h
  intro c mem
  exact isPlain_of_isLiteralChar (written c (mem_trim mem))

/-! ## Numbering goes on where a text ends -/

theorem numberFrom_cons_question (next : Nat) (cs : List Char) :
    numberFrom none next ('?' :: cs) = '$' :: Digits.ofNat next ++ numberFrom none (next + 1) cs :=
  rfl

theorem numberFrom_cons {quote : Option Char} {c : Char} (h : ¬(quote = none ∧ c = '?'))
    (next : Nat) (cs : List Char) :
    numberFrom quote next (c :: cs) = c :: numberFrom (quoteStep quote c) next cs := by
  cases quote with
  | some q => rfl
  | none =>
    have ne : c ≠ '?' := fun same => h ⟨rfl, same⟩
    rw [numberFrom]
    simp only [if_neg ne]
    rfl

/-- Behind a text, numbering goes on with the quote that is open there and the next number. -/
theorem numberFrom_append (quote : Option Char) (next : Nat) (cs ds : List Char) :
    numberFrom quote next (cs ++ ds) =
      numberFrom quote next cs ++
        numberFrom (quoteAfter quote cs) (next + questions quote cs) ds := by
  induction cs generalizing quote next with
  | nil => rfl
  | cons c cs ih =>
    by_cases numbered : quote = none ∧ c = '?'
    · obtain ⟨rfl, rfl⟩ := numbered
      have step : quoteStep none '?' = none := rfl
      rw [List.cons_append, numberFrom_cons_question, numberFrom_cons_question, ih, quoteAfter_cons,
        step, questions, step, if_pos ⟨rfl, rfl⟩, List.append_assoc, Nat.add_assoc]
    · rw [List.cons_append, numberFrom_cons numbered, numberFrom_cons numbered, ih, quoteAfter_cons,
        questions, if_neg numbered, Nat.zero_add, List.cons_append]

theorem questions_append (quote : Option Char) (cs ds : List Char) :
    questions quote (cs ++ ds) = questions quote cs + questions (quoteAfter quote cs) ds := by
  induction cs generalizing quote with
  | nil => simp [questions]
  | cons c cs ih =>
    rw [List.cons_append, questions, questions, ih, quoteAfter_cons, Nat.add_assoc]

/-- A text without question marks outside quotes is left as it is. -/
theorem numberFrom_of_questions_eq_zero {quote : Option Char} {cs : List Char}
    (h : questions quote cs = 0) (next : Nat) : numberFrom quote next cs = cs := by
  induction cs generalizing quote with
  | nil => rfl
  | cons c cs ih =>
    rw [questions] at h
    have skipped : ¬(quote = none ∧ c = '?') := by
      intro numbered
      rw [if_pos numbered] at h
      omega
    rw [numberFrom_cons skipped, ih (by omega)]

/-- Inside a quote nothing is numbered as long as the quote does not occur. -/
theorem questions_of_not_mem {q : Char} {cs : List Char} (h : q ∉ cs) :
    questions (some q) cs = 0 := by
  induction cs with
  | nil => rfl
  | cons c cs ih =>
    rw [List.mem_cons, not_or] at h
    rw [questions, quoteStep_of_ne (Ne.symm h.1), ih h.2]
    simp

/-- Nor where the quote is doubled. -/
theorem questions_of_escaped {q : Char} {cs : List Char} (escaped : Escaped q cs)
    (quote : IsQuote q) : questions (some q) cs = 0 := by
  induction escaped with
  | nil => rfl
  | char other _ ih =>
    rw [questions, quoteStep_of_ne other, ih]
    simp
  | doubled _ ih =>
    -- the two halves close a quote and open the next, with nothing in between
    rw [questions, quoteStep_self, questions, quoteStep_of_isQuote quote, ih]
    simp [quote.ne not_isQuote_question]

theorem questions_of_plain {cs : List Char} (h : ∀ c ∈ cs, IsPlain c) :
    questions none cs = 0 := by
  induction cs with
  | nil => rfl
  | cons c cs ih =>
    obtain ⟨unquoted, ne⟩ := h c List.mem_cons_self
    rw [questions, quoteStep_of_not_isQuote unquoted,
      ih fun d mem => h d (List.mem_cons_of_mem c mem)]
    simp [ne]

/-! ## Stretches in step -/

theorem numberFirst_zero (next : Nat) (gs : List Glyph) :
    numberFirst 0 next gs = gs.map Glyph.char := by
  induction gs with
  | nil => rfl
  | cons g gs ih => cases g <;> simp [numberFirst, ih]

theorem numberFirst_cons_of_ne {g : Glyph} (h : g ≠ .placeholder) (count next : Nat)
    (gs : List Glyph) :
    numberFirst count next (g :: gs) = g.char :: numberFirst count next gs := by
  cases g with
  | placeholder => exact (h rfl).elim
  | copied c => cases count <;> rfl
  | groupComma => cases count <;> rfl

/-- Numbering all placeholders of a stretch and some of the next one. -/
theorem numberFirst_append (count next : Nat) (gs hs : List Glyph) :
    numberFirst (gs.count .placeholder + count) next (gs ++ hs) =
      numberFirst (gs.count .placeholder) next gs ++
        numberFirst count (next + gs.count .placeholder) hs := by
  induction gs generalizing next with
  | nil => simp [numberFirst]
  | cons g gs ih =>
    by_cases isPlaceholder : g = .placeholder
    · subst isPlaceholder
      have move : gs.count .placeholder + 1 + count = gs.count .placeholder + count + 1 := by omega
      have next_eq : next + (gs.count .placeholder + 1) = next + 1 + gs.count .placeholder := by
        omega
      rw [List.count_cons_self, List.cons_append, move, numberFirst, numberFirst, ih, next_eq,
        List.append_assoc]
    · rw [List.count_cons_of_ne isPlaceholder, List.cons_append,
        numberFirst_cons_of_ne isPlaceholder, numberFirst_cons_of_ne isPlaceholder, ih,
        List.cons_append]

/-- Numbering enters and leaves the stretch outside quotes and numbers exactly its
placeholders. -/
structure InStep (gs : List Glyph) : Prop where
  closed : quoteAfter none (gs.map Glyph.char) = none
  counted : questions none (gs.map Glyph.char) = gs.count .placeholder
  numbered : ∀ next, numberFrom none next (gs.map Glyph.char) =
    numberFirst (gs.count .placeholder) next gs

theorem InStep.nil : InStep [] := ⟨rfl, rfl, fun _ => rfl⟩

theorem InStep.placeholder : InStep [.placeholder] := ⟨rfl, rfl, fun _ => rfl⟩

theorem InStep.groupComma : InStep [.groupComma] := ⟨rfl, rfl, fun _ => rfl⟩

theorem InStep.append {gs hs : List Glyph} (left : InStep gs) (right : InStep hs) :
    InStep (gs ++ hs) := by
  refine ⟨?_, ?_, fun next => ?_⟩
  · rw [List.map_append, quoteAfter_append, left.closed, right.closed]
  · rw [List.map_append, questions_append, left.closed, left.counted, right.counted,
      List.count_append]
  · rw [List.map_append, numberFrom_append, left.closed, left.counted, left.numbered,
      right.numbered, List.count_append, numberFirst_append]

/-- Copied text is in step if its quotes are closed and hide all its question marks. -/
theorem InStep.of_copied {cs : List Char} (closed : quoteAfter none cs = none)
    (hidden : questions none cs = 0) : InStep (cs.map .copied) := by
  refine ⟨?_, ?_, fun next => ?_⟩
  · rw [map_char_copied, closed]
  · rw [map_char_copied, hidden, count_placeholder_copied]
  · rw [map_char_copied, numberFrom_of_questions_eq_zero hidden, count_placeholder_copied,
      numberFirst_zero, map_char_copied]

theorem InStep.of_plain {cs : List Char} (h : ∀ c ∈ cs, IsPlain c) :
    InStep (cs.map .copied) :=
  .of_copied (quoteAfter_of_plain fun c mem => (h c mem).1) (questions_of_plain h)

/-- Quoted text is in step. -/
theorem InStep.of_quoted {q : Char} {content : List Char} (quote : IsQuote q)
    (escaped : Escaped q content) : InStep ((q :: content ++ [q]).map .copied) := by
  have opened := quoteStep_of_isQuote quote
  refine .of_copied ?_ ?_
  · rw [List.cons_append, quoteAfter_cons, opened, quoteAfter_append, escaped.quoteAfter quote,
      quoteAfter_cons, quoteStep_self, quoteAfter_nil]
  · rw [List.cons_append, questions, opened, questions_append, questions_of_escaped escaped quote,
      escaped.quoteAfter quote]
    simp [questions, quote.ne not_isQuote_question]

theorem InStep.of_placeholders (n : Nat) : InStep (placeholders n) := by
  induction n using placeholders.induct with
  | case1 => exact .nil
  | case2 => exact .placeholder
  | case3 n ih => exact InStep.placeholder.append (InStep.groupComma.append ih)

theorem InStep.of_separatorGlyphs {separator : List Char} (plain : IsSeparator separator)
    (first : Bool) : InStep (separatorGlyphs first separator) := by
  cases first with
  | true => exact .nil
  | false => exact .of_plain (isPlain_of_isSeparator plain)

/-- What a marker writes is in step. -/
theorem InStep.of_marker {separator : List Char} {m : Marker} (plain : IsSeparator separator)
    (written : m.Written) (first : Bool) (sizes : List Nat) :
    InStep (Piece.written first sizes (.marker separator m)) := by
  have front := InStep.of_separatorGlyphs plain first
  rw [Piece.written]
  cases role : m.role with
  | skip => exact .nil
  | literal text => exact front.append (.of_plain (isPlain_of_role_eq_literal written role))
  | param => exact front.append .placeholder
  | expand => exact front.append (.of_placeholders _)

/-! ## Up to the first lone quote -/

/-- The text starts with a quote that does not occur in it again. -/
def Lone (gs : List Glyph) : Prop :=
  ∃ q rest, IsQuote q ∧ gs = .copied q :: rest ∧ q ∉ rest.map Glyph.char

theorem not_mem_glyphs {q : Char} {cs : List Char} (quote : IsQuote q) (h : q ∉ cs)
    (first : Bool) (sizes : List Nat) :
    q ∉ (glyphs first (pieces cs) sizes).map Glyph.char := by
  intro mem
  obtain ⟨g, inGlyphs, char_eq⟩ := List.mem_map.1 mem
  cases g with
  | copied c =>
    cases char_eq
    exact h (mem_of_copied_mem_glyphs inGlyphs)
  | placeholder => exact quote.ne not_isQuote_question char_eq.symm
  | groupComma => exact quote.ne (by decide) char_eq.symm

/-- A finished text is in step up to its first lone quote. -/
theorem glyphs_pieces_split (first : Bool) (cs : List Char) (sizes : List Nat) :
    ∃ before after, glyphs first (pieces cs) sizes = before ++ after ∧ InStep before ∧
      (after = [] ∨ Lone after) := by
  fun_induction pieces cs generalizing first sizes with
  | case1 => exact ⟨[], [], rfl, .nil, Or.inl rfl⟩
  | case2 c rest ih =>
    generalize read : readPiece c rest = result at ih ⊢
    obtain ⟨p, remaining⟩ := result
    rw [glyphs_cons]
    have inFront : InStep (p.written first sizes) →
        ∃ before after, p.written first sizes ++
            glyphs (p.firstAfter first) (pieces remaining) (p.sizesAfter sizes) =
          before ++ after ∧ InStep before ∧ (after = [] ∨ Lone after) := by
      intro inStep
      obtain ⟨before, after, split, beforeInStep, tail⟩ :=
        ih (p.firstAfter first) (p.sizesAfter sizes)
      refine ⟨p.written first sizes ++ before, after, ?_, inStep.append beforeInStep, tail⟩
      rw [split, List.append_assoc]
    rcases readPiece_cases read with ⟨separator, m, rfl, plain, written⟩ |
      ⟨body, rfl, quote, closed⟩ | ⟨rfl, rfl, noQuestion, -, unclosed⟩
    · exact inFront (.of_marker plain written first sizes)
    · obtain ⟨content, rfl, escaped⟩ := closeQuote_escaped closed
      exact inFront (.of_quoted quote escaped)
    · by_cases quote : IsQuote c
      · -- a lone quote: copied characters come from the template, where it does not occur again
        refine ⟨[], _, rfl, .nil, Or.inr ⟨c, _, quote, rfl, ?_⟩⟩
        exact not_mem_glyphs quote (unclosed quote) _ _
      · have plain : ∀ d ∈ [c], IsPlain d := by
          intro d mem
          rw [List.mem_singleton.1 mem]
          exact ⟨quote, noQuestion⟩
        exact inFront (.of_plain plain)

/-! ## Finished texts -/

/-- Behind a lone quote nothing is numbered. -/
theorem Lone.questions_eq_zero {gs : List Glyph} (lone : Lone gs) :
    questions none (gs.map Glyph.char) = 0 := by
  obtain ⟨q, rest, quote, rfl, notMem⟩ := lone
  rw [List.map_cons, Glyph.char, questions, quoteStep_of_isQuote quote,
    questions_of_not_mem notMem]
  simp [quote.ne not_isQuote_question]

theorem Lone.quoteAfter_ne_none {gs : List Glyph} (lone : Lone gs) :
    quoteAfter none (gs.map Glyph.char) ≠ none := by
  obtain ⟨q, rest, quote, rfl, notMem⟩ := lone
  rw [List.map_cons, Glyph.char, quoteAfter_cons, quoteStep_of_isQuote quote,
    quoteAfter_of_not_mem notMem]
  exact Option.some_ne_none q

theorem questions_tail {after : List Glyph} (tail : after = [] ∨ Lone after) :
    questions none (after.map Glyph.char) = 0 := by
  rcases tail with rfl | lone
  · rfl
  · exact lone.questions_eq_zero

section

variable {before after : List Glyph} (inStep : InStep before) (tail : after = [] ∨ Lone after)
include inStep tail

theorem questions_split :
    questions none ((before ++ after).map Glyph.char) = before.count .placeholder := by
  rw [List.map_append, questions_append, inStep.closed, inStep.counted, questions_tail tail,
    Nat.add_zero]

theorem numberFrom_split (next : Nat) :
    numberFrom none next ((before ++ after).map Glyph.char) =
      numberFirst (before.count .placeholder) next (before ++ after) := by
  have first := numberFirst_append 0 next before after
  rw [Nat.add_zero, numberFirst_zero] at first
  rw [List.map_append, numberFrom_append, inStep.closed, inStep.numbered, first,
    numberFrom_of_questions_eq_zero (questions_tail tail)]

theorem eq_nil_of_quoteAfter_split
    (closed : quoteAfter none ((before ++ after).map Glyph.char) = none) : after = [] := by
  rcases tail with rfl | lone
  · rfl
  · rw [List.map_append, quoteAfter_append, inStep.closed] at closed
    exact (lone.quoteAfter_ne_none closed).elim

end

/-- **The numbered placeholders are the first ones that were written.** A rewritten text has one
placeholder of its markers for each bound value. The question marks outside its quotes are the
first `k` of these, none of them copied; numbering turns them into `$1` to `$k` and leaves every
other character as it is. There are at most as many as bound values, and just as many if the
quotes of the text are closed. -/
theorem numberPlaceholders_rewrite {α : Type} {template : String} {values : List α}
    {groups : List (List α)} {q : Query α} (h : rewrite template values groups = .ok q) :
    let text := glyphs true (pieces template.toList) (groups.map List.length)
    let k := questions none q.sql.toList
    q.sql = String.ofList (text.map Glyph.char) ∧
      text.count .placeholder = q.values.length ∧
      numberPlaceholders q.sql = String.ofList (numberFirst k 1 text) ∧
      k ≤ q.values.length ∧
      (quoteAfter none q.sql.toList = none → k = q.values.length) := by
  intro text k
  obtain ⟨-, fits, rfl⟩ := rewrite_eq_ok_iff.1 h
  have written : text.count .placeholder =
      (shares (rolesOf template) values groups).length :=
    count_glyphs (n := values.length) true (assign_eq_ok_iff.2 ⟨fits, rfl⟩)
  obtain ⟨before, after, split, inStep, tail⟩ :=
    glyphs_pieces_split true template.toList (groups.map List.length)
  have text_eq : text = before ++ after := split
  have sql_eq : (String.ofList (text.map Glyph.char)).toList =
      (before ++ after).map Glyph.char := by
    rw [String.toList_ofList, text_eq]
  have k_eq : k = before.count .placeholder := by
    rw [← questions_split inStep tail, ← sql_eq]
    rfl
  refine ⟨rfl, written, ?_, ?_, fun closed => ?_⟩
  · rw [k_eq, text_eq, ← numberFrom_split inStep tail, ← sql_eq]
    rfl
  · rw [k_eq, ← written, text_eq, List.count_append]
    exact Nat.le_add_right _ _
  · have closed : quoteAfter none ((before ++ after).map Glyph.char) = none := sql_eq ▸ closed
    rw [k_eq, ← written, text_eq, eq_nil_of_quoteAfter_split inStep tail closed, List.append_nil]

/-- Behind a quote that is never closed a marker still takes its value, but is not numbered. -/
theorem numberPlaceholders_rewrite_unclosed :
    rewrite "a = ?, '#b' in (??) and c = 'it''s ?' and d = 'x ?" [1, 2] [[10, 20]] =
        .ok ⟨"a = ?, b in (?,?) and c = 'it''s ?' and d = 'x ?", [1, 10, 20, 2]⟩ ∧
      numberPlaceholders "a = ?, b in (?,?) and c = 'it''s ?' and d = 'x ?" =
        "a = $1, b in ($2,$3) and c = 'it''s ?' and d = 'x ?" := by
  have ran : rewrite "a = ?, '#b' in (??) and c = 'it''s ?' and d = 'x ?" [1, 2] [[10, 20]] =
      .ok ⟨"a = ?, b in (?,?) and c = 'it''s ?' and d = 'x ?", [1, 10, 20, 2]⟩ :=
    eq_ok_of_toOption_eq_some (by decide +kernel)
  obtain ⟨-, -, numbered, -, -⟩ := numberPlaceholders_rewrite ran
  exact ⟨ran, numbered.trans (by decide +kernel)⟩

end SqlAccess.Postgres
