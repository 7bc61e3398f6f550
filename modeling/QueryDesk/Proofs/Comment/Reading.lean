/-
**How comments are taken out of a text, character by character.**

The reading of a text in segments comes to four rules for `stripCommentChars`, which
later proofs cite in its place:

* `stripCommentChars_literal` — a literal that is closed is kept.
* `stripCommentChars_block` — a block comment that is closed is left out.
* `stripCommentChars_line` — a line comment is left out.
* `stripCommentChars_cons` — any other character is kept (`OpensNothing`), also the
  blank in front of a line comment.

`reading_induction` is the induction along the reading, with one case for each rule.
-/

import QueryDesk.Proofs.Search
import QueryDesk.Sql.Comment

namespace QueryDesk.Sql

/-! ### Literals -/

theorem closeLiteral?_cons_of_ne {quote c : Char} (other : c ≠ quote) (rest : List Char) :
    closeLiteral? quote (c :: rest) = (closeLiteral? quote rest).map fun cut =>
      (c :: cut.1, cut.2) := by
  cases rest with
  | nil => simp [closeLiteral?, other]
  | cons d rest => rw [closeLiteral?, if_neg other]

/-- A quote that is not doubled closes the literal. -/
theorem closeLiteral?_quote {quote : Char} {rest : List Char}
    (single : ∀ c ∈ rest.head?, c ≠ quote) :
    closeLiteral? quote (quote :: rest) = some ([quote], rest) := by
  cases rest with
  | nil => simp [closeLiteral?]
  | cons d rest => rw [closeLiteral?, if_pos rfl, if_neg (single d rfl)]

/-- A doubled quote is part of the literal when another quote closes it, and closes it else. -/
theorem closeLiteral?_doubled (quote : Char) (rest : List Char) :
    closeLiteral? quote (quote :: quote :: rest) =
      some (match closeLiteral? quote rest with
        | some (body, more) => (quote :: quote :: body, more)
        | none => ([quote], quote :: rest)) := by
  rw [closeLiteral?, if_pos rfl, if_pos rfl]
  cases closeLiteral? quote rest <;> rfl

/-! ### Comments -/

theorem closeBlock?_close (rest : List Char) :
    closeBlock? ('*' :: '/' :: rest) = some (['*', '/'], rest) := by
  rw [closeBlock?]

theorem closeBlock?_cons {c : Char} {rest : List Char}
    (open_ : ¬ (c = '*' ∧ rest.head? = some '/')) :
    closeBlock? (c :: rest) = (closeBlock? rest).map fun cut => (c :: cut.1, cut.2) := by
  rw [closeBlock?]
  rintro more rfl rfl
  exact open_ ⟨rfl, rfl⟩

/-- A line comment begins with its sign. -/
theorem lineComment?_head {c : Char} {rest comment more : List Char}
    (found : lineComment? (c :: rest) = some (comment, more)) : c = '#' ∨ c = '-' := by
  unfold lineComment? at found
  split at found
  · exact .inl (List.cons.inj ‹_›).1
  · exact .inr (List.cons.inj ‹_›).1
  · cases found

/-! ### The four rules -/

variable {c : Char} {rest body more : List Char}

/-- A character that opens neither a literal nor a block that is closed, nor a line comment, with
the text behind it. -/
structure OpensNothing (c : Char) (rest : List Char) : Prop where
  no_literal : c = '\'' ∨ c = '"' → closeLiteral? c rest = none
  no_block : ∀ inside, c = '/' → rest = '*' :: inside → closeBlock? inside = none
  no_line : lineComment? (c :: rest) = none

theorem stripCommentChars_nil : stripCommentChars [] = [] := by
  rw [stripCommentChars, segments]
  rfl

theorem stripCommentChars_cons_eq (c : Char) (rest : List Char) : stripCommentChars (c :: rest) =
    (nextSegment c rest).1.kept ++ stripCommentChars (nextSegment c rest).2 := by
  unfold stripCommentChars
  rw [segments, List.flatMap_cons]

/-- **A literal is kept as it is.** -/
theorem stripCommentChars_literal (quote : c = '\'' ∨ c = '"')
    (closed : closeLiteral? c rest = some (body, more)) :
    stripCommentChars (c :: rest) = c :: (body ++ stripCommentChars more) := by
  rw [stripCommentChars_cons_eq]
  unfold nextSegment
  rw [if_pos quote, closed]
  rfl

/-- **A block comment is left out.** -/
theorem stripCommentChars_block {inside : List Char}
    (closed : closeBlock? inside = some (body, more)) :
    stripCommentChars ('/' :: '*' :: inside) = stripCommentChars more := by
  rw [stripCommentChars_cons_eq, nextSegment, if_neg (by decide), closed]
  rfl

/-- **A line comment is left out.** -/
theorem stripCommentChars_line {comment : List Char}
    (found : lineComment? (c :: rest) = some (comment, more)) :
    stripCommentChars (c :: rest) = stripCommentChars more := by
  have sign := lineComment?_head found
  have unquoted : ¬ (c = '\'' ∨ c = '"') := by rcases sign with rfl | rfl <;> decide
  have unblank : ¬ (c = ' ' ∨ c = '\t') := by rcases sign with rfl | rfl <;> decide
  have next : nextSegment c rest = (.comment [] comment, more) := by
    unfold nextSegment
    rw [if_neg unquoted]
    split
    · rcases sign with slash | slash <;> cases slash
    · rw [if_neg unblank, found]
  rw [stripCommentChars_cons_eq, next]
  rfl

/-- **Any other character is kept.** A blank in front of a line comment is read
with it and left behind. -/
theorem stripCommentChars_cons (single : OpensNothing c rest) :
    stripCommentChars (c :: rest) = c :: stripCommentChars rest := by
  obtain ⟨no_literal, no_block, no_line⟩ := single
  rw [stripCommentChars_cons_eq]
  unfold nextSegment
  split
  · rename_i quote
    rw [no_literal quote]
    rfl
  · split
    · rw [no_block _ rfl rfl]
      rfl
    · split
      · cases found : lineComment? rest with
        | none => rfl
        | some cut =>
          cases rest with
          | nil => cases found
          | cons d rest => rw [stripCommentChars_line found]; rfl
      · rw [no_line]
        rfl

/-- **Induction along the reading of a text**: past a literal, past a comment,
or past a character. -/
theorem reading_induction {motive : List Char → Prop} (nil : motive [])
    (literal : ∀ c rest body more, c = '\'' ∨ c = '"' → closeLiteral? c rest = some (body, more) →
      motive more → motive (c :: rest))
    (block : ∀ inside body more, closeBlock? inside = some (body, more) → motive more →
      motive ('/' :: '*' :: inside))
    (line : ∀ c rest comment more, lineComment? (c :: rest) = some (comment, more) → motive more →
      motive (c :: rest))
    (single : ∀ c rest, OpensNothing c rest → motive rest → motive (c :: rest)) (text : List Char) :
    motive text := by
  induction size : text.length using Nat.strongRecOn generalizing text with
  | _ size ih =>
    subst size
    have shorter : ∀ before more, before ++ more = text → before ≠ [] → motive more := by
      rintro before more rfl some_there
      refine ih more.length ?_ more rfl
      have := List.length_pos_iff.2 some_there
      rw [List.length_append]
      omega
    cases text with
    | nil => exact nil
    | cons c rest =>
      by_cases quoted : ∃ cut, (c = '\'' ∨ c = '"') ∧ closeLiteral? c rest = some cut
      · obtain ⟨⟨body, more⟩, quote, closed⟩ := quoted
        exact literal c rest body more quote closed
          (shorter (c :: body) more (congrArg (c :: ·) (closeLiteral?_append closed))
            (List.cons_ne_nil _ _))
      by_cases blocked : ∃ inside cut, c = '/' ∧ rest = '*' :: inside ∧
        closeBlock? inside = some cut
      · obtain ⟨inside, ⟨body, more⟩, rfl, rfl, closed⟩ := blocked
        exact block inside body more closed
          (shorter ('/' :: '*' :: body) more
            (congrArg (['/', '*'] ++ ·) (closeBlock?_append closed))
            (List.cons_ne_nil _ _))
      cases found : lineComment? (c :: rest) with
      | some cut =>
        obtain ⟨whole, some_there⟩ := lineComment?_append found
        exact line c rest cut.1 cut.2 found (shorter cut.1 cut.2 whole some_there)
      | none =>
        refine single c rest ⟨fun quote => ?_, fun inside slash star => ?_, found⟩
          (shorter [c] rest rfl (List.cons_ne_nil _ _))
        · exact Option.eq_none_iff_forall_ne_some.2 fun cut closed => quoted ⟨cut, quote, closed⟩
        · exact Option.eq_none_iff_forall_ne_some.2 fun cut closed =>
            blocked ⟨inside, cut, slash, star, closed⟩

/-- Nothing is put in. -/
theorem stripCommentChars_sublist (text : List Char) : (stripCommentChars text).Sublist text := by
  induction text using reading_induction with
  | nil => exact stripCommentChars_nil.symm ▸ List.nil_sublist []
  | literal c rest body more quote closed ih =>
    rw [stripCommentChars_literal quote closed, ← closeLiteral?_append closed]
    exact (ih.append_left body).cons_cons c
  | block inside body more closed ih =>
    rw [stripCommentChars_block closed, ← closeBlock?_append closed]
    exact ih.trans
      ((List.sublist_append_right body more).trans ((List.sublist_cons_self _ _).cons _))
  | line c rest comment more found ih =>
    rw [stripCommentChars_line found, ← (lineComment?_append found).1]
    exact ih.trans (List.sublist_append_right comment more)
  | single c rest single ih =>
    rw [stripCommentChars_cons single]
    exact ih.cons_cons c

end QueryDesk.Sql
