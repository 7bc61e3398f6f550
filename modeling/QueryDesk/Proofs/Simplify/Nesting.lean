/-
**How the places of SQL text are nested.**

A place of a text stands inside a quoted literal or outside of all, and in so many parentheses. Only
parentheses outside of literals count.

* `Nesting`, `Nesting.read` — the nesting of a place, and of the place behind a text;
  `Nesting.read_append`, `Nesting.read_of_unmarked`, `Nesting.read_raised` — it goes
  through a text piece by piece, only quotes and parentheses change it, and how deep the
  text stands does not matter.
* `IsBalanced` — a text whose literals are closed and whose parentheses are balanced.
* `IsWellNested`, `isBalanced_strip_iff` — **without its comments a text is balanced** exactly when
  no literal of it is left open and the parentheses outside of literals and comments are balanced.
-/

import QueryDesk.Proofs.Comment.Pieces

namespace QueryDesk.Sql

/-- How a place of a text is nested: the quote of the literal that it stands in, if it does, and the
number of parentheses that are open. -/
structure Nesting where
  literal : Option Quote
  depth : Nat
deriving DecidableEq, Repr

namespace Nesting

/-- The nesting where a text begins. -/
def start : Nesting := ⟨none, 0⟩

/-- The nesting behind one more character. A closing parenthesis that closes none has no place. -/
def next : Nesting → Char → Option Nesting
  | ⟨some quote, depth⟩, c => some ⟨if c = quote.char then none else some quote, depth⟩
  | ⟨none, depth⟩, c =>
    if c = '\'' then some ⟨some .single, depth⟩
    else if c = '"' then some ⟨some .double, depth⟩
    else if c = '(' then some ⟨none, depth + 1⟩
    else if c = ')' then if depth = 0 then none else some ⟨none, depth - 1⟩
    else some ⟨none, depth⟩

/-- The nesting behind a text. -/
def read (place : Nesting) (text : List Char) : Option Nesting := text.foldlM next place

end Nesting

/-- A text whose literals are closed and whose parentheses outside of them are balanced. -/
def IsBalanced (text : List Char) : Prop := Nesting.start.read text = some .start

instance (text : List Char) : Decidable (IsBalanced text) :=
  inferInstanceAs (Decidable (Nesting.start.read text = some .start))

/-- The characters that change the nesting. -/
def isNestingMark (c : Char) : Bool := c = '\'' || c = '"' || c = '(' || c = ')'

theorem not_isNestingMark_iff {c : Char} :
    isNestingMark c = false ↔ c ≠ '\'' ∧ c ≠ '"' ∧ c ≠ '(' ∧ c ≠ ')' := by
  simp [isNestingMark, and_assoc]

/-- A text without quotes and parentheses. -/
def IsUnmarked (text : List Char) : Prop := ∀ c ∈ text, isNestingMark c = false

instance (text : List Char) : Decidable (IsUnmarked text) :=
  List.decidableBAll (fun c => isNestingMark c = false) text

theorem isUnmarked_nil : IsUnmarked [] := List.forall_mem_nil _

theorem isUnmarked_cons {c : Char} {text : List Char} :
    IsUnmarked (c :: text) ↔ isNestingMark c = false ∧ IsUnmarked text := List.forall_mem_cons

theorem isUnmarked_append {first second : List Char} :
    IsUnmarked (first ++ second) ↔ IsUnmarked first ∧ IsUnmarked second := List.forall_mem_append

theorem ne_quote_of_not_isNestingMark {c : Char} (plain : isNestingMark c = false) (quote : Quote) :
    c ≠ quote.char := by
  obtain ⟨single, double, -⟩ := not_isNestingMark_iff.1 plain
  cases quote with
  | single => exact single
  | double => exact double

namespace Nesting

variable {place behind : Nesting} {text first second : List Char} {quote : Quote} {depth : Nat}

@[simp] theorem read_nil (place : Nesting) : place.read [] = some place := rfl

theorem read_cons (place : Nesting) (c : Char) (text : List Char) :
    place.read (c :: text) = (place.next c).bind fun behind => behind.read text :=
  List.foldlM_cons

theorem read_append (place : Nesting) (first second : List Char) :
    place.read (first ++ second) = (place.read first).bind fun behind => behind.read second :=
  List.foldlM_append

/-- A character without meaning for nesting leaves the place as it is. -/
theorem next_of_unmarked {c : Char} (plain : isNestingMark c = false) (place : Nesting) :
    place.next c = some place := by
  obtain ⟨single, double, opening, closing⟩ := not_isNestingMark_iff.1 plain
  obtain ⟨literal, depth⟩ := place
  cases literal with
  | some quote => exact congrArg some (congrArg (Nesting.mk · depth)
      (if_neg (ne_quote_of_not_isNestingMark plain quote)))
  | none => simp [next, single, double, opening, closing]

/-- Text without quotes and parentheses does not change the nesting. -/
theorem read_of_unmarked (plain : IsUnmarked text) (place : Nesting) :
    place.read text = some place := by
  induction text with
  | nil => rfl
  | cons c rest ih =>
    obtain ⟨here, others⟩ := isUnmarked_cons.1 plain
    rw [read_cons, next_of_unmarked here, Option.bind_some, ih others]

/-- Inside of a literal every other character leaves the place as it is. -/
theorem next_inside {c : Char} (other : c ≠ quote.char) (depth : Nat) :
    next ⟨some quote, depth⟩ c = some ⟨some quote, depth⟩ := by
  rw [next, if_neg other]

theorem next_quote (quote : Quote) (depth : Nat) :
    next ⟨none, depth⟩ quote.char = some ⟨some quote, depth⟩ := by
  cases quote <;> rfl

theorem next_closing_quote (quote : Quote) (depth : Nat) :
    next ⟨some quote, depth⟩ quote.char = some ⟨none, depth⟩ := by
  rw [next, if_pos rfl]

/-- A character is a quote or a parenthesis, or it does not change the nesting. -/
theorem mark_cases (c : Char) :
    (∃ quote : Quote, c = quote.char) ∨ c = '(' ∨ c = ')' ∨ isNestingMark c = false := by
  by_cases mark : isNestingMark c = true
  · simp only [isNestingMark, Bool.or_eq_true, decide_eq_true_eq] at mark
    obtain ((single | double) | opening) | closing := mark
    · exact .inl ⟨.single, single⟩
    · exact .inl ⟨.double, double⟩
    · exact .inr (.inl opening)
    · exact .inr (.inr (.inl closing))
  · exact .inr (.inr (.inr (Bool.eq_false_iff.2 mark)))

/-- Inside a literal only its own quote counts. -/
theorem read_inside (apart : ∀ c ∈ text, c ≠ quote.char) (depth : Nat) :
    read ⟨some quote, depth⟩ text = some ⟨some quote, depth⟩ := by
  induction text with
  | nil => rfl
  | cons c rest ih =>
    obtain ⟨here, others⟩ := List.forall_mem_cons.1 apart
    rw [read_cons, next_inside here, Option.bind_some, ih others]

/-- Outside of literals only a quote opens one. -/
theorem next_ne_inside {c : Char} (unquoted : ∀ quote : Quote, c ≠ quote.char) (depth : Nat)
    (quote : Quote) (deeper : Nat) : next ⟨none, depth⟩ c ≠ some ⟨some quote, deeper⟩ := by
  intro reached
  rcases mark_cases c with ⟨other, same⟩ | rfl | rfl | plain
  · exact unquoted other same
  · cases reached
  · cases depth <;> cases reached
  · rw [next_of_unmarked plain] at reached
    cases reached

/-- The nesting inside more parentheses. -/
def raised (place : Nesting) (more : Nat) : Nesting := ⟨place.literal, place.depth + more⟩

/-- More open parentheses around a text stay open. -/
theorem next_raised {c : Char} (reached : place.next c = some behind) (more : Nat) :
    (place.raised more).next c = some (behind.raised more) := by
  obtain ⟨literal, depth⟩ := place
  cases literal with
  | some quote =>
    cases reached
    rfl
  | none =>
    rcases mark_cases c with ⟨quote, rfl⟩ | rfl | rfl | plain
    · rw [next_quote] at reached
      cases reached
      exact next_quote quote (depth + more)
    · cases reached
      exact congrArg some (congrArg (Nesting.mk none) (Nat.add_right_comm depth more 1))
    · cases depth with
      | zero => cases reached
      | succ depth =>
        cases reached
        have deeper : depth + 1 + more = depth + more + 1 := Nat.add_right_comm depth 1 more
        show next ⟨none, depth + 1 + more⟩ ')' = _
        rw [deeper]
        rfl
    · rw [next_of_unmarked plain] at reached ⊢
      cases reached
      rfl

/-- How deep a text stands does not matter. -/
theorem read_raised (reached : place.read text = some behind) (more : Nat) :
    (place.raised more).read text = some (behind.raised more) := by
  induction text generalizing place with
  | nil =>
    cases reached
    rfl
  | cons c rest ih =>
    rw [read_cons] at reached
    obtain ⟨between, here, later⟩ := Option.bind_eq_some_iff.1 reached
    rw [read_cons, next_raised here, Option.bind_some, ih later]

/-! ### Depth -/

/-- A character that closes no parenthesis leads no less deep. -/
theorem depth_le_of_next {c : Char} (open_ : c ≠ ')') (reached : place.next c = some behind) :
    place.depth ≤ behind.depth := by
  obtain ⟨_ | quote, depth⟩ := place
  · rcases mark_cases c with ⟨quote, rfl⟩ | rfl | rfl | plain
    · rw [next_quote] at reached
      cases reached
      exact Nat.le_refl depth
    · cases reached
      exact Nat.le_succ depth
    · exact absurd rfl open_
    · rw [next_of_unmarked plain] at reached
      cases reached
      exact Nat.le_refl depth
  · cases reached
    exact Nat.le_refl depth

/-- A text without closing parentheses closes none. -/
theorem depth_le_of_read (open_ : ∀ c ∈ text, c ≠ ')') (reached : place.read text = some behind) :
    place.depth ≤ behind.depth := by
  induction text generalizing place with
  | nil =>
    cases reached
    exact Nat.le_refl _
  | cons c rest ih =>
    obtain ⟨here, others⟩ := List.forall_mem_cons.1 open_
    rw [read_cons] at reached
    obtain ⟨between, first, later⟩ := Option.bind_eq_some_iff.1 reached
    exact (depth_le_of_next here first).trans (ih others later)

/-- A character changes the nesting of two places in the same literal alike. -/
theorem next_alike {c : Char} {other after otherAfter : Nesting}
    (same : other.literal = place.literal)
    (one : place.next c = some after) (two : other.next c = some otherAfter) :
    otherAfter.literal = after.literal ∧
      otherAfter.depth + place.depth = after.depth + other.depth := by
  obtain ⟨literal, depth⟩ := place
  obtain ⟨_, otherDepth⟩ := other
  cases same
  cases literal with
  | some quote =>
    cases one
    cases two
    exact ⟨rfl, Nat.add_comm _ _⟩
  | none =>
    rcases mark_cases c with ⟨quote, rfl⟩ | rfl | rfl | plain
    · rw [next_quote] at one two
      cases one
      cases two
      exact ⟨rfl, Nat.add_comm _ _⟩
    · cases one
      cases two
      exact ⟨rfl, by dsimp only; omega⟩
    · cases depth with
      | zero => cases one
      | succ depth =>
        cases otherDepth with
        | zero => cases two
        | succ otherDepth =>
          cases one
          cases two
          exact ⟨rfl, by dsimp only [Nat.add_sub_cancel]; omega⟩
    · rw [next_of_unmarked plain] at one two
      cases one
      cases two
      exact ⟨rfl, Nat.add_comm _ _⟩

end Nesting

/-! ### The reading of literals and comments -/

/-- The character of a segment outside of literals and comments. -/
def Segment.plain? : Segment → Option Char
  | .plain c => some c
  | _ => none

/-- The characters of a text outside of literals and comments. -/
def plainChars (text : List Char) : List Char := (segments text).filterMap Segment.plain?

variable {text body more : List Char} {quote : Quote}

/-- A literal is left behind its closing quote. -/
theorem read_closeLiteral (closed : closeLiteral? quote.char text = some (body, more))
    (depth : Nat) :
    Nesting.read ⟨some quote, depth⟩ body = some ⟨none, depth⟩ := by
  have past_quote (other : List Char) : Nesting.read ⟨some quote, depth⟩ (quote.char :: other) =
      Nesting.read ⟨none, depth⟩ other := by
    rw [Nesting.read_cons, Nesting.next_closing_quote, Option.bind_some]
  fun_induction closeLiteral? quote.char text generalizing body more with
  | case1 => cases closed
  | case2 =>
    cases closed
    exact past_quote []
  | case3 => cases closed
  | case4 rest inner after found ih =>
    cases closed
    rw [past_quote, Nesting.read_cons, Nesting.next_quote, Option.bind_some]
    exact ih found
  | case5 =>
    cases closed
    exact past_quote []
  | case6 =>
    cases closed
    exact past_quote []
  | case7 c d rest other ih =>
    obtain ⟨cut, later, same⟩ := Option.map_eq_some_iff.1 closed
    cases same
    rw [Nesting.read_cons, Nesting.next_inside other, Option.bind_some]
    exact ih later

/-- A literal that is left open has no closing quote. -/
theorem ne_quote_of_closeLiteral?_eq_none {mark : Char}
    (unclosed : closeLiteral? mark text = none) :
    ∀ c ∈ text, c ≠ mark := by
  fun_induction closeLiteral? mark text with
  | case1 => exact List.forall_mem_nil _
  | case2 => cases unclosed
  | case3 c other => exact List.forall_mem_singleton.2 other
  | case4 => cases unclosed
  | case5 => cases unclosed
  | case6 => cases unclosed
  | case7 c d rest other ih =>
    exact List.forall_mem_cons.2 ⟨other, ih (Option.map_eq_none_iff.1 unclosed)⟩

/-- What stands first in a text: a literal, a comment, or a character that opens
no literal that is closed. -/
theorem nextSegment_cases (c : Char) (rest : List Char) :
    (∃ quote : Quote, ∃ body more, c = quote.char ∧
      closeLiteral? quote.char rest = some (body, more) ∧
        nextSegment c rest = (.literal (c :: body), more)) ∨
      (∃ blank comment more, IsUnmarked blank ∧
        nextSegment c rest = (.comment blank comment, more)) ∨
      (∀ quote : Quote, c = quote.char → closeLiteral? quote.char rest = none) ∧
        nextSegment c rest = (.plain c, rest) := by
  unfold nextSegment
  split
  · rename_i quoted
    obtain ⟨quote, rfl⟩ : ∃ quote : Quote, c = quote.char := by
      rcases quoted with rfl | rfl
      · exact ⟨.single, rfl⟩
      · exact ⟨.double, rfl⟩
    cases closed : closeLiteral? quote.char rest with
    | some cut => exact .inl ⟨quote, cut.1, cut.2, rfl, closed, rfl⟩
    | none =>
      refine .inr (.inr ⟨fun other same => ?_, rfl⟩)
      rw [← same]
      exact closed
  · rename_i unquoted
    have none_open : ∀ quote : Quote, c = quote.char → closeLiteral? quote.char rest = none := by
      intro quote same
      refine absurd ?_ unquoted
      cases quote with
      | single => exact .inl same
      | double => exact .inr same
    split
    · split
      · exact .inr (.inl ⟨_, _, _, isUnmarked_nil, rfl⟩)
      · exact .inr (.inr ⟨none_open, rfl⟩)
    · split
      · rename_i blank
        split
        · refine .inr (.inl ⟨_, _, _, isUnmarked_cons.2 ⟨?_, isUnmarked_nil⟩, rfl⟩)
          rcases blank with rfl | rfl <;> rfl
        · exact .inr (.inr ⟨none_open, rfl⟩)
      · split
        · exact .inr (.inl ⟨_, _, _, isUnmarked_nil, rfl⟩)
        · exact .inr (.inr ⟨none_open, rfl⟩)

/-- **Induction along the reading of a text**, with what each piece leaves without
comments and outside of literals. -/
theorem segments_induction {motive : List Char → Prop} (nil : motive [])
    (literal : ∀ (quote : Quote) rest body more, closeLiteral? quote.char rest = some (body, more) →
      stripCommentChars (quote.char :: rest) = quote.char :: body ++ stripCommentChars more →
      plainChars (quote.char :: rest) = plainChars more → motive more → motive (quote.char :: rest))
    (comment : ∀ c rest blank more, IsUnmarked blank →
      stripCommentChars (c :: rest) = blank ++ stripCommentChars more →
      plainChars (c :: rest) = plainChars more → motive more → motive (c :: rest))
    (plain : ∀ c rest, (∀ quote : Quote, c = quote.char → closeLiteral? quote.char rest = none) →
      stripCommentChars (c :: rest) = c :: stripCommentChars rest →
      plainChars (c :: rest) = c :: plainChars rest → motive rest → motive (c :: rest))
    (text : List Char) : motive text := by
  induction size : text.length using Nat.strongRecOn generalizing text with
  | _ size ih =>
    cases text with
    | nil => exact nil
    | cons c rest =>
      have stripped := stripCommentChars_cons_eq c rest
      have outside : plainChars (c :: rest) =
          (nextSegment c rest).1.plain?.toList ++ plainChars (nextSegment c rest).2 := by
        unfold plainChars
        rw [segments, List.filterMap_cons]
        cases (nextSegment c rest).1.plain? <;> rfl
      have later := ih _ (size ▸ length_nextSegment_lt c rest) _ rfl
      rcases nextSegment_cases c rest with ⟨quote, body, more, rfl, closed, same⟩ |
        ⟨blank, text, more, unmarked, same⟩ | ⟨unclosed, same⟩
      · rw [same] at stripped outside later
        exact literal quote rest body more closed stripped outside later
      · rw [same] at stripped outside later
        exact comment c rest blank more unmarked stripped outside later
      · rw [same] at stripped outside later
        exact plain c rest unclosed stripped outside later

/-- Where no literal is left open, the text without comments is nested as what
stands outside of literals. -/
theorem read_strip (closed : ∀ quote : Quote, quote.char ∉ plainChars text) (depth : Nat) :
    Nesting.read ⟨none, depth⟩ (stripCommentChars text) =
      Nesting.read ⟨none, depth⟩ (plainChars text) := by
  induction text using segments_induction generalizing depth with
  | nil => rw [stripCommentChars_nil, plainChars, segments]; rfl
  | literal quote rest body more literal stripped outside ih =>
    rw [outside] at closed
    rw [stripped, outside, Nesting.read_append, Nesting.read_cons, Nesting.next_quote,
      Option.bind_some, read_closeLiteral literal, Option.bind_some, ih closed]
  | comment c rest blank more unmarked stripped outside ih =>
    rw [outside] at closed
    rw [stripped, outside, Nesting.read_append, Nesting.read_of_unmarked unmarked, Option.bind_some,
      ih closed]
  | plain c rest unclosed stripped outside ih =>
    rw [outside] at closed
    have unquoted (quote : Quote) : c ≠ quote.char :=
      fun mark => closed quote (mark ▸ List.mem_cons_self)
    have later (depth : Nat) :=
      ih (fun quote inside => closed quote (List.mem_cons_of_mem c inside)) depth
    rw [stripped, outside, Nesting.read_cons, Nesting.read_cons]
    cases here : Nesting.next ⟨none, depth⟩ c with
    | none => rfl
    | some behind =>
      obtain ⟨_ | quote, deeper⟩ := behind
      · exact later deeper
      · exact absurd here (Nesting.next_ne_inside unquoted depth quote deeper)

/-- Where a literal is left open, the text without comments ends inside of it. -/
theorem literal_ne_none_of_open (left_open : quote.char ∈ plainChars text) (depth : Nat)
    {place : Nesting} (reached : Nesting.read ⟨none, depth⟩ (stripCommentChars text) = some place) :
    place.literal ≠ none := by
  induction text using segments_induction generalizing depth with
  | nil =>
    rw [plainChars, segments] at left_open
    cases left_open
  | literal other rest body more literal stripped outside ih =>
    rw [stripped, Nesting.read_append, Nesting.read_cons, Nesting.next_quote, Option.bind_some,
      read_closeLiteral literal, Option.bind_some] at reached
    exact ih (outside ▸ left_open) depth reached
  | comment c rest blank more unmarked stripped outside ih =>
    rw [stripped, Nesting.read_append, Nesting.read_of_unmarked unmarked, Option.bind_some]
      at reached
    exact ih (outside ▸ left_open) depth reached
  | plain c rest unclosed stripped outside ih =>
    rw [stripped] at reached
    rw [outside] at left_open
    by_cases opens : ∃ other : Quote, c = other.char
    · -- no quote of its kind follows, or it would have closed the literal
      obtain ⟨other, rfl⟩ := opens
      have absent := ne_quote_of_closeLiteral?_eq_none (unclosed other rfl)
      rw [Nesting.read_cons, Nesting.next_quote, Option.bind_some,
        Nesting.read_inside fun c inside =>
        absent c ((stripCommentChars_sublist rest).subset inside)] at reached
      cases reached
      exact Option.some_ne_none other
    · have unquoted (other : Quote) : c ≠ other.char := fun mark => opens ⟨other, mark⟩
      have later := (List.mem_cons.1 left_open).resolve_left fun same => unquoted quote same.symm
      rw [Nesting.read_cons] at reached
      obtain ⟨⟨_ | other, deeper⟩, here, reached⟩ := Option.bind_eq_some_iff.1 reached
      · exact ih later deeper reached
      · exact absurd here (Nesting.next_ne_inside unquoted depth other deeper)

/-- A text of which no literal is left open and whose parentheses outside of literals
and comments are balanced. -/
structure IsWellNested (text : List Char) : Prop where
  closed : ∀ quote : Quote, quote.char ∉ plainChars text
  balanced : IsBalanced (plainChars text)

/-- **Without its comments a text is balanced** exactly when it is well nested. -/
theorem isBalanced_strip_iff : IsBalanced (stripCommentChars text) ↔ IsWellNested text := by
  constructor
  · intro balanced
    have closed (quote : Quote) : quote.char ∉ plainChars text :=
      fun left_open => literal_ne_none_of_open left_open 0 balanced rfl
    exact ⟨closed, (read_strip closed 0).symm.trans balanced⟩
  · rintro ⟨closed, balanced⟩
    exact (read_strip closed 0).trans balanced

end QueryDesk.Sql
