/-
**Line ends do not matter.**

A query whose lines end with a carriage return and a line feed (`withReturns`) is bound as the one
whose lines end with the line feed alone:

* `closeLiteral?_withReturns`, `closeBlock?_withReturns` — literals and block comments end where
  they ended, with the carriage returns of their line ends in them.
* `lineComment?_withReturns` — a line comment takes the carriage return at its
  end and leaves the line feed.
* `unifyLineBreaks_strip_withReturns` — **the texts without comments are the same** when line breaks
  are made equal, by induction along the reading of the text.
* `normalize_withReturns` — so are the bound queries and the failures, since all that is
  read of a query is that text.
-/

import QueryDesk.Proofs.Comment.Reading
import QueryDesk.Proofs.Placeholder.Tidy

namespace QueryDesk.Sql

/-- The text with a carriage return in front of every line feed. -/
def withReturns (text : List Char) : List Char :=
  text.flatMap fun c => if c = '\n' then ['\r', '\n'] else [c]

variable {c : Char} {text rest : List Char}

@[simp] theorem withReturns_nil : withReturns [] = [] := rfl

@[simp] theorem withReturns_feed (rest : List Char) :
    withReturns ('\n' :: rest) = '\r' :: '\n' :: withReturns rest := rfl

theorem withReturns_cons (inside : c ≠ '\n') (rest : List Char) :
    withReturns (c :: rest) = c :: withReturns rest := by
  simp [withReturns, inside]

/-- The text begins as it did, where it did not begin with a line feed. -/
theorem head_of_withReturns (first : (withReturns text).head? = some c) (plain : c ≠ '\r') :
    text.head? = some c := by
  cases text with
  | nil => exact first
  | cons d rest =>
    by_cases feed : d = '\n'
    · subst feed
      exact absurd (Option.some.inj first).symm plain
    · rw [withReturns_cons feed] at first
      exact first

/-! ### Literals and block comments -/

/-- A cut behind a line feed is a cut behind its carriage return. -/
theorem map_withReturns_feed (cut : Option (List Char × List Char)) :
    ((cut.map (Prod.map withReturns withReturns)).map fun parts => ('\n' :: parts.1, parts.2)).map
        (fun parts => ('\r' :: parts.1, parts.2)) =
      (cut.map fun parts => ('\n' :: parts.1, parts.2)).map (Prod.map withReturns withReturns) := by
  cases cut <;> rfl

theorem map_withReturns_cons (inside : c ≠ '\n') (cut : Option (List Char × List Char)) :
    (cut.map (Prod.map withReturns withReturns)).map (fun parts => (c :: parts.1, parts.2)) =
      (cut.map fun parts => (c :: parts.1, parts.2)).map (Prod.map withReturns withReturns) := by
  cases cut with
  | none => rfl
  | some parts => simp [withReturns_cons inside]

/-- A character that is no quote is part of the literal, with the carriage
return that was put before it. -/
theorem closeLiteral?_withReturns_cons {quote : Char} (isQuote : quote = '\'' ∨ quote = '"')
    (other : c ≠ quote) {rest : List Char} (behind : closeLiteral? quote (withReturns rest) =
      (closeLiteral? quote rest).map (Prod.map withReturns withReturns)) :
    closeLiteral? quote (withReturns (c :: rest)) =
      (closeLiteral? quote (c :: rest)).map (Prod.map withReturns withReturns) := by
  rw [closeLiteral?_cons_of_ne other]
  by_cases feed : c = '\n'
  · subst feed
    have return_ : '\r' ≠ quote := by rcases isQuote with rfl | rfl <;> decide
    rw [withReturns_feed, closeLiteral?_cons_of_ne return_, closeLiteral?_cons_of_ne other, behind,
      map_withReturns_feed]
  · rw [withReturns_cons feed, closeLiteral?_cons_of_ne other, behind, map_withReturns_cons feed]

/-- A literal is closed where it was. -/
theorem closeLiteral?_withReturns {quote : Char} (isQuote : quote = '\'' ∨ quote = '"')
    (text : List Char) :
    closeLiteral? quote (withReturns text) =
      (closeLiteral? quote text).map (Prod.map withReturns withReturns) := by
  have inside : quote ≠ '\n' := by rcases isQuote with rfl | rfl <;> decide
  have plain : quote ≠ '\r' := by rcases isQuote with rfl | rfl <;> decide
  match text with
  | [] => rfl
  | c :: rest =>
    by_cases same : c = quote
    · subst same
      rw [withReturns_cons inside]
      by_cases again : rest.head? = some c
      · obtain ⟨more, rfl⟩ := List.head?_eq_some_iff.1 again
        rw [withReturns_cons inside, closeLiteral?_doubled, closeLiteral?_doubled,
          closeLiteral?_withReturns isQuote more]
        cases closeLiteral? c more <;> simp [withReturns_cons inside]
      · have single : ∀ d ∈ rest.head?, d ≠ c := fun d first same => again (same ▸ first)
        have alone : ∀ d ∈ (withReturns rest).head?, d ≠ c := fun d first same =>
          again (head_of_withReturns (same ▸ first) plain)
        rw [closeLiteral?_quote single, closeLiteral?_quote alone]
        simp [withReturns_cons inside]
    · exact closeLiteral?_withReturns_cons isQuote same (closeLiteral?_withReturns isQuote rest)
termination_by text.length

/-- A block comment is closed where it was. -/
theorem closeBlock?_withReturns (text : List Char) :
    closeBlock? (withReturns text) = (closeBlock? text).map (Prod.map withReturns withReturns) := by
  induction text with
  | nil => rfl
  | cons c rest ih =>
    by_cases closes : c = '*' ∧ rest.head? = some '/'
    · obtain ⟨rfl, slash⟩ := closes
      obtain ⟨more, rfl⟩ := List.head?_eq_some_iff.1 slash
      rfl
    · rw [closeBlock?_cons closes]
      by_cases feed : c = '\n'
      · subst feed
        rw [withReturns_feed, closeBlock?_cons (fun open_ => absurd open_.1 (by decide)),
          closeBlock?_cons (fun open_ => absurd open_.1 (by decide)), ih, map_withReturns_feed]
      · have goes_on : ¬ (c = '*' ∧ (withReturns rest).head? = some '/') := fun open_ =>
          closes ⟨open_.1, head_of_withReturns open_.2 (by decide)⟩
        rw [withReturns_cons feed, closeBlock?_cons goes_on, ih, map_withReturns_cons feed]

/-! ### Line comments -/

theorem cutLine_cons (inside : c ≠ '\n') (rest : List Char) :
    (cutLine (c :: rest)).2 = (cutLine rest).2 :=
  @List.dropWhile_cons_of_pos _ (· != '\n') c rest (bne_iff_ne.2 inside)

/-- Where a line ends, its carriage return belongs to it. -/
theorem cutLine_withReturns (text : List Char) :
    (cutLine (withReturns text)).2 = (withReturns (cutLine text).2).tail := by
  induction text with
  | nil => rfl
  | cons c rest ih =>
    by_cases feed : c = '\n'
    · subst feed
      rfl
    · rw [withReturns_cons feed, cutLine_cons feed, cutLine_cons feed, ih]

/-- A line comment is followed by nothing or by the end of its line. -/
theorem lineComment?_ends {comment more : List Char}
    (found : lineComment? text = some (comment, more)) :
    ∀ c ∈ more.head?, c = '\n' := by
  obtain ⟨line, rfl⟩ : ∃ line, more = (cutLine line).2 := by
    unfold lineComment? at found
    split at found
    · split at found <;> cases found
      exact ⟨_, rfl⟩
    · split at found <;> cases found
      exact ⟨_, rfl⟩
    · cases found
  intro c first
  have stopped := List.head?_dropWhile_not (· != '\n') line
  have first : (line.dropWhile (· != '\n')).head? = some c := first
  rw [first] at stopped
  exact bne_eq_false_iff_eq.1 stopped

theorem opensComment_withReturns (text : List Char) :
    opensComment (withReturns text) = opensComment text := by
  cases text with
  | nil => rfl
  | cons c rest =>
    by_cases feed : c = '\n'
    · subst feed
      rfl
    · rw [withReturns_cons feed]
      rfl

/-- A line comment is left out with the carriage return at its end. -/
theorem lineComment?_withReturns (text : List Char) :
    (lineComment? (withReturns text)).map Prod.snd =
      (lineComment? text).map fun cut => (withReturns cut.2).tail := by
  fun_cases lineComment? text with
  | case1 rest opens =>
    rw [withReturns_cons (by decide), lineComment?,
      if_pos ((opensComment_withReturns rest).trans opens)]
    exact congrArg some (cutLine_withReturns rest)
  | case2 rest closed =>
    rw [withReturns_cons (by decide), lineComment?, opensComment_withReturns, if_neg closed]
    rfl
  | case3 rest opens =>
    rw [withReturns_cons (by decide), withReturns_cons (by decide), lineComment?,
      if_pos ((opensComment_withReturns rest).trans opens)]
    exact congrArg some (cutLine_withReturns rest)
  | case4 rest closed =>
    rw [withReturns_cons (by decide), withReturns_cons (by decide), lineComment?,
      opensComment_withReturns, if_neg closed]
    rfl
  | case5 text no_sharp no_dashes =>
    have unsigned : lineComment? (withReturns text) = none := by
      unfold lineComment?
      split
      · rename_i more sharp
        have begins := head_of_withReturns (congrArg List.head? sharp) (by decide)
        obtain ⟨rest, rfl⟩ := List.head?_eq_some_iff.1 begins
        exact absurd rfl (no_sharp rest)
      · rename_i more dashes
        have begins := head_of_withReturns (congrArg List.head? dashes) (by decide)
        obtain ⟨rest, rfl⟩ := List.head?_eq_some_iff.1 begins
        rw [withReturns_cons (by decide)] at dashes
        have again := head_of_withReturns (congrArg List.head? (List.cons.inj dashes).2) (by decide)
        obtain ⟨rest, rfl⟩ := List.head?_eq_some_iff.1 again
        exact absurd rfl (no_dashes rest)
      · rfl
    rw [unsigned]
    rfl

/-! ### Whole texts -/

theorem unifyLineBreaks_withReturns_append (no_return : '\r' ∉ text) (rest : List Char) :
    unifyLineBreaks (withReturns text ++ rest) = text ++ unifyLineBreaks rest := by
  induction text with
  | nil => rfl
  | cons c text ih =>
    obtain ⟨here, behind⟩ := not_or.1 (mt List.mem_cons.2 no_return)
    by_cases feed : c = '\n'
    · subst feed
      rw [withReturns_feed, List.cons_append, List.cons_append, unifyLineBreaks, ih behind,
        List.cons_append]
    · rw [withReturns_cons feed, List.cons_append, unifyLineBreaks_cons_of_ne (Ne.symm here),
        ih behind, List.cons_append]

theorem unifyLineBreaks_strip_feed (rest : List Char) :
    unifyLineBreaks (stripCommentChars (withReturns ('\n' :: rest))) =
      '\n' :: unifyLineBreaks (stripCommentChars (withReturns rest)) := by
  rw [withReturns_feed, stripCommentChars_cons (opensNothing_of_calm (by decide) _),
    stripCommentChars_cons (opensNothing_of_calm (by decide) _), unifyLineBreaks]

/-- Behind a line comment it does not matter that the carriage return went with the comment. -/
theorem unifyLineBreaks_strip_tail (ends : ∀ c ∈ text.head?, c = '\n') :
    unifyLineBreaks (stripCommentChars (withReturns text).tail) =
      unifyLineBreaks (stripCommentChars (withReturns text)) := by
  cases text with
  | nil => rfl
  | cons c rest =>
    obtain rfl := ends c rfl
    rw [unifyLineBreaks_strip_feed, withReturns_feed, List.tail_cons,
      stripCommentChars_cons (opensNothing_of_calm (by decide) _),
        unifyLineBreaks_cons_of_ne (by decide)]

/-- A character that opens nothing opens nothing with other line ends behind it. -/
theorem OpensNothing.withReturns (single : OpensNothing c rest) (inside : c ≠ '\n') :
    OpensNothing c (withReturns rest) where
  no_literal quote := by
    rw [closeLiteral?_withReturns quote, single.no_literal quote, Option.map_none]
  no_block behind slash star := by
    obtain ⟨more, rfl⟩ :=
      List.head?_eq_some_iff.1 (head_of_withReturns (congrArg List.head? star) (by decide))
    rw [withReturns_cons (by decide)] at star
    rw [← (List.cons.inj star).2, closeBlock?_withReturns, single.no_block more slash rfl,
      Option.map_none]
  no_line := by
    have signs := lineComment?_withReturns (c :: rest)
    rw [single.no_line, withReturns_cons inside] at signs
    exact Option.map_eq_none_iff.1 signs

/-- **The text without comments is the same whichever way its lines end.** -/
theorem unifyLineBreaks_strip_withReturns (text : List Char) (no_return : '\r' ∉ text) :
    unifyLineBreaks (stripCommentChars (withReturns text)) = stripCommentChars text := by
  induction text using reading_induction with
  | nil => rw [withReturns_nil, stripCommentChars_nil, unifyLineBreaks]
  | literal c rest body more quote closed ih =>
    obtain rfl := closeLiteral?_append closed
    obtain ⟨here, behind⟩ := not_or.1 (mt List.mem_cons.2 no_return)
    obtain ⟨inside, after⟩ := not_or.1 (mt List.mem_append.2 behind)
    have unfed : c ≠ '\n' := by rcases quote with rfl | rfl <;> decide
    have still_closed := closeLiteral?_withReturns quote (body ++ more)
    rw [closed] at still_closed
    rw [withReturns_cons unfed, stripCommentChars_literal quote still_closed,
      stripCommentChars_literal quote closed, unifyLineBreaks_cons_of_ne (Ne.symm here),
      unifyLineBreaks_withReturns_append inside, ih after]
  | block inside body more closed ih =>
    obtain rfl := closeBlock?_append closed
    have still_closed := closeBlock?_withReturns (body ++ more)
    rw [closed] at still_closed
    rw [withReturns_cons (by decide), withReturns_cons (by decide),
      stripCommentChars_block still_closed, stripCommentChars_block closed]
    exact ih fun member => no_return (by simp [member])
  | line c rest comment more found ih =>
    have still_found := lineComment?_withReturns (c :: rest)
    rw [found] at still_found
    obtain ⟨⟨shorter, behind⟩, still_found, rfl⟩ := Option.map_eq_some_iff.1 still_found
    have unfed : c ≠ '\n' := by rcases lineComment?_head found with rfl | rfl <;> decide
    have after : '\r' ∉ more := fun member =>
      no_return ((lineComment?_append found).1 ▸ List.mem_append_right comment member)
    rw [withReturns_cons unfed] at still_found ⊢
    rw [stripCommentChars_line still_found, stripCommentChars_line found,
      unifyLineBreaks_strip_tail (lineComment?_ends found), ih after]
  | single c rest single ih =>
    obtain ⟨here, behind⟩ := not_or.1 (mt List.mem_cons.2 no_return)
    rw [stripCommentChars_cons single]
    by_cases feed : c = '\n'
    · subst feed
      rw [unifyLineBreaks_strip_feed, ih behind]
    · rw [withReturns_cons feed, stripCommentChars_cons (single.withReturns feed),
        unifyLineBreaks_cons_of_ne (Ne.symm here), ih behind]

theorem unifyLineBreaks_strip (text : List Char) (no_return : '\r' ∉ text) :
    unifyLineBreaks (stripCommentChars text) = stripCommentChars text := by
  have plain : ∀ c ∈ stripCommentChars text, c ≠ '\r' := by
    rintro c member rfl
    exact no_return ((stripCommentChars_sublist text).subset member)
  have whole := unifyLineBreaks_append_of_plain _ [] plain
  rwa [unifyLineBreaks, List.append_nil] at whole

/-- **Line ends do not matter**: a query without carriage returns is bound, or refused, as the query
with one in front of every line feed. -/
theorem normalize_withReturns (style : PlaceholderStyle) (binds : Option Binds) (query : String)
    (no_return : '\r' ∉ query.toList) :
    normalize style binds (String.ofList (withReturns query.toList)) =
      normalize style binds query := by
  have same : Template.ofQuery (String.ofList (withReturns query.toList)) =
    Template.ofQuery query := by
    unfold Template.ofQuery
    rw [String.toList_ofList, unifyLineBreaks_strip_withReturns _ no_return,
      unifyLineBreaks_strip _ no_return]
  unfold normalize
  rw [same]

/-- Lines that end in a literal, in a block comment and behind a line comment. -/
theorem normalize_withReturns_of_spanning_lines :
    let query := "select ':a\n' -- it's :no\n, /* :b\n */ :c\n"
    let given : Binds := [("a", .int 1)]
    '\r' ∉ query.toList ∧
      normalize .positioned (some given) "select ':a\r\n' -- it's :no\r\n, /* :b\r\n */ :c\r\n" =
        normalize .positioned (some given) query := by
  intro query given
  have plain : '\r' ∉ query.toList := by decide
  have written : String.ofList (withReturns query.toList) =
      "select ':a\r\n' -- it's :no\r\n, /* :b\r\n */ :c\r\n" := by decide +kernel
  have same := normalize_withReturns .positioned (some given) query plain
  rw [written] at same
  exact ⟨plain, same⟩

end QueryDesk.Sql
