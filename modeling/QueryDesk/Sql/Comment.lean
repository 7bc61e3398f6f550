/-
**Comments in SQL text.**

A text is read as a row of segments: quoted literals, comments, and single characters.

* `segments` — the reading. What a segment is read from is what it leaves out
  (`nextSegment_append`).
* `stripComments` — the text without its comments: literals stay as they are, a block comment
  vanishes, a line comment leaves the blank in front of it and the line break behind it.
-/

namespace QueryDesk.Sql

/-- One piece of SQL text. -/
inductive Segment where
  /-- A character outside literals and comments. -/
  | plain (c : Char)
  /-- A quoted literal with its quotes. -/
  | literal (text : List Char)
  /-- A comment, behind the blank that is kept in its place. -/
  | comment (blank text : List Char)
deriving DecidableEq, Repr

namespace Segment

/-- The text a segment was read from. -/
def source : Segment → List Char
  | .plain c => [c]
  | .literal text => text
  | .comment blank text => blank ++ text

/-- The text a segment leaves when comments are taken out. -/
def kept : Segment → List Char
  | .plain c => [c]
  | .literal text => text
  | .comment blank _ => blank

end Segment

/-- Reads a literal behind its opening quote, up to the closing one. A doubled quote stands for one;
when the text ends before the literal is closed, its last doubled quote closes it. -/
def closeLiteral? (quote : Char) : List Char → Option (List Char × List Char)
  | [] => none
  | [c] => if c = quote then some ([c], []) else none
  | c :: d :: rest =>
    if c = quote then
      if d = quote then
        match closeLiteral? quote rest with
        | some (body, more) => some (c :: d :: body, more)
        | none => some ([c], d :: rest)
      else some ([c], d :: rest)
    else (closeLiteral? quote (d :: rest)).map fun (body, more) => (c :: body, more)

/-- Reads a block comment behind its opening mark, up to the first closing one. -/
def closeBlock? : List Char → Option (List Char × List Char)
  | '*' :: '/' :: rest => some (['*', '/'], rest)
  | c :: rest => (closeBlock? rest).map fun (body, more) => (c :: body, more)
  | [] => none

/-- Whether a line comment's mark is followed by the space or tab it needs. -/
def opensComment : List Char → Bool
  | c :: _ => c == ' ' || c == '\t'
  | [] => false

/-- The rest of a line and what follows it. -/
def cutLine (text : List Char) : List Char × List Char :=
  (text.takeWhile (· != '\n'), text.dropWhile (· != '\n'))

/-- Reads a line comment: `#` or `--`, a space or tab, and the rest of the line. -/
def lineComment? : List Char → Option (List Char × List Char)
  | '#' :: rest =>
    if opensComment rest then some ('#' :: (cutLine rest).1, (cutLine rest).2) else none
  | '-' :: '-' :: rest =>
    if opensComment rest then some ('-' :: '-' :: (cutLine rest).1, (cutLine rest).2) else none
  | _ => none

/-- The segment that starts with a character, and the text behind it. -/
def nextSegment (c : Char) (rest : List Char) : Segment × List Char :=
  if c = '\'' ∨ c = '"' then
    match closeLiteral? c rest with
    | some (body, more) => (.literal (c :: body), more)
    | none => (.plain c, rest)
  else
    match c, rest with
    | '/', '*' :: inside =>
      match closeBlock? inside with
      | some (body, more) => (.comment [] ('/' :: '*' :: body), more)
      | none => (.plain '/', '*' :: inside)
    | _, _ =>
      if c = ' ' ∨ c = '\t' then
        match lineComment? rest with
        | some (text, more) => (.comment [c] text, more)
        | none => (.plain c, rest)
      else
        match lineComment? (c :: rest) with
        | some (text, more) => (.comment [] text, more)
        | none => (.plain c, rest)

/-! ### Nothing is lost -/

/-- A literal and what stands behind it are the text. -/
theorem closeLiteral?_append {quote : Char} {text body more : List Char}
    (closed : closeLiteral? quote text = some (body, more)) : body ++ more = text := by
  fun_induction closeLiteral? quote text generalizing body more with
  | case1 => simp at closed
  | case2 => simp_all
  | case3 => simp_all
  | case4 rest inner after found ih =>
    simp only [Option.some.injEq, Prod.mk.injEq] at closed
    obtain ⟨rfl, rfl⟩ := closed
    simp [ih found]
  | case5 rest found =>
    simp only [Option.some.injEq, Prod.mk.injEq] at closed
    obtain ⟨rfl, rfl⟩ := closed
    rfl
  | case6 d rest other =>
    simp only [Option.some.injEq, Prod.mk.injEq] at closed
    obtain ⟨rfl, rfl⟩ := closed
    rfl
  | case7 c d rest other ih =>
    obtain ⟨⟨inner, after⟩, found, same⟩ := Option.map_eq_some_iff.1 closed
    cases same
    simp [ih found]

/-- A block comment and what stands behind it are the text. -/
theorem closeBlock?_append {text body more : List Char}
    (closed : closeBlock? text = some (body, more)) : body ++ more = text := by
  fun_induction closeBlock? text generalizing body more with
  | case1 rest =>
    simp only [Option.some.injEq, Prod.mk.injEq] at closed
    obtain ⟨rfl, rfl⟩ := closed
    rfl
  | case2 c rest other ih =>
    obtain ⟨⟨inner, after⟩, found, same⟩ := Option.map_eq_some_iff.1 closed
    cases same
    simp [ih found]
  | case3 => simp at closed

theorem cutLine_append (text : List Char) : (cutLine text).1 ++ (cutLine text).2 = text :=
  List.takeWhile_append_dropWhile

/-- A line comment and what stands behind it are the text. -/
theorem lineComment?_append {text comment more : List Char}
    (found : lineComment? text = some (comment, more)) :
    comment ++ more = text ∧ comment ≠ [] := by
  unfold lineComment? at found
  split at found
  · split at found <;> simp at found
    obtain ⟨rfl, rfl⟩ := found
    simp [cutLine_append]
  · split at found <;> simp at found
    obtain ⟨rfl, rfl⟩ := found
    simp [cutLine_append]
  · simp at found

/-- A segment and what stands behind it are the text. -/
theorem nextSegment_append (c : Char) (rest : List Char) :
    (nextSegment c rest).1.source ++ (nextSegment c rest).2 = c :: rest := by
  unfold nextSegment
  split
  · split
    · rename_i closed
      simp [Segment.source, closeLiteral?_append closed]
    · simp [Segment.source]
  · split
    · split
      · rename_i closed
        simp [Segment.source, closeBlock?_append closed]
      · simp [Segment.source]
    · split
      · split
        · rename_i found
          simp [Segment.source, (lineComment?_append found).1]
        · simp [Segment.source]
      · split
        · rename_i found
          simp [Segment.source, (lineComment?_append found).1]
        · simp [Segment.source]

theorem nextSegment_source_ne_nil (c : Char) (rest : List Char) :
    (nextSegment c rest).1.source ≠ [] := by
  unfold nextSegment
  split
  · split <;> simp [Segment.source]
  · split
    · split <;> simp [Segment.source]
    · split
      · split <;> simp [Segment.source]
      · split
        · rename_i found
          simpa [Segment.source] using (lineComment?_append found).2
        · simp [Segment.source]

/-- Less text stands behind a segment. -/
theorem length_nextSegment_lt (c : Char) (rest : List Char) :
    (nextSegment c rest).2.length < (c :: rest).length := by
  have whole := congrArg List.length (nextSegment_append c rest)
  have nonempty := List.length_pos_iff.2 (nextSegment_source_ne_nil c rest)
  simp only [List.length_append] at whole
  omega

/-! ### The reading of a text -/

/-- The segments of a text. -/
def segments : List Char → List Segment
  | [] => []
  | c :: rest => (nextSegment c rest).1 :: segments (nextSegment c rest).2
termination_by text => text.length
decreasing_by exact length_nextSegment_lt c rest

/-- A list of characters without the comments in it. -/
def stripCommentChars (text : List Char) : List Char := (segments text).flatMap Segment.kept

/-- SQL text without its comments. -/
def stripComments (text : String) : String := String.ofList (stripCommentChars text.toList)

end QueryDesk.Sql
