/-
**Text that is put together from pieces loses its comments and nothing else.**

* `Piece` — plain text, a quoted literal, a block comment or a line comment, with the text it is
  written as (`source`) and what is left of it without comments (`kept`).
* `ArePieces` — plain text has no quote and opens no comment, comments end where they are written to
  end, and neighbours do not run into one another. Literals may: two of one quote are read as one.
* `stripComments_pieces` — **the text without comments is that of the pieces without the comments.**
  Each kind of piece has its lemma (`strip_plain`, `strip_literal`, `strip_block`, `strip_line`),
  for any text behind it at which the reading can resume.
-/

import Mathlib.Data.List.Chain
import Mathlib.Data.List.Infix
import QueryDesk.Proofs.Comment.Reading

namespace QueryDesk.Sql

/-- The quotes that literals stand between. -/
inductive Quote where
  | single
  | double
deriving DecidableEq, Repr

/-- The character of a quote. -/
def Quote.char : Quote → Char
  | .single => '\''
  | .double => '"'

/-- The signs that line comments begin with. -/
inductive LineSign where
  | sharp
  | dashes
deriving DecidableEq, Repr

/-- The characters of a sign. -/
def LineSign.chars : LineSign → List Char
  | .sharp => ['#']
  | .dashes => ['-', '-']

/-- A piece of SQL text as it is written. -/
inductive Piece where
  /-- Text outside of literals and comments. -/
  | plain (text : List Char)
  /-- A literal between quotes. -/
  | literal (quote : Quote) (content : List Char)
  /-- A comment between its marks. -/
  | block (body : List Char)
  /-- A comment up to the end of its line: the sign, blanks and a text. -/
  | line (sign : LineSign) (blanks text : List Char)
deriving DecidableEq, Repr

/-- The content of a literal with every quote in it doubled. -/
def doubled (quote : Char) (content : List Char) : List Char :=
  content.flatMap fun c => if c = quote then [quote, quote] else [c]

/-- The beginnings of comments. -/
def openings : List (List Char) :=
  [['/', '*'], ['#', ' '], ['#', '\t'], ['-', '-', ' '], ['-', '-', '\t']]

namespace Piece

/-- The text of a piece. -/
def source : Piece → List Char
  | .plain text => text
  | .literal quote content => quote.char :: (doubled quote.char content ++ [quote.char])
  | .block body => '/' :: '*' :: (body ++ ['*', '/'])
  | .line sign blanks text => sign.chars ++ (blanks ++ text)

/-- What is left of a piece when comments are taken out. -/
def kept : Piece → List Char
  | .plain text => text
  | .literal quote content => (Piece.literal quote content).source
  | .block _ => []
  | .line _ _ _ => []

/-- Plain text has no quotes and opens no comment, and a comment ends nowhere in its text. -/
def IsSound : Piece → Prop
  | .plain text => (∀ c ∈ text, c ≠ '\'' ∧ c ≠ '"') ∧ ∀ opening ∈ openings, ¬ opening <:+: text
  | .literal _ _ => True
  | .block body => ¬ ['*', '/'] <:+: body
  | .line _ blanks text => blanks ≠ [] ∧ (∀ c ∈ blanks, c = ' ' ∨ c = '\t') ∧ '\n' ∉ text

/-- Whether a piece may stand in front of another: plain text is not cut in two, and behind a line
comment comes plain text with a line break. -/
def precedes : Piece → Piece → Bool
  | .plain _, .plain _ => false
  | .line _ _ _, .plain text => text.head? == some '\n'
  | .line _ _ _, _ => false
  | _, _ => true

instance (piece : Piece) : Decidable piece.IsSound :=
  match piece with
  | .plain text => @instDecidableAnd _ _ (List.decidableBAll _ text) (List.decidableBAll _ openings)
  | .literal _ _ => inferInstanceAs (Decidable True)
  | .block body => inferInstanceAs (Decidable (¬ ['*', '/'] <:+: body))
  | .line _ blanks text => @instDecidableAnd _ _ (inferInstanceAs (Decidable (blanks ≠ [])))
      (@instDecidableAnd _ _ (List.decidableBAll _ blanks)
        (inferInstanceAs (Decidable ('\n' ∉ text))))

end Piece

/-- Pieces that a text may be put together from: each is sound and may stand in
front of the next. -/
structure ArePieces (pieces : List Piece) : Prop where
  sound : ∀ piece ∈ pieces, piece.IsSound
  neighbours : pieces.IsChain fun first second => first.precedes second = true

/-! ### Literals -/

theorem doubled_cons_self (quote : Char) (content : List Char) :
    doubled quote (quote :: content) = quote :: quote :: doubled quote content := by
  simp [doubled]

theorem doubled_cons_of_ne {quote c : Char} (other : c ≠ quote) (content : List Char) :
    doubled quote (c :: content) = c :: doubled quote content := by
  simp [doubled, other]

/-- The content of a literal is read as it is written, whatever closes the literal behind it. -/
theorem closeLiteral?_doubled_append {quote : Char} (content : List Char)
    {tail body more : List Char} (closed : closeLiteral? quote tail = some (body, more)) :
    closeLiteral? quote (doubled quote content ++ tail) =
      some (doubled quote content ++ body, more) := by
  induction content with
  | nil => exact closed
  | cons c content ih =>
    by_cases same : c = quote
    · subst same
      rw [doubled_cons_self, List.cons_append, List.cons_append, closeLiteral?_doubled, ih]
      rfl
    · rw [doubled_cons_of_ne same, List.cons_append, closeLiteral?_cons_of_ne same, ih]
      rfl

/-- **Behind a closing quote the reading resumes**, also when the next quote belongs to another
literal and the two are read as one. -/
theorem strip_behind_quote {quote : Char} (isQuote : quote = '\'' ∨ quote = '"')
    (rest : List Char) :
    ∃ body more, closeLiteral? quote (quote :: rest) = some (body, more) ∧
      body ++ stripCommentChars more = quote :: stripCommentChars rest := by
  by_cases again : ∃ c ∈ rest.head?, c = quote
  · obtain ⟨c, first, rfl⟩ := again
    cases rest with
    | nil => cases first
    | cons d rest =>
      obtain rfl : d = c := Option.some.inj first
      rw [closeLiteral?_doubled]
      cases closed : closeLiteral? d rest with
      | none => exact ⟨[d], d :: rest, rfl, rfl⟩
      | some cut =>
        exact ⟨d :: d :: cut.1, cut.2, rfl,
          congrArg (d :: ·) (stripCommentChars_literal isQuote closed).symm⟩
  · exact ⟨[quote], rest, closeLiteral?_quote fun c first same => again ⟨c, first, same⟩, rfl⟩

theorem strip_literal (quote : Quote) (content rest : List Char) :
    stripCommentChars ((Piece.literal quote content).source ++ rest) =
      (Piece.literal quote content).source ++ stripCommentChars rest := by
  have isQuote : quote.char = '\'' ∨ quote.char = '"' := by cases quote <;> decide
  obtain ⟨body, more, closed, resumed⟩ := strip_behind_quote isQuote rest
  have read := closeLiteral?_doubled_append content closed
  show stripCommentChars (quote.char :: ((doubled quote.char content ++ [quote.char]) ++ rest)) = _
  rw [List.append_assoc, List.singleton_append, stripCommentChars_literal isQuote read]
  show quote.char :: (doubled quote.char content ++ body ++ stripCommentChars more) = _
  rw [List.append_assoc, resumed]
  simp [Piece.source]

/-! ### Comments -/

theorem closeBlock?_append_of_open {body : List Char} (open_ : ¬ ['*', '/'] <:+: body)
    (rest : List Char) :
    closeBlock? (body ++ '*' :: '/' :: rest) = some (body ++ ['*', '/'], rest) := by
  induction body with
  | nil => exact closeBlock?_close rest
  | cons c body ih =>
    have here : ¬ (c = '*' ∧ (body ++ '*' :: '/' :: rest).head? = some '/') := by
      rintro ⟨rfl, slash⟩
      cases body with
      | nil => cases slash
      | cons d body =>
        obtain rfl : d = '/' := Option.some.inj slash
        exact open_ ⟨[], body, rfl⟩
    rw [List.cons_append, closeBlock?_cons here, ih (mt List.infix_cons open_)]
    rfl

theorem strip_block {body : List Char} (sound : (Piece.block body).IsSound) (rest : List Char) :
    stripCommentChars ((Piece.block body).source ++ rest) = stripCommentChars rest := by
  show stripCommentChars ('/' :: '*' :: ((body ++ ['*', '/']) ++ rest)) = _
  rw [List.append_assoc]
  exact stripCommentChars_block (closeBlock?_append_of_open sound rest)

theorem cutLine_append_of_ends {text rest : List Char} (one_line : '\n' ∉ text)
    (ends : ∀ c ∈ rest.head?, c = '\n') :
    cutLine (text ++ rest) = (text, rest) := by
  have inside : ∀ c ∈ text, (c != '\n') = true :=
    fun c member => bne_iff_ne.2 fun same => one_line (same ▸ member)
  have stops : ∀ c ∈ rest.head?, (c != '\n') = false := fun c first => by rw [ends c first]; rfl
  rw [cutLine, takeWhile_append_of_stop inside stops, dropWhile_append_of_stop inside stops]

theorem strip_line {sign : LineSign} {blanks text rest : List Char}
    (sound : (Piece.line sign blanks text).IsSound) (ends : ∀ c ∈ rest.head?, c = '\n') :
    stripCommentChars ((Piece.line sign blanks text).source ++ rest) = stripCommentChars rest := by
  obtain ⟨some_there, blank, one_line⟩ := sound
  have within : '\n' ∉ blanks ++ text := by
    rw [List.mem_append, not_or]
    refine ⟨fun member => ?_, one_line⟩
    rcases blank '\n' member with same | same <;> cases same
  have opens : opensComment (blanks ++ text ++ rest) = true := by
    obtain ⟨b, blanks, rfl⟩ := List.exists_cons_of_ne_nil some_there
    rcases blank b List.mem_cons_self with rfl | rfl <;> rfl
  have cut := cutLine_append_of_ends within ends
  cases sign with
  | sharp =>
    have found : lineComment? ('#' :: (blanks ++ text ++ rest)) =
      some ('#' :: (blanks ++ text), rest) := by
      rw [lineComment?, if_pos opens, cut]
    exact stripCommentChars_line found
  | dashes =>
    have found : lineComment? ('-' :: '-' :: (blanks ++ text ++ rest)) =
        some ('-' :: '-' :: (blanks ++ text), rest) := by
      rw [lineComment?, if_pos opens, cut]
    exact stripCommentChars_line found

/-! ### Plain text -/

/-- What is left of the beginnings of comments behind their first characters. -/
def endings : List (List Char) := [['*'], [' '], ['\t'], ['-', ' '], ['-', '\t']]

/-- Whether the reading resumes at a text whatever plain text stands in front of it: the text goes
on with no beginning of a comment. -/
def Resumes (rest : List Char) : Prop := ∀ ending ∈ endings, ¬ ending <+: rest

/-- Text that opens no comment opens none in front of a text at which the reading resumes. -/
theorem not_opening_append {text rest : List Char} (some_there : text ≠ [])
    (apart : ∀ opening ∈ openings, ¬ opening <:+: text) (resumes : Resumes rest) :
    ∀ opening ∈ openings, ¬ opening <+: text ++ rest := by
  intro opening member begins
  rcases List.prefix_or_prefix_of_prefix begins (List.prefix_append text rest) with inside | beyond
  · exact apart opening member inside.isInfix
  · obtain ⟨ending, rfl⟩ := beyond
    obtain ⟨c, text, rfl⟩ := List.exists_cons_of_ne_nil some_there
    -- the text has a part of the opening, and the other one stands behind it
    have parts : ∀ opening ∈ openings, ∀ ending ∈ opening.tail.tails, ending = [] ∨
      ending ∈ endings := by
      decide
    rcases parts _ member ending
      ((List.mem_tails _ _).2 (List.suffix_append text ending)) with rfl | behind
    · rw [List.append_nil] at member
      exact apart _ member List.infix_rfl
    · exact resumes ending behind ((List.prefix_append_right_inj _).1 begins)

theorem lineComment?_of_not_opening {text : List Char}
    (apart : ∀ opening ∈ openings, ¬ opening <+: text) :
    lineComment? text = none := by
  have blank {rest : List Char} (opens : opensComment rest = true) :
      ∃ c more, rest = c :: more ∧ (c = ' ' ∨ c = '\t') := by
    cases rest with
    | nil => cases opens
    | cons c more => exact ⟨c, more, rfl, by simpa [opensComment] using opens⟩
  unfold lineComment?
  split
  · rw [if_neg]
    intro opens
    obtain ⟨c, more, rfl, rfl | rfl⟩ := blank opens
    · exact apart ['#', ' '] (by decide) ⟨more, rfl⟩
    · exact apart ['#', '\t'] (by decide) ⟨more, rfl⟩
  · rw [if_neg]
    intro opens
    obtain ⟨c, more, rfl, rfl | rfl⟩ := blank opens
    · exact apart ['-', '-', ' '] (by decide) ⟨more, rfl⟩
    · exact apart ['-', '-', '\t'] (by decide) ⟨more, rfl⟩
  · rfl

theorem strip_plain {text : List Char} (sound : (Piece.plain text).IsSound) {rest : List Char}
    (resumes : Resumes rest) : stripCommentChars (text ++ rest) =
      text ++ stripCommentChars rest := by
  induction text with
  | nil => rfl
  | cons c text ih =>
    obtain ⟨unquoted, apart⟩ := sound
    obtain ⟨here, others⟩ := List.forall_mem_cons.1 unquoted
    have no_opening := not_opening_append (List.cons_ne_nil c text) apart resumes
    have single : OpensNothing c (text ++ rest) := by
      refine ⟨fun quote => absurd quote (not_or.2 here), ?_, lineComment?_of_not_opening no_opening⟩
      rintro more rfl behind
      exact absurd ⟨more, congrArg ('/' :: ·) behind.symm⟩ (no_opening ['/', '*'] (by decide))
    rw [List.cons_append, stripCommentChars_cons single,
      ih ⟨others, fun opening member inside => apart opening member (List.infix_cons inside)⟩]
    rfl

/-! ### Pieces behind one another -/

theorem resumes_nil : Resumes [] := by
  intro ending member begins
  rw [List.prefix_nil.1 begins] at member
  exact absurd member (by decide)

theorem resumes_append {start : List Char}
    (apart : ∀ ending ∈ endings, ¬ ending <+: start ∧ ¬ start <+: ending) (rest : List Char) :
    Resumes (start ++ rest) := by
  intro ending member begins
  obtain ⟨longer, shorter⟩ := apart ending member
  exact (List.prefix_or_prefix_of_prefix begins (List.prefix_append start rest)).elim longer shorter

/-- At a literal and at a comment the reading resumes. -/
theorem resumes_source {piece : Piece} (other : ∀ text, piece ≠ .plain text) (rest : List Char) :
    Resumes (piece.source ++ rest) := by
  cases piece with
  | plain text => exact absurd rfl (other text)
  | literal quote content => cases quote <;> exact @resumes_append [_] (by decide) _
  | block body => exact @resumes_append ['/'] (by decide) _
  | line sign blanks text =>
    rw [Piece.source, List.append_assoc]
    exact resumes_append (by cases sign <;> decide) _

/-- **The text without comments is that of the pieces without the comments.** -/
theorem stripCommentChars_pieces {pieces : List Piece} (are : ArePieces pieces) :
    stripCommentChars (pieces.flatMap Piece.source) = pieces.flatMap Piece.kept := by
  induction pieces with
  | nil => exact stripCommentChars_nil
  | cons piece rest ih =>
    obtain ⟨here, others⟩ := List.forall_mem_cons.1 are.sound
    obtain ⟨next, neighbours⟩ := List.isChain_cons.1 are.neighbours
    have behind := ih ⟨others, neighbours⟩
    rw [List.flatMap_cons, List.flatMap_cons, ← behind]
    cases piece with
    | plain text =>
      refine strip_plain here ?_
      cases rest with
      | nil => exact resumes_nil
      | cons second rest =>
        rw [List.flatMap_cons]
        refine resumes_source ?_ _
        rintro text rfl
        cases next _ rfl
    | literal quote content => exact strip_literal quote content _
    | block body => exact strip_block here _
    | line sign blanks text =>
      refine strip_line here ?_
      cases rest with
      | nil => exact fun _ first => by cases first
      | cons second rest =>
        have breaks := next second rfl
        cases second with
        | plain text =>
          intro c first
          have feed : text.head? = some '\n' := beq_iff_eq.1 breaks
          rw [List.flatMap_cons, List.head?_append, Piece.source, feed] at first
          exact (Option.some.inj first).symm
        | literal quote content => cases breaks
        | block body => cases breaks
        | line sign blanks text => cases breaks

/-- **A text that is put together from pieces loses its comments and nothing else.** -/
theorem stripComments_pieces {pieces : List Piece} (are : ArePieces pieces) :
    stripComments (String.ofList (pieces.flatMap Piece.source)) =
      String.ofList (pieces.flatMap Piece.kept) := by
  rw [stripComments, String.toList_ofList, stripCommentChars_pieces are]

/-- Every kind of piece: literals that are read as one, marks of comments in literals and quotes in
comments, a line comment behind the sign of another one. -/
theorem stripComments_pieces_of_every_kind :
    let pieces : List Piece := [.plain "select ".toList, .literal .single "it's -- x".toList,
      .literal .single "/*".toList, .block " it's ".toList, .literal .double "\"#".toList,
      .plain " from t ".toList, .line .dashes [' ', '\t'] ":x 'y".toList,
        .plain "\nwhere 1 #".toList,
      .line .sharp [' '] []]
    ArePieces pieces ∧
      stripComments "select 'it''s -- x''/*'/* it's */\"\"\"#\" from t -- \t:x 'y\nwhere 1 ## " =
        "select 'it''s -- x''/*'\"\"\"#\" from t \nwhere 1 #" := by
  intro pieces
  have are : ArePieces pieces := ⟨by decide, by decide⟩
  have written : String.ofList (pieces.flatMap Piece.source) =
      "select 'it''s -- x''/*'/* it's */\"\"\"#\" from t -- \t:x 'y\nwhere 1 ## " := by
        decide +kernel
  have left : String.ofList (pieces.flatMap Piece.kept) =
      "select 'it''s -- x''/*'\"\"\"#\" from t \nwhere 1 #" := by decide +kernel
  have stripped := stripComments_pieces are
  rw [written, left] at stripped
  exact ⟨are, stripped⟩

end QueryDesk.Sql
