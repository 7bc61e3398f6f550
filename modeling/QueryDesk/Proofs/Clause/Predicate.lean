/-
**The grammar of SQL conditions.**

* `Token`, `tokens?` — the words and marks of a text: names with or without backticks, keywords in
  any case, parameters behind a colon, comparison signs and parentheses, with blanks between them.
* `Atom`, `symbols?` — tokens put together to comparisons, each of them one symbol: the AND of a
  BETWEEN and the parentheses of an IN belong to their comparison.
* `Derives` — the grammar: an expression is a row of terms joined by OR, a term a row of factors
  joined by AND, and a factor a comparison or an expression in parentheses.
* `Reads`, `Reads.unique` — a text is read as one expression at most: the grammar is unambiguous, as
  a machine with a stack (`run`) reaches the expression of every derivation (`Derives.reaches`).
* `Expression.valueFrom` — the value of an expression when its comparisons are
  numbered from left to right.
-/

import QueryDesk.Proofs.Clause.Names

namespace QueryDesk.Sql.Predicate

open Text

/-! ### Words and marks -/

/-- A word with a meaning of its own. -/
inductive Keyword where
  | and
  | or
  | not
  | within
  | between
  | like
  | is
  | null
deriving DecidableEq, Repr

namespace Keyword

/-- The keyword in capitals. -/
def spelling : Keyword → String
  | .and => "AND"
  | .or => "OR"
  | .not => "NOT"
  | .within => "IN"
  | .between => "BETWEEN"
  | .like => "LIKE"
  | .is => "IS"
  | .null => "NULL"

/-- All keywords. -/
def all : List Keyword := [.and, .or, .not, .within, .between, .like, .is, .null]

/-- The keyword that a word is, in whatever case it is written. -/
def ofWord? (word : String) : Option Keyword :=
  all.find? fun keyword => keyword.spelling == word.toUpper

end Keyword

/-- A word or a mark of a condition. -/
inductive Token where
  /-- A name, perhaps between backticks. -/
  | name (spelling : String) (quoted : Bool)
  /-- A keyword. -/
  | keyword (word : Keyword)
  /-- The name of a parameter, which stands behind a colon. -/
  | param (name : String)
  /-- A comparison sign. -/
  | mark (sign : String)
  /-- An opening parenthesis. -/
  | opening
  /-- A closing parenthesis. -/
  | closing
deriving DecidableEq, Repr

/-- The sign around a quoted name. -/
def backtick : Char := Char.ofNat 96

/-- Whether a comparison sign may have the character in it. -/
def inMark (c : Char) : Bool := ['=', '<', '>'].contains c

/-- The comparison signs. -/
def marks : List String := ["=", "<>", "<", "<=", ">", ">="]

/-- A word without quotes is a keyword or a name. -/
def ofWord (word : String) : Token :=
  match Keyword.ofWord? word with
  | some keyword => .keyword keyword
  | none => .name word false

theorem length_dropWhile_lt (c : Char) (test : Char → Bool) (rest : List Char) :
    (rest.dropWhile test).length < (c :: rest).length :=
  Nat.lt_succ_of_le (List.dropWhile_sublist test).length_le

/-- The tokens of a text; blanks end a token and are passed over. -/
def tokens? : List Char → Option (List Token)
  | [] => some []
  | c :: rest =>
    if isBlank c then tokens? rest
    else if c = '(' then (tokens? rest).map (Token.opening :: ·)
    else if c = ')' then (tokens? rest).map (Token.closing :: ·)
    else if c = ':' then
      match rest with
      | [] => none
      | d :: more =>
        if opensName d then
          (tokens? (more.dropWhile isWord)).map
            (Token.param (String.ofList (d :: more.takeWhile isWord)) :: ·)
        else none
    else if c = backtick then
      match _tail : rest.dropWhile (· != backtick) with
      | [] => none
      | _ :: more =>
        (tokens? more).map
          (Token.name (String.ofList (rest.takeWhile (· != backtick))) true :: ·)
    else if inMark c then
      if marks.contains (String.ofList (c :: rest.takeWhile inMark)) then
        (tokens? (rest.dropWhile inMark)).map
          (Token.mark (String.ofList (c :: rest.takeWhile inMark)) :: ·)
      else none
    else if opensName c then
      (tokens? (rest.dropWhile isWord)).map
        (ofWord (String.ofList (c :: rest.takeWhile isWord)) :: ·)
    else none
termination_by text => text.length
decreasing_by
  · simp
  · simp
  · simp
  · exact Nat.lt_succ_of_lt (length_dropWhile_lt d isWord more)
  · have shorter := length_dropWhile_lt c (· != backtick) rest
    rw [_tail, List.length_cons] at shorter
    omega
  · exact length_dropWhile_lt c inMark rest
  · exact length_dropWhile_lt c isWord rest

/-! ### Comparisons -/

/-- A comparison of a column with parameters, by a sign or keywords; the name of the column may
stand between backticks. -/
structure Atom where
  column : String
  quoted : Bool
  operator : String
  params : List String
deriving DecidableEq, Repr

/-- A comparison as a whole, a connective or a parenthesis. -/
inductive Symbol where
  | atom (comparison : Atom)
  | and
  | or
  | opening
  | closing
deriving DecidableEq, Repr

/-- The symbols of tokens, each comparison put together. -/
def symbols? : List Token → Option (List Symbol)
  | [] => some []
  | .name column quoted :: .mark sign :: .param value :: rest =>
    (symbols? rest).map (Symbol.atom ⟨column, quoted, sign, [value]⟩ :: ·)
  | .name column quoted :: .keyword .like :: .param value :: rest =>
    (symbols? rest).map (Symbol.atom ⟨column, quoted, "LIKE", [value]⟩ :: ·)
  | .name column quoted :: .keyword .within :: .opening :: .param values :: .closing :: rest =>
    (symbols? rest).map (Symbol.atom ⟨column, quoted, "IN", [values]⟩ :: ·)
  | .name column quoted :: .keyword .not :: .keyword .within :: .opening :: .param values ::
      .closing :: rest =>
    (symbols? rest).map (Symbol.atom ⟨column, quoted, "NOT IN", [values]⟩ :: ·)
  | .name column quoted :: .keyword .between :: .param low :: .keyword .and :: .param high ::
    rest =>
    (symbols? rest).map (Symbol.atom ⟨column, quoted, "BETWEEN", [low, high]⟩ :: ·)
  | .name column quoted :: .keyword .is :: .keyword .null :: rest =>
    (symbols? rest).map (Symbol.atom ⟨column, quoted, "IS NULL", []⟩ :: ·)
  | .name column quoted :: .keyword .is :: .keyword .not :: .keyword .null :: rest =>
    (symbols? rest).map (Symbol.atom ⟨column, quoted, "IS NOT NULL", []⟩ :: ·)
  | .keyword .and :: rest => (symbols? rest).map (Symbol.and :: ·)
  | .keyword .or :: rest => (symbols? rest).map (Symbol.or :: ·)
  | .opening :: rest => (symbols? rest).map (Symbol.opening :: ·)
  | .closing :: rest => (symbols? rest).map (Symbol.closing :: ·)
  | _ => none

/-! ### The grammar -/

/-- A condition as it is understood. -/
inductive Expression where
  | atom (comparison : Atom)
  | and (left right : Expression)
  | or (left right : Expression)
deriving Repr

/-- How tightly the outermost connective of an expression may bind. -/
inductive Strength where
  /-- Comparisons and what stands in parentheses. -/
  | factor
  /-- Factors joined by AND. -/
  | term
  /-- Terms joined by OR. -/
  | expression

/-- **The grammar**: which symbols are read as which expression. -/
inductive Derives : Strength → List Symbol → Expression → Prop
  | atom (comparison : Atom) : Derives .factor [.atom comparison] (.atom comparison)
  | parentheses {inner : List Symbol} {found : Expression} :
      Derives .expression inner found → Derives .factor (.opening :: inner ++ [.closing]) found
  | factor {symbols : List Symbol} {found : Expression} :
      Derives .factor symbols found → Derives .term symbols found
  | and {before behind : List Symbol} {left right : Expression} :
      Derives .term before left → Derives .factor behind right →
        Derives .term (before ++ .and :: behind) (.and left right)
  | term {symbols : List Symbol} {found : Expression} :
      Derives .term symbols found → Derives .expression symbols found
  | or {before behind : List Symbol} {left right : Expression} :
      Derives .expression before left → Derives .term behind right →
        Derives .expression (before ++ .or :: behind) (.or left right)

/-- A text that is read as an expression. -/
def Reads (text : String) (found : Expression) : Prop :=
  ∃ tokens symbols, tokens? text.toList = some tokens ∧ symbols? tokens = some symbols ∧
    Derives .expression symbols found

/-! ### The grammar is unambiguous -/

/-- What has been read at one depth of parentheses when an operand comes next: the terms in front of
the last OR, and the factors in front of the last AND. -/
structure Frame where
  terms : Option Expression
  factors : Option Expression

/-- An expression behind what AND joins it to. -/
def joinAnd : Option Expression → Expression → Expression
  | none, right => right
  | some left, right => .and left right

/-- An expression behind what OR joins it to. -/
def joinOr : Option Expression → Expression → Expression
  | none, right => right
  | some left, right => .or left right

/-- A place in a row of symbols, with what has been read at the depths around it. -/
inductive Place where
  /-- An operand comes next. -/
  | before (frame : Frame) (outer : List Frame)
  /-- A factor has just been read. -/
  | behind (terms : Option Expression) (factors : Expression) (outer : List Frame)

/-- The place behind the next symbol. -/
def step : Place → Symbol → Option Place
  | .before frame outer, .atom comparison =>
    some (.behind frame.terms (joinAnd frame.factors (.atom comparison)) outer)
  | .before frame outer, .opening => some (.before ⟨none, none⟩ (frame :: outer))
  | .behind terms factors outer, .and => some (.before ⟨terms, some factors⟩ outer)
  | .behind terms factors outer, .or => some (.before ⟨some (joinOr terms factors), none⟩ outer)
  | .behind terms factors (frame :: outer), .closing =>
    some (.behind frame.terms (joinAnd frame.factors (joinOr terms factors)) outer)
  | _, _ => none

/-- The place behind several symbols. -/
def run (place : Place) (symbols : List Symbol) : Option Place := symbols.foldlM step place

theorem run_cons (place : Place) (symbol : Symbol) (rest : List Symbol) :
    run place (symbol :: rest) = (step place symbol).bind (run · rest) := rfl

theorem run_append (place : Place) (first rest : List Symbol) :
    run place (first ++ rest) = (run place first).bind (run · rest) :=
  List.foldlM_append

/-- Where symbols of a strength lead that are read as an expression. -/
def Reaches : Strength → List Symbol → Expression → Prop
  | .factor, symbols, found => ∀ frame outer,
    run (.before frame outer) symbols =
      some (.behind frame.terms (joinAnd frame.factors found) outer)
  | .term, symbols, found => ∀ terms outer,
    run (.before ⟨terms, none⟩ outer) symbols = some (.behind terms found outer)
  | .expression, symbols, found => ∀ outer, ∃ terms factors,
    run (.before ⟨none, none⟩ outer) symbols = some (.behind terms factors outer) ∧
      joinOr terms factors = found

/-- **The machine reaches the expression of every derivation.** -/
theorem Derives.reaches {strength : Strength} {symbols : List Symbol} {found : Expression}
    (derived : Derives strength symbols found) : Reaches strength symbols found := by
  induction derived with
  | atom comparison => exact fun _ _ => rfl
  | @parentheses inner found _ ih =>
    intro frame outer
    -- inside the parentheses the machine starts afresh, with the frame kept below
    obtain ⟨terms, factors, reached, joined⟩ := ih (frame :: outer)
    rw [List.cons_append, run_cons]
    show run (.before ⟨none, none⟩ (frame :: outer)) (inner ++ [.closing]) = _
    rw [run_append, reached, ← joined]
    rfl
  | factor _ ih => exact fun terms outer => ih ⟨terms, none⟩ outer
  | @and before behind left right _ _ ihLeft ihRight =>
    intro terms outer
    rw [run_append, ihLeft terms outer]
    show run (.before ⟨terms, some left⟩ outer) behind = _
    exact ihRight ⟨terms, some left⟩ outer
  | term _ ih => exact fun outer => ⟨none, _, ih none outer, rfl⟩
  | @or before behind left right _ _ ihLeft ihRight =>
    intro outer
    obtain ⟨terms, factors, reached, joined⟩ := ihLeft outer
    refine ⟨some left, right, ?_, rfl⟩
    rw [run_append, reached, ← joined]
    exact ihRight (some (joinOr terms factors)) outer

/-- **The grammar is unambiguous.** -/
theorem Derives.unique {symbols : List Symbol} {found other : Expression}
    (first : Derives .expression symbols found) (second : Derives .expression symbols other) :
    found = other := by
  obtain ⟨terms, factors, reached, rfl⟩ := first.reaches []
  obtain ⟨_, _, reachedAgain, rfl⟩ := second.reaches []
  rw [reached] at reachedAgain
  cases reachedAgain
  rfl

/-- **A text is read as one expression at most.** -/
theorem Reads.unique {text : String} {found other : Expression} (first : Reads text found)
    (second : Reads text other) : found = other := by
  obtain ⟨tokens, symbols, scanned, joined, derived⟩ := first
  obtain ⟨_, _, scannedAgain, joinedAgain, derivedAgain⟩ := second
  rw [scanned] at scannedAgain
  cases scannedAgain
  rw [joined] at joinedAgain
  cases joinedAgain
  exact derived.unique derivedAgain

/-! ### The value of an expression -/

namespace Expression

/-- The comparisons of an expression from left to right. -/
def atoms : Expression → List Atom
  | .atom comparison => [comparison]
  | .and left right => left.atoms ++ right.atoms
  | .or left right => left.atoms ++ right.atoms

/-- The value of an expression, given one for every comparison, where its first
comparison has the given number. -/
def valueFrom (truth : Nat → Bool) (first : Nat) : Expression → Bool
  | .atom _ => truth first
  | .and left right =>
    left.valueFrom truth first && right.valueFrom truth (first + left.atoms.length)
  | .or left right =>
    left.valueFrom truth first || right.valueFrom truth (first + left.atoms.length)

end Expression

end QueryDesk.Sql.Predicate
