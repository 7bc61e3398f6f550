/-
**Reading a list of lexemes.**

* `Recognizer` — reads from the start of a list of lexemes; it has no answer where the lexemes are
  no statement. A part that may be missing is read as an `Option`, and then nothing is used up.
* `repeated`, `commaList` — several parts in a row. A list may have empty places, so a
  trailing comma is no mistake.
* `balanced` — skips to the end of the innermost parentheses.
-/

import QueryDesk.Sql.Grammar.Lexeme

namespace QueryDesk.Sql.Grammar

/-- Reads from the start of a list of lexemes, and leaves the rest. -/
abbrev Recognizer := StateT (List Lexeme) Option

namespace Recognizer

/-! ### Single lexemes -/

/-- The next lexeme, which stays where it is. -/
def peek : Recognizer (Option Lexeme) := return (← get).head?

/-- The next word in capitals, which stays where it is. -/
def peekWord : Recognizer (Option String) := return (← peek).bind Lexeme.keyword?

/-- The lexeme behind the next one. -/
def peekSecond : Recognizer (Option Lexeme) := return (← get)[1]?

/-- Passes over the next lexeme. -/
def skip : Recognizer Unit := modify List.tail

/-- Passes over the next lexeme if it is the given one. -/
def acceptLexeme (wanted : Lexeme) : Recognizer Bool := do
  if (← peek) = some wanted then skip; return true else return false

/-- Passes over a mark if it comes next. -/
def acceptMark (symbol : String) : Recognizer Bool := acceptLexeme (.mark symbol)

/-- Passes over a mark, which has to come next. -/
def expectMark (symbol : String) : Recognizer Unit := do
  if !(← acceptMark symbol) then failure

/-- Passes over a word if it comes next. -/
def acceptWord (wanted : String) : Recognizer Bool := do
  if (← peekWord) = some wanted then skip; return true else return false

/-- Passes over one of several words and tells which. -/
def acceptOneOf (wanted : List String) : Recognizer (Option String) := do
  match (← peekWord).filter wanted.contains with
  | some found => skip; return some found
  | none => return none

/-- Passes over several words in a row, or over none of them. -/
def acceptWords (wanted : List String) : Recognizer Bool := do
  let ahead := ((← get).take wanted.length).map Lexeme.keyword?
  if ahead = wanted.map some then modify (List.drop wanted.length); return true else return false

/-- Passes over several words, which have to come next. -/
def expectWords (wanted : List String) : Recognizer Unit := do
  if !(← acceptWords wanted) then failure

/-- Passes over a name that stands for something. -/
def acceptName : Recognizer (Option String) := do
  match (← peek).bind Lexeme.name? with
  | some name => skip; return some name
  | none => return none

/-! ### Several parts -/

/-- Repeats a step at most so many times, until it says that there is nothing more for it. -/
def repeatUpTo : Nat → Recognizer Bool → Recognizer Unit
  | 0, _ => return ()
  | times + 1, step => do
    if ← step then repeatUpTo times step

/-- Repeats a step that uses up lexemes until it says that there is nothing more for it. -/
def repeated (step : Recognizer Bool) : Recognizer Unit := do
  repeatUpTo ((← get).length + 1) step

/-- Parts with commas between them, of which some may be missing, in their order. -/
def listUpTo {α : Type} (item : Recognizer (Option α)) : Nat → Recognizer (List α)
  | 0 => return []
  | times + 1 => do
    let first ← item
    if ← acceptMark "," then return first.toList ++ (← listUpTo item times)
    else return first.toList

/-- Parts with commas between them, of which some may be missing, in their order. -/
def commaList {α : Type} (item : Recognizer (Option α)) : Recognizer (List α) := do
  listUpTo item ((← get).length + 1)

/-- A part that has to be there. -/
def required {α : Type} (part : Recognizer (Option α)) : Recognizer α := do
  match ← part with
  | some found => return found
  | none => failure

/-- Whether a part could be read here; nothing is used up. -/
def ahead {α : Type} (part : Recognizer α) : Recognizer Bool :=
  fun lexemes => some ((part lexemes).isSome, lexemes)

/-- A part if it can be read here; otherwise nothing is used up. -/
def attempt {α : Type} (part : Recognizer α) : Recognizer (Option α) :=
  fun lexemes => match part lexemes with
    | some (found, rest) => some (some found, rest)
    | none => some (none, lexemes)

/-- Skips over lexemes to the parenthesis that closes the current level, given the number of levels
opened since; the closing one stays. -/
def balancedFrom : Nat → List Lexeme → Option (List Lexeme)
  | _, [] => none
  | level, .mark "(" :: rest => balancedFrom (level + 1) rest
  | 0, .mark ")" :: rest => some (.mark ")" :: rest)
  | level + 1, .mark ")" :: rest => balancedFrom level rest
  | level, _ :: rest => balancedFrom level rest

/-- Skips over the contents of parentheses and their end. -/
def balanced : Recognizer Unit := do
  match balancedFrom 0 (← get) with
  | some rest => set rest.tail
  | none => failure

/-- A list of names in parentheses. -/
def wrappedNames : Recognizer Unit := do
  expectMark "("
  let _ ← commaList acceptName
  expectMark ")"

end Recognizer

end QueryDesk.Sql.Grammar
