/-
**SQL text without the constructs of other dialects.**

Only the shape of a statement is asked for, so what the statement grammar does not know is replaced
by something that it does, and the loss is accepted.

* `replaceAll` — applies a replacement everywhere in a text, from left to right, each time behind
  the place it was last applied.
* `simplify` — comments go, unnamed placeholders become numbered ones, and then in this order:
  `SHOW` keeps its first word, intervals become casts, the two-number `LIMIT` gets an `OFFSET`, lock
  clauses vanish, `SET` gets the standard form, and calls of foreign functions become a number.
-/

import QueryDesk.Sql.Comment
import QueryDesk.Text.Basic
import QueryDesk.Text.CaseMap

namespace QueryDesk.Sql

open Text

/-! ### Scanning -/

/-- A word at the start of a text, letters compared without case: the word as it stands there, and
what follows. The word asked for is given in small letters. -/
def word? : List Char → List Char → Option (List Char × List Char)
  | [], text => some ([], text)
  | letter :: word, c :: text =>
    if sameLetter letter c then (word? word text).map fun (found, rest) => (c :: found, rest)
      else none
  | _ :: _, [] => none

/-- The longest run of characters of a class at the start of a text, unless it is empty. -/
def run? (inClass : Char → Bool) (text : List Char) : Option (List Char × List Char) :=
  match text.takeWhile inClass with
  | [] => none
  | found => some (found, text.dropWhile inClass)

/-- The text behind at least one blank. -/
def skipBlanks? (text : List Char) : Option (List Char) := (run? isBlank text).map (·.2)

/-- The text behind any blanks. -/
def skipBlanks (text : List Char) : List Char := text.dropWhile isBlank

/-- A run of decimal digits. -/
def digits? : List Char → Option (List Char × List Char) := run? isDecimalDigit

/-- A run of characters that are not blank. -/
def solid? : List Char → Option (List Char × List Char) := run? fun c => !isBlank c

/-- The text behind a given character. -/
def skipChar? (wanted : Char) : List Char → Option (List Char)
  | c :: rest => if c = wanted then some rest else none
  | [] => none

/-- Whether a word may begin behind the given character. -/
def atWordStart (before : Option Char) : Bool := !before.any isWord

/-- Whether the text is at its end, a last line feed not counted. -/
def atEnd : List Char → Bool
  | [] => true
  | ['\n'] => true
  | _ => false

/-! ### Replacing -/

/-- A replacement: given the character before a place and the text from there, what is written
instead and the text that remains, if the rule applies there. -/
abbrev Replacement := Option Char → List Char → Option (List Char × List Char)

/-- The last character of what a replacement used up, for its next application. -/
def lastUsed (text rest : List Char) : Option Char :=
  (text.take (text.length - rest.length)).getLast?

/-- Applies a replacement everywhere in a text. -/
def replaceAll (rule : Replacement) (before : Option Char) (text : List Char) : List Char :=
  match text with
  | [] => []
  | c :: tail =>
    match rule before (c :: tail) with
    | some (written, rest) =>
      if rest.length < (c :: tail).length then
        written ++ replaceAll rule (lastUsed (c :: tail) rest) rest
      else c :: replaceAll rule (some c) tail
    | none => c :: replaceAll rule (some c) tail
termination_by text.length
decreasing_by
  · assumption
  · exact Nat.lt_succ_self tail.length
  · exact Nat.lt_succ_self tail.length

/-- Unnamed placeholders become the first numbered one. -/
def numberPlaceholders (text : List Char) : List Char :=
  text.flatMap fun c => if c = '?' then ['$', '1'] else [c]

/-- Keeps the first word behind `SHOW` when the statement stands on one line from there on. -/
def shortenShow (text : List Char) : List Char :=
  let shortened : Option (List Char) := do
    let (verb, afterShow) ← word? "show".toList (skipBlanks text)
    let (subject, rest) ← solid? (← skipBlanks? afterShow)
    let after := rest.dropWhile (· != '\n')
    if atEnd after then some (verb ++ ' ' :: subject ++ after) else none
  shortened.getD text

/-- `INTERVAL 1 DAY` becomes a cast of the text `1 DAY`; blanks in front become one. -/
def castInterval : Replacement := fun _ text => do
  let (_, afterWord) ← word? "interval".toList (skipBlanks text)
  let (count, afterCount) ← digits? (← skipBlanks? afterWord)
  let (unit, rest) ← solid? (← skipBlanks? afterCount)
  some (" cast('".toList ++ count ++ ' ' :: unit ++ "' as INTERVAL)".toList, rest)

/-- `LIMIT 10, 20` becomes `LIMIT 20 OFFSET 10`. -/
def splitLimit : Replacement := fun before text => do
  if !atWordStart before then none
  else
    let (_, afterWord) ← word? "limit".toList text
    let (skipped, afterSkipped) ← digits? (← skipBlanks? afterWord)
    let afterComma ← skipChar? ',' (skipBlanks afterSkipped)
    let (count, rest) ← digits? (skipBlanks afterComma)
    some ("LIMIT ".toList ++ count ++ " OFFSET ".toList ++ skipped, rest)

/-- `LOCK IN SHARE MODE` becomes a blank. -/
def dropLock : Replacement := fun before text => do
  if !atWordStart before then none
  else
    let (_, afterLock) ← word? "lock".toList text
    let (_, afterIn) ← word? "in".toList (← skipBlanks? afterLock)
    let (_, afterKind) ← solid? (← skipBlanks? afterIn)
    let (_, rest) ← word? "mode".toList (← skipBlanks? afterKind)
    some ([' '], rest)

/-- A variable, an equals sign and a value up to the end of the text: the variable and the end. -/
def assignment? (text : List Char) : Option (List Char × List Char) := do
  let (target, afterVariable) ← solid? (← skipBlanks? text)
  let afterSign ← skipChar? '=' (← skipBlanks? afterVariable)
  let (_, rest) ← solid? (← skipBlanks? afterSign)
  if atEnd rest then some (target, rest) else none

/-- `SET GLOBAL x = 1` becomes `SET x TO dummy`. -/
def standardizeSet (text : List Char) : List Char :=
  let standardized : Option (List Char) := do
    let (verb, afterSet) ← word? "set".toList (skipBlanks text)
    let global : Option (List Char × List Char) := do
      let (_, rest) ← word? "global".toList (← skipBlanks? afterSet)
      assignment? rest
    let (target, rest) ← global.orElse fun _ => assignment? afterSet
    some (verb ++ ' ' :: target ++ " TO dummy".toList ++ rest)
  standardized.getD text

/-- Functions of other dialects, in small letters. -/
def foreignFunctions : List String := [
  "adddate", "concat_ws", "convert_tz", "curdate", "date_add", "date_format", "date_sub", "dateadd",
  "datediff", "dayofweek", "find_in_set", "from_unixtime", "group_concat", "ifnull", "instr",
  "isnull", "last_insert_id", "nvl", "nvl2", "str_to_date", "subdate", "timestampdiff", "to_days",
  "unix_timestamp"]

/-- The text behind a function's name and its arguments, which end at the first closing
parenthesis and are not empty. -/
def callOf? (text : List Char) (function : String) : Option (List Char) := do
  let (_, afterName) ← word? function.toList text
  let (_, afterArguments) ← run? (· != ')') (← skipChar? '(' afterName)
  skipChar? ')' afterArguments

/-- The call of a foreign function becomes the number one. -/
def replaceCall : Replacement := fun before text =>
  if atWordStart before then
    (foreignFunctions.findSome? (callOf? text)).map fun rest => (['1'], rest)
  else none

/-- A list of characters without the constructs of other dialects. -/
def simplifyChars (text : List Char) : List Char :=
  let numbered := numberPlaceholders (stripCommentChars text)
  let cast := replaceAll castInterval none (shortenShow numbered)
  let unlocked := replaceAll dropLock none (replaceAll splitLimit none cast)
  replaceAll replaceCall none (standardizeSet unlocked)

/-- SQL text without the constructs of other dialects. -/
def simplify (query : String) : String := String.ofList (simplifyChars query.toList)

end QueryDesk.Sql
