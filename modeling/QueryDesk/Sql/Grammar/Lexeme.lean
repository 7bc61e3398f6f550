/-
**The words and marks of a statement.**

* `Lexeme` — a word, a quoted name, a text in quotes, a number, or a mark.
* `Lexeme.scan` — the lexemes of a text, or `none` for a text that ends inside quotes. Two words
  that make one keyword, such as `ORDER BY`, become one lexeme.
* `Lexeme.name?` — the name that a lexeme may stand for; keywords of the grammar stand for none.
-/

import QueryDesk.Text.Basic

namespace QueryDesk.Sql.Grammar

/-- A word or a mark of a statement. -/
inductive Lexeme where
  /-- A word without quotes. -/
  | word (spelling : String)
  /-- A name in double quotes. -/
  | quoted (name : String)
  /-- A text in single quotes, or between dollar signs. -/
  | text (content : String)
  /-- A number. -/
  | number (spelling : String)
  /-- An operator or a mark of punctuation. -/
  | mark (symbol : String)
deriving DecidableEq, Repr

namespace Lexeme

/-! ### Kinds of words -/

/-- Keywords of two words; alone, the first is a name like any other. -/
def wordPairs : List (String × String) := [
  ("GROUP", "BY"), ("ORDER", "BY"), ("PARTITION", "BY"), ("SIMILAR", "TO"), ("PRIMARY", "KEY"),
  ("FOREIGN", "KEY"), ("GROUPING", "SETS")]

/-- Keywords that are never names. -/
def reservedWords : List String := [
  "ALTER", "AND", "AS", "BETWEEN", "CREATE", "CROSS", "DISTINCT", "DROP", "ELSE", "EXCEPT", "FETCH",
  "FOR", "FROM", "GLOB", "GRANT", "GROUP BY", "GROUPING SETS", "HAVING", "ILIKE", "IN", "INNER",
  "INSERT", "INTERSECT", "INTO", "JOIN", "LATERAL", "LIKE", "NOT", "NOTNULL", "ON", "OR",
    "ORDER BY",
  "OUTER", "OVER", "PARTITION BY", "PRIMARY KEY", "QUALIFY", "RETURNING", "REVOKE", "RLIKE",
  "SELECT", "SIMILAR TO", "STRAIGHT_JOIN", "TABLESAMPLE", "THEN", "UNION", "USING", "VALUES",
    "WHEN",
  "WHERE", "WITH"]

/-- Words that may begin what follows a table, and so are no second name of it. -/
def joinWords : List String := [
  "ANTI", "ASOF", "FULL", "LEFT", "LOCK", "NATURAL", "RIGHT", "SEMI", "WINDOW"]

/-- The word in capitals; anything else has none. -/
def keyword? : Lexeme → Option String
  | word spelling => some spelling.toUpper
  | _ => none

/-- The name that a lexeme stands for. -/
def name? : Lexeme → Option String
  | word spelling => if reservedWords.contains spelling.toUpper then none else some spelling
  | quoted name => some name
  | _ => none

/-! ### Scanning -/

/-- Marks of several characters, longer ones before their beginnings. -/
def longMarks : List String := [
  "!~~*", "||/", "->>", "<=>", "<->", "~~~", "~~*", "!~~", "!~*", "#>>", "|/", "::", "->",
    "=>", "==",
  "!=", "<>", "<=", ">=", ":=", "||", "&&", "@>", "<@", "@@", "~~", "~*", "!~", "#>"]

/-- Characters that end a word. -/
def wordEnds : List Char := "()[]\x7b\x7d&^:,-.=><|~/\\;#%*+?@'\"".toList ++ [Char.ofNat 96]

/-- Whether a character stands inside a word. -/
def inWord (c : Char) : Bool := !Text.isBlank c && !wordEnds.contains c

/-- The text up to a closing quote and what follows it; a quote written twice stands for itself, and
where the escape is given, the character behind it is taken as it is. -/
def untilQuote (quote : Char) (escape : Option Char) : List Char → Option (List Char × List Char)
  | [] => none
  | [c] => if c = quote then some ([], []) else none
  | c :: next :: rest =>
    if some c = escape then (untilQuote quote escape rest).map fun (found, after) =>
      (next :: found, after)
    else if c = quote then
      if next = quote then
        (untilQuote quote escape rest).map fun (found, after) => (quote :: found, after)
      else some ([], next :: rest)
    else (untilQuote quote escape (next :: rest)).map fun (found, after) => (c :: found, after)

/-- The text in front of a given part and what follows that part. -/
def untilPart (part : List Char) : List Char → Option (List Char × List Char)
  | [] => if part.isEmpty then some ([], []) else none
  | c :: rest =>
    if part.isPrefixOf (c :: rest) then some ([], (c :: rest).drop part.length)
    else (untilPart part rest).map fun (found, after) => (c :: found, after)

/-- A number at the start of a text and what follows: digits with at most one
point, then an exponent. -/
def number? (text : List Char) : List Char × List Char :=
  let whole := text.takeWhile Char.isDigit
  let afterWhole := text.dropWhile Char.isDigit
  let (fraction, afterFraction) := match afterWhole with
    | '.' :: rest => ('.' :: rest.takeWhile Char.isDigit, rest.dropWhile Char.isDigit)
    | _ => ([], afterWhole)
  let exponent? : Option (List Char × List Char) := match afterFraction with
    | e :: sign :: digit :: rest =>
      if (e = 'e' || e = 'E') && (sign = '+' || sign = '-') && digit.isDigit then
        some (e :: sign :: digit :: rest.takeWhile Char.isDigit, rest.dropWhile Char.isDigit)
      else if (e = 'e' || e = 'E') && sign.isDigit then
        some (e :: sign :: (digit :: rest).takeWhile Char.isDigit,
          (digit :: rest).dropWhile Char.isDigit)
      else none
    | [e, digit] =>
      if (e = 'e' || e = 'E') && digit.isDigit then some ([e, digit], []) else none
    | _ => none
  let (exponent, rest) := exponent?.getD ([], afterFraction)
  (whole ++ fraction ++ exponent, rest)

/-- A dollar sign: it opens a text when a second one follows on the same run of characters, and
otherwise stands in front of a parameter. The lexeme and what follows. -/
def dollar? (afterDollar : List Char) : Option (Lexeme × List Char) :=
  let parameter := some (mark "$", afterDollar)
  match untilPart ['$'] afterDollar with
  | none => parameter
  | some (tag, rest) =>
    let runsOn :=
      !tag.isEmpty && (rest.isEmpty || tag.all Text.isDecimalDigit || tag.any Text.isBlank)
    if runsOn then parameter
    else (untilPart ('$' :: tag ++ ['$']) rest).map fun (content, after) =>
      (text (String.ofList content), after)

/-- The lexeme at the start of a text that does not start with a blank, and what follows. -/
def next? (first : Char) (rest : List Char) : Option (Lexeme × List Char) :=
  if first.isDigit then
    let (digits, after) := number? (first :: rest)
    some (number (String.ofList digits), after)
  else if first = '"' then
    (untilQuote '"' none rest).map fun (name, after) => (quoted (String.ofList name), after)
  else if first = '\'' then
    (untilQuote '\'' none rest).map fun (content, after) => (text (String.ofList content), after)
  else if first = '$' then dollar? rest
  else
    match longMarks.find? fun symbol => symbol.toList.isPrefixOf (first :: rest) with
    | some symbol => some (mark symbol, (first :: rest).drop symbol.length)
    | none =>
      if !inWord first then some (mark (String.ofList [first]), rest)
      else
        let spelling := first :: rest.takeWhile inWord
        let after := rest.dropWhile inWord
        match after with
        | '\'' :: content =>
          match (String.ofList spelling).toUpper with
          | "E" => (untilQuote '\'' (some '\\') content).map fun (inside, behind) =>
              (text (String.ofList inside), behind)
          | "B" | "X" | "N" => (untilQuote '\'' none content).map fun (inside, behind) =>
              (text (String.ofList inside), behind)
          | _ => some (word (String.ofList spelling), after)
        | _ => some (word (String.ofList spelling), after)

/-- The lexemes of a text of at most the given length. -/
def scanUpTo : Nat → List Char → Option (List Lexeme)
  | _, [] => some []
  | 0, _ => none
  | length + 1, c :: rest =>
    if Text.isBlank c then scanUpTo length rest
    else do
      let (lexeme, after) ← next? c rest
      return lexeme :: (← scanUpTo length after)

/-- Puts the words of a two-word keyword together. -/
def joinPairs : List Lexeme → List Lexeme
  | [] => []
  | [last] => [last]
  | first :: second :: rest =>
    match first, second with
    | word one, word two =>
      if wordPairs.contains (one.toUpper, two.toUpper) then word (one ++ " " ++ two) ::
        joinPairs rest
      else first :: joinPairs (second :: rest)
    | _, _ => first :: joinPairs (second :: rest)

/-- The lexemes of a text. -/
def scan (text : String) : Option (List Lexeme) :=
  let chars := text.toList
  (scanUpTo chars.length chars).map joinPairs

end Lexeme

end QueryDesk.Sql.Grammar
