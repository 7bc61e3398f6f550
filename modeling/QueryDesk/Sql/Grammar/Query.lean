/-
**Queries.**

* `source` — a place rows come from: a table, a call, a query or rows written
  out. Only a table has a name.
* `clauses` — what may follow a query or a table, in any order, each at most once.
* `query` — a query with its set operations, which bind from left to right.
-/

import QueryDesk.Sql.Grammar.Expression

namespace QueryDesk.Sql.Grammar

open Recognizer

/-! ### Places rows come from -/

/-- A second name, behind `AS` any word, otherwise only a word that begins no clause. -/
def secondName (inner : Nested) (clauseWords : List String) : Recognizer Unit := do
  if ← limitAhead inner then return ()
  if ← acceptWord "AS" then
    match ← peek with
    | none | some (.mark _) => return ()
    | some next => if next.keyword? ≠ some "SELECT" then skip
  else
    let word ← peekWord
    if !(clauseWords.any (some · = word)) then
      let _ ← acceptName

/-- A second name with names for the columns, which may have types. -/
def otherName (inner : Nested) (clauseWords : List String) : Recognizer Unit := do
  secondName inner clauseWords
  if ← acceptMark "(" then
    let names ← commaList do
      match ← acceptName with
      | none => return none
      | some name =>
        let _ ← attempt typeName
        return some name
    if names.isEmpty then failure
    expectMark ")"

/-- One row written out, or the value of a row with a single one. -/
def writtenRow (inner : Nested) : Recognizer (Option Phrase) := do
  if ← acceptMark "(" then
    let _ ← commaList inner.expression
    expectMark ")"
    return some (.other "tuple")
  else inner.expression

/-- Rows written out, behind the word `VALUES`. -/
def writtenRows (inner : Nested) : Recognizer Phrase := do
  if (← commaList (writtenRow inner)).isEmpty then failure
  return .query "values" none

/-- A part of the name of a table: its text, or `none` for a call, which has to be allowed. -/
def tablePart (inner : Nested) (calls : Bool) : Recognizer (Option (Option String)) := do
  let second ← peekSecond
  match ← peek with
  | some (.text content) => skip; return some (some content)
  | some (.mark "$") =>
    skip
    match ← peek with
    | some (.number spelling) | some (.word spelling) => skip; return some (some spelling)
    | some (.quoted name) => skip; return some (some name)
    | _ => failure
  | some first =>
    match first.name? with
    | none => return none
    | some name =>
      skip
      if calls && second = some (.mark "(") then
        skip
        let _ ← call inner name
        return some none
      else return some (some name)
  | none => return none

/-- The name of a table, its parts with points between them; the last part counts. -/
def tableName (inner : Nested) (calls : Bool) : Recognizer (Option String) := do
  let first ← required (tablePart inner calls)
  let rec continued : Nat → Option String → Recognizer (Option String)
    | 0, last => return last
    | times + 1, last => do
      if ← acceptMark "." then
        let next ← required (tablePart inner calls)
        continued times next
      else return last
  continued ((← get).length + 1) first

/-- What follows a join's table: the condition, or the columns that are equal. -/
def joinCondition (inner : Nested) : Recognizer Unit := do
  if ← acceptWord "ON" then
    let _ ← required inner.condition
  else if ← acceptWord "USING" then wrappedNames

/-- A table with its second name. The words that begin the clauses behind it are given. -/
def table (inner : Nested) (clauseWords : List String) : Recognizer (Option String) := do
  if (← peekSecond).isSome then
    let _ ← acceptWord "ONLY"
  let name ← tableName inner true
  let _ ← acceptMark "*"
  otherName inner clauseWords
  if ← acceptWord "TABLESAMPLE" then
    let _ ← acceptName
    expectMark "("
    balanced
  let _ ← acceptWords ["WITH", "ORDINALITY"]
  return name

/-- A place rows come from without parentheses around it, if it is no table. -/
def derivedRows (inner : Nested) (clauseWords : List String) : Recognizer (Option Phrase) := do
  if ← acceptWord "LATERAL" then
    if ← acceptMark "(" then
      let _ ← required (inner.query true)
      expectMark ")"
    else let _ ← tableName inner true
    let _ ← acceptWords ["WITH", "ORDINALITY"]
    otherName inner clauseWords
    return some (.other "lateral")
  else if (← peekWord) = some "UNNEST" && (← peekSecond) = some (.mark "(") then
    skip; skip
    let _ ← commaList inner.expression
    expectMark ")"
    let _ ← acceptWords ["WITH", "ORDINALITY"]
    otherName inner clauseWords
    return some (.other "unnest")
  else if ← acceptWord "VALUES" then
    let rows ← writtenRows inner
    otherName inner clauseWords
    return some rows
  else if (← peekWord) = some "SELECT" || (← peekWord) = some "WITH" then inner.query false
  else return none

/-! ### Joins and clauses -/

/-- Tables joined to what stands in front. -/
def joins (inner : Nested) (joined : Recognizer (Option String)) : Recognizer Unit := do
  repeated do
    if ← acceptMark "," then
      return (← attempt joined).isSome
    else
      let start ← get
      let _ ← acceptOneOf ["NATURAL", "ASOF", "POSITIONAL"]
      let _ ← acceptOneOf ["LEFT", "RIGHT", "FULL"]
      let kind ← acceptOneOf ["INNER", "OUTER", "CROSS", "SEMI", "ANTI", "STRAIGHT_JOIN"]
      let straight := kind == some "STRAIGHT_JOIN"
      let applies := kind == some "OUTER" || kind == some "CROSS"
      if ← pure straight <||> acceptWord "JOIN" <||> (pure applies <&&> acceptWord "APPLY") then
        let _ ← joined
        joinCondition inner
        return true
      else
        set start
        if (← peekWord) = some "ON" then joinCondition inner; return true
        else return false

/-- A named window. -/
def namedWindow : Recognizer (Option Unit) := do
  let some _ ← acceptName | return none
  expectWords ["AS"]
  expectMark "("
  balanced
  return some ()

/-- Whose rows a query locks, behind the word `FOR`. -/
def lock (inner : Nested) : Recognizer Unit := do
  let found ← acceptWord "UPDATE" <||> acceptWord "SHARE" <||> acceptWords ["KEY", "SHARE"] <||>
    acceptWords ["NO", "KEY", "UPDATE"]
  if !found then failure
  if ← acceptWord "OF" then
    let _ ← commaList ((tableName inner false).map some)
  if ← acceptWord "WAIT" then
    let _ ← required (primary inner)
  else
    let _ ← acceptWord "NOWAIT" <||> acceptWords ["SKIP", "LOCKED"]

/-- How many rows are fetched, behind the word `FETCH`. -/
def fetchCount (inner : Nested) : Recognizer Unit := do
  let _ ← acceptOneOf ["FIRST", "NEXT"]
  if !((← peekWord) = some "ROW" || (← peekWord) = some "ROWS") then
    let _ ← primary inner
  let _ ← acceptWord "PERCENT"
  let _ ← acceptOneOf ["ROW", "ROWS"]
  if !(← acceptWord "ONLY") then
    let _ ← acceptWords ["WITH", "TIES"]

/-- The clause that comes next: the words that no other clause may begin with then. -/
def clause? (inner : Nested) : Recognizer (Option (List String)) := do
  match ← acceptOneOf ["WHERE", "GROUP BY", "HAVING", "QUALIFY", "WINDOW", "ORDER BY", "LIMIT",
    "OFFSET",
      "FETCH", "FOR"] with
  | none => return none
  | some word =>
    match word with
    | "GROUP BY" =>
      let _ ← acceptOneOf ["ALL", "DISTINCT"]
      let _ ← commaList do
        if (← acceptOneOf ["GROUPING SETS", "ROLLUP", "CUBE"]).isSome then
          expectMark "("
          balanced
          return some (Phrase.other "groupingsets")
        else inner.condition
    | "WINDOW" => let _ ← commaList namedWindow
    | "ORDER BY" => orderItems inner
    | "LIMIT" =>
      let _ ← required (bitwise inner)
      if ← acceptMark "," then
        let _ ← required (bitwise inner)
        return some ["LIMIT", "FETCH", "OFFSET"]
    | "OFFSET" =>
      let _ ← required (bitwise inner)
      let _ ← acceptOneOf ["ROW", "ROWS"]
    | "FETCH" => fetchCount inner
    | "FOR" => lock inner; return some []
    | _ => let _ ← required inner.condition
    return some (if word = "LIMIT" || word = "FETCH" then ["LIMIT", "FETCH"] else [word])

/-- The clauses behind a query or a table, each at most once. -/
def clausesBut (inner : Nested) : Nat → List String → Recognizer Unit
  | 0, _ => return ()
  | times + 1, seen => do
    if (← peekWord).any seen.contains then failure
    match ← clause? inner with
    | none => return ()
    | some words => clausesBut inner times (words ++ seen)

/-- The joins and clauses behind a query or a table. -/
def clauses (inner : Nested) (joined : Recognizer (Option String)) : Recognizer Unit := do
  joins inner joined
  clausesBut inner ((← get).length + 1) []

/-! ### Queries -/

/-- What stands in parentheses where rows are expected, behind the opening one. -/
def wrappedRows (inner : Nested) : Recognizer Phrase := do
  if ← acceptWord "VALUES" then
    let rows ← writtenRows inner
    otherName inner []
    expectMark ")"
    return rows
  else
    match ← inner.query true with
    | some found =>
      clauses inner inner.source
      expectMark ")"
      return .wrapped found
    | none =>
      let name ← inner.source
      clauses inner inner.source
      expectMark ")"
      return .wrapped (.query "table" name)

/-- A place rows come from, with the name of its table. -/
def sourceBefore (inner : Nested) (clauseWords : List String) : Recognizer (Option String) := do
  match ← derivedRows inner clauseWords with
  | some _ => return none
  | none =>
    if ← acceptMark "(" then
      let _ ← wrappedRows inner
      otherName inner clauseWords
      return none
    else table inner clauseWords

/-- A place rows come from, with the name of its table. -/
def source (inner : Nested) : Recognizer (Option String) := sourceBefore inner Lexeme.joinWords

/-- One named query of a `WITH`. -/
def commonTable (inner : Nested) : Recognizer (Option Unit) := do
  let _ ← acceptWord "WITH"
  let _ ← required acceptName
  if ← acceptMark "(" then
    let _ ← commaList acceptName
    expectMark ")"
  expectWords ["AS"]
  let _ ← acceptWord "NOT"
  let _ ← acceptWord "MATERIALIZED"
  expectMark "("
  let _ ← required inner.statement
  expectMark ")"
  return some ()

/-- A statement behind named queries, behind the word `WITH`. -/
def withCommonTables (inner : Nested) : Recognizer Phrase := do
  let _ ← acceptWord "RECURSIVE"
  let _ ← commaList (commonTable inner)
  match (← required inner.statement).unwrap with
  | .query "values" _ | .other _ => failure
  | phrase => return phrase

/-- The table that the rows of a selection come from, if it says so. -/
def fromClause (inner : Nested) : Recognizer (Option (Option String)) := do
  if ← acceptWord "FROM" then return some (← source inner) else return none

/-- A selection, behind the word `SELECT`. -/
def selection (inner : Nested) (early : Option (Option String)) : Recognizer Phrase := do
  if (← peekSecond) ≠ some (.mark ".") then
    let all ← acceptWord "ALL"
    if ← acceptWord "DISTINCT" then
      if all then failure
      if ← acceptWord "ON" then
        let _ ← writtenRow inner
  let _ ← commaList (expression inner)
  if ← acceptWord "INTO" then
    let _ ← acceptOneOf ["TEMP", "TEMPORARY", "UNLOGGED"]
    let _ ← acceptWord "TABLE"
    let _ ← tableName inner false
  let target ← match early with
    | some target => pure (some target)
    | none => fromClause inner
  clauses inner (source inner)
  return .query "select" target.join

/-- A query without its set operations; in parentheses too if asked for. -/
def queryTerm (inner : Nested) (inParentheses : Bool) : Recognizer (Option Phrase) := do
  if ← acceptWord "WITH" then return some (← withCommonTables inner)
  let early ← fromClause inner
  if early.isSome then joins inner (source inner)
  if ← acceptWord "SELECT" then return some (← selection inner early)
  match early with
  | some target =>
    clauses inner (source inner)
    return some (.query "select" target)
  | none =>
    if ← pure inParentheses <&&> acceptMark "(" then
      let found ← required (inner.query true)
      clauses inner inner.source
      expectMark ")"
      otherName inner Lexeme.joinWords
      return some (.wrapped found)
    else if (← peekWord) = some "VALUES" && (← peekSecond) = some (.mark "(") then
      skip
      let rows ← writtenRows inner
      otherName inner Lexeme.joinWords
      return some rows
    else return none

/-- The set operations behind a query. -/
def setOperations (inner : Nested) : Nat → Phrase → Recognizer Phrase
  | 0, left => return left
  | times + 1, left => do
    match ← acceptOneOf ["UNION", "EXCEPT", "INTERSECT"] with
    | none => return left
    | some operation =>
      let _ ← acceptOneOf ["ALL", "DISTINCT"]
      let _ ← acceptWords ["BY", "NAME"]
      let _ ← required (queryTerm inner true)
      setOperations inner times (.query operation.toLower none)

/-- A query with its set operations; in parentheses too if asked for. -/
def query (inner : Nested) (inParentheses : Bool) : Recognizer (Option Phrase) := do
  let some first ← queryTerm inner inParentheses | return none
  return some (← setOperations inner ((← get).length + 1) first)

end QueryDesk.Sql.Grammar
