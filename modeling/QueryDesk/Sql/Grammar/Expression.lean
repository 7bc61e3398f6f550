/-
**Expressions of a statement.**

* `Phrase` — what was read: a query, a query in parentheses, a change of data, or anything else,
  each with the name of its outermost construct.
* `Nested` — how the parts inside parentheses are read. Every recognizer here is given one, and the
  module of statements closes the circle, one level for each lexeme.
* `condition`, `expression` — an expression without and with a second name. Operators bind from `OR`
  (least) over `AND`, equality, comparison, ranges, bits, sums and products to signs.
-/

import QueryDesk.Sql.Grammar.Recognizer

namespace QueryDesk.Sql.Grammar

open Recognizer

/-- What a part of a statement was read as. -/
inductive Phrase where
  /-- A query, with the table its rows come from. -/
  | query (kind : String) (target : Option String)
  /-- A query in parentheses. -/
  | wrapped (inside : Phrase)
  /-- A change of data or of the schema that common table expressions may precede. -/
  | change (kind : String) (target : Option String)
  /-- Anything else. -/
  | other (kind : String)
deriving Repr

namespace Phrase

/-- The name of the outermost construct. -/
def kind : Phrase → String
  | query kind _ | change kind _ | other kind => kind
  | wrapped _ => "subquery"

/-- The table that the phrase is about. -/
def target : Phrase → Option String
  | query _ table | change _ table => table
  | wrapped _ | other _ => none

/-- Whether the phrase gives rows, so that clauses may follow it. -/
def isQuery : Phrase → Bool
  | query _ _ | wrapped _ => true
  | _ => false

/-- The phrase without the parentheses around it. -/
def unwrap : Phrase → Phrase
  | wrapped inside => unwrap inside
  | phrase => phrase

end Phrase

/-- How the parts of one level further in are read: expressions with or without a second name,
operands of comparisons, queries that may stand inside parentheses too, places rows come from with
the name of their table, and whole statements. -/
structure Nested where
  expression : Recognizer (Option Phrase)
  condition : Recognizer (Option Phrase)
  operand : Recognizer (Option Phrase)
  query : Bool → Recognizer (Option Phrase)
  source : Recognizer (Option String)
  statement : Recognizer (Option Phrase)

/-! ### Types -/

/-- Words that may follow the first word of a type. -/
def typeTails : List (List String) := [
  ["PRECISION"], ["VARYING"], ["WITH", "TIME", "ZONE"], ["WITHOUT", "TIME", "ZONE"],
  ["WITH", "LOCAL", "TIME", "ZONE"]]

/-- Words that name a type, so that a text behind them is a value of it. -/
def typeWords : List String := [
  "BIGINT", "BIT", "BOOL", "BOOLEAN", "BYTEA", "CHAR", "DATE", "DECIMAL", "DOUBLE", "FLOAT", "INET",
  "INT", "INTEGER", "JSON", "JSONB", "MONEY", "NUMERIC", "REAL", "SMALLINT", "TEXT", "TIME",
  "TIMESTAMP", "TIMESTAMPTZ", "TIMETZ", "UUID", "VARCHAR", "XML"]

/-- Numbers in parentheses behind a type, and brackets for lists of it. -/
def typeSize : Recognizer Unit := do
  if ← acceptMark "(" then balanced
  repeated do
    if ← acceptMark "[" then
      if let some (.number _) ← peek then skip
      expectMark "]"
      return true
    else return false

/-- A type, which has to come next. -/
def typeName : Recognizer Unit := do
  let _ ← required acceptName
  repeated do
    if ← acceptMark "." then
      let _ ← required acceptName
      return true
    else return false
  for tail in typeTails do
    if ← acceptWords tail then break
  typeSize
  for tail in typeTails do
    if ← acceptWords tail then break
  typeSize

/-! ### Operators of two operands -/

/-- The kind of the operator that comes next, which is passed over. -/
def acceptOperator (operators : List (Lexeme × String)) : Recognizer (Option String) := do
  let capitals : Lexeme → Lexeme
    | .word spelling => .word spelling.toUpper
    | other => other
  match (← peek).bind fun next => operators.lookup (capitals next) with
  | some kind => skip; return some kind
  | none => return none

/-- Operands with operators of one strength between them, from left to right. -/
def chain (operators : List (Lexeme × String)) (operand : Recognizer (Option Phrase)) :
    Recognizer (Option Phrase) := do
  let first ← operand
  let rec continued : Nat → Option Phrase → Recognizer (Option Phrase)
    | 0, left => return left
    | times + 1, left => do
      match ← acceptOperator operators with
      | none => return left
      | some kind =>
        if left.isNone then failure
        let _ ← required operand
        continued times (some (.other kind))
  continued ((← get).length + 1) first

/-! ### Calls -/

/-- Functions whose calls are named after them. -/
def knownFunctions : List String := [
  "ABS", "AVG", "CEIL", "COALESCE", "CONCAT", "COUNT", "EXP", "FLOOR", "GREATEST", "INITCAP",
    "LEAST",
  "LEFT", "LENGTH", "LN", "LOWER", "MAX", "MIN", "NULLIF", "RIGHT", "ROUND", "SQRT", "SUBSTRING",
  "SUM", "TRIM", "UPPER"]

/-- One value of an order: an expression, its direction, and where nulls stand. -/
def orderItem (inner : Nested) : Recognizer (Option Phrase) := do
  let some item ← inner.condition | return none
  let _ ← acceptOneOf ["ASC", "DESC"]
  if ← acceptWord "USING" then skip
  if ← acceptWord "NULLS" then
    let _ ← acceptOneOf ["FIRST", "LAST"]
  return some item

/-- A nonempty list of values to order by, behind its keyword. -/
def orderItems (inner : Nested) : Recognizer Unit := do
  if (← commaList (orderItem inner)).isEmpty then failure

/-- An argument of a call, with what some functions take behind it. -/
def argument (inner : Nested) : Recognizer (Option Phrase) := do
  let _ ← acceptOneOf ["DISTINCT"]
  let value ← match ← inner.query false with
    | some query => pure (some query)
    | none => inner.expression
  repeated do
    if ← acceptWord "AS" then typeName; return true
    else if ← acceptWord "FROM" <||> acceptWord "FOR" <||> acceptMark "=>" then
      let _ ← required inner.condition
      return true
    else if ← acceptWord "ORDER BY" then orderItems inner; return true
    else return false
  return value

/-- What may follow a call: groups, filters and windows. Tells whether there is a window. -/
def callTail (inner : Nested) : Recognizer Bool := do
  if ← acceptWords ["WITHIN", "GROUP"] then
    expectMark "("
    expectWords ["ORDER BY"]
    orderItems inner
    expectMark ")"
  if ← acceptWord "FILTER" then
    expectMark "("
    expectWords ["WHERE"]
    let _ ← required inner.condition
    expectMark ")"
  let _ ← acceptWords ["IGNORE", "NULLS"]
  let _ ← acceptWords ["RESPECT", "NULLS"]
  if ← acceptWord "OVER" then
    if ← acceptMark "(" then balanced else let _ ← required acceptName
    return true
  else return false

/-- The arguments of a call and what follows them, behind the opening parenthesis. -/
def call (inner : Nested) (function : String) : Recognizer Phrase := do
  let function := function.toUpper
  if function = "TRIM" then
    let _ ← acceptOneOf ["BOTH", "LEADING", "TRAILING"]
  let kind ← if ["CAST", "TRY_CAST"].contains function then do
      let _ ← required inner.condition
      expectWords ["AS"]
      typeName
      pure (if function = "CAST" then "cast" else "trycast")
    else do
      let _ ← commaList (argument inner)
      pure (if knownFunctions.contains function then function.toLower
        else if function = "EXISTS" || function = "ANY" || function = "ALL" then function.toLower
        else if function = "SOME" then "any"
        else "anonymous")
  expectMark ")"
  return .other (if ← callTail inner then "window" else kind)

/-! ### Operands -/

/-- What stands in parentheses, behind the opening one. -/
def parenthesized (inner : Nested) : Recognizer Phrase := do
  match ← inner.query false with
  | some (.query "values" _) => expectMark ")"; return .other "paren"
  | some query => expectMark ")"; return .wrapped query
  | none =>
    let items ← commaList inner.expression
    match items with
    | [.wrapped inside] => expectMark ")"; return .wrapped (.wrapped inside)
    | [_] => expectMark ")"; return .other "paren"
    | _ => expectMark ")"; return .other "tuple"

/-- The branches of a `CASE`, behind that word. -/
def caseBranches (inner : Nested) : Recognizer Phrase := do
  if (← peekWord) ≠ some "WHEN" then
    let _ ← required inner.condition
  repeated do
    if ← acceptWord "WHEN" then
      let _ ← required inner.condition
      expectWords ["THEN"]
      let _ ← required inner.condition
      return true
    else return false
  if ← acceptWord "ELSE" then
    let _ ← required inner.condition
  expectWords ["END"]
  return .other "case"

/-- Units of time. -/
def timeUnits : List String := [
  "SECOND", "SECONDS", "MINUTE", "MINUTES", "HOUR", "HOURS", "DAY", "DAYS", "WEEK", "WEEKS",
    "MONTH",
  "MONTHS", "QUARTER", "QUARTERS", "YEAR", "YEARS"]

/-- Words that are calls without parentheses. -/
def bareCalls : List (String × String) := [
  ("CURRENT_DATE", "currentdate"), ("CURRENT_TIME", "currenttime"),
  ("CURRENT_TIMESTAMP", "currenttimestamp"), ("CURRENT_USER", "currentuser")]

/-- A name, a call, or another operand that starts with a word or a quoted name. -/
def namedOperand (inner : Nested) (first : Lexeme) : Recognizer (Option Phrase) := do
  let second ← peekSecond
  let opensCall := second = some (.mark "(")
  match first.keyword? with
  | some "NULL" => skip; return some (.other "null")
  | some "TRUE" | some "FALSE" => skip; return some (.other "boolean")
  | some "CASE" =>
    skip
    return some (← caseBranches inner)
  | some "INTERVAL" =>
    match second with
    | some (.text _) | some (.number _) =>
      skip; skip
      if (← acceptOneOf timeUnits).isSome then
        if ← acceptWord "TO" then
          let _ ← acceptOneOf timeUnits
      return some (.other "interval")
    | _ => skip; return some (.other "column")
  | some "VALUES" =>
    if opensCall then return none
    else skip; return some (.other "column")
  | some "ARRAY" =>
    skip
    if ← acceptMark "[" then
      let _ ← commaList inner.expression
      expectMark "]"
      return some (.other "array")
    else if ← acceptMark "(" then return some (← call inner "ARRAY")
    else return some (.other "column")
  | keyword =>
    let callable := first.name?.isSome ||
      ["LIKE", "ILIKE", "INSERT", "GLOB", "RLIKE"].any (some · = keyword)
    if opensCall && callable then
      skip; skip
      return some (← call inner ((keyword.orElse fun _ => first.name?).getD ""))
    else
      match first.name?, keyword.bind fun spelling => bareCalls.lookup spelling with
      | some _, some kind => skip; return some (.other kind)
      | some _, none =>
        skip
        match second with
        | some (.text _) =>
          if typeWords.any (some · = keyword) then skip; return some (.other "cast")
          else return some (.other "column")
        | _ => return some (.other "column")
      | none, _ => return none

/-- The smallest operands. -/
def primary (inner : Nested) : Recognizer (Option Phrase) := do
  match ← peek with
  | none => return none
  | some (.text _) =>
    repeated do
      match ← peek with
      | some (.text _) => skip; return true
      | _ => return false
    return some (.other "literal")
  | some (.number _) => skip; return some (.other "literal")
  | some (.mark "*") => skip; return some (.other "star")
  | some (.mark "(") => skip; return some (← parenthesized inner)
  | some (.mark "[") =>
    skip
    let _ ← commaList inner.expression
    expectMark "]"
    return some (.other "array")
  | some (.mark ".") =>
    match ← peekSecond with
    | some (.number _) => skip; skip; return some (.other "literal")
    | _ => return none
  | some (.mark "$") | some (.mark "@") =>
    skip
    match ← peek with
    | some (.number _) | some (.word _) | some (.quoted _) | some (.text _) => skip
    | _ => failure
    return some (.other "parameter")
  | some (.mark ":") =>
    match ← peekSecond with
    | some (.number _) | some (.word _) => skip; skip; return some (.other "placeholder")
    | _ => return none
  | some (.mark "%") =>
    skip
    if ← acceptMark "(" then
      let _ ← acceptName
      expectMark ")"
    let _ ← acceptWord "S"
    return some (.other "placeholder")
  | some (.mark _) => return none
  | some first => namedOperand inner first

/-- An operand with the fields, casts and places asked of it. -/
def columnOperand (inner : Nested) : Recognizer (Option Phrase) := do
  let some first ← primary inner | return none
  let rec continued : Nat → Phrase → Recognizer (Option Phrase)
    | 0, phrase => return some phrase
    | times + 1, phrase => do
      if ← acceptMark "." then
        match ← peek with
        | some (.mark "*") | some (.quoted _) | some (.word _) =>
          let field ← peek
          skip
          if ← acceptMark "(" then
            continued times (← call inner ((field.bind Lexeme.name?).getD ""))
          else continued times (.other (if phrase.kind = "column" then "column" else "dot"))
        | _ => failure
      else if ← acceptMark "::" then
        typeName
        continued times (.other "cast")
      else if ← acceptMark "[" then
        let _ ← commaList inner.expression
        if ← acceptMark ":" then
          let _ ← inner.condition
        expectMark "]"
        continued times (.other "bracket")
      else
        match ← acceptOperator [(.mark "->", "jsonextract"), (.mark "->>", "jsonextractscalar"),
            (.mark "#>", "jsonbextract"), (.mark "#>>", "jsonbextractscalar")] with
        | some kind =>
          let _ ← required (primary inner)
          continued times (.other kind)
        | none => return some phrase
  continued ((← get).length + 1) first

/-- An operand behind its signs, or with its time zone. -/
def signed (inner : Nested) : Recognizer (Option Phrase) := do
  match ← acceptOperator [(.mark "-", "neg"), (.mark "+", "paren"), (.mark "~", "bitwisenot")] with
  | some kind =>
    let _ ← required inner.operand
    return some (.other kind)
  | none =>
    if ← acceptWord "NOT" then
      let _ ← required inner.operand
      return some (.other "not")
    else
      let some value ← columnOperand inner | return none
      if ← acceptWords ["AT", "TIME", "ZONE"] then
        let _ ← required (columnOperand inner)
        return some (.other "attimezone")
      else return some value

/-- Sums, products and operations on bits and texts. -/
def bitwise (inner : Nested) : Recognizer (Option Phrase) :=
  let power := chain [(.mark "^", "pow")] (signed inner)
  let product := chain [(.mark "*", "mul"), (.mark "/", "div")] power
  let sum := chain [(.mark "+", "add"), (.mark "-", "sub"), (.mark "%", "mod"),
    (.word "COLLATE", "collate")] product
  chain [(.mark "||", "dpipe"), (.mark "&", "bitwiseand"), (.mark "|", "bitwiseor"),
    (.mark "#", "bitwisexor")] sum

/-! ### Ranges and conditions -/

/-- Range operators with one operand behind them. -/
def rangeOperators : List (Lexeme × String) := [
  (.word "LIKE", "like"), (.word "ILIKE", "ilike"), (.word "SIMILAR TO", "similarto"),
  (.word "RLIKE", "regexplike"), (.word "GLOB", "glob"), (.word "OVERLAPS", "overlaps"),
  (.mark "~", "regexplike"), (.mark "~*", "regexpilike"), (.mark "!~", "not"), (.mark "!~*", "not"),
  (.mark "~~", "like"), (.mark "~~*", "ilike"), (.mark "!~~", "not"), (.mark "!~~*", "not"),
  (.mark "@>", "arraycontainsall"), (.mark "<@", "arraycontainsall"), (.mark "&&", "arrayoverlaps"),
  (.mark "@@", "matchagainst")]

/-- `IS` and what follows it; nothing is used up when nothing fitting follows. -/
def isTest (inner : Nested) : Recognizer (Option Phrase) := do
  let start ← get
  if ← acceptWord "IS" then
    let negated ← acceptWord "NOT"
    if ← acceptWords ["DISTINCT", "FROM"] then
      let _ ← required (bitwise inner)
      return some (.other (if negated then "nullsafeeq" else "nullsafeneq"))
    else
      match ← bitwise inner with
      | some _ => return some (.other (if negated then "not" else "is"))
      | none => set start; return none
  else return none

/-- A test of an operand: between two others, in a list, like a pattern, null or not. -/
def range (inner : Nested) : Recognizer (Option Phrase) := do
  let some value ← bitwise inner | return none
  let negated ← acceptWord "NOT"
  let tested ← do
    if ← acceptWord "BETWEEN" then
      let _ ← required (bitwise inner)
      let _ ← acceptWord "AND"
      let _ ← required (bitwise inner)
      pure (some (Phrase.other "between"))
    else if ← acceptWord "IN" then
      if ← acceptMark "(" then
        match ← inner.query false with
        | some _ => pure ()
        | none => let _ ← commaList inner.expression
        expectMark ")"
      else let _ ← required (columnOperand inner)
      pure (some (Phrase.other "in"))
    else
      match ← acceptOperator rangeOperators with
      | some kind =>
        let _ ← required (bitwise inner)
        if ← acceptWord "ESCAPE" then
          let _ ← required (bitwise inner)
          pure (some (Phrase.other "escape"))
        else pure (some (Phrase.other kind))
      | none =>
        if !negated && (← peekWord) = some "IS" then isTest inner
        else if ← acceptWord "ISNULL" then pure (some (Phrase.other "is"))
        else if ← pure negated <&&> acceptWord "NULL" then pure (some (Phrase.other "is"))
        else pure none
  let result := if negated then .other "not" else tested.getD value
  let result := if ← acceptWord "NOTNULL" then .other "not" else result
  return (← isTest inner).getD result

/-- Comparisons. -/
def equality (inner : Nested) : Recognizer (Option Phrase) :=
  let comparison := chain [(.mark "<", "lt"), (.mark "<=", "lte"), (.mark ">", "gt"),
    (.mark ">=", "gte")] (range inner)
  chain [(.mark "=", "eq"), (.mark "==", "eq"), (.mark "<>", "neq"), (.mark "!=", "neq"),
    (.mark "<=>", "nullsafeeq")] comparison

/-- An expression without a second name. -/
def condition (inner : Nested) : Recognizer (Option Phrase) :=
  let conjunction := chain [(.word "AND", "and")] (equality inner)
  let disjunction := chain [(.word "OR", "or")] conjunction
  chain [(.mark ":=", "propertyeq")] disjunction

/-- Whether a `LIMIT` or an `OFFSET` with its number comes next, and not a name spelt like that. -/
def limitAhead (inner : Nested) : Recognizer Bool :=
  ahead do
    match ← acceptOneOf ["LIMIT", "OFFSET"] with
    | none => failure
    | some _ => let _ ← required (bitwise inner)

/-- An expression with or without a second name. Behind `AS`, keywords are names too. -/
def expression (inner : Nested) : Recognizer (Option Phrase) := do
  let some value ← condition inner | return none
  if ← limitAhead inner then return some value
  else if ← acceptWord "AS" then
    if ← acceptMark "(" then
      let _ ← commaList acceptName
      expectMark ")"
      return some (.other "aliases")
    else
      match ← peek with
      | none | some (.mark _) => return some value
      | some next =>
        if next.keyword? = some "SELECT" then return some value
        else skip; return some (.other "alias")
  else
    match ← acceptName with
    | some _ => return some (.other "alias")
    | none => return some value

end QueryDesk.Sql.Grammar
