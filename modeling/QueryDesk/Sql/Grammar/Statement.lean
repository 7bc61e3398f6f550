/-
**The shape of a statement.**

* `StatementInfo` — the sort of a statement and the table it is about.
* `StatementInfo.of` — what is known of a text: nothing if it is no statement. Of several statements
  with semicolons between them the first counts, but all of them have to be statements.

A statement of the schema that goes on in a way the grammar does not know is a plain `command`.
-/

import QueryDesk.Sql.Grammar.Query
import QueryDesk.Text.CaseMap

namespace QueryDesk.Sql.Grammar

open Recognizer

/-! ### Changes of data -/

/-- What a change gives back. -/
def returning (inner : Nested) : Recognizer Unit := do
  if ← acceptWord "RETURNING" then
    let _ ← commaList (expression inner)

/-- What happens to rows that are there already, behind `ON CONFLICT`. -/
def onConflict (inner : Nested) : Recognizer Unit := do
  if ← acceptWords ["ON", "CONFLICT"] then
    if ← acceptMark "(" then balanced
    if ← acceptWords ["ON", "CONSTRAINT"] then
      let _ ← required acceptName
    if ← acceptWord "WHERE" then
      let _ ← required inner.condition
    expectWords ["DO"]
    if !(← acceptWord "NOTHING") then
      expectWords ["UPDATE"]
      if ← acceptWord "SET" then
        let _ ← commaList (equality inner)
      if ← acceptWord "WHERE" then
        let _ ← required inner.condition

/-- New rows, behind the word `INSERT`. -/
def insertion (inner : Nested) : Recognizer Phrase := do
  let _ ← acceptWord "OVERWRITE"
  let _ ← acceptWord "INTO"
  let _ ← acceptWord "TABLE"
  let target ← tableName inner false
  if (← peek) = some (.mark "(") then
    let opensQuery := ((← peekSecond).bind Lexeme.keyword?).any ["SELECT", "WITH"].contains ||
      (← peekSecond) = some (.mark "(")
    if !opensQuery then skip; balanced
  if (← peekWord) = some "AS" then otherName inner []
  returning inner
  if !(← acceptWords ["DEFAULT", "VALUES"]) then
    if ← acceptWord "VALUES" then
      let _ ← writtenRows inner
    else
      let _ ← query inner true
  onConflict inner
  returning inner
  return .change "insert" target

/-- Clauses of an update, in any order. -/
def updateClauses (inner : Nested) : Recognizer Unit :=
  repeated do
    match ← acceptOneOf ["SET", "RETURNING", "FROM", "WHERE", "ORDER BY", "LIMIT"] with
    | none => return false
    | some word =>
      match word with
      | "SET" => let _ ← commaList (equality inner)
      | "RETURNING" => let _ ← commaList (expression inner)
      | "FROM" =>
        let _ ← source inner
        joins inner (source inner)
      | "ORDER BY" => orderItems inner
      | "LIMIT" => let _ ← required (bitwise inner)
      | _ => let _ ← required inner.condition
      return true

/-- Changed rows, behind the word `UPDATE`. -/
def change (inner : Nested) : Recognizer Phrase := do
  let target ← sourceBefore inner ("SET" :: Lexeme.joinWords)
  joins inner (source inner)
  updateClauses inner
  return .change "update" target

/-- Rows taken away, behind the word `DELETE`. -/
def deletion (inner : Nested) : Recognizer Phrase := do
  if (← peekWord) ≠ some "FROM" then
    let _ ← commaList ((source inner).map some)
  returning inner
  let target ← do
    if ← acceptWord "FROM" then
      let target ← source inner
      joins inner (source inner)
      pure target
    else pure none
  if ← acceptWord "USING" then
    let _ ← commaList do
      let _ ← source inner
      joins inner (source inner)
      return some ()
  if ← acceptWord "WHERE" then
    let _ ← required inner.condition
  returning inner
  if ← acceptWord "ORDER BY" then orderItems inner
  if ← acceptWord "LIMIT" then
    let _ ← required (bitwise inner)
  return .change "delete" target

/-- One case of a merge. -/
def mergeCase (inner : Nested) : Recognizer Bool := do
  if ← acceptWord "WHEN" then
    let _ ← acceptWord "NOT"
    expectWords ["MATCHED"]
    if ← acceptWord "BY" then
      let _ ← acceptOneOf ["SOURCE", "TARGET"]
    if ← acceptWord "AND" then
      let _ ← required inner.condition
    expectWords ["THEN"]
    if ← acceptWord "INSERT" then
      if ← acceptMark "(" then balanced
      if ← acceptWord "VALUES" then
        let _ ← writtenRow inner
    else if ← acceptWord "UPDATE" then
      if ← acceptWord "SET" then
        let _ ← commaList (equality inner)
    else if ← acceptWord "DELETE" then pure ()
    else expectWords ["DO", "NOTHING"]
    return true
  else return false

/-- A merge of rows, behind the word `MERGE`. -/
def merge (inner : Nested) : Recognizer Phrase := do
  let _ ← acceptWord "INTO"
  let _ ← sourceBefore inner ("USING" :: Lexeme.joinWords)
  expectWords ["USING"]
  let _ ← source inner
  expectWords ["ON"]
  let _ ← required inner.condition
  repeated (mergeCase inner)
  returning inner
  return .change "merge" none

/-! ### Changes of the schema and commands -/

/-- A statement that is taken as it is up to its end. -/
def command : Recognizer Phrase := do
  set ([] : List Lexeme)
  return .other "command"

/-- A phrase if nothing follows it; otherwise the whole statement is a command. -/
def orCommand (phrase : Phrase) : Recognizer Phrase := do
  match ← peek with
  | none | some (.mark ")") => return phrase
  | some _ => command

/-- What a statement of the schema may be about. -/
def schemaNouns : List String := [
  "COLUMN", "CONSTRAINT", "DATABASE", "FUNCTION", "INDEX", "PROCEDURE", "SCHEMA", "SEQUENCE",
    "TABLE",
  "TRIGGER", "VIEW"]

/-- A definition, behind the word `CREATE`. -/
def creation (inner : Nested) : Recognizer Phrase := do
  let _ ← acceptWords ["OR", "REPLACE"]
  repeated do
    return (← acceptOneOf ["TEMP", "TEMPORARY", "UNLOGGED", "UNIQUE", "MATERIALIZED",
      "RECURSIVE"]).isSome
  match ← acceptOneOf schemaNouns with
  | none => command
  | some noun =>
    let _ ← acceptWord "CONCURRENTLY"
    let _ ← acceptWords ["IF", "NOT", "EXISTS"]
    if noun = "INDEX" && (← peekWord) = some "ON" then pure ()
    else if noun = "FUNCTION" || noun = "PROCEDURE" then
      repeated do
        let _ ← required acceptName
        acceptMark "."
    else
      if (← tableName inner false).isNone then failure
    if ← acceptMark "(" then balanced
    if noun = "INDEX" then
      if ← acceptWord "ON" then
        let _ ← tableName inner false
        if ← acceptWord "USING" then
          let _ ← required acceptName
        if ← acceptMark "(" then balanced
        if ← acceptWord "WHERE" then
          let _ ← required inner.condition
    else if noun = "FUNCTION" || noun = "PROCEDURE" || noun = "TRIGGER" || noun = "SEQUENCE" then
      set ([] : List Lexeme)
    else if ← acceptWord "AS" then
      let _ ← inner.query true
    orCommand (.change "create" none)

/-- Something dropped, behind the word `DROP`. -/
def dropping (inner : Nested) : Recognizer Phrase := do
  let _ ← acceptOneOf ["TEMP", "TEMPORARY", "MATERIALIZED"]
  match ← acceptOneOf schemaNouns with
  | none => command
  | some _ =>
    let _ ← acceptWord "CONCURRENTLY"
    let _ ← acceptWords ["IF", "EXISTS"]
    let _ ← tableName inner false
    if ← acceptMark "(" then balanced
    repeated do
      if ← acceptMark "," then
        let _ ← tableName inner false
        return true
      else return false
    let _ ← acceptOneOf ["CASCADE", "RESTRICT"]
    return .other "drop"

/-- Something altered, behind the word `ALTER`. -/
def alteration (inner : Nested) : Recognizer Phrase := do
  match ← acceptOneOf ["TABLE", "VIEW", "INDEX"] with
  | none => command
  | some _ =>
    let _ ← acceptWords ["IF", "EXISTS"]
    if (← peekSecond).isSome then
      let _ ← acceptWord "ONLY"
    let _ ← tableName inner false
    match ← acceptOneOf ["ADD", "ALTER", "DELETE", "DROP", "RENAME", "SET"] with
    | some _ =>
      if (← peek).isNone then command
      else
        set ([] : List Lexeme)
        return .other "alter"
    | none => command

/-- Tables emptied, behind the word `TRUNCATE`. -/
def truncation (inner : Nested) : Recognizer Phrase := do
  if ← acceptMark "(" then call inner "TRUNCATE"
  else
    let _ ← acceptOneOf ["TABLE", "DATABASE"]
    let _ ← acceptWords ["IF", "EXISTS"]
    let _ ← commaList ((source inner).map some)
    let _ ← acceptWords ["RESTART", "IDENTITY"]
    let _ ← acceptWords ["CONTINUE", "IDENTITY"]
    let _ ← acceptOneOf ["CASCADE", "RESTRICT"]
    orCommand (.other "truncatetable")

/-- One variable set. -/
def setItem (inner : Nested) : Recognizer (Option Phrase) := do
  let _ ← acceptOneOf ["GLOBAL", "LOCAL", "SESSION"]
  let some target ← columnOperand inner | return none
  if ← acceptMark "=" <||> acceptMark ":=" <||> acceptWord "TO" then
    match ← inner.statement with
    | some value => return some value
    | none => skip; return some target
  else failure

/-- Variables set, behind the word `SET`. -/
def setting (inner : Nested) : Recognizer Phrase := do
  match ← attempt (commaList (setItem inner)) with
  | some _ => orCommand (.other "set")
  | none => command

/-! ### Statements -/

/-- Words whose statements are taken as they are. -/
def commandWords : List String := [
  "CALL", "DO", "EXECUTE", "EXPLAIN", "OPTIMIZE", "PREPARE", "REFRESH", "REINDEX", "RESET", "SHOW",
  "VACUUM"]

/-- Words whose statements have a name of their own and any contents. -/
def plainWords : List (String × String) := [
  ("ANALYZE", "analyze"), ("ATTACH", "attach"), ("BEGIN", "transaction"), ("COMMENT", "comment"),
  ("COMMIT", "commit"), ("COPY", "copy"), ("DESC", "describe"), ("DESCRIBE", "describe"),
  ("DETACH", "detach"), ("GRANT", "grant"), ("KILL", "kill"), ("PRAGMA", "pragma"),
  ("REVOKE", "revoke"), ("ROLLBACK", "rollback"), ("USE", "use")]

/-- An expression or a query as a statement, with its set operations and clauses. -/
def plainStatement (inner : Nested) : Recognizer (Option Phrase) := do
  let first ← match ← expression inner with
    | some phrase => pure (some (← setOperations inner ((← get).length + 1) phrase))
    | none => query inner false
  match first with
  | none => return none
  | some phrase =>
    if phrase.isQuery then clauses inner (source inner)
    return some phrase

/-- A whole statement. -/
def statement (inner : Nested) : Recognizer (Option Phrase) := do
  match ← peekWord with
  | none => plainStatement inner
  | some word =>
    match word with
    | "INSERT" => skip; return some (← insertion inner)
    | "UPDATE" => skip; return some (← change inner)
    | "DELETE" => skip; return some (← deletion inner)
    | "MERGE" => skip; return some (← merge inner)
    | "CREATE" => skip; return some (← creation inner)
    | "DROP" => skip; return some (← dropping inner)
    | "ALTER" => skip; return some (← alteration inner)
    | "TRUNCATE" => skip; return some (← truncation inner)
    | "SET" => skip; return some (← setting inner)
    | other =>
      if commandWords.contains other then return some (← command)
      else
        match plainWords.lookup other with
        | some kind =>
          set ([] : List Lexeme)
          return some (.other kind)
        | none => plainStatement inner

/-- How the parts of a statement of a given depth are read. Every level uses up a lexeme, so the
number of lexemes is depth enough. -/
def nestedIn : Nat → Nested
  | 0 => ⟨failure, failure, failure, fun _ => failure, failure, failure⟩
  | depth + 1 =>
    let inner := nestedIn depth
    ⟨expression inner, condition inner, equality inner, query inner, source inner, statement inner⟩

/-- The lexemes between semicolons. A semicolon at the very end opens no further part. -/
def splitStatements : List Lexeme → List (List Lexeme)
  | [] => [[]]
  | [.mark ";"] => [[]]
  | .mark ";" :: rest => [] :: splitStatements rest
  | lexeme :: rest =>
    match splitStatements rest with
    | [] => [[lexeme]]
    | first :: others => (lexeme :: first) :: others

/-- The statement that lexemes make up; there may be none. -/
def recognize (lexemes : List Lexeme) : Option (Option Phrase) :=
  match statement (nestedIn (lexemes.length + 1)) lexemes with
  | some (found, []) => some found
  | _ => none

end QueryDesk.Sql.Grammar

namespace QueryDesk.Sql

open Grammar

/-- What is known from a statement alone: the sort of statement, if the text is one,
and the table it is about. -/
structure StatementInfo where
  type : Option String
  table : Option String
deriving DecidableEq, Repr

/-- What is known of the statement that a text holds. -/
def StatementInfo.of (text : String) : StatementInfo :=
  let found : Option Phrase := do
    let parts ← (splitStatements (← Lexeme.scan text)).mapM recognize
    (← parts.head?)
  match found with
  | none => ⟨none, none⟩
  | some phrase =>
    ⟨some phrase.kind, (phrase.target.map Text.lower).filter fun name => !name.isEmpty⟩

end QueryDesk.Sql
