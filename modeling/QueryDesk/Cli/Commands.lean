/-
**What the commands do.**

* `Machine` — the files, the input, the environment, the characters that can be
  printed and the library.
* `Task` — the effects of a command and its exit status.
* `Machine.normalize`, `Machine.compile`, `Machine.diff`, `Machine.validate` — the commands. They
  read before they print or write.
* `Machine.perform` — an invocation, with the connection setting it names.
-/

import QueryDesk.Cli.Effect
import QueryDesk.Cli.Invocation
import QueryDesk.Cli.LogConfig
import QueryDesk.ResultSet.Diff
import QueryDesk.Rule.Validation
import QueryDesk.Sql.BindDocument
import QueryDesk.Sql.Clause

namespace QueryDesk.Cli

/-- The surroundings of a program, and what it relies on. The input may be one
that cannot be read. -/
structure Machine where
  folder : Folder
  input : Except FileFault String
  environment : List (String × String)
  charset : Charset
  library : Library

/-- What a command has decided to do: its effects in order, and the exit status
once they are carried out. -/
structure Task where
  effects : List Effect
  status : Nat
deriving DecidableEq, Repr

/-- A text printed on a line of its own. -/
def printLine (line : String) : List Effect := [.print line, .print "\n"]

/-- A value printed as a document on a line of its own, if it can be written. -/
def printDocument (value : Value) : List Effect :=
  match Json.checkWritable value with
  | .error failure => [.stop failure]
  | .ok () => printLine (Json.write .oneLine value)

/-- The file that a report goes to, if it does not go to the output. Only documents go to files. -/
def Output.file? (output : Output) : Option String :=
  match output.kind, Text.nonEmpty? output.destination with
  | .json, some path => if path = inputPath then none else some path
  | _, _ => none

namespace Machine

/-! ### Queries -/

/-- The text of a file as it is read: its line ends are line feeds. -/
def readText (content : String) : String := String.ofList (unifyLineEnds content.toList)

/-- The query that a text stands for: what is in the file, if it is the path of a query file. -/
def query (machine : Machine) (text : String) : Except Failure String := do
  if Text.endsWith text ".sql" then
    match ← machine.folder.found? text with
    | some content => pure (readText content)
    | none => pure text
  else pure text

/-- The document that a text stands for: what is in the file, if it is a path, else what the text
says. Nothing stands for an empty object. -/
def bindDocument (machine : Machine) (text : Option String) : Except Failure Value :=
  match Text.nonEmpty? text with
  | none => .ok (.record [])
  | some text => do
    match ← machine.folder.found? text with
    | some content => Json.read (readText content)
    | none => Json.read text

/-- The style that a connection asks for. -/
def styleOf (connection : Connection) : Sql.PlaceholderStyle :=
  if connection.positioned then .positioned else .simple

/-- Prints a query with placeholders, and the values for them. -/
def normalize (machine : Machine) (connection : Connection) (sql : String)
    (binds : Option String) : Except Failure Task := do
  let query ← machine.query sql
  let document ← machine.bindDocument binds
  let bound ← Sql.normalizeWith (styleOf connection) document query
  pure ⟨printLine bound.query ++ printDocument (.list bound.binds), 0⟩

/-- Prints a condition tree as SQL, and the values of its parameters. -/
def compile (machine : Machine) (connection : Connection) (conditions : String)
    (columns : List (String × ColumnType)) : Except Failure Task := do
  let tree ← Definition.conditions machine.library.readYaml conditions
    (← machine.folder.found? conditions)
  let clause ← Sql.compile columns connection.quote Sql.standardIndent 1 tree
  pure ⟨printLine clause.text ++ printDocument (.record clause.binds), 0⟩

/-! ### Data files -/

/-- The machine after its input was read. -/
def afterInput (machine : Machine) : Machine := { machine with input := .ok "" }

/-- The machine after the data of a path was read. -/
def afterData (machine : Machine) (path : String) : Machine :=
  if path = inputPath then machine.afterInput else machine

/-- The text that a path stands for: what is put in, or what is in the file. -/
def text (machine : Machine) (path : String) : Except Failure String :=
  if path = inputPath then machine.input.mapError fun fault => .file fault path
  else machine.folder.open path

/-- The result set that a path stands for. -/
def data (machine : Machine) (path : String) (origin : Provenance) : Except Failure ResultSet := do
  let _ ← DataFormat.ofPath path
  ResultSet.load path (some (← machine.text path)) [] (some origin)

/-- What sends a report of a result set on its way. A document is made before its file is opened,
and a number that cannot be written stops it afterwards. -/
def report (machine : Machine) (output : Output) (set : ResultSet) (summary : String) :
    List Effect :=
  if output.kind = .json ∧ !set.isShallow machine.library.nesting then [.stop .tooDeep]
  else match output.file?, output.kind.canPrint set summary with
    | some path, true => [.write path (Report.documentPieces set summary)]
    | some path, false => [.write path [], .stop (.tooManyDigits none)]
    | none, true => (output.kind.pieces machine.charset.icons set summary).map .print
    | none, false => [.stop (.tooManyDigits none)]

/-- The key of several columns that a text between commas names. -/
def chosenKey (text : String) : CompareKey :=
  let names := (Text.splitOnChar ',' text.toList).map fun part =>
    String.ofList (Text.stripChars part)
  .composite .custom (names.filter fun name => !name.isEmpty)

/-- The keys that a comparison is asked to try, in order. -/
def chosenKeys (compareKey : Option String) (uniqueKeys : List String) : List CompareKey :=
  ((Text.nonEmpty? compareKey).map chosenKey).toList ++ uniqueKeys.map .unique

/-- Compares two data files and reports on both. -/
def diff (machine : Machine) (connection : Connection) (oldPath newPath : String)
    (compareKeys : List CompareKey) (tableName : Option String) (output : Output) :
    Except Failure Task := do
  let origin : Provenance := { Provenance.unknown with
    connectionName := some connection.name, tableName }
  let old ← machine.data oldPath { origin with compareKeys := some compareKeys }
  let new ← (machine.afterData oldPath).data newPath origin
  let outcome := QueryDesk.diff old new
  let found ← outcome.report
  if found.ok then
    pure ⟨machine.report output outcome.old found.message ++
      machine.report output outcome.new found.message, 0⟩
  else pure ⟨printLine found.message, 1⟩

/-- The summary of a check. -/
def verdictText (holds : Bool) : String :=
  if holds then "All rules passed" else "Rule violations found"

/-- Checks a data file against a table rule and reports on it. -/
def validate (machine : Machine) (connection : Connection) (dataPath rulePath : String)
    (output : Output) : Except Failure Task := do
  let rule ← Definition.tableRule machine.library.readYaml rulePath
    (← machine.folder.found? rulePath)
  let set ← machine.data dataPath { Provenance.unknown with
    connectionName := some connection.name, tableName := some rule.table }
  let (checked, verdict) := set.validate rule
  let holds ← verdict
  pure ⟨machine.report output checked (verdictText holds), if holds then 0 else 1⟩

/-! ### Invocations -/

/-- The connection that is used when none is named. -/
def standardConnection : Connection := ⟨"default", none, none, false, false⟩

/-- The connection setting of an invocation. Its options can only switch things on. -/
def connection (machine : Machine) (invocation : Invocation) : Except Failure Connection := do
  let setting ← match Text.nonEmpty? invocation.connectionConfig with
    | none => pure standardConnection
    | some path =>
      Definition.connection machine.library.readYaml path (← machine.folder.found? path)
  pure { setting with
    positioned := setting.positioned || invocation.positioned
    quote := setting.quote || invocation.quote }

/-- What an invocation does. -/
def perform (machine : Machine) (invocation : Invocation) : Except Failure Task := do
  let connection ← machine.connection invocation
  match invocation.command with
  | .normalize sql binds => machine.normalize connection sql binds
  | .compile conditions columns => machine.compile connection conditions columns
  | .diff old new compareKey uniqueKeys tableName output =>
    machine.diff connection old new (chosenKeys compareKey uniqueKeys) tableName output
  | .validate dataFile ruleFile output => machine.validate connection dataFile ruleFile output

end Machine

end QueryDesk.Cli
