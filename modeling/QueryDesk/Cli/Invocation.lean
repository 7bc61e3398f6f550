/-
**What a command line asks for.**

* `Command` — the four commands with what they are given.
* `Invocation` — a command with the options that all commands share.
* `Invocation.read` — the invocation of a command line, or who refuses it and why. The options in
  front of a command's name belong to the program, those behind it to the command.
-/

import QueryDesk.Cli.Scan
import QueryDesk.ResultSet.ColumnType
import QueryDesk.Report.Kind
import QueryDesk.Text.CaseMap

namespace QueryDesk.Cli

/-- Where a report goes: its kind, and the path of a file for it. -/
structure Output where
  kind : ReportKind
  destination : Option String
deriving DecidableEq, Repr

/-- A command. -/
inductive Command where
  /-- Puts placeholders into a query. -/
  | normalize (sql : String) (binds : Option String)
  /-- Compiles a condition tree. -/
  | compile (conditions : String) (columns : List (String × ColumnType))
  /-- Compares two data files. -/
  | diff (old new : String) (compareKey : Option String) (uniqueKeys : List String)
      (tableName : Option String) (output : Output)
  /-- Checks a data file against a table rule. -/
  | validate (dataFile ruleFile : String) (output : Output)
deriving DecidableEq, Repr

/-- The texts of a command that can be paths. -/
def Command.paths : Command → List String
  | .normalize sql binds => sql :: binds.toList
  | .compile conditions _ => [conditions]
  | .diff old new _ _ _ output => [old, new] ++ output.destination.toList
  | .validate dataFile ruleFile output => [dataFile, ruleFile] ++ output.destination.toList

/-- What a command line asks for: the files that set up logging and the connection, positioned
placeholders, quoted names, and a command. -/
structure Invocation where
  logConfig : Option String
  connectionConfig : Option String
  positioned : Bool
  quote : Bool
  command : Command
deriving DecidableEq, Repr

/-! ### Columns -/

/-- The column that a text names, with its type behind a colon, text without
one; or what is wrong. -/
def columnOfText (text : String) : Except String (String × ColumnType) :=
  let (name, given) := Text.cutAt ':' text.toList
  let word := String.ofList (given.getD [])
  let column := Text.strip (String.ofList name)
  if word.isEmpty then .ok (column, .text)
  else
    match ColumnType.ofName? (Text.lower (Text.strip word)) with
    | some type => .ok (column, type)
    | none =>
      .error ("Unknown column type '" ++ word ++ "' for column '" ++ String.ofList name ++ "'")

/-- What is wrong with the text of a column. -/
def columnComplaint (text : String) : Option String :=
  match columnOfText text with
  | .ok _ => none
  | .error problem => some problem

/-- The columns of texts, leaving out those with something wrong. -/
def columnsOfTexts (texts : List String) : List (String × ColumnType) :=
  texts.filterMap fun text => (columnOfText text).toOption

/-! ### Options -/

/-- The options of the program. -/
def programOptions : OptionTable :=
  [helpOption, valueOption "--log-config", valueOption "--connection-config",
    flagOption "--positioned-parameter", flagOption "--quote"]

/-- The options of a command that makes a report. -/
def outputOptions : OptionTable :=
  [choiceOption "--output-type" ["console", "json"], valueOption "--output-destination"]

/-- The options of the command that puts placeholders into a query. -/
def normalizeOptions : OptionTable := [helpOption, requiredOption "--sql", valueOption "--binds"]

/-- The options of the command that compiles a condition tree. -/
def whereOptions : OptionTable :=
  [helpOption, requiredOption "--conditions", ⟨["--column"], .value columnComplaint, false⟩]

/-- The options of the command that compares two data files. -/
def diffOptions : OptionTable :=
  [helpOption, requiredOption "--old", requiredOption "--new", valueOption "--compare-key",
    valueOption "--uniq-key", valueOption "--table-name"] ++ outputOptions

/-- The options of the command that checks a data file. -/
def validateOptions : OptionTable :=
  [helpOption, requiredOption "--data-file", requiredOption "--rule-file"] ++ outputOptions

/-! ### Commands -/

/-- The text of an option that has to be given. -/
def Settings.text (settings : Settings) (name : String) : String := (settings.value? name).getD ""

/-- Where the settings send a report. -/
def Settings.output (settings : Settings) : Output :=
  ⟨if settings.value? "--output-type" = some "json" then .json else .console,
    settings.value? "--output-destination"⟩

/-- The command that puts placeholders into a query. -/
def normalizeCommand (settings : Settings) : Command :=
  .normalize (settings.text "--sql") (settings.value? "--binds")

/-- The command that compiles a condition tree. -/
def whereCommand (settings : Settings) : Command :=
  .compile (settings.text "--conditions") (columnsOfTexts (settings.values "--column"))

/-- The command that compares two data files. -/
def diffCommand (settings : Settings) : Command :=
  .diff (settings.text "--old") (settings.text "--new") (settings.value? "--compare-key")
    (settings.values "--uniq-key") (settings.value? "--table-name") settings.output

/-- The command that checks a data file. -/
def validateCommand (settings : Settings) : Command :=
  .validate (settings.text "--data-file") (settings.text "--rule-file") settings.output

/-- A command's options, and what it makes of settings in which no required option is missing. -/
structure CommandForm where
  options : OptionTable
  command : Settings → Command

/-- The commands by their names. -/
def commandForms : List (String × CommandForm) :=
  [("normalize", ⟨normalizeOptions, normalizeCommand⟩), ("where", ⟨whereOptions, whereCommand⟩),
    ("diff", ⟨diffOptions, diffCommand⟩), ("validate", ⟨validateOptions, validateCommand⟩)]

/-! ### Command lines -/

/-- Why there is no invocation, and the program or the command that says so. -/
structure Refusal where
  speaker : String
  reason : Stop
deriving DecidableEq, Repr

/-- The name of the program. -/
def programName : String := "dbresource-core"

/-- The name of a command with that of the program in front. -/
def commandName (name : String) : String := programName ++ " " ++ name

/-- What a part of the program finds, in its name. -/
def saidBy {α : Type} (speaker : String) (found : Except Stop α) : Except Refusal α :=
  found.mapError fun reason => ⟨speaker, reason⟩

/-- The form of a command that has one. -/
def formOf (name : String) : Except Stop CommandForm :=
  match commandForms.lookup name with
  | some form => .ok form
  | none =>
    .error (.refused ("argument command: " ++
      (choiceComplaint (commandForms.map fun (other, _) => other) name).getD ""))

/-- A command, with the words that belong to nothing. -/
def readCommand (form : CommandForm) (words : List String) :
    Except Stop (Command × List String) := do
  let found ← scan form.options .areLeftOver words
  checkMissing (missingOptions form.options found.settings)
  pure (form.command found.settings, found.leftOver)

/-- Succeeds when no words belong to nothing. -/
def checkLeftOver (words : List String) : Except Stop Unit :=
  if words.isEmpty then .ok ()
  else .error (.refused ("unrecognized arguments: " ++ " ".intercalate words))

namespace Invocation

/-- The texts of an invocation that can be paths. -/
def paths (invocation : Invocation) : List String :=
  invocation.logConfig.toList ++ invocation.connectionConfig.toList ++ invocation.command.paths

/-- The invocation of settings and a command. -/
def ofSettings (settings : Settings) (command : Command) : Invocation :=
  ⟨settings.value? "--log-config", settings.value? "--connection-config",
    settings.has "--positioned-parameter", settings.has "--quote", command⟩

/-- The invocation of a command line. -/
def read (arguments : List String) : Except Refusal Invocation := do
  let found ← saidBy programName (scan programOptions .beginCommand arguments)
  match found.rest with
  | [] => saidBy programName (.error (.refused "the following arguments are required: command"))
  | name :: words => do
    let form ← saidBy programName (formOf name)
    let (command, leftOver) ← saidBy (commandName name) (readCommand form words)
    saidBy programName (checkLeftOver (found.leftOver ++ leftOver))
    pure (ofSettings found.settings command)

end Invocation

end QueryDesk.Cli
