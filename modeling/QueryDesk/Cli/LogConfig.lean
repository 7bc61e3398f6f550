/-
**What the program relies on, and the file that sets up logging.**

* `Library` — the parts of the program that others have written.
* `LogConfig.path?` — the file an invocation or its surroundings name; none
  means the standard set-up.
* `LogConfig.check` — the file is there and can be used. Nothing else about logging
  shows in what a command does.
* `Library.standard` — the library that this program comes with.
-/

import QueryDesk.Cli.Folder
import QueryDesk.Load.Definition
import QueryDesk.Text.CaseMap
import QueryDesk.Value.Equality
import QueryDesk.Value.Text
import QueryDesk.Yaml.Reader

namespace QueryDesk.Cli

/-- What the program relies on: a reader of YAML, what sets up logging by data or by
the text of a file that is not YAML, and how deep the values in a report can nest.
Nothing is assumed of it here. -/
structure Library where
  readYaml : YamlReader
  setUpLogging : Value → Except Failure Unit
  setUpLoggingByText : String → Except Failure Unit
  nesting : Nat

namespace LogConfig

/-- The name of the variable that can name the file. -/
def variableName : String := "LOGGING_CONFIG"

/-- The path of the file: the option counts before the variable. -/
def path? (option variableText : Option String) : Option String :=
  (Text.nonEmpty? option).orElse fun _ => Text.nonEmpty? variableText

/-- Succeeds when the entries of a document are of the version that is known. -/
def checkVersion (fields : List (Value × Value)) : Except Failure Unit :=
  match Value.lookup? "version" fields with
  | none => .error (.invalidLogConfig "dictionary doesn't specify a version")
  | some version => do
    if ← (Value.equal version (.int 1)).mapError .value then pure ()
    else .error (.invalidLogConfig ("Unsupported version: " ++ version.toText))

/-- Succeeds when a document sets up logging. -/
def checkDocument : Value → Except Failure Unit
  | .dict fields => checkVersion fields
  | .list [] => checkVersion []
  | .text _ => .error (.notPair 0 1)
  | other => .error (.notIterable other.kindName)

/-- Whether the ending of a path stands for YAML. -/
def isYaml (path : String) : Bool :=
  let path := Text.lower path
  Text.endsWith path ".yaml" || Text.endsWith path ".yml"

/-- Succeeds when the file of a path sets up logging. A file that is not YAML has no
entries if it cannot be read. -/
def check (library : Library) (folder : Folder) (path : String) : Except Failure Unit := do
  if isYaml path then
    let text ← folder.open path
    library.setUpLogging (← library.readYaml (String.ofList (unifyLineEnds text.toList)))
  else
    match folder.entry path with
    | .closed _ false => .error (.logConfigNotFound path)
    | .file text =>
      if text.isEmpty then .error (.emptyLogConfig path) else library.setUpLoggingByText text
    | _ => .error (.unknownKey "formatters")

end LogConfig

/-- The library that this program comes with. -/
def Library.standard : Library := ⟨Yaml.read, LogConfig.checkDocument, fun _ => .ok (), 255⟩

end QueryDesk.Cli
