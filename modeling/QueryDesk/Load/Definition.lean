/-
**Definitions in files.**

* `YamlReader` — what reads YAML. Nothing is assumed of it here.
* `Definition.read` — the document in a file, as YAML or JSON by the ending of the path.
* `Definition.tableRule`, `Definition.conditions`, `Definition.connection` — what a file defines.
-/

import QueryDesk.Load.DataFile
import QueryDesk.Rule.TableRule
import QueryDesk.Schema.Reading

namespace QueryDesk

/-- A reader of YAML documents. -/
abbrev YamlReader := String → Except Failure Value

namespace Definition

/-- The document in a file of the given content, `none` for a file that is not there. -/
def read (yaml : YamlReader) (path : String) (content : Option String) : Except Failure Value :=
  match content with
  | none => .error (.definitionNotFound path)
  | some text =>
    let text := String.ofList (unifyLineEnds text.toList)
    if Text.endsWith path ".yaml" || Text.endsWith path ".yml" then yaml text else Json.read text

/-- The table rule in a file. -/
def tableRule (yaml : YamlReader) (path : String) (content : Option String) :
    Except Failure TableRule := do
  let document ← read yaml path content
  (TableRule.reading document).orElseFail fun issues => .invalidTableRule path issues.length

/-- The condition tree in a file. -/
def conditions (yaml : YamlReader) (path : String) (content : Option String) :
    Except Failure ConditionTree := do
  ConditionTree.read (← read yaml path content)

/-- The connection setting in a file. A document that counts as empty is an empty setting. -/
def connection (yaml : YamlReader) (path : String) (content : Option String) :
    Except Failure Connection := do
  let document ← read yaml path content
  let data := if document.isTruthy then document else .record []
  (Connection.reading data).orElseFail fun issues => .invalidConnection path issues.length

end Definition

end QueryDesk
