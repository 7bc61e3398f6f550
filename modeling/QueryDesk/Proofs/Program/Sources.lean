/-
**What the commands read, and when a failure to read it is not reported.**

* `not_escapes_diff` — sets that hold data are compared, unless a number is too long to
  be written, which is reported.
* `Cli.Entry.IsShut`, `Cli.Folder.escapes_open_iff`, `Cli.Folder.escapes_found?_iff` — opening a
  file is refused in a way that is not reported.
* `Cli.DefinitionBreaks`, `Cli.escapes_definition_iff` — **a definition file**: it cannot be
  opened, or what reads YAML fails.
* `Cli.isData_of_definition` — what is read from a definition file in JSON is data.
* `Cli.Machine.DataBreaks`, `Cli.Machine.escapes_data_iff` — **a data file**: it cannot be opened, a
  column of a table overflows, or a list of records holds something else.
* `Cli.Machine.holdsData_of_data` — the set of a data file holds data.
-/

import QueryDesk.Cli.Commands
import QueryDesk.Proofs.Clause.Failures
import QueryDesk.Proofs.Comparison.AllOrNothing
import QueryDesk.Proofs.Load.Records

namespace QueryDesk

/-! ### Comparisons of data -/

/-- The comparison of sets that hold data is only stopped by a number that is
too long to be written. -/
theorem ResultSet.fault_comparison_of_holdsData (key : CompareKey) {old new : ResultSet}
    (oldHolds : old.HoldsData) (newHolds : new.HoldsData) {fault : Fault}
    (stopped : (old.comparison key new).fault = some fault) : fault = .tooManyDigits := by
  have looksUp (set : ResultSet) (holds : set.HoldsData) :
      ∀ entry ∈ keyedRows key (set.rows.map (Row.clear none)), FailsUnwritten entry.key.check :=
    (forall_mem_keyedRows_iff key (fun own _ => FailsUnwritten own.check) _).2
      (List.forall_mem_map.2 fun row inside => RowKey.check_of_isData key (holds row inside))
  rcases Comparison.fault_of_run stopped with long | ⟨row, inside, failed⟩
  · exact long
  · rcases List.mem_append.1 inside with ofOld | ofNew
    · exact looksUp old oldHolds row ofOld fault failed
    · exact looksUp new newHolds row ofNew fault failed

/-- **Sets that hold data are compared**, or a failure is reported. -/
theorem not_escapes_diff {old new : ResultSet} (oldHolds : old.HoldsData)
    (newHolds : new.HoldsData) : ¬ Escapes (diff old new).report := by
  rintro ⟨failure, failed, unreported⟩
  cases chosen : old.matchingKey with
  | error message =>
    unfold diff at failed
    rw [chosen] at failed
    cases failed
  | ok key =>
    cases found : (old.comparison key new).fault with
    | none =>
      rw [diff_of_completed chosen found] at failed
      cases failed
    | some fault =>
      rw [report_of_fault chosen found] at failed
      obtain rfl := Except.error.inj failed
      obtain rfl := ResultSet.fault_comparison_of_holdsData key oldHolds newHolds found
      cases unreported

namespace Cli

open Machine (readText)

/-! ### Files -/

/-- A path cannot be opened, and this is not reported: a folder stands there, or the system refuses
for another reason than that nothing does. -/
inductive Entry.IsShut : Entry → Prop
  | folder : IsShut .folder
  | closed {fault : FileFault} {isSeen : Bool} (other : fault.isReported = false) :
      IsShut (.closed fault isSeen)

namespace Folder

variable (folder : Folder) (path : String)

theorem escapes_open_iff : Escapes (folder.open path) ↔ (folder.entry path).IsShut := by
  unfold «open»
  cases folder.entry path with
  | folder => exact iff_of_true (escapes_error_iff.2 rfl) .folder
  | file content => exact iff_of_false nofun nofun
  | closed fault isSeen =>
    rw [escapes_error_iff]
    refine ⟨.closed, fun shut => ?_⟩
    cases shut with
    | closed other => exact other

/-- What is looked for is only opened where it shows that something stands there. -/
theorem escapes_found?_iff :
    Escapes (folder.found? path) ↔ folder.has path = true ∧ (folder.entry path).IsShut := by
  unfold found?
  cases folder.has path with
  | false => exact iff_of_false (not_escapes_ok _) nofun
  | true => rw [if_pos rfl, escapes_map_iff, escapes_open_iff, eq_self, true_and]

theorem found?_eq_some_iff {content : String} :
    folder.found? path = .ok (some content) ↔ folder.entry path = .file content := by
  unfold found? has «open»
  cases folder.entry path with
  | closed fault isSeen => cases isSeen <;> simp [Except.map]
  | _ => simp [Except.map]

end Folder

/-! ### Definition files -/

/-- A path whose ending stands for YAML. -/
def IsYamlPath (path : String) : Prop :=
  (Text.endsWith path ".yaml" || Text.endsWith path ".yml") = true

namespace Machine

variable (machine : Machine)

/-- The document in a definition file. -/
def definition (path : String) : Except Failure Value :=
  machine.folder.found? path >>= Definition.read machine.library.readYaml path

/-- A definition file that cannot be read, without this being reported. -/
inductive DefinitionBreaks (path : String) : Prop
  /-- It shows that something stands there, and it cannot be opened. -/
  | shut (seen : machine.folder.has path = true) (here : (machine.folder.entry path).IsShut)
  /-- It is no YAML. -/
  | malformed {content : String} (here : machine.folder.entry path = .file content)
      (ending : IsYamlPath path) (broken : Escapes (machine.library.readYaml (readText content)))

/-- **A definition file** is not read, without this being reported, exactly when it breaks. -/
theorem escapes_definition_iff (path : String) :
    Escapes (machine.definition path) ↔ machine.DefinitionBreaks path := by
  have ofYaml (content : String) (ending : IsYamlPath path) :
      Definition.read machine.library.readYaml path (some content) =
        machine.library.readYaml (readText content) := if_pos ending
  have ofJson (content : String) (ending : ¬ IsYamlPath path) :
      Definition.read machine.library.readYaml path (some content) = Json.read (readText content) :=
    if_neg ending
  rw [definition, escapes_bind_iff, Folder.escapes_found?_iff]
  constructor
  · rintro (⟨seen, here⟩ | ⟨content, found, broken⟩)
    · exact .shut seen here
    · cases content with
      | none =>
        obtain ⟨_, same, unreported⟩ := broken
        cases same
        cases unreported
      | some content =>
        have here := (Folder.found?_eq_some_iff ..).1 found
        by_cases ending : IsYamlPath path
        · exact .malformed here ending (ofYaml content ending ▸ broken)
        · rw [ofJson content ending] at broken
          exact (Json.not_escapes_read _ broken).elim
  · intro breaks
    cases breaks with
    | shut seen here => exact .inl ⟨seen, here⟩
    | malformed here ending broken =>
      refine .inr ⟨_, (Folder.found?_eq_some_iff ..).2 here, ?_⟩
      rwa [ofYaml _ ending]

/-- What is defined by a file, and what is done with it: a failure to define it is reported. -/
theorem escapes_definition_then_iff {α β : Type} (path : String) {define : Value → Except Failure α}
    {next : α → Except Failure β} (reported : ∀ document, ¬ Escapes (define document)) :
    Escapes (machine.definition path >>= define >>= next) ↔ machine.DefinitionBreaks path ∨
      ∃ defined, (machine.definition path >>= define) = .ok defined ∧ Escapes (next defined) := by
  rw [escapes_bind_iff]
  refine or_congr_left ?_
  rw [escapes_bind_iff, escapes_definition_iff]
  refine or_iff_left ?_
  rintro ⟨document, -, broken⟩
  exact reported document broken

end Machine

/-- A document that is no condition tree is reported. -/
theorem not_escapes_conditions (document : Value) : ¬ Escapes (ConditionTree.read document) := by
  unfold ConditionTree.read
  split
  · exact nofun
  · rw [escapes_error_iff]
    exact nofun

/-- What is read from a definition file that is no YAML is data. -/
theorem isData_of_definition {yaml : YamlReader} {path : String} (ending : ¬ IsYamlPath path)
    {content : Option String} {document : Value}
    (read : Definition.read yaml path content = .ok document) : document.IsData := by
  cases content with
  | none => cases read
  | some content =>
    rw [show Definition.read yaml path (some content) = Json.read (readText content) from
      if_neg ending] at read
    exact Value.isData_of_isJson (Json.isJson_of_read read)

/-! ### Data files -/

namespace Machine

variable (machine : Machine)

/-- The text of a data file cannot be read, and this is not reported. -/
def IsShut (path : String) : Prop :=
  if path = inputPath then ∃ fault, machine.input = .error fault ∧ fault.isReported = false
  else (machine.folder.entry path).IsShut

/-- A data file that cannot be loaded, without this being reported. -/
inductive DataBreaks (path : String) : Prop
  /-- It is of a known format and cannot be read. -/
  | shut {format : DataFormat} (known : DataFormat.ofPath path = .ok format)
      (here : machine.IsShut path)
  /-- It is a table with a column that overflows. -/
  | table {text : String} (known : DataFormat.ofPath path = .ok .csv)
      (read : machine.text path = .ok text) (overflows : Csv.Overflows [] text)
  /-- It is a list of records that holds something else. -/
  | document {text : String} {document : Value} (known : DataFormat.ofPath path = .ok .json)
      (read : machine.text path = .ok text) (meant : Json.read (readText text) = .ok document)
      (mixed : ResultSet.HoldsNoRecord document)

/-- A text of a known format as a result set. -/
def setOfText (format : DataFormat) (path : String) (origin : Provenance) (text : String) :
    Except Failure ResultSet :=
  match format with
  | .csv => Csv.resultSet [] origin text
  | .json => Json.read (readText text) >>= ResultSet.ofDocument path (some origin)

theorem data_eq (path : String) (origin : Provenance) : machine.data path origin =
    DataFormat.ofPath path >>= fun format =>
      machine.text path >>= setOfText format path origin := by
  unfold data ResultSet.load
  cases known : DataFormat.ofPath path with
  | error failure => rfl
  | ok format =>
    cases machine.text path with
    | error failure => rfl
    | ok text =>
      by_cases input : path = inputPath
      · subst input
        cases format <;> rfl
      · simp only [if_neg input]
        cases format <;> rfl

theorem escapes_text_iff (path : String) : Escapes (machine.text path) ↔ machine.IsShut path := by
  unfold text IsShut
  split
  · cases machine.input with
    | ok content => exact iff_of_false nofun nofun
    | error fault => simp [Except.mapError, Failure.isReported]
  · exact machine.folder.escapes_open_iff path

theorem not_escapes_ofPath (path : String) : ¬ Escapes (DataFormat.ofPath path) := by
  unfold DataFormat.ofPath
  split
  · exact nofun
  · split
    · exact nofun
    · rw [escapes_error_iff]
      exact nofun

/-- A text that is no result set, without this being reported. -/
theorem escapes_setOfText_iff (format : DataFormat) (path : String) (origin : Provenance)
    (text : String) :
    Escapes (setOfText format path origin text) ↔ format = .csv ∧ Csv.Overflows [] text ∨
      format = .json ∧ ∃ document, Json.read (readText text) = .ok document ∧
        ResultSet.HoldsNoRecord document := by
  cases format with
  | csv => simp [setOfText, Csv.escapes_resultSet_iff]
  | json =>
    rw [setOfText, escapes_bind_iff, or_iff_right (Json.not_escapes_read _)]
    simp only [reduceCtorEq, false_and, true_and, false_or]
    refine exists_congr fun document => and_congr_right fun read => ?_
    exact ResultSet.escapes_ofDocument_iff (Value.isData_of_isJson (Json.isJson_of_read read))

/-- **A data file** is not loaded, without this being reported, exactly when it breaks. -/
theorem escapes_data_iff (path : String) (origin : Provenance) :
    Escapes (machine.data path origin) ↔ machine.DataBreaks path := by
  rw [data_eq, escapes_bind_iff, or_iff_right (not_escapes_ofPath path)]
  constructor
  · rintro ⟨format, known, broken⟩
    rw [escapes_bind_iff, escapes_text_iff] at broken
    rcases broken with here | ⟨text, read, broken⟩
    · exact .shut known here
    · rcases (escapes_setOfText_iff format path origin text).1 broken with
        ⟨rfl, overflows⟩ | ⟨rfl, document, meant, mixed⟩
      · exact .table known read overflows
      · exact .document known read meant mixed
  · intro breaks
    cases breaks with
    | shut known here =>
      exact ⟨_, known, escapes_bind_iff.2 (.inl ((machine.escapes_text_iff path).2 here))⟩
    | table known read overflows =>
      refine ⟨_, known, escapes_bind_iff.2 (.inr ⟨_, read, ?_⟩)⟩
      exact (escapes_setOfText_iff ..).2 (.inl ⟨rfl, overflows⟩)
    | document known read meant mixed =>
      refine ⟨_, known, escapes_bind_iff.2 (.inr ⟨_, read, ?_⟩)⟩
      exact (escapes_setOfText_iff ..).2 (.inr ⟨rfl, _, meant, mixed⟩)

/-- **The set of a data file holds data.** -/
theorem holdsData_of_data {path : String} {origin : Provenance} {set : ResultSet}
    (loaded : machine.data path origin = .ok set) : set.HoldsData := by
  rw [data_eq] at loaded
  obtain ⟨format, -, loaded⟩ := bind_eq_ok_iff.1 loaded
  obtain ⟨text, -, loaded⟩ := bind_eq_ok_iff.1 loaded
  cases format with
  | csv => exact Csv.holdsData_resultSet loaded
  | json =>
    obtain ⟨document, read, made⟩ := bind_eq_ok_iff.1 loaded
    exact ResultSet.holdsData_ofDocument (Value.isData_of_isJson (Json.isJson_of_read read)) made

end Machine

end Cli

end QueryDesk
