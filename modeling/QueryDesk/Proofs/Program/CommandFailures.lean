/-
**What passes through the commands.**

A command reads files, works with what it has read, and then prints or writes. Most of its failures
are reported and end the program with status one. For each command the others are found here.

* `Misfits`, `escapes_check_iff` — documents that are no object, and in which
  placeholders are looked up.
* `Machine.NormalizeBreaks`, `Machine.escapes_normalize_iff` — a query with placeholders.
* `Machine.CompileBreaks`, `Machine.escapes_compile_iff` — a condition tree.
* `Machine.DiffBreaks`, `Machine.escapes_diff_iff`, `Machine.ValidateBreaks`,
  `Machine.escapes_validate_iff` — data files that are compared or checked.
-/

import QueryDesk.Proofs.Placeholder.Origin
import QueryDesk.Proofs.Program.Effects
import QueryDesk.Proofs.Program.Sources
import QueryDesk.Proofs.RuleCheck.Completion

namespace QueryDesk.Cli

/-! ### Placeholders -/

/-- A document that is no object and in which one of some names is looked up: an array that lists
it, a text that has it as a part, or a scalar. -/
inductive Misfits (names : List String) : Value → Prop
  | array {items : List Value} {name : String} (used : name ∈ names) (listed : .text name ∈ items) :
      Misfits names (.list items)
  | text {content name : String} (used : name ∈ names)
      (part : Text.containsChars name.toList content.toList = true) : Misfits names (.text content)
  | truth (value : Bool) (used : names ≠ []) : Misfits names (.bool value)
  | whole (number : Int) (used : names ≠ []) : Misfits names (.int number)
  | double (number : Binary64) (used : names ≠ []) : Misfits names (.double number)

theorem any_isText_iff (items : List Value) (name : String) :
    items.any (Sql.BindDocument.isText name) = true ↔ .text name ∈ items := by
  rw [List.any_eq_true]
  constructor
  · rintro ⟨item, inside, same⟩
    cases item with
    | text content =>
      obtain rfl : content = name := by simpa [Sql.BindDocument.isText] using same
      exact inside
    | _ => cases same
  · exact fun inside => ⟨_, inside, by simp [Sql.BindDocument.isText]⟩

/-- **Looking up names in a document** passes a failure exactly when it misfits. -/
theorem escapes_check_iff {document : Value} (json : document.IsJson) (names : List String) :
    Escapes (Sql.BindDocument.check document names) ↔ Misfits names document := by
  by_cases none_used : names = []
  · subst none_used
    refine iff_of_false nofun fun misfits => ?_
    cases misfits with
    | array used _ => cases used
    | text used _ => cases used
    | truth _ used => exact used rfl
    | whole _ used => exact used rfl
    | double _ used => exact used rfl
  · unfold Sql.BindDocument.check
    rw [if_neg fun empty => none_used (List.isEmpty_iff.1 empty)]
    cases json with
    | scalar allowed =>
      cases allowed with
      | null => exact iff_of_false nofun nofun
      | bool value => exact iff_of_true (escapes_error_iff.2 rfl) (.truth value none_used)
      | int number => exact iff_of_true (escapes_error_iff.2 rfl) (.whole number none_used)
      | double number => exact iff_of_true (escapes_error_iff.2 rfl) (.double number none_used)
      | text content =>
        dsimp only
        split
        · rename_i some_part
          obtain ⟨name, used, part⟩ := List.any_eq_true.1 some_part
          exact iff_of_true (escapes_error_iff.2 rfl) (.text used part)
        · rename_i no_part
          refine iff_of_false nofun fun misfits => ?_
          cases misfits with
          | text used part => exact no_part (List.any_eq_true.2 ⟨_, used, part⟩)
    | @list items each =>
      dsimp only
      split
      · rename_i some_listed
        obtain ⟨name, used, inside⟩ := List.any_eq_true.1 some_listed
        exact iff_of_true (escapes_error_iff.2 rfl)
          (.array used ((any_isText_iff items name).1 inside))
      · rename_i none_listed
        refine iff_of_false nofun fun misfits => ?_
        cases misfits with
        | array used inside =>
          exact none_listed (List.any_eq_true.2 ⟨_, used, (any_isText_iff items _).2 inside⟩)
    | record => exact iff_of_false nofun nofun

/-- The values that JSON data gives are JSON data. -/
theorem isJson_of_isBound {document : Value} (json : document.IsJson) {value : Value}
    (bound : Sql.IsBound (Sql.BindDocument.binds document) value) : value.IsJson := by
  rcases bound with rfl | ⟨name, content, found, inside⟩
  · exact .scalar .null
  · obtain ⟨binds, given, found⟩ := Option.bind_eq_some_iff.1 found
    have there := mem_of_lookup found
    have jsonOfContent : content.IsJson := by
      cases json with
      | scalar allowed =>
        cases allowed <;> cases given <;> cases there
      | list each =>
        cases given
        cases there
      | record distinct each =>
        obtain rfl := Option.some.inj given
        obtain ⟨⟨key, value⟩, member, same⟩ := List.mem_filterMap.1 there
        obtain ⟨entry, original, here⟩ := List.mem_map.1 member
        cases here
        cases same
        exact each entry original
    cases jsonOfContent with
    | list each => exact each value inside
    | scalar allowed =>
      cases allowed <;> exact List.mem_singleton.1 inside ▸ .scalar (by constructor)
    | record distinct each => exact List.mem_singleton.1 inside ▸ .record distinct each

namespace Machine

variable (machine : Machine)

/-- What passes through the command that puts placeholders into a query. -/
inductive NormalizeBreaks (sql : String) (binds : Option String) : Prop
  /-- The query file cannot be opened. -/
  | query (file : Text.endsWith sql ".sql" = true) (seen : machine.folder.has sql = true)
      (here : (machine.folder.entry sql).IsShut)
  /-- A file cannot be opened where the values are looked for. -/
  | binds {query path : String} (asked : machine.query sql = .ok query)
      (given : Text.nonEmpty? binds = some path) (seen : machine.folder.has path = true)
      (here : (machine.folder.entry path).IsShut)
  /-- The document with the values is no object, and something is looked up in it. -/
  | document {query : String} {document : Value} (asked : machine.query sql = .ok query)
      (read : machine.bindDocument binds = .ok document)
      (misfits : Misfits (Sql.Template.ofQuery query).names document)

theorem escapes_query_iff (text : String) : Escapes (machine.query text) ↔
    Text.endsWith text ".sql" = true ∧ machine.folder.has text = true ∧
      (machine.folder.entry text).IsShut := by
  unfold query
  split
  · rename_i file
    rw [escapes_bind_iff, Folder.escapes_found?_iff, and_iff_right file]
    refine or_iff_left ?_
    rintro ⟨content, -, impossible⟩
    cases content <;> exact not_escapes_pure _ impossible
  · rename_i plain
    exact iff_of_false nofun fun file => plain file.1

theorem escapes_bindDocument_iff (binds : Option String) : Escapes (machine.bindDocument binds) ↔
    ∃ path, Text.nonEmpty? binds = some path ∧ machine.folder.has path = true ∧
      (machine.folder.entry path).IsShut := by
  unfold bindDocument
  cases Text.nonEmpty? binds with
  | none => exact iff_of_false nofun nofun
  | some path =>
    dsimp only
    rw [escapes_bind_iff, Folder.escapes_found?_iff, or_iff_left]
    · simp
    · rintro ⟨content, -, broken⟩
      cases content with
      | none => exact Json.not_escapes_read _ broken
      | some content => exact Json.not_escapes_read _ broken

/-- The document with the values is JSON data. -/
theorem isJson_of_bindDocument {binds : Option String} {document : Value}
    (read : machine.bindDocument binds = .ok document) : document.IsJson := by
  unfold bindDocument at read
  split at read
  · cases read
    exact Value.isJson_record_nil
  · obtain ⟨content, -, read⟩ := bind_eq_ok_iff.1 read
    cases content with
    | none => exact Json.isJson_of_read read
    | some content => exact Json.isJson_of_read read

/-- What is left to do once the query and the document are read. -/
theorem escapes_normalizeWith_iff (style : Sql.PlaceholderStyle) {document : Value}
    (json : document.IsJson) (query : String) :
    Escapes (Sql.normalizeWith style document query >>= fun bound =>
        Task.outcome ⟨printLine bound.query ++ printDocument (.list bound.binds), 0⟩ machine) ↔
      Misfits (Sql.Template.ofQuery query).names document := by
  rw [escapes_bind_iff, Sql.normalizeWith, escapes_bind_iff, escapes_check_iff json, or_assoc]
  refine or_iff_left ?_
  rintro (⟨_, -, failure, failed, unreported⟩ | ⟨bound, done, escapes⟩)
  · obtain ⟨names, rfl⟩ := Sql.Template.failure_of_bind failed
    cases unreported
  · rw [Task.escapes_outcome_iff, effectsEscape_lineAndDocument_iff] at escapes
    obtain ⟨-, done⟩ := check_bind_eq_ok_iff.1 done
    have each : ∀ value ∈ bound.binds, value.IsJson := fun value inside =>
      isJson_of_isBound json (Sql.Template.isBound_of_bind done value inside)
    exact Json.not_stopsAtKey_of_isJson (.list each) escapes.2

/-- **The command that puts placeholders into a query.** -/
theorem escapes_normalize_iff (connection : Connection) (sql : String) (binds : Option String) :
    Escapes (machine.normalize connection sql binds >>= fun task => task.outcome machine) ↔
      machine.NormalizeBreaks sql binds := by
  simp only [normalize, bind_assoc, pure_bind]
  rw [escapes_bind_iff, escapes_query_iff]
  constructor
  · rintro (⟨file, seen, here⟩ | ⟨query, asked, broken⟩)
    · exact .query file seen here
    · rw [escapes_bind_iff, escapes_bindDocument_iff] at broken
      rcases broken with ⟨path, given, seen, here⟩ | ⟨document, read, broken⟩
      · exact .binds asked given seen here
      · have json := machine.isJson_of_bindDocument read
        exact .document asked read ((machine.escapes_normalizeWith_iff _ json query).1 broken)
  · intro breaks
    cases breaks with
    | query file seen here => exact .inl ⟨file, seen, here⟩
    | binds asked given seen here =>
      have broken := (machine.escapes_bindDocument_iff binds).2 ⟨_, given, seen, here⟩
      exact .inr ⟨_, asked, escapes_bind_iff.2 (.inl broken)⟩
    | document asked read misfits =>
      refine .inr ⟨_, asked, escapes_bind_iff.2 (.inr ⟨_, read, ?_⟩)⟩
      exact (machine.escapes_normalizeWith_iff _ (machine.isJson_of_bindDocument read) _).2 misfits

/-! ### Condition trees -/

/-- The condition tree in a definition file. -/
def conditions (path : String) : Except Failure ConditionTree :=
  machine.definition path >>= ConditionTree.read

/-- What passes through the command that compiles a condition tree. -/
inductive CompileBreaks (connection : Connection) (path : String)
    (columns : List (String × ColumnType)) : Prop
  /-- The file with the tree breaks. -/
  | definition (breaks : machine.DefinitionBreaks path)
  /-- The tree is YAML, and a value in it cannot be converted. -/
  | refused {tree : ConditionTree} (ending : IsYamlPath path)
      (read : machine.conditions path = .ok tree)
      (broken : Escapes (Sql.compile columns connection.quote Sql.standardIndent 1 tree))
  /-- The clause is printed, and what is printed of its values stops at a key of a dict. -/
  | values {tree : ConditionTree} {clause : Sql.Clause} (read : machine.conditions path = .ok tree)
      (compiled : Sql.compile columns connection.quote Sql.standardIndent 1 tree = .ok clause)
      (printed : machine.charset.Prints clause.text) (odd : Json.StopsAtKey (.record clause.binds))

theorem compile_eq (connection : Connection) (path : String)
    (columns : List (String × ColumnType)) :
    machine.compile connection path columns = machine.conditions path >>= fun tree =>
      Sql.compile columns connection.quote Sql.standardIndent 1 tree >>= fun clause =>
        pure ⟨printLine clause.text ++ printDocument (.record clause.binds), 0⟩ := by
  simp only [compile, conditions, definition, Definition.conditions, bind_assoc]

/-- A tree that is no YAML compares with data, so what keeps it from being compiled is reported. -/
theorem isYamlPath_of_escapes_compile {path : String} {tree : ConditionTree}
    (read : machine.conditions path = .ok tree) {columns : List (String × ColumnType)}
    {quote : Bool} (broken : Escapes (Sql.compile columns quote Sql.standardIndent 1 tree)) :
    IsYamlPath path := by
  by_contra ending
  obtain ⟨failure, failed, unreported⟩ := broken
  obtain ⟨document, found, made⟩ := bind_eq_ok_iff.1 read
  obtain ⟨content, -, found⟩ := bind_eq_ok_iff.1 found
  have data := ConditionTree.isData_of_read (isData_of_definition ending found) made
  obtain ⟨leaf, -, rfl | rfl⟩ := Sql.failure_of_compile data failed
  all_goals cases unreported

/-- **The command that compiles a condition tree.** -/
theorem escapes_compile_iff (connection : Connection) (path : String)
    (columns : List (String × ColumnType)) :
    Escapes (machine.compile connection path columns >>= fun task => task.outcome machine) ↔
      machine.CompileBreaks connection path columns := by
  rw [compile_eq, bind_assoc, conditions, escapes_definition_then_iff _ _ not_escapes_conditions]
  simp only [bind_assoc, pure_bind]
  constructor
  · rintro (breaks | ⟨tree, read, broken⟩)
    · exact .definition breaks
    · rw [escapes_bind_iff] at broken
      rcases broken with refused | ⟨clause, compiled, broken⟩
      · exact .refused (machine.isYamlPath_of_escapes_compile read refused) read refused
      · rw [Task.escapes_outcome_iff, effectsEscape_lineAndDocument_iff] at broken
        exact .values read compiled broken.1 broken.2
  · intro breaks
    cases breaks with
    | definition breaks => exact .inl breaks
    | refused _ read broken => exact .inr ⟨_, read, escapes_bind_iff.2 (.inl broken)⟩
    | values read compiled printed odd =>
      refine .inr ⟨_, read, escapes_bind_iff.2 (.inr ⟨_, compiled, ?_⟩)⟩
      rw [Task.escapes_outcome_iff, effectsEscape_lineAndDocument_iff]
      exact ⟨printed, odd⟩

/-! ### Data files -/

/-- What a command says of the origin of a set that it loads. -/
def originFor (connection : Connection) (tableName : Option String) : Provenance :=
  { Provenance.unknown with connectionName := some connection.name, tableName }

/-- What passes through the command that compares two data files. -/
inductive DiffBreaks (connection : Connection) (oldPath newPath : String)
    (compareKeys : List CompareKey) (tableName : Option String) (output : Output) : Prop
  /-- The old data file breaks. -/
  | old (breaks : machine.DataBreaks oldPath)
  /-- The old data file is loaded, and the new one breaks. -/
  | new {old : ResultSet}
      (loaded : machine.data oldPath
        { originFor connection tableName with compareKeys := some compareKeys } = .ok old)
      (breaks : (machine.afterData oldPath).DataBreaks newPath)
  /-- The files are compared, and the report cannot be written. -/
  | report {old new : ResultSet} {report : DiffReport}
      (loadedOld : machine.data oldPath
        { originFor connection tableName with compareKeys := some compareKeys } = .ok old)
      (loadedNew : (machine.afterData oldPath).data newPath (originFor connection tableName) =
        .ok new)
      (reported : (QueryDesk.diff old new).report = .ok report) (compared : report.ok = true)
      (blocked : machine.Blocks output (QueryDesk.diff old new).old)

/-- What is left to do once both files are loaded. -/
theorem escapes_compared_iff (output : Output) (outcome : DiffOutcome) :
    Escapes (outcome.report >>= fun found =>
        (if found.ok then
          pure ⟨machine.report output outcome.old found.message ++
            machine.report output outcome.new found.message, 0⟩
        else pure ⟨printLine found.message, 1⟩) >>= fun task => Task.outcome task machine) ↔
      Escapes outcome.report ∨
        ∃ report, outcome.report = .ok report ∧ report.ok = true ∧
          machine.Blocks output outcome.old := by
  rw [escapes_bind_iff]
  refine or_congr_right (exists_congr fun report => and_congr_right fun _ => ?_)
  cases compared : report.ok with
  | false =>
    rw [if_neg Bool.false_ne_true, pure_bind, Task.escapes_outcome_iff]
    exact iff_of_false (not_effectsEscape_printLine _ _ _) nofun
  | true =>
    rw [if_pos rfl, pure_bind, Task.escapes_outcome_iff, eq_self, true_and,
      ← machine.effectsEscape_reports_iff output (outcome.old, report.message)
        [(outcome.new, report.message)]]
    simp only [List.flatMap_cons, List.flatMap_nil, List.append_nil]

/-- **The command that compares two data files.** -/
theorem escapes_diff_iff (connection : Connection) (oldPath newPath : String)
    (compareKeys : List CompareKey) (tableName : Option String) (output : Output) :
    Escapes (machine.diff connection oldPath newPath compareKeys tableName output >>= fun task =>
        task.outcome machine) ↔
      machine.DiffBreaks connection oldPath newPath compareKeys tableName output := by
  simp only [diff, bind_assoc]
  rw [escapes_bind_iff, escapes_data_iff]
  constructor
  · rintro (breaks | ⟨old, loadedOld, broken⟩)
    · exact .old breaks
    · rw [escapes_bind_iff, escapes_data_iff] at broken
      rcases broken with breaks | ⟨new, loadedNew, broken⟩
      · exact .new loadedOld breaks
      · rcases (machine.escapes_compared_iff output _).1 broken with
          failed | ⟨report, reported, compared, blocked⟩
        · have compares := not_escapes_diff (machine.holdsData_of_data loadedOld)
            (holdsData_of_data _ loadedNew)
          exact absurd failed compares
        · exact .report loadedOld loadedNew reported compared blocked
  · intro breaks
    cases breaks with
    | old breaks => exact .inl breaks
    | new loadedOld breaks =>
      refine .inr ⟨_, loadedOld, escapes_bind_iff.2 (.inl ?_)⟩
      exact (escapes_data_iff _ newPath _).2 breaks
    | report loadedOld loadedNew reported compared blocked =>
      refine .inr ⟨_, loadedOld, escapes_bind_iff.2 (.inr ⟨_, loadedNew, ?_⟩)⟩
      exact (machine.escapes_compared_iff output _).2 (.inr ⟨_, reported, compared, blocked⟩)

/-- The table rule in a definition file. -/
def tableRule (path : String) : Except Failure TableRule :=
  machine.definition path >>= fun document =>
    (TableRule.reading document).orElseFail fun issues => .invalidTableRule path issues.length

/-- What passes through the command that checks a data file. -/
inductive ValidateBreaks (connection : Connection) (dataPath rulePath : String)
    (output : Output) : Prop
  /-- The file with the rules breaks. -/
  | rules (breaks : machine.DefinitionBreaks rulePath)
  /-- The rules are read, and the data file breaks. -/
  | data {rule : TableRule} (read : machine.tableRule rulePath = .ok rule)
      (breaks : machine.DataBreaks dataPath)
  /-- The check comes to values that cannot be worked with as asked. -/
  | check {rule : TableRule} {set : ResultSet} {fault : Fault}
      (read : machine.tableRule rulePath = .ok rule)
      (loaded : machine.data dataPath (originFor connection (some rule.table)) = .ok set)
      (broken : (set.validate rule).2 = .error (.value fault))
  /-- The data file is checked, and the report cannot be written. -/
  | report {rule : TableRule} {set : ResultSet} {verdict : Bool}
      (read : machine.tableRule rulePath = .ok rule)
      (loaded : machine.data dataPath (originFor connection (some rule.table)) = .ok set)
      (checked : (set.validate rule).2 = .ok verdict)
      (blocked : machine.Blocks output (set.validate rule).1)

/-- A check whose failure is not reported comes to values that cannot be worked with as asked. -/
theorem escapes_verdict_iff (set : ResultSet) (rule : TableRule) :
    Escapes (set.validate rule).2 ↔ ∃ fault, (set.validate rule).2 = .error (.value fault) := by
  constructor
  · rintro ⟨failure, failed, unreported⟩
    rcases set.failure_of_validate failed with ⟨name, operators, rfl⟩ | test
    · cases unreported
    · cases test with
      | tooLong => cases unreported
      | _ => exact ⟨_, failed⟩
  · rintro ⟨fault, failed⟩
    refine ⟨_, failed, ?_⟩
    rcases set.failure_of_validate failed with ⟨name, operators, impossible⟩ | test
    · cases impossible
    · cases test <;> rfl

theorem validate_eq (connection : Connection) (dataPath rulePath : String) (output : Output) :
    machine.validate connection dataPath rulePath output =
      machine.tableRule rulePath >>= fun rule =>
      machine.data dataPath (originFor connection (some rule.table)) >>= fun set =>
        (set.validate rule).2 >>= fun holds =>
          pure ⟨machine.report output (set.validate rule).1 (verdictText holds),
            if holds then 0 else 1⟩ := by
  simp only [validate, tableRule, definition, Definition.tableRule, bind_assoc]
  rfl

/-- **The command that checks a data file.** -/
theorem escapes_validate_iff (connection : Connection) (dataPath rulePath : String)
    (output : Output) :
    Escapes (machine.validate connection dataPath rulePath output >>= fun task =>
      task.outcome machine) ↔
      machine.ValidateBreaks connection dataPath rulePath output := by
  have sent (set : ResultSet) (verdict : Bool) :
      Escapes (Task.outcome
          ⟨machine.report output set (verdictText verdict), if verdict then 0 else 1⟩ machine) ↔
        machine.Blocks output set := by
    rw [Task.escapes_outcome_iff, ← machine.effectsEscape_reports_iff output
      (set, verdictText verdict) []]
    simp only [List.flatMap_cons, List.flatMap_nil, List.append_nil]
  rw [validate_eq, bind_assoc, tableRule,
    escapes_definition_then_iff _ _ fun _ => not_escapes_orElseFail (fun _ => rfl) _]
  simp only [bind_assoc, pure_bind]
  constructor
  · rintro (breaks | ⟨rule, read, broken⟩)
    · exact .rules breaks
    · rw [escapes_bind_iff, escapes_data_iff] at broken
      rcases broken with breaks | ⟨set, loaded, broken⟩
      · exact .data read breaks
      · rw [escapes_bind_iff, escapes_verdict_iff] at broken
        rcases broken with ⟨fault, failed⟩ | ⟨verdict, checked, broken⟩
        · exact .check read loaded failed
        · exact .report read loaded checked ((sent _ verdict).1 broken)
  · intro breaks
    cases breaks with
    | rules breaks => exact .inl breaks
    | data read breaks =>
      exact .inr ⟨_, read, escapes_bind_iff.2 (.inl ((escapes_data_iff _ _ _).2 breaks))⟩
    | check read loaded broken =>
      refine .inr ⟨_, read, escapes_bind_iff.2 (.inr ⟨_, loaded, escapes_bind_iff.2 (.inl ?_)⟩)⟩
      exact (escapes_verdict_iff _ _).2 ⟨_, broken⟩
    | report read loaded checked blocked =>
      refine .inr ⟨_, read, escapes_bind_iff.2 (.inr ⟨_, loaded, escapes_bind_iff.2 (.inr ?_)⟩)⟩
      exact ⟨_, checked, (sent _ _).2 blocked⟩

end Machine

end QueryDesk.Cli
