/-
**What a comparison leaves in a file.**

A command that compares two data files reports on the old set and then on the new one. Sent to a
file, the second report takes the place of the first.

* `run_succeeded` — a program that ends with status zero has carried out all effects of its task.
* `Machine.Compares` — the sets of two paths and the report of their comparison.
* `DiffOutcome.old_unmarked_iff`, `DiffOutcome.kind_of_new_mark` — when the old set is left without
  marks, and which marks the new set can have.
* `carryOut_reports`, `run_diff_to_file_iff` — two reports to one file, of which it holds the last;
  when such a command succeeds, and what it leaves.
* `ShowsNewMarks`, `run_diff_loses_old_marks` — **the file holds the report of the new set and no
  other**: it shows the marks of both sets only if the old set has none.
-/

import Mathlib.Data.List.Perm.Subperm
import QueryDesk.Proofs.Comparison.EditScript
import QueryDesk.Proofs.Document.ShownMarks
import QueryDesk.Proofs.Program.Effects
import QueryDesk.Proofs.Program.Sources

namespace QueryDesk

/-! ### The marks of a comparison -/

/-- The marks of rows that show what they are to show. -/
theorem Shows.mem_allMarks {set : ResultSet} {marked : List Row}
    {expected : Nat → Row → String → List Mark} (shows : Shows set.rows marked expected)
    {mark : Mark} :
    mark ∈ (set.withRows marked).allMarks ↔
      ∃ place row, set.rows[place]? = some row ∧ ∃ column, mark ∈ expected place row column := by
  rw [ResultSet.mem_allMarks]
  constructor
  · rintro ⟨after, member, column, held⟩
    obtain ⟨place, there⟩ := List.mem_iff_getElem?.1 member
    cases here : set.rows[place]? with
    | none =>
      have outside := List.getElem?_eq_none_iff.1 here
      rw [List.getElem?_eq_none (by show marked.length ≤ place; rw [shows.1]; exact outside)]
        at there
      cases there
    | some row =>
      obtain ⟨same, there', -, marks⟩ := shows.2 place row here
      obtain rfl : same = after := Option.some.inj (there'.symm.trans there)
      exact ⟨place, row, here, column, (marks column mark).1 held⟩
  · rintro ⟨place, row, here, column, expectedMark⟩
    obtain ⟨after, there, -, marks⟩ := shows.2 place row here
    exact ⟨after, List.mem_of_getElem? there, column, (marks column mark).2 expectedMark⟩

/-- An old row is left without marks when it has a counterpart that does not differ, or when
there is no column to mark. -/
theorem oldMarks_eq_nil_iff (key : CompareKey) (columns : List String) (new : List Row)
    (row : Row) :
    (∀ column, oldMarks key columns new row column = []) ↔
      ((new.find? (key.agree row)).any fun other => columns.any (textsDiffer row other)) = false ∧
        (new.any (key.agree row) = true ∨ columns = []) := by
  unfold oldMarks
  rw [← List.isSome_find?]
  cases new.find? (key.agree row) with
  | none => simp [List.eq_nil_iff_forall_not_mem]
  | some first => simp [List.any_eq_false]

section Marks

variable {old new : ResultSet} {report : DiffReport}
  (completed : (diff old new).report = .ok report) (compared : report.ok = true)

include completed compared

/-- **When the old set is left without marks**: nothing was updated, and nothing was deleted or
there is no column to mark. -/
theorem DiffOutcome.old_unmarked_iff :
    (diff old new).old.allMarks = [] ↔
      report.updated = 0 ∧ (report.deleted = 0 ∨ old.names = []) := by
  obtain ⟨key, -, fault, rfl, outcome⟩ := diff_completed completed compared
  obtain ⟨deleted, updated, -⟩ := counts_comparison fault
  show _ ↔ (old.comparison key new).updated = 0 ∧ ((old.comparison key new).deleted = 0 ∨ _)
  have unmarked : (diff old new).old.allMarks = [] ↔
      ∀ row ∈ old.rows, ∀ column, oldMarks key old.names new.rows row column = [] := by
    rw [outcome, List.eq_nil_iff_forall_not_mem]
    simp only [(shows_old fault).mem_allMarks, List.eq_nil_iff_forall_not_mem]
    constructor
    · intro none_there row member column mark inside
      obtain ⟨place, here⟩ := List.mem_iff_getElem?.1 member
      exact none_there mark ⟨place, row, here, column, inside⟩
    · rintro bare mark ⟨place, row, here, column, inside⟩
      exact bare row (List.mem_of_getElem? here) column mark inside
  rw [unmarked, deleted, updated, List.countP_eq_zero, List.countP_eq_zero]
  simp only [oldMarks_eq_nil_iff, forall_and, Bool.not_eq_true, Bool.not_eq_false']
  refine and_congr_right fun _ => ?_
  by_cases bare : old.names = [] <;> simp [bare]

/-- The new set is marked with additions and updates only. -/
theorem DiffOutcome.kind_of_new_mark {mark : Mark} (member : mark ∈ (diff old new).new.allMarks) :
    mark.kind = .added ∨ mark.kind = .updated := by
  obtain ⟨key, -, fault, rfl, outcome⟩ := diff_completed completed compared
  rw [outcome, (shows_new fault).mem_allMarks] at member
  obtain ⟨place, row, -, column, inside⟩ := member
  unfold newMarks at inside
  split_ifs at inside
  · cases inside
  · obtain ⟨other, -, rfl⟩ := List.mem_map.1 inside
    exact .inr rfl
  · obtain rfl := List.mem_singleton.1 inside
    exact .inl rfl
  · cases inside

end Marks

/-! ### A program that succeeds -/

namespace Cli

/-- **A program that ends with status zero** has carried out all effects of its task. -/
theorem run_succeeded {machine : Machine} {arguments : List String} {invocation : Invocation}
    (understood : Invocation.read arguments = .ok invocation) {outcome : Outcome} :
    (run machine arguments = .ok outcome ∧ outcome.status = 0) ↔
      checkLogging machine invocation = .ok () ∧ ∃ task, machine.perform invocation = .ok task ∧
        task.status = 0 ∧ (carryOut machine.charset machine.folder task.effects).failure = none ∧
        outcome = ⟨0, (carryOut machine.charset machine.folder task.effects).printed, "",
          (carryOut machine.charset machine.folder task.effects).folder⟩ := by
  rw [run_of_read understood, bind_eq_ok_iff]
  constructor
  · rintro ⟨⟨_, logging, ended⟩, success⟩
    refine ⟨logging, ?_⟩
    cases performed : machine.perform invocation with
    | error failure =>
      rw [performed] at ended
      rw [status_of_failed ended] at success
      cases success
    | ok task =>
      rw [performed] at ended
      simp only [Task.outcome] at ended
      cases failure : (carryOut machine.charset machine.folder task.effects).failure with
      | some reason =>
        rw [failure] at ended
        rw [status_of_failed ended] at success
        cases success
      | none =>
        rw [failure] at ended
        obtain rfl := Except.ok.inj ended
        exact ⟨task, rfl, success, failure, by rw [show task.status = 0 from success]⟩
  · rintro ⟨logging, task, performed, success, failure, rfl⟩
    refine ⟨⟨(), logging, ?_⟩, rfl⟩
    simp only [performed, Task.outcome, failure, success]

/-! ### Comparisons that are reported to a file -/

/-- **Two reports to one file**: it holds what was written last. -/
theorem carryOut_reports {machine : Machine} {path : String} (named : path ≠ "")
    (file : path ≠ inputPath) (writable : machine.folder.CanWrite path)
    {first second : ResultSet} {summary : String}
    (firstReport : machine.CanReport first summary)
    (secondReport : machine.CanReport second summary) :
    carryOut machine.charset machine.folder
        (machine.report ⟨.json, some path⟩ first summary ++
          machine.report ⟨.json, some path⟩ second summary) =
      ⟨"", machine.folder.put path (Report.document second summary), none⟩ := by
  rw [Machine.carryOut_report named file firstReport writable,
    ← List.append_nil (machine.report _ second _),
    Machine.carryOut_report named file secondReport (Folder.canWrite_put writable _),
    Folder.put_put]
  rfl

namespace Machine

/-- A comparison that a machine makes for an invocation: the sets of two paths, the second without
the keys for matching, and the report that says that they could be compared. -/
structure Compares (machine : Machine) (invocation : Invocation) (oldPath newPath : String)
    (compareKeys : List CompareKey) (tableName : Option String) (old new : ResultSet)
    (report : DiffReport) : Prop where
  loaded : ∃ connection, machine.connection invocation = .ok connection ∧
    machine.data oldPath { Provenance.unknown with
      connectionName := some connection.name, tableName, compareKeys := some compareKeys } =
        .ok old ∧
    (machine.afterData oldPath).data newPath { Provenance.unknown with
      connectionName := some connection.name, tableName } = .ok new
  reported : (QueryDesk.diff old new).report = .ok report
  compared : report.ok = true

theorem perform_diff {machine : Machine} {invocation : Invocation} {oldPath newPath : String}
    {compareKey tableName : Option String} {uniqueKeys : List String} {output : Output}
    (asked : invocation.command = .diff oldPath newPath compareKey uniqueKeys tableName output)
    {task : Task} :
    (machine.perform invocation = .ok task ∧ task.status = 0) ↔ ∃ old new report,
      machine.Compares invocation oldPath newPath (chosenKeys compareKey uniqueKeys) tableName
        old new report ∧
      task = ⟨machine.report output (QueryDesk.diff old new).old report.message ++
        machine.report output (QueryDesk.diff old new).new report.message, 0⟩ := by
  have ran : machine.perform invocation = machine.connection invocation >>= fun connection =>
      machine.diff connection oldPath newPath
        (chosenKeys compareKey uniqueKeys) tableName output := by
    rw [perform, asked]
  rw [ran, bind_eq_ok_iff]
  constructor
  · rintro ⟨⟨connection, connected, performed⟩, success⟩
    simp only [diff, bind_eq_ok_iff] at performed
    obtain ⟨old, oldLoaded, new, newLoaded, report, reported, decided⟩ := performed
    split at decided
    · rename_i compared
      exact ⟨old, new, report, ⟨⟨connection, connected, oldLoaded, newLoaded⟩, reported, compared⟩,
        (Except.ok.inj decided).symm⟩
    · obtain rfl := Except.ok.inj decided
      cases success
  · rintro ⟨old, new, report,
      ⟨⟨connection, connected, oldLoaded, newLoaded⟩, reported, compared⟩, rfl⟩
    refine ⟨⟨connection, connected, ?_⟩, rfl⟩
    simp only [diff, bind_eq_ok_iff]
    exact ⟨old, oldLoaded, new, newLoaded, report, reported, if_pos compared⟩

end Machine

/-- **A comparison that is reported to a file** succeeds exactly when the sets can be
loaded, compared and reported and the file can be written; the file then holds the report of
the new set and no other. -/
theorem run_diff_to_file_iff {machine : Machine} {arguments : List String} {invocation : Invocation}
    (understood : Invocation.read arguments = .ok invocation) {oldPath newPath path : String}
    {compareKey tableName : Option String} {uniqueKeys : List String}
    (asked : invocation.command =
      .diff oldPath newPath compareKey uniqueKeys tableName ⟨.json, some path⟩)
    (named : path ≠ "") (file : path ≠ inputPath) {outcome : Outcome} :
    (run machine arguments = .ok outcome ∧ outcome.status = 0) ↔
      checkLogging machine invocation = .ok () ∧ machine.folder.CanWrite path ∧
        ∃ old new report, machine.Compares invocation oldPath newPath
            (Machine.chosenKeys compareKey uniqueKeys) tableName old new report ∧
          machine.CanReport (diff old new).old report.message ∧
          machine.CanReport (diff old new).new report.message ∧
          outcome = ⟨0, "", "",
            machine.folder.put path (Report.document (diff old new).new report.message)⟩ := by
  rw [run_succeeded understood]
  refine and_congr_right fun _ => ?_
  constructor
  · rintro ⟨task, performed, success, carried, rfl⟩
    obtain ⟨old, new, report, compares, rfl⟩ := (Machine.perform_diff asked).1 ⟨performed, success⟩
    obtain ⟨⟨writable, oldReport⟩, later⟩ :=
      (Machine.carryOut_report_eq_none_iff named file).1 carried
    rw [← List.append_nil (machine.report _ (diff old new).new _),
      Machine.carryOut_report_eq_none_iff named file] at later
    refine ⟨writable, old, new, report, compares, oldReport, later.1.2, ?_⟩
    rw [carryOut_reports named file writable oldReport later.1.2]
  · rintro ⟨writable, old, new, report, compares, oldReport, newReport, rfl⟩
    obtain ⟨performed, success⟩ := (Machine.perform_diff asked).2 ⟨old, new, report, compares, rfl⟩
    refine ⟨_, performed, success, ?_⟩
    rw [carryOut_reports named file writable oldReport newReport]
    exact ⟨rfl, rfl⟩

/-! ### What the file shows -/

theorem part_type_toJsonData (mark : Mark) :
    mark.toJsonData.part "type" = .text mark.kind.name := by
  rw [Mark.toJsonData, Mark.toValue, Value.toJsonData_record, List.map_cons,
    Value.part_record_cons_self]
  rfl

/-- What a document on the new set of a comparison shows: the marks of the new set, none of which is
a deletion. The marks of both sets are there only if the old set has none. -/
structure ShowsNewMarks (old new : ResultSet) (report : DiffReport) (document : Value) : Prop where
  shown : Report.shownMarks document = (diff old new).new.allMarks.map Mark.toJsonData
  kinds : ∀ mark ∈ Report.shownMarks document,
    mark.part "type" = .text MarkKind.added.name ∨ mark.part "type" = .text MarkKind.updated.name
  complete_iff :
    (((diff old new).old.allMarks ++ (diff old new).new.allMarks).map Mark.toJsonData).Subperm
        (Report.shownMarks document) ↔
      report.updated = 0 ∧ (report.deleted = 0 ∨ old.names = [])

/-- What a document on the new set of a comparison shows. -/
theorem showsNewMarks {old new : ResultSet} {report : DiffReport}
    (reported : (diff old new).report = .ok report) (compared : report.ok = true) :
    ShowsNewMarks old new report (Report.documentData (diff old new).new report.message) := by
  have shown := Report.shownMarks_documentData (diff old new).new report.message
  refine ⟨shown, ?_, ?_⟩
  · rw [shown, List.forall_mem_map]
    intro mark member
    rw [part_type_toJsonData]
    refine (DiffOutcome.kind_of_new_mark reported compared member).imp ?_ ?_ <;> rintro same <;>
      rw [same]
  · rw [shown, ← DiffOutcome.old_unmarked_iff reported compared, List.map_append]
    constructor
    · intro sub
      have lengths := List.Subperm.length_le sub
      rw [List.length_append, List.length_map] at lengths
      exact List.length_eq_zero_iff.1 (by omega)
    · intro bare
      rw [bare, List.map_nil, List.nil_append]

section Compared

variable {machine : Machine} {invocation : Invocation} {oldPath newPath : String}
  {compareKeys : List CompareKey} {tableName : Option String} {old new : ResultSet}
  {report : DiffReport}
  (compares : machine.Compares invocation oldPath newPath compareKeys tableName old new report)

include compares

/-- The sets of a comparison hold data. -/
theorem Machine.Compares.holdsData :
    ∀ row ∈ old.rows ++ new.rows, ∀ entry ∈ row.values, entry.2.IsData := by
  obtain ⟨connection, -, oldLoaded, newLoaded⟩ := compares.loaded
  intro row inside
  rcases List.mem_append.1 inside with ofOld | ofNew
  · exact machine.holdsData_of_data oldLoaded row ofOld
  · exact Machine.holdsData_of_data _ newLoaded row ofNew

/-- Rows of compared sets are matched by keys that are the same as themselves, unless one is a
not-a-number. -/
theorem Machine.Compares.same_self {key : CompareKey} (chosen : old.matchingKey = .ok key)
    {row : Row} (inside : row ∈ old.rows ++ new.rows) (proper : key.AvoidsNaN row) :
    (RowKey.ofRow key row).same (.ofRow key row) = true := by
  refine RowKey.same_self_of_isData (compares.holdsData row inside) ?_ proper
  obtain ⟨used, found, fault, -⟩ := diff_completed compares.reported compares.compared
  obtain rfl := Except.ok.inj (chosen.symm.trans found)
  obtain ⟨readsOld, readsNew, -⟩ := (fault_comparison_iff_reads ..).1 fault
  exact (List.mem_append.1 inside).elim (readsOld row) (readsNew row)

end Compared

/-- **A comparison that is reported to a file loses the marks of the old set.** If the
documents on both sets can be made and encoded, it ends well, prints nothing and leaves the
document on the new set in the file.

No row is matched by a not-a-number. A search that first asks for the very object that is sought
would match rows by such a number, which equals nothing; by every other key it finds what a search
by equality finds, since the key is the same as itself. -/
theorem run_diff_loses_old_marks {machine : Machine} {arguments : List String}
    {invocation : Invocation}
    (understood : Invocation.read arguments = .ok invocation) {oldPath newPath path : String}
    {compareKey tableName : Option String} {uniqueKeys : List String}
    (asked : invocation.command =
      .diff oldPath newPath compareKey uniqueKeys tableName ⟨.json, some path⟩)
    (named : path ≠ "") (file : path ≠ inputPath)
    (logging : checkLogging machine invocation = .ok ())
    (writable : machine.folder.CanWrite path) {old new : ResultSet} {report : DiffReport}
    (compares : machine.Compares invocation oldPath newPath
      (Machine.chosenKeys compareKey uniqueKeys) tableName old new report)
    (oldReport : machine.CanReport (diff old new).old report.message)
    (newReport : machine.CanReport (diff old new).new report.message)
    (proper : ∀ key, old.matchingKey = .ok key → ∀ row ∈ old.rows ++ new.rows, key.AvoidsNaN row) :
    run machine arguments = .ok ⟨0, "", "",
        machine.folder.put path (Report.document (diff old new).new report.message)⟩ ∧
      ShowsNewMarks old new report (Report.documentData (diff old new).new report.message) ∧
      ∀ key, old.matchingKey = .ok key → ∀ row ∈ old.rows ++ new.rows,
        (RowKey.ofRow key row).same (.ofRow key row) = true := by
  refine ⟨?_, showsNewMarks compares.reported compares.compared, fun key chosen row inside =>
    compares.same_self chosen inside (proper key chosen row inside)⟩
  exact ((run_diff_to_file_iff understood asked named file).2
    ⟨logging, writable, old, new, report, compares, oldReport, newReport, rfl⟩).1

/-! ### A deleted row -/

/-- Two data files: the one row of the old file is not in the new one. -/
def deletedRow : Machine :=
  ⟨.ofFiles [("old.json", "[\x7b\"id\": 1\x7d]"), ("new.json", "[]")], .ok "", [], .all, .standard⟩

/-- The command line that compares them by their numbers and reports to a file. -/
def compareByNumber : List String :=
  ["diff", "--old", "old.json", "--new", "new.json", "--compare-key", "id", "--output-type", "json",
    "--output-destination", "out.json"]

/-- What this command line asks for. -/
def comparisonByNumber : Invocation :=
  ⟨none, none, false, false,
    .diff "old.json" "new.json" (some "id") [] none ⟨.json, some "out.json"⟩⟩

theorem read_compareByNumber : Invocation.read compareByNumber = .ok comparisonByNumber :=
  eq_ok_of_toOption (by decide +kernel)

/-- What is said about the comparison. -/
def oneDeleted : DiffReport := ⟨true, 0, 1, 0, "Inserted:0, Deleted:1, Updated:0"⟩

/-- What is known of the comparison of the two files. -/
structure FindsDeletion (old new : ResultSet) : Prop where
  compares : deletedRow.Compares comparisonByNumber "old.json" "new.json"
    (Machine.chosenKeys (some "id") []) none old new oneDeleted
  marks : (diff old new).old.allMarks.map Mark.kind = [.deleted]
  rows : (diff old new).new.rows = []
  plain : (diff old new).new.IsPlain
  oldReport : deletedRow.CanReport (diff old new).old oneDeleted.message
  newReport : deletedRow.CanReport (diff old new).new oneDeleted.message
  whole : (Report.documentData (diff old new).new oneDeleted.message).IsWhole
  key : old.matchingKey = .ok (.composite .custom ["id"])

/-- What is computed of the comparison. -/
def isDeletion (old new : ResultSet) (report : DiffReport) : Bool :=
  decide (report = oneDeleted ∧ (diff old new).old.allMarks.map Mark.kind = [.deleted] ∧
    old.matchingKey.toOption = some (.composite .custom ["id"])) &&
  decide ((diff old new).new.rows.isEmpty ∧ (diff old new).new.origin.tableRule.isNone ∧
    (diff old new).new.conditions.isNone) &&
  decide (deletedRow.CanReport (diff old new).old oneDeleted.message ∧
    deletedRow.CanReport (diff old new).new oneDeleted.message ∧
    (Report.documentData (diff old new).new oneDeleted.message).IsWhole)

/-- The comparison of the two files finds the deletion of their one row. -/
theorem exists_findsDeletion : ∃ old new, FindsDeletion old new := by
  have found : ((deletedRow.data "old.json" { Provenance.unknown with
        connectionName := some "default", compareKeys := some (Machine.chosenKeys (some "id") []) }
      ).toOption.any fun old =>
        (deletedRow.data "new.json" { Provenance.unknown with
          connectionName := some "default" }).toOption.any fun new =>
          (diff old new).report.toOption.any (isDeletion old new)) = true := by
    decide +kernel
  obtain ⟨old, oldLoaded, found⟩ := (Option.any_eq_true _ _).1 found
  obtain ⟨new, newLoaded, found⟩ := (Option.any_eq_true _ _).1 found
  obtain ⟨report, reported, same⟩ := (Option.any_eq_true _ _).1 found
  unfold isDeletion at same
  rw [Bool.and_eq_true, Bool.and_eq_true, decide_eq_true_eq, decide_eq_true_eq, decide_eq_true_eq]
    at same
  obtain ⟨⟨⟨rfl, marks, key⟩, rows, rule, conditions⟩, oldReport, newReport, whole⟩ := same
  have compares : deletedRow.Compares comparisonByNumber "old.json" "new.json"
      (Machine.chosenKeys (some "id") []) none old new oneDeleted :=
    ⟨⟨Machine.standardConnection, rfl, eq_ok_of_toOption oldLoaded, eq_ok_of_toOption newLoaded⟩,
      eq_ok_of_toOption reported, rfl⟩
  have rows := List.isEmpty_iff.1 rows
  have plain : (diff old new).new.IsPlain :=
    ⟨by simp [rows], by simp [rows], by simp [Option.isNone_iff_eq_none.1 rule],
      by simp [Option.isNone_iff_eq_none.1 conditions]⟩
  exact ⟨old, new, compares, marks, rows, plain, oldReport, newReport, whole, eq_ok_of_toOption key⟩

theorem canWrite_deletedRow : deletedRow.folder.CanWrite "out.json" := by decide +kernel

/-- The file is left without the deletion that was found. -/
theorem run_diff_loses_old_marks_of_deleted_row :
    ∃ old new,
      run deletedRow compareByNumber = .ok ⟨0, "", "",
        deletedRow.folder.put "out.json" (Report.document (diff old new).new oneDeleted.message)⟩ ∧
      ShowsNewMarks old new oneDeleted
        (Report.documentData (diff old new).new oneDeleted.message) := by
  obtain ⟨old, new, finds⟩ := exists_findsDeletion
  have proper (key : CompareKey) (chosen : old.matchingKey = .ok key) (row : Row)
      (_ : row ∈ old.rows ++ new.rows) : key.AvoidsNaN row := by
    obtain rfl := Except.ok.inj (chosen.symm.trans finds.key)
    exact nofun
  obtain ⟨ran, shows, -⟩ := run_diff_loses_old_marks read_compareByNumber rfl (by decide)
    (by decide) rfl canWrite_deletedRow finds.compares finds.oldReport finds.newReport proper
  exact ⟨old, new, ran, shows⟩

/-- **A deletion is counted and lost**: the comparison ends well and puts a deletion on the old set,
and the document that can be read from the file shows no mark at all. -/
theorem run_diff_drops_deletion :
    ∃ old new outcome content document,
      deletedRow.Compares comparisonByNumber "old.json" "new.json"
        (Machine.chosenKeys (some "id") []) none old new oneDeleted ∧
      (diff old new).old.allMarks.map Mark.kind = [.deleted] ∧
      run deletedRow compareByNumber = .ok outcome ∧ outcome.status = 0 ∧
      outcome.folder.files.lookup "out.json" = some content ∧ Json.read content = .ok document ∧
      Report.shownMarks document = [] := by
  obtain ⟨old, new, finds⟩ := exists_findsDeletion
  obtain ⟨ran, -⟩ := (run_diff_to_file_iff read_compareByNumber rfl (by decide) (by decide)).2
    ⟨rfl, canWrite_deletedRow, old, new, _, finds.compares, finds.oldReport, finds.newReport, rfl⟩
  have unmarked : (diff old new).new.allMarks = [] := by
    rw [ResultSet.allMarks, finds.rows, List.flatMap_nil]
  refine ⟨old, new, _, _, _, finds.compares, finds.marks, ran, rfl, Folder.lookup_put ..,
    Report.read_document finds.plain finds.whole, ?_⟩
  rw [Report.shownMarks_documentData, unmarked, List.map_nil]

end Cli

end QueryDesk
