/-
**Files that are written.**

* `Charset.encode_of_whole`, `Charset.whole_of_encode` — pieces are encoded in full exactly when no
  half of a character stands in them.
* `Folder.CanWrite` — nothing keeps a file from being written. It can be written again then
  (`Folder.canWrite_put`), and holds what was written last (`Folder.put_put`).
* `carryOut_write`, `carryOut_write_eq_none_iff` — when a file is written in
  full, and what is left then.
* `Machine.CanReport`, `Machine.carryOut_report_eq_none_iff` — **a set is reported to a file in
  full** exactly when its document can be made and encoded, and the file can be written.
-/

import Mathlib.Data.List.TakeWhile
import QueryDesk.Cli.Commands

namespace QueryDesk.Cli

/-! ### Characters -/

namespace Charset

theorem check_whole_iff (piece : String) :
    whole.check piece = .ok () ↔ Text.isWhole piece = true := by
  have halves : (fun c => whole.holds c) = fun c => !Text.isHalf c := rfl
  unfold check firstUnprintable? Text.isWhole
  rw [← halves, List.all_eq_true, ← List.dropWhile_eq_nil_iff]
  cases piece.toList.dropWhile whole.holds <;> simp

/-- Pieces without halves are encoded in full. -/
theorem encode_of_whole {pieces : List String} (all : ∀ piece ∈ pieces, Text.isWhole piece = true) :
    whole.encode pieces = (String.join pieces, none) := by
  induction pieces with
  | nil => rfl
  | cons piece rest ih =>
    obtain ⟨here, others⟩ := List.forall_mem_cons.1 all
    rw [encode, (check_whole_iff piece).2 here]
    simp only [ih others, String.join_cons]

/-- Only pieces without halves are encoded in full. -/
theorem whole_of_encode {pieces : List String} (done : (whole.encode pieces).2 = none) :
    ∀ piece ∈ pieces, Text.isWhole piece = true := by
  induction pieces with
  | nil => exact nofun
  | cons piece rest ih =>
    rw [encode] at done
    cases checked : whole.check piece with
    | error failure =>
      rw [checked] at done
      cases done
    | ok =>
      rw [checked] at done
      exact List.forall_mem_cons.2 ⟨(check_whole_iff piece).1 checked, ih done⟩

end Charset

/-- A text is whole when its pieces are. -/
theorem isWhole_join_iff {pieces : List String} :
    Text.isWhole (String.join pieces) = true ↔ ∀ piece ∈ pieces, Text.isWhole piece = true := by
  simp only [Text.isWhole, String.toList_join, List.all_flatMap, List.all_eq_true]

/-! ### Folders -/

namespace Folder

/-- Nothing keeps a file from being written. -/
def CanWrite (folder : Folder) (path : String) : Prop := folder.refusal? path = none

instance (folder : Folder) (path : String) : Decidable (folder.CanWrite path) :=
  inferInstanceAs (Decidable (_ = none))

/-- A file that is put twice has the later content. -/
theorem put_put (folder : Folder) (path first second : String) :
    (folder.put path first).put path second = folder.put path second := by
  simp [put, List.filter_filter]

/-- A file that was written can be written again. -/
theorem canWrite_put {folder : Folder} {path : String} (writable : folder.CanWrite path)
    (content : String) : (folder.put path content).CanWrite path := by
  have allowed : folder.unwritable.lookup path = none := by
    unfold CanWrite refusal? at writable
    cases refused : folder.unwritable.lookup path with
    | none => rfl
    | some fault =>
      rw [refused] at writable
      cases writable
  unfold CanWrite refusal?
  rw [lookup_put, show (folder.put path content).unwritable = folder.unwritable from rfl, allowed]

theorem write_of_canWrite {folder : Folder} {path : String} (writable : folder.CanWrite path)
    (content : String) : folder.write path content = .ok (folder.put path content) := by
  rw [write, writable]

end Folder

/-! ### Writing -/

section Writing

variable {charset : Charset} {folder : Folder} {path : String} {pieces : List String}

/-- A file is written in full, and then comes what is left. -/
theorem carryOut_write (writable : folder.CanWrite path)
    (whole : ∀ piece ∈ pieces, Text.isWhole piece = true) (rest : List Effect) :
    carryOut charset folder (.write path pieces :: rest) =
      carryOut charset (folder.put path (String.join pieces)) rest := by
  rw [carryOut, Charset.encode_of_whole whole]
  simp only [Folder.write_of_canWrite writable]

/-- A file is written in full exactly when nothing keeps it from being written and no half of a
character stands in what is written. -/
theorem carryOut_write_eq_none_iff {rest : List Effect} :
    (carryOut charset folder (.write path pieces :: rest)).failure = none ↔
      (folder.CanWrite path ∧ ∀ piece ∈ pieces, Text.isWhole piece = true) ∧
        (carryOut charset (folder.put path (String.join pieces)) rest).failure = none := by
  constructor
  · intro done
    have ready : folder.CanWrite path ∧ ∀ piece ∈ pieces, Text.isWhole piece = true := by
      rw [carryOut] at done
      cases refused : folder.refusal? path with
      | some fault => simp [Folder.write, refused] at done
      | none =>
        refine ⟨refused, Charset.whole_of_encode ?_⟩
        cases stopped : (Charset.whole.encode pieces).2 with
        | none => rfl
        | some failure => simp [Folder.write, refused, stopped] at done
    rw [carryOut_write ready.1 ready.2] at done
    exact ⟨ready, done⟩
  · rintro ⟨⟨writable, whole⟩, done⟩
    rwa [carryOut_write writable whole]

end Writing

/-! ### Reports in files -/

namespace Machine

variable (machine : Machine)

/-- The document on a set can be made and encoded: nothing in the set nests too deep, its numbers
have texts, and no half of a character stands in the document. -/
structure CanReport (set : ResultSet) (summary : String) : Prop where
  shallow : set.isShallow machine.library.nesting = true
  texts : (Report.documentData set summary).hasText = true
  whole : Text.isWhole (Report.document set summary) = true

instance (set : ResultSet) (summary : String) : Decidable (machine.CanReport set summary) :=
  decidable_of_iff (set.isShallow machine.library.nesting = true ∧
      (Report.documentData set summary).hasText = true ∧
      ∀ piece ∈ Report.documentPieces set summary, Text.isWhole piece = true)
    ⟨fun ⟨shallow, texts, whole⟩ => ⟨shallow, texts, isWhole_join_iff.2 whole⟩,
      fun possible => ⟨possible.shallow, possible.texts, isWhole_join_iff.1 possible.whole⟩⟩

variable {machine} {set : ResultSet} {summary path : String}

theorem CanReport.pieces (possible : machine.CanReport set summary) :
    ∀ piece ∈ Report.documentPieces set summary, Text.isWhole piece = true :=
  isWhole_join_iff.1 possible.whole

/-- A path that a report can go to. -/
theorem file?_of_path (named : path ≠ "") (file : path ≠ inputPath) :
    Output.file? ⟨.json, some path⟩ = some path := by
  have given : Text.nonEmpty? (some path) = some path := by
    simp [Text.nonEmpty?, named]
  simp only [Output.file?, given, if_neg file]

/-- A report to a file is one document. -/
theorem report_to_file (named : path ≠ "") (file : path ≠ inputPath)
    (possible : machine.CanReport set summary) :
    machine.report ⟨.json, some path⟩ set summary =
      [.write path (Report.documentPieces set summary)] := by
  have printable : ReportKind.json.canPrint set summary = true := possible.texts
  rw [report, file?_of_path named file, possible.shallow]
  simp [printable]

/-- **A set is reported to a file in full** exactly when its document can be made and encoded,
and the file can be written. -/
theorem carryOut_report_eq_none_iff (named : path ≠ "") (file : path ≠ inputPath)
    {charset : Charset} {folder : Folder} {rest : List Effect} :
    (carryOut charset folder (machine.report ⟨.json, some path⟩ set summary ++ rest)).failure =
      none ↔
      (folder.CanWrite path ∧ machine.CanReport set summary) ∧
        (carryOut charset (folder.put path (Report.document set summary)) rest).failure = none := by
  constructor
  · intro done
    have possible : machine.CanReport set summary := by
      rw [report, file?_of_path named file] at done
      cases shallow : set.isShallow machine.library.nesting with
      | false => simp [shallow, carryOut] at done
      | true =>
        cases texts : ReportKind.json.canPrint set summary with
        | false =>
          simp only [shallow, texts] at done
          cases (carryOut_write_eq_none_iff.1 done).2
        | true =>
          simp only [shallow, texts] at done
          exact ⟨shallow, texts, isWhole_join_iff.2 (carryOut_write_eq_none_iff.1 done).1.2⟩
    rw [report_to_file named file possible] at done
    obtain ⟨⟨writable, -⟩, later⟩ := carryOut_write_eq_none_iff.1 done
    exact ⟨⟨writable, possible⟩, later⟩
  · rintro ⟨⟨writable, possible⟩, later⟩
    rw [report_to_file named file possible]
    exact carryOut_write_eq_none_iff.2 ⟨⟨writable, possible.pieces⟩, later⟩

/-- What a report that can be made leaves in a file. -/
theorem carryOut_report (named : path ≠ "") (file : path ≠ inputPath)
    (possible : machine.CanReport set summary)
    {charset : Charset} {folder : Folder} (writable : folder.CanWrite path) (rest : List Effect) :
    carryOut charset folder (machine.report ⟨.json, some path⟩ set summary ++ rest) =
      carryOut charset (folder.put path (Report.document set summary)) rest := by
  rw [report_to_file named file possible]
  exact carryOut_write writable possible.pieces rest

end Machine

end QueryDesk.Cli
