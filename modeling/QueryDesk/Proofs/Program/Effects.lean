/-
**When effects fail with a failure that is not reported.**

* `Folder.Refuses` — the system refuses to write a file in a way that is not reported.
* `Effect.IsSent`, `not_effectsEscape_of_sent` — effects that print, write to one place or stop with
  a failure that is reported; by induction on them, only that place can be refused.
* `Machine.Blocks`, `Machine.effectsEscape_reports_iff` — **of the effects of a command only the
  writing of a report** can be refused in this way.
* `effectsEscape_printDocument_iff` — a document is not printed when it stops at
  a key that cannot be written.
* `Task.escapes_outcome_iff`, `run_of_read` — a task ends as its effects do, and
  a program as its task.
-/

import QueryDesk.Cli.Program
import QueryDesk.Proofs.Json.Data
import QueryDesk.Proofs.Program.Escapes
import QueryDesk.Proofs.Program.Writing

namespace QueryDesk.Cli

/-- Effects fail with a failure that is not reported. -/
def EffectsEscape (charset : Charset) (folder : Folder) (effects : List Effect) : Prop :=
  ∃ failure, (carryOut charset folder effects).failure = some failure ∧ failure.isReported = false

/-! ### Files -/

/-- The system refuses to write a file, and this is not reported. -/
def Folder.Refuses (folder : Folder) (path : String) : Prop :=
  ∃ fault, folder.refusal? path = some fault ∧ fault.isReported = false

theorem Folder.not_refuses_of_canWrite {folder : Folder} {path : String}
    (writable : folder.CanWrite path) : ¬ folder.Refuses path := by
  rintro ⟨fault, refused, -⟩
  rw [writable] at refused
  cases refused

/-- What cannot be encoded is reported. -/
theorem Charset.reported_of_encode {charset : Charset} {pieces : List String} {failure : Failure}
    (stopped : (charset.encode pieces).2 = some failure) : failure.isReported = true := by
  induction pieces with
  | nil => cases stopped
  | cons piece rest ih =>
    rw [encode] at stopped
    cases checked : charset.check piece with
    | error cause =>
      rw [checked] at stopped
      obtain rfl : cause = failure := Option.some.inj stopped
      by_contra unreported
      exact charset.not_escapes_check piece ⟨cause, checked, Bool.eq_false_iff.2 unreported⟩
    | ok =>
      rw [checked] at stopped
      exact ih stopped

/-! ### Effects one by one -/

section Steps

variable {charset : Charset} {folder : Folder} {rest : List Effect}

theorem not_effectsEscape_nil : ¬ EffectsEscape charset folder [] := nofun

theorem effectsEscape_print_iff {piece : String} :
    EffectsEscape charset folder (.print piece :: rest) ↔
    charset.check piece = .ok () ∧ EffectsEscape charset folder rest := by
  unfold EffectsEscape
  rw [carryOut]
  cases checked : charset.check piece with
  | ok => simp [Aftermath.after]
  | error cause =>
    refine iff_of_false ?_ fun printed => ?_
    · rintro ⟨failure, same, unreported⟩
      obtain rfl := Option.some.inj same
      exact charset.not_escapes_check piece ⟨_, checked, unreported⟩
    · cases printed.1

theorem effectsEscape_stop_iff {failure : Failure} :
    EffectsEscape charset folder (.stop failure :: rest) ↔ failure.isReported = false := by
  simp [EffectsEscape, carryOut]

/-- A file is refused, or written in full and something behind it escapes. -/
theorem effectsEscape_write_iff {path : String} {pieces : List String} :
    EffectsEscape charset folder (.write path pieces :: rest) ↔ folder.Refuses path ∨
      folder.CanWrite path ∧ (∀ piece ∈ pieces, Text.isWhole piece = true) ∧
        EffectsEscape charset (folder.put path (String.join pieces)) rest := by
  by_cases writable : folder.CanWrite path
  · rw [or_iff_right (Folder.not_refuses_of_canWrite writable), and_iff_right writable]
    by_cases whole : ∀ piece ∈ pieces, Text.isWhole piece = true
    · rw [and_iff_right whole, EffectsEscape, carryOut_write writable whole, EffectsEscape]
    · refine iff_of_false ?_ fun done => whole done.1
      rintro ⟨failure, failed, unreported⟩
      rw [carryOut] at failed
      cases stopped : (Charset.whole.encode pieces).2 with
      | none => exact whole (Charset.whole_of_encode stopped)
      | some cause =>
        simp only [Folder.write_of_canWrite writable, stopped] at failed
        obtain rfl := Option.some.inj failed
        exact Bool.false_ne_true (unreported.symm.trans (Charset.reported_of_encode stopped))
  · rw [or_iff_left fun later => writable later.1]
    obtain ⟨fault, refused⟩ := Option.ne_none_iff_exists'.1 writable
    rw [EffectsEscape, carryOut]
    simp [Folder.write, Folder.Refuses, refused, Failure.isReported]

end Steps

/-! ### Reports -/

/-- An effect prints, writes to a destination, or stops with a failure that is reported. -/
inductive Effect.IsSent (destination : Option String) : Effect → Prop
  | print (piece : String) : IsSent destination (.print piece)
  | write {path : String} (there : destination = some path) (pieces : List String) :
      IsSent destination (.write path pieces)
  | stop {failure : Failure} (reported : failure.isReported = true) :
      IsSent destination (.stop failure)

/-- Effects only escape when their destination is refused. Once it is written, it is refused no
more. -/
theorem not_effectsEscape_of_sent (charset : Charset) {destination : Option String}
    {effects : List Effect} (sent : ∀ effect ∈ effects, effect.IsSent destination) :
    ∀ {folder : Folder}, (∀ path, destination = some path → ¬ folder.Refuses path) →
        ¬ EffectsEscape charset folder effects := by
  induction effects with
  | nil => exact fun _ => not_effectsEscape_nil
  | cons effect rest ih =>
    intro folder free
    obtain ⟨here, others⟩ := List.forall_mem_cons.1 sent
    cases here with
    | print piece =>
      rw [effectsEscape_print_iff]
      exact fun ⟨_, later⟩ => ih others free later
    | @write path there pieces =>
      rw [effectsEscape_write_iff]
      rintro (refused | ⟨writable, -, later⟩)
      · exact free path there refused
      · refine ih others (fun other same => ?_) later
        obtain rfl := Option.some.inj (there.symm.trans same)
        exact Folder.not_refuses_of_canWrite (Folder.canWrite_put writable _)
    | stop reported =>
      rw [effectsEscape_stop_iff, reported]
      exact nofun

namespace Machine

variable (machine : Machine)

theorem isSent_report (output : Output) (set : ResultSet) (summary : String) :
    ∀ effect ∈ machine.report output set summary, effect.IsSent output.file? := by
  unfold report
  split
  · exact List.forall_mem_singleton.2 (.stop rfl)
  · split
    · exact List.forall_mem_singleton.2 (.write ‹_› _)
    · exact List.forall_mem_cons.2 ⟨.write ‹_› _, List.forall_mem_singleton.2 (.stop rfl)⟩
    · exact List.forall_mem_map.2 fun piece _ => .print piece
    · exact List.forall_mem_singleton.2 (.stop rfl)

theorem isSent_reports (output : Output) (sets : List (ResultSet × String)) :
    ∀ effect ∈ sets.flatMap fun sent => machine.report output sent.1 sent.2,
      effect.IsSent output.file? := by
  intro effect inside
  obtain ⟨sent, -, member⟩ := List.mem_flatMap.1 inside
  exact machine.isSent_report output sent.1 sent.2 effect member

/-- The report of a set is kept from its file: it can be made, and the system
refuses to write the file. -/
def Blocks (output : Output) (set : ResultSet) : Prop :=
  set.isShallow machine.library.nesting = true ∧
    ∃ path, output.file? = some path ∧ machine.folder.Refuses path

/-- A report that goes to a file is a document. -/
theorem kind_of_file? {output : Output} {path : String} (sent : output.file? = some path) :
    output.kind = .json := by
  unfold Output.file? at sent
  split at sent
  · assumption
  · cases sent

/-- **Reports** that go to the same place: only when the first is kept from its
file, this is not reported. -/
theorem effectsEscape_reports_iff (output : Output) (first : ResultSet × String)
    (others : List (ResultSet × String)) :
    EffectsEscape machine.charset machine.folder
        ((first :: others).flatMap fun sent => machine.report output sent.1 sent.2) ↔
      machine.Blocks output first.1 := by
  obtain ⟨set, summary⟩ := first
  constructor
  · intro escapes
    by_contra free
    refine not_effectsEscape_of_sent _ (machine.isSent_reports output _)
      (fun path there refused => free ⟨?_, path, there, refused⟩) escapes
    -- a set that nests too deep stops its report before the file is opened
    by_contra deep
    rw [List.flatMap_cons, report, if_pos ⟨kind_of_file? there, by simpa using deep⟩,
      List.singleton_append, effectsEscape_stop_iff] at escapes
    cases escapes
  · rintro ⟨shallow, path, there, refused⟩
    rw [List.flatMap_cons, report, if_neg (by simp [shallow]), there]
    cases output.kind.canPrint set summary <;> exact effectsEscape_write_iff.2 (.inl refused)

end Machine

theorem Task.escapes_outcome_iff (task : Task) (machine : Machine) :
    Escapes (task.outcome machine) ↔ EffectsEscape machine.charset machine.folder task.effects := by
  unfold Task.outcome EffectsEscape
  dsimp only
  cases (carryOut machine.charset machine.folder task.effects).failure with
  | none => simp
  | some failure => cases reported : failure.isReported <;> simp [failed, reported]

/-! ### The program -/

theorem status_of_failed {printed : String} {folder : Folder} {failure : Failure}
    {outcome : Outcome} (ended : failed printed folder failure = .ok outcome) :
    outcome.status = 1 := by
  unfold failed at ended
  split at ended
  · rw [← Except.ok.inj ended]
  · cases ended

/-- A command line that is understood: logging is set up, and then the command does what it does. -/
theorem run_of_read {machine : Machine} {arguments : List String} {invocation : Invocation}
    (understood : Invocation.read arguments = .ok invocation) :
    run machine arguments = checkLogging machine invocation >>= fun _ =>
      match machine.perform invocation with
      | .error failure => failed "" machine.folder failure
      | .ok task => task.outcome machine := by
  unfold run
  generalize Invocation.read arguments = found at understood ⊢
  subst understood
  rfl

/-! ### Prints -/

theorem isSent_printLine (line : String) : ∀ effect ∈ printLine line, effect.IsSent none :=
  List.forall_mem_cons.2 ⟨.print line, List.forall_mem_singleton.2 (.print "\n")⟩

theorem not_effectsEscape_printLine (charset : Charset) (folder : Folder) (line : String) :
    ¬ EffectsEscape charset folder (printLine line) :=
  not_effectsEscape_of_sent charset (isSent_printLine line) nofun

/-- A line and the feed behind it can be printed. -/
def Charset.Prints (charset : Charset) (line : String) : Prop :=
  charset.check line = .ok () ∧ charset.check "\n" = .ok ()

/-- **A document is not printed**, without this being reported, exactly when it stops at a key. -/
theorem effectsEscape_printDocument_iff (charset : Charset) (folder : Folder) (value : Value) :
    EffectsEscape charset folder (printDocument value) ↔ Json.StopsAtKey value := by
  rw [← Json.refuses_key_iff]
  unfold printDocument Json.RefusesKey
  cases checked : Json.checkWritable value with
  | ok =>
    refine iff_of_false ?_ nofun
    exact not_effectsEscape_printLine charset folder (Json.write .oneLine value)
  | error failure =>
    dsimp only
    rw [effectsEscape_stop_iff]
    rcases Json.failure_of_checkWritable value checked with rfl | ⟨message, rfl⟩
    · exact iff_of_false nofun nofun
    · exact iff_of_true rfl ⟨message, rfl⟩

/-- The effects of a command that prints a line and a document. -/
theorem effectsEscape_lineAndDocument_iff (charset : Charset) (folder : Folder) (line : String)
    (document : Value) : EffectsEscape charset folder (printLine line ++ printDocument document) ↔
      charset.Prints line ∧ Json.StopsAtKey document := by
  unfold printLine
  rw [List.cons_append, List.singleton_append, effectsEscape_print_iff, effectsEscape_print_iff,
    effectsEscape_printDocument_iff, ← and_assoc]
  rfl

end QueryDesk.Cli
