/-
**When the program ends cleanly.**

A command line that is refused ends with status two, and one that is understood with status zero or
one, unless a failure passes through the program.

* `Machine.Breaks` — what passes: a failure to set up logging, and what passes through the reading
  of the connection setting and the command.
* `run_ends_cleanly_iff` — **the program ends with status zero, one or two, exactly when nothing
  breaks.**
* `run_passes_malformed_yaml` — a definition file that is malformed YAML is not reported.
-/

import QueryDesk.Proofs.Program.CommandFailures

namespace QueryDesk.Cli

namespace Machine

variable (machine : Machine)

/-! ### Command lines -/

/-- What passes through a command. -/
def CommandBreaks (connection : Connection) : Command → Prop
  | .normalize sql binds => machine.NormalizeBreaks sql binds
  | .compile conditions columns => machine.CompileBreaks connection conditions columns
  | .diff old new compareKey uniqueKeys tableName output =>
    machine.DiffBreaks connection old new (chosenKeys compareKey uniqueKeys) tableName output
  | .validate dataFile ruleFile output => machine.ValidateBreaks connection dataFile ruleFile output

/-- What passes through the program. -/
inductive Breaks (invocation : Invocation) : Prop
  /-- An option or the surroundings name a file that does not set up logging. -/
  | logging {path : String} {failure : Failure}
      (named : LogConfig.path? invocation.logConfig
        (machine.environment.lookup LogConfig.variableName) = some path)
      (refused : LogConfig.check machine.library machine.folder path = .error failure)
  /-- The file with the connection setting breaks. -/
  | connection {path : String} (logging : checkLogging machine invocation = .ok ())
      (named : Text.nonEmpty? invocation.connectionConfig = some path)
      (breaks : machine.DefinitionBreaks path)
  /-- The command breaks. -/
  | command {connection : Connection} (logging : checkLogging machine invocation = .ok ())
      (connected : machine.connection invocation = .ok connection)
      (breaks : machine.CommandBreaks connection invocation.command)

theorem checkLogging_eq_error_iff (invocation : Invocation) (failure : Failure) :
    checkLogging machine invocation = .error failure ↔ ∃ path,
      LogConfig.path? invocation.logConfig (machine.environment.lookup LogConfig.variableName) =
        some path ∧
        LogConfig.check machine.library machine.folder path = .error failure := by
  unfold checkLogging
  cases LogConfig.path? invocation.logConfig
    (machine.environment.lookup LogConfig.variableName) <;> simp

theorem connection_eq {invocation : Invocation} {path : String}
    (named : Text.nonEmpty? invocation.connectionConfig = some path) :
    machine.connection invocation = machine.definition path >>= (fun document =>
        (Connection.reading (if document.isTruthy then document else .record [])).orElseFail
          fun issues => .invalidConnection path issues.length) >>= fun setting =>
      pure { setting with
        positioned := setting.positioned || invocation.positioned
        quote := setting.quote || invocation.quote } := by
  simp only [connection, named, definition, Definition.connection, bind_assoc]

/-- **The connection setting** is not read, without this being reported, exactly when its file
breaks. -/
theorem escapes_connection_iff (invocation : Invocation) : Escapes (machine.connection invocation) ↔
    ∃ path, Text.nonEmpty? invocation.connectionConfig = some path ∧
      machine.DefinitionBreaks path := by
  cases named : Text.nonEmpty? invocation.connectionConfig with
  | none =>
    simp only [connection, named]
    exact iff_of_false (not_escapes_pure _) nofun
  | some path =>
    rw [machine.connection_eq named,
      machine.escapes_definition_then_iff path fun _ => not_escapes_orElseFail (fun _ => rfl) _]
    constructor
    · rintro (breaks | ⟨_, -, impossible⟩)
      · exact ⟨path, rfl, breaks⟩
      · exact (not_escapes_pure _ impossible).elim
    · rintro ⟨_, same, breaks⟩
      exact .inl (Option.some.inj same ▸ breaks)

/-- A command passes a failure exactly when it breaks. -/
theorem escapes_perform_iff (invocation : Invocation) :
    Escapes (machine.perform invocation >>= fun task => task.outcome machine) ↔
      Escapes (machine.connection invocation) ∨ ∃ connection,
        machine.connection invocation = .ok connection ∧
        machine.CommandBreaks connection invocation.command := by
  rw [perform, bind_assoc, escapes_bind_iff]
  refine or_congr_right (exists_congr fun connection => and_congr_right fun _ => ?_)
  cases invocation.command <;> dsimp only [CommandBreaks]
  case normalize sql binds => exact machine.escapes_normalize_iff connection sql binds
  case compile conditions columns => exact machine.escapes_compile_iff connection conditions columns
  case diff old new compareKey uniqueKeys tableName output =>
    exact machine.escapes_diff_iff connection old new
      (chosenKeys compareKey uniqueKeys) tableName output
  case validate dataFile ruleFile output =>
    exact machine.escapes_validate_iff connection dataFile ruleFile output

/-- A command that is carried out ends with status zero or one. -/
theorem status_of_perform {invocation : Invocation} {task : Task}
    (performed : machine.perform invocation = .ok task) : task.status ≤ 1 := by
  obtain ⟨connection, -, performed⟩ := bind_eq_ok_iff.1 performed
  cases asked : invocation.command with
  | normalize sql binds =>
    simp only [asked, normalize, bind_eq_ok_iff] at performed
    obtain ⟨_, -, _, -, _, -, same⟩ := performed
    cases same
    exact Nat.zero_le 1
  | compile conditions columns =>
    simp only [asked, compile, bind_eq_ok_iff] at performed
    obtain ⟨_, -, _, -, _, -, same⟩ := performed
    cases same
    exact Nat.zero_le 1
  | diff old new compareKey uniqueKeys tableName output =>
    simp only [asked, diff, bind_eq_ok_iff] at performed
    obtain ⟨_, -, _, -, report, -, same⟩ := performed
    cases compared : report.ok <;> rw [compared] at same <;> cases same
    · exact Nat.le_refl 1
    · exact Nat.zero_le 1
  | validate dataFile ruleFile output =>
    simp only [asked, validate, bind_eq_ok_iff] at performed
    obtain ⟨_, -, _, -, _, -, verdict, -, same⟩ := performed
    cases same
    cases verdict
    · exact Nat.le_refl 1
    · exact Nat.zero_le 1

end Machine

/-! ### Ends -/

theorem unreported_of_failed {printed : String} {folder : Folder} {failure other : Failure}
    (ended : failed printed folder failure = .error other) : failure.isReported = false := by
  unfold failed at ended
  split at ended
  · cases ended
  · exact Bool.eq_false_iff.2 ‹_›

/-- A task of status zero or one that ends does so with status zero or one. -/
theorem Task.status_of_outcome {task : Task} (small : task.status ≤ 1) {machine : Machine}
    {outcome : Outcome} (ended : task.outcome machine = .ok outcome) : outcome.status ≤ 1 := by
  unfold Task.outcome at ended
  dsimp only at ended
  split at ended
  · exact (status_of_failed ended).le
  · obtain rfl := Except.ok.inj ended
    exact small

/-- A task passes no failure that is reported. -/
theorem Task.escapes_of_outcome {task : Task} {machine : Machine} {failure : Failure}
    (ended : task.outcome machine = .error failure) : Escapes (task.outcome machine) := by
  rw [Task.escapes_outcome_iff]
  unfold Task.outcome at ended
  dsimp only at ended
  split at ended
  · exact ⟨_, ‹_›, unreported_of_failed ended⟩
  · cases ended

/-- What is done once logging is set up ends cleanly, unless a failure passes. -/
theorem ends_iff (machine : Machine) {performed : Except Failure Task}
    (small : ∀ task, performed = .ok task → task.status ≤ 1) :
    (∃ outcome, (match performed with
        | .error failure => failed "" machine.folder failure
        | .ok task => task.outcome machine) = .ok outcome ∧ outcome.status ≤ 2) ↔
      ¬ Escapes (performed >>= fun task => task.outcome machine) := by
  cases performed with
  | error failure =>
    show _ ↔ ¬ Escapes (.error failure)
    rw [escapes_error_iff]
    cases reported : failure.isReported <;> simp [failed, reported]
  | ok task =>
    show (∃ outcome, task.outcome machine = .ok outcome ∧ _) ↔ ¬ Escapes (task.outcome machine)
    cases ended : task.outcome machine with
    | ok outcome => simpa using (Task.status_of_outcome (small task rfl) ended).trans one_le_two
    | error failure => simpa [ended] using Task.escapes_of_outcome ended

theorem Refusal.status_of_outcome (refusal : Refusal) (folder : Folder) :
    (refusal.outcome folder).status ≤ 2 := by
  unfold outcome
  split
  · exact Nat.zero_le 2
  · exact Nat.le_refl 2

/-- Something is claimed of all values that the check of a command works with.
Other commands check nothing. -/
def Machine.ChecksOnly (machine : Machine) (claim : Value → Prop) (connection : Connection) :
    Command → Prop
  | .validate dataFile ruleFile _ => ∀ rule set, machine.tableRule ruleFile = .ok rule →
      machine.data dataFile (Machine.originFor connection (some rule.table)) = .ok set →
        ∀ value, set.ChecksValue rule value → claim value
  | _ => True

theorem Machine.ChecksOnly.mono {machine : Machine} {claim weaker : Value → Prop}
    {connection : Connection} {command : Command}
    (all : machine.ChecksOnly claim connection command)
    (implied : ∀ value, claim value → weaker value) :
    machine.ChecksOnly weaker connection command := by
  cases command with
  | validate dataFile ruleFile output =>
    exact fun rule set read loaded value works =>
      implied value (all rule set read loaded value works)
  | _ => trivial

/-- Whatever a container holds equals itself. -/
def EqualInside (value : Value) : Prop :=
  ∀ inner : Value, inner.Within value → inner.HasSingleKeys → inner.equal inner = .ok true

/-- **When the program ends cleanly**: with status zero, one or two, exactly when nothing breaks
that its command line asks for. Otherwise a failure passes through it.

No container among the values that are checked holds a not-a-number. A search that first
asks whether an element is the very object that is sought would find such a number, which
equals nothing; everything else that the containers hold equals itself, so for these
values there is no difference. -/
theorem run_ends_cleanly_iff (machine : Machine) (arguments : List String)
    (proper : ∀ invocation connection, Invocation.read arguments = .ok invocation →
      machine.connection invocation = .ok connection →
        machine.ChecksOnly (fun value => ¬ value.HoldsNaN) connection invocation.command) :
    ((∃ outcome, run machine arguments = .ok outcome ∧ outcome.status ≤ 2) ↔
      ∀ invocation, Invocation.read arguments = .ok invocation → ¬ machine.Breaks invocation) ∧
    ∀ invocation connection, Invocation.read arguments = .ok invocation →
      machine.connection invocation = .ok connection →
        machine.ChecksOnly EqualInside connection invocation.command := by
  refine ⟨?_, fun invocation connection understood connected =>
    (proper invocation connection understood connected).mono fun value free inner held =>
      inner.equal_self (Value.isNaNFree_of_within held free)⟩
  cases understood : Invocation.read arguments with
  | error refusal =>
    rw [run, understood]
    refine iff_of_true ⟨_, rfl, refusal.status_of_outcome machine.folder⟩ ?_
    rintro _ impossible
    cases impossible
  | ok invocation =>
    rw [run_of_read understood]
    cases logging : checkLogging machine invocation with
    | error failure =>
      obtain ⟨path, named, refused⟩ :=
        (machine.checkLogging_eq_error_iff invocation failure).1 logging
      refine iff_of_false ?_ fun clean => clean invocation rfl (.logging named refused)
      rintro ⟨_, impossible, -⟩
      cases impossible
    | ok =>
      refine (ends_iff machine fun _ => machine.status_of_perform).trans ?_
      rw [machine.escapes_perform_iff, machine.escapes_connection_iff]
      constructor
      · rintro clean _ same breaks
        obtain rfl := Except.ok.inj same
        cases breaks with
        | logging named refused =>
          rw [(machine.checkLogging_eq_error_iff invocation _).2 ⟨_, named, refused⟩] at logging
          cases logging
        | connection _ named breaks => exact clean (.inl ⟨_, named, breaks⟩)
        | command _ connected breaks => exact clean (.inr ⟨_, connected, breaks⟩)
      · rintro clean (⟨path, named, breaks⟩ | ⟨connection, connected, breaks⟩)
        · exact clean invocation rfl (.connection logging named breaks)
        · exact clean invocation rfl (.command logging connected breaks)

/-! ### A check that ends -/

/-- A row with a list of numbers, and a table without rules. -/
def listedNumber : Machine :=
  ⟨.ofFiles [("d.json", "[\x7b\"v\": [5, 2.5]\x7d]"),
    ("r.json", "\x7b\"table\": \"t\", \"details\": []\x7d")], .ok "", [], .all, .standard⟩

/-- The command line that checks the row. -/
def checkRow : List String := ["validate", "--data-file", "d.json", "--rule-file", "r.json"]

/-- What this command line asks for. -/
def checkOfRow : Invocation :=
  ⟨none, none, false, false, .validate "d.json" "r.json" ⟨.console, none⟩⟩

theorem read_checkRow : Invocation.read checkRow = .ok checkOfRow :=
  eq_ok_of_toOption (by decide +kernel)

/-- The list of the row holds proper numbers. -/
theorem checksOnly_listedNumber {connection : Connection}
    (connected : listedNumber.connection checkOfRow = .ok connection) :
    listedNumber.ChecksOnly (fun value => ¬ value.HoldsNaN) connection checkOfRow.command := by
  obtain rfl : Machine.standardConnection = connection := Except.ok.inj connected
  intro rule set read loaded value works
  have proper : ((listedNumber.tableRule "r.json").toOption.all fun rule => rule.rules.isEmpty &&
      (listedNumber.data "d.json"
          (Machine.originFor Machine.standardConnection (some rule.table))).toOption.all fun set =>
        set.rows.all fun row => (set.facts row).all fun fact => fact.2.parts.all fun part =>
          part.parts.isEmpty && !part.isNaN) = true := by
    decide +kernel
  rw [read, show (Except.ok rule : Except Failure TableRule).toOption = some rule from rfl,
    Option.all_some, loaded, show (Except.ok set : Except Failure ResultSet).toOption =
    some set from rfl, Option.all_some] at proper
  simp only [Bool.and_eq_true, List.all_eq_true, List.isEmpty_iff, Bool.not_eq_true'] at proper
  cases works with
  | fact inside known => exact Value.not_holdsNaN_of_bare_parts (proper.2 _ inside _ known)
  | leaf inside _ =>
    rw [proper.1] at inside
    cases inside

/-- A check without rules ends, and nothing breaks. -/
theorem run_ends_cleanly_at_listed_number :
    (∀ invocation connection, Invocation.read checkRow = .ok invocation →
      listedNumber.connection invocation = .ok connection →
        listedNumber.ChecksOnly (fun value => ¬ value.HoldsNaN) connection invocation.command) ∧
    (∃ outcome, run listedNumber checkRow = .ok outcome ∧ outcome.status ≤ 2) ∧
      ¬ listedNumber.Breaks checkOfRow := by
  have proper (invocation : Invocation) (connection : Connection)
      (understood : Invocation.read checkRow = .ok invocation)
      (connected : listedNumber.connection invocation = .ok connection) :
      listedNumber.ChecksOnly (fun value => ¬ value.HoldsNaN) connection invocation.command := by
    obtain rfl := Except.ok.inj (read_checkRow.symm.trans understood)
    exact checksOnly_listedNumber connected
  have ended : (run listedNumber checkRow).toOption.any (fun outcome =>
    decide (outcome.status ≤ 2)) = true := by
    decide +kernel
  obtain ⟨outcome, ran, small⟩ := (Option.any_eq_true _ _).1 ended
  have clean : ∃ outcome, run listedNumber checkRow = .ok outcome ∧ outcome.status ≤ 2 :=
    ⟨outcome, eq_ok_of_toOption ran, of_decide_eq_true small⟩
  exact ⟨proper, clean, (run_ends_cleanly_iff listedNumber checkRow proper).1.1 clean _
    read_checkRow⟩

/-! ### Malformed definitions -/

/-- A single file, in which a list has no end. -/
def unclosedList : Machine := ⟨.ofFiles [("c.yaml", "a: [1")], .ok "", [], .all, .standard⟩

/-- **Malformed YAML passes through the program.** -/
theorem run_passes_malformed_yaml :
    run unclosedList ["where", "--conditions", "c.yaml"] = .error (.yaml .parser) :=
  map_eq_error_iff.1 (show Except.map (fun _ => ()) _ = _ by decide +kernel)

end QueryDesk.Cli
