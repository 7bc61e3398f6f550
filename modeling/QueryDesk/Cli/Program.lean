/-
**The program as a whole.**

* `Outcome` — the exit status, what is printed and complained about, and the files afterwards.
* `run` — from the surroundings and a command line to the outcome. A command line that is refused
  ends with status 2, a reported failure with status 1; any other failure passes through.
-/

import QueryDesk.Cli.Commands
import QueryDesk.Cli.LogConfig

namespace QueryDesk.Cli

/-- How the program ends: its exit status, what it prints and complains about, and the files. -/
structure Outcome where
  status : Nat
  printed : String
  complaint : String
  folder : Folder
deriving Repr

/-- The text that tells how the program is used. -/
def usage (speaker : String) : String :=
  "usage: " ++ speaker ++ " [options] " ++
    (if speaker = programName then
      "\x7b" ++ ",".intercalate (commandForms.map Prod.fst) ++ "\x7d ...\n" else "\n")

/-- The outcome of a command line that is not carried out. -/
def Refusal.outcome (refusal : Refusal) (folder : Folder) : Outcome :=
  match refusal.reason with
  | .help => ⟨0, usage refusal.speaker, "", folder⟩
  | .refused problem => ⟨2, "", refusal.speaker ++ ": error: " ++ problem ++ "\n", folder⟩

/-- What is complained about when a command fails. -/
def complaintOf (failure : Failure) : String := "Error: " ++ failure.message ++ "\n"

/-- The outcome of what was done before a failure, if failures of this kind are reported. -/
def failed (printed : String) (folder : Folder) (failure : Failure) : Except Failure Outcome :=
  if failure.isReported then .ok ⟨1, printed, complaintOf failure, folder⟩ else .error failure

/-- The outcome of a task. -/
def Task.outcome (task : Task) (machine : Machine) : Except Failure Outcome :=
  let aftermath := carryOut machine.charset machine.folder task.effects
  match aftermath.failure with
  | some failure => failed aftermath.printed aftermath.folder failure
  | none => .ok ⟨task.status, aftermath.printed, "", aftermath.folder⟩

/-- Succeeds when the file that sets up logging, if there is one, can be used. -/
def checkLogging (machine : Machine) (invocation : Invocation) : Except Failure Unit :=
  match LogConfig.path? invocation.logConfig
    (machine.environment.lookup LogConfig.variableName) with
  | none => .ok ()
  | some path => LogConfig.check machine.library machine.folder path

/-- Runs the program. -/
def run (machine : Machine) (arguments : List String) : Except Failure Outcome :=
  match Invocation.read arguments with
  | .error refusal => .ok (refusal.outcome machine.folder)
  | .ok invocation => do
    checkLogging machine invocation
    match machine.perform invocation with
    | .error failure => failed "" machine.folder failure
    | .ok task => task.outcome machine

end QueryDesk.Cli
