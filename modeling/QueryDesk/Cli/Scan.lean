/-
**What the words of a command line set.**

* `Settings` — the options that were given, with their values, in order.
* `scanSettings` — goes through the words. An option takes its value from its own word or from the
  plain word behind it. Plain words begin the part that is left to a command, or are left over if no
  command can follow; unknown options are left over.
-/

import QueryDesk.Cli.OptionTable

namespace QueryDesk.Cli

/-- Why a command line is not carried out. -/
inductive Stop where
  /-- It asks for help. -/
  | help
  /-- Something is wrong with it. -/
  | refused (problem : String)
deriving DecidableEq, Repr

/-- The options that were given, by the names that stand for them. Flags have an empty value. -/
abbrev Settings := List (String × String)

namespace Settings

/-- The last value of an option. -/
def value? (settings : Settings) (name : String) : Option String := settings.reverse.lookup name

/-- All values of an option. -/
def values (settings : Settings) (name : String) : List String :=
  (settings.filter fun (other, _) => other == name).map fun (_, value) => value

/-- Whether an option was given. -/
def has (settings : Settings) (name : String) : Bool := (settings.lookup name).isSome

end Settings

/-- What was found in the words of a command line: the options that were given, the words that
belong to nothing, and those from the name of a command on. -/
structure Scanned where
  settings : Settings
  leftOver : List String
  rest : List String
deriving DecidableEq, Repr

namespace Scanned

/-- Nothing found. -/
def nothing : Scanned := ⟨[], [], []⟩

/-- An option in front of what is found. -/
def withSetting (option : OptionSpec) (value : String) (found : Scanned) : Scanned :=
  { found with settings := (option.key, value) :: found.settings }

/-- A word in front of what is left over. -/
def withLeftOver (text : String) (found : Scanned) : Scanned :=
  { found with leftOver := text :: found.leftOver }

end Scanned

/-- Succeeds when an option can have a value. -/
def checkValue (option : OptionSpec) (complaint : String → Option String) (value : String) :
    Except Stop Unit :=
  match complaint value with
  | none => .ok ()
  | some problem => .error (.refused (option.complaint problem))

/-- Succeeds when a text may stand in one word with an option that has no value. Letters behind a
name of one letter are names themselves. -/
def checkAttached (option : OptionSpec) (attached : Attached) : Except Stop Unit :=
  let refused (text : String) : Except Stop Unit :=
    .error (.refused (option.complaint ("ignored explicit argument " ++ Text.quoted text)))
  match attached with
  | .nothing => .ok ()
  | .assigned text => refused text
  | .trailing text => if Text.startsWith text "-" then refused text else .ok ()

/-- Whether plain words begin the part of a command or are left over. -/
inductive PlainWords where
  | beginCommand
  | areLeftOver
deriving DecidableEq, Repr

/-- Goes through the words of a command line. -/
def scanSettings (plainWords : PlainWords) : List Word → Except Stop Scanned
  | [] => .ok .nothing
  | ⟨text, .unknownOption⟩ :: others => (scanSettings plainWords others).map (.withLeftOver text)
  | ⟨text, .plain⟩ :: others =>
    if plainWords = .beginCommand then
      .ok { Scanned.nothing with rest := text :: others.map Word.text }
    else (scanSettings plainWords others).map (.withLeftOver text)
  | ⟨text, .marker⟩ :: others =>
    if plainWords = .beginCommand ∧ !others.isEmpty then
      .ok { Scanned.nothing with rest := text :: others.map Word.text }
    else .ok { Scanned.nothing with leftOver := text :: others.map Word.text }
  | ⟨_, .option spec attached⟩ :: others =>
    match spec.kind, attached, others with
    | .help, _, _ => do
      checkAttached spec attached
      .error .help
    | .flag, _, others => do
      checkAttached spec attached
      (scanSettings plainWords others).map (.withSetting spec "")
    | .value complaint, .nothing, ⟨value, .plain⟩ :: further => do
      checkValue spec complaint value
      (scanSettings plainWords further).map (.withSetting spec value)
    | .value _, .nothing, _ => .error (.refused (spec.complaint "expected one argument"))
    | .value complaint, .assigned value, others
    | .value complaint, .trailing value, others => do
      checkValue spec complaint value
      (scanSettings plainWords others).map (.withSetting spec value)

/-- The words of a command line, or of the part of it that belongs to a command. -/
def scan (table : OptionTable) (plainWords : PlainWords) (texts : List String) :
    Except Stop Scanned :=
  match classify table texts with
  | .error problem => .error (.refused problem)
  | .ok words => scanSettings plainWords words

/-- The required options that were not given. -/
def missingOptions (table : OptionTable) (settings : Settings) : List String :=
  (table.filter fun option => option.isRequired && !settings.has option.key).map OptionSpec.label

/-- Succeeds when nothing is missing. -/
def checkMissing (labels : List String) : Except Stop Unit :=
  if labels.isEmpty then .ok ()
  else .error (.refused ("the following arguments are required: " ++ ", ".intercalate labels))

end QueryDesk.Cli
