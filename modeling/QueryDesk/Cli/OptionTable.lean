/-
**The options of a command, and what the words of a command line are.**

* `OptionSpec`, `OptionTable` — an option with its names, and the options a command knows.
* `classify` — the words of a command line by what they are: options by their full names or by the
  beginning of one, options nobody knows, and plain words. A word `--` makes all words after it
  plain. The beginning of several names is refused.
-/

import QueryDesk.Text.Basic
import QueryDesk.Text.Quoted

namespace QueryDesk.Cli

/-- What an option is for. -/
inductive OptionKind where
  /-- It asks for help. -/
  | help
  /-- It is given or not. -/
  | flag
  /-- It has a value; `complaint` tells what is wrong with one. -/
  | value (complaint : String → Option String)

/-- An option: the names it can be given by, the one that stands for it last, what it is for, and
whether it has to be given. -/
structure OptionSpec where
  names : List String
  kind : OptionKind
  isRequired : Bool

namespace OptionSpec

/-- The names of an option in a message. -/
def label (option : OptionSpec) : String := "/".intercalate option.names

/-- The name that stands for an option. -/
def key (option : OptionSpec) : String := option.names.getLast?.getD ""

/-- A complaint about an option. -/
def complaint (option : OptionSpec) (problem : String) : String :=
  "argument " ++ option.label ++ ": " ++ problem

end OptionSpec

/-- The option that asks for help. -/
def helpOption : OptionSpec := ⟨["-h", "--help"], .help, false⟩

/-- An option that is given or not. -/
def flagOption (name : String) : OptionSpec := ⟨[name], .flag, false⟩

/-- An option with any value. -/
def valueOption (name : String) : OptionSpec := ⟨[name], .value fun _ => none, false⟩

/-- An option with any value that has to be given. -/
def requiredOption (name : String) : OptionSpec := ⟨[name], .value fun _ => none, true⟩

/-- The complaint about a word that is none of those there are. -/
def choiceComplaint (choices : List String) (word : String) : Option String :=
  if choices.contains word then none
  else some ("invalid choice: " ++ Text.quoted word ++ " (choose from " ++
    ", ".intercalate (choices.map Text.quoted) ++ ")")

/-- An option whose value is one of a few words. -/
def choiceOption (name : String) (choices : List String) : OptionSpec :=
  ⟨[name], .value (choiceComplaint choices), false⟩

/-- The options a command knows. -/
abbrev OptionTable := List OptionSpec

/-- A text that stands in one word with the option it belongs to. -/
inductive Attached where
  /-- Nothing. -/
  | nothing
  /-- A text behind an equals sign. -/
  | assigned (text : String)
  /-- A text right behind a name of one letter. -/
  | trailing (text : String)
deriving DecidableEq, Repr

/-- What a word is. -/
inductive Role where
  /-- An option of the command. -/
  | option (spec : OptionSpec) (attached : Attached)
  /-- An option the command does not have. -/
  | unknownOption
  /-- The word that makes all words after it plain. -/
  | marker
  /-- Any other word. -/
  | plain

/-- A word with what it is. -/
structure Word where
  text : String
  role : Role

namespace OptionTable

/-- The names of all options with the options. -/
def named (table : OptionTable) : List (String × OptionSpec) :=
  table.flatMap fun option => option.names.map fun name => (name, option)

end OptionTable

/-- The text before the first equals sign, and the text behind it if there is one. -/
def cutAssignment (text : String) : String × Option String :=
  let (name, given) := Text.cutAt '=' text.toList
  (String.ofList name, given.map String.ofList)

/-- What is attached by an equals sign, if one is there. -/
def attachedBy (given : Option String) : Attached :=
  match given with
  | some text => .assigned text
  | none => .nothing

/-- The options that a word can be short for, with their names and what is attached. A long name can
be cut short; behind a name of one letter a text can stand. -/
def shortFor (table : OptionTable) (text : String) : List (String × OptionSpec × Attached) :=
  if Text.startsWith text "--" then
    let (start, given) := cutAssignment text
    (table.named.filter fun (name, _) => Text.startsWith name start).map fun (name, option) =>
      (name, option, attachedBy given)
  else
    let name := String.ofList (text.toList.take 2)
    (table.named.filter fun (other, _) => other == name).map fun (other, option) =>
      (other, option, .trailing (String.ofList (text.toList.drop 2)))

/-- Whether a word is a minus sign and a number. -/
def isNegativeNumber (text : String) : Bool :=
  match text.toList with
  | '-' :: rest =>
    let (whole, fraction) := Text.cutAt '.' rest
    match fraction with
    | none => !whole.isEmpty && whole.all Text.isDecimalDigit
    | some digits =>
      whole.all Text.isDecimalDigit && !digits.isEmpty && digits.all Text.isDecimalDigit
  | _ => false

/-- What a word that begins with a minus sign and is no name of an option is. -/
def abbreviationRole (table : OptionTable) (text : String) : Except String Role :=
  match shortFor table text with
  | [(_, option, attached)] => .ok (.option option attached)
  | [] =>
    if isNegativeNumber text || text.toList.contains ' ' then .ok .plain else .ok .unknownOption
  | several =>
    .error ("ambiguous option: " ++ text ++ " could match " ++
      ", ".intercalate (several.map fun (name, _) => name))

/-- What a word is, were it the only one. -/
def roleOf (table : OptionTable) (text : String) : Except String Role :=
  if !Text.startsWith text "-" || text == "-" then .ok .plain
  else
    match table.named.lookup text with
    | some option => .ok (.option option .nothing)
    | none =>
      let (name, given) := cutAssignment text
      match given, table.named.lookup name with
      | some value, some option => .ok (.option option (.assigned value))
      | _, _ => abbreviationRole table text

/-- The words of a command line with what they are. -/
def classify (table : OptionTable) : List String → Except String (List Word)
  | [] => .ok []
  | text :: rest =>
    if text = "--" then .ok (⟨text, .marker⟩ :: rest.map fun other => ⟨other, .plain⟩)
    else do
      let role ← roleOf table text
      let others ← classify table rest
      pure (⟨text, role⟩ :: others)

end QueryDesk.Cli
