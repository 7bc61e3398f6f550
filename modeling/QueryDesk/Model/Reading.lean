/-
**Lenient readings of single values and records.**

* `Reading.text`, `truth`, `wholeNumber`, `oneOf` — values that are turned into the wanted
  kind where this loses nothing.
* `Reading.items`, `Reading.entries` — the elements of a list, tuple or set, and the
  entries of a dict with text keys.
* `Fields` — the entries of a record; a field is found under the first of its names that is there.
-/

import QueryDesk.Model.Checked
import QueryDesk.Text.Basic

namespace QueryDesk

/-- A way to read a value. -/
abbrev Reading (α : Type) := Value → Checked α

namespace Reading

open Checked

/-- Any value as it is. -/
def anything : Reading Value := .good

/-- A text. -/
def text : Reading String
  | .text content => .good content
  | _ => refuse .stringType

/-- Nothing, or what `read` reads. -/
def optional {α : Type} (read : Reading α) : Reading (Option α)
  | .null => .good none
  | value => map some (read value)

/-- The words for true and false. -/
def truthWord? (word : String) : Option Bool :=
  match String.ofList (word.toList.map Char.toLower) with
  | "1" | "on" | "t" | "true" | "y" | "yes" => some true
  | "0" | "off" | "f" | "false" | "n" | "no" => some false
  | _ => none

/-- One and zero as truth values. -/
def truthOfNumber (number : Int) : Checked Bool :=
  if number = 1 then .good true else if number = 0 then .good false else refuse .boolParsing

/-- A truth value, also as a word or as one or zero. -/
def truth : Reading Bool
  | .bool value => .good value
  | .text word => match truthWord? word with
    | some value => .good value
    | none => refuse .boolParsing
  | .int number => truthOfNumber number
  | .double number => match number.toInt? with
    | some whole => truthOfNumber whole
    | none => refuse .boolType
  | .decimal number => match number.toRat? with
    | some exact => if exact.den = 1 then truthOfNumber exact.num else refuse .boolType
    | none => refuse .boolType
  | _ => refuse .boolType

/-- Leaves out the zeros behind a point. -/
def dropZeroFraction (text : List Char) : List Char :=
  match Text.cutAt '.' text with
  | (whole, some zeros) =>
    if !whole.isEmpty && !zeros.isEmpty && zeros.all (· == '0') then whole else text
  | _ => text

/-- The whole number a text spells: blanks around it, a sign, digits, single underscores between
digits, and zeros behind a point. -/
def wholeNumberOfText (content : String) : Checked Int :=
  let (negative, digits) := Numeral.splitSign (dropZeroFraction (Text.stripChars content.toList))
  match Numeral.joinGroups? none digits with
  | some joined =>
    if joined.isEmpty || !joined.all Text.isAsciiDigit then refuse .intParsing
    else if Numeral.maxDigits < joined.length then refuse .intParsingSize
    else .good (Numeral.signed negative (Text.readDigits joined))
  | none => refuse .intParsing

/-- A whole number, also as a text, a truth value, or a number with nothing behind the point. -/
def wholeNumber : Reading Int
  | .int number => .good number
  | .bool value => .good (if value then 1 else 0)
  | .text content => wholeNumberOfText content
  | .double number =>
    if !number.isFinite then refuse .notFinite
    else match number.toInt? with
      | some whole => .good whole
      | none => refuse .intFromDouble
  | .decimal number => match number.toRat? with
    | some exact => if exact.den = 1 then .good exact.num else refuse .intFromDouble
    | none => refuse .notFinite
  | _ => refuse .intType

/-- One of the words that `ofName?` knows. -/
def oneOf {α : Type} (ofName? : String → Option α) (kind : IssueKind) : Reading α
  | .text word => match ofName? word with
    | some value => .good value
    | none => refuse kind
  | _ => refuse kind

/-- The elements of a list, tuple or set. -/
def items {α : Type} (read : Reading α) : Reading (List α)
  | .list values => eachFrom read 0 values
  | .tuple values => eachFrom read 0 values
  | .set values => eachFrom read 0 values
  | _ => refuse .listType

/-- The text of a key in the place of an issue. -/
def keyPlace : Value → String
  | .text name => name
  | .bool value => if value then "1" else "0"
  | .int number => toString number
  | _ => ""

/-- The entries of a dict with text keys. -/
def entriesOf {α : Type} (read : Reading α) : List (Value × Value) → Checked (List (String × α))
  | [] => .good []
  | (key, value) :: rest =>
    let place := keyPlace key
    let name := under place (under "[key]" (text key))
    let entry := seq (map Prod.mk name) fun _ => under place (read value)
    seq (map List.cons entry) fun _ => entriesOf read rest

/-- A dict with text keys. -/
def entries {α : Type} (read : Reading α) : Reading (List (String × α))
  | .dict found => entriesOf read found
  | _ => refuse .dictType

end Reading

/-- The entries of a record. -/
abbrev Fields := List (Value × Value)

namespace Fields

open Checked

/-- The value under the first of several names that is there, and that name. -/
def find? (fields : Fields) (names : List String) : Option (String × Value) :=
  names.findSome? fun name => (Value.lookup? name fields).map fun value => (name, value)

/-- A field that has to be there. -/
def required {α : Type} (fields : Fields) (names : List String) (read : Reading α) : Checked α :=
  match fields.find? names with
  | some (name, value) => under name (read value)
  | none => under (names.headD "") (refuse .missing)

/-- A field with a value of its own when it is not there. -/
def defaulted {α : Type} (fields : Fields) (names : List String) (absent : α) (read : Reading α) :
    Checked α :=
  match fields.find? names with
  | some (name, value) => under name (read value)
  | none => .good absent

/-- A field that may be nothing, and is when it is not there. -/
def optional {α : Type} (fields : Fields) (names : List String) (read : Reading α) :
    Checked (Option α) :=
  defaulted fields names none (Reading.optional read)

/-- The entries under other names than the given ones; a key that is no text is an issue. -/
def others (known : List String) : Fields → Checked (List (String × Value))
  | [] => .good []
  | (.text name, value) :: rest =>
    if known.contains name then others known rest
    else map ((name, value) :: ·) (others known rest)
  | (key, _) :: rest =>
    seq (map (fun (_ : Unit) found => found) (under (Reading.keyPlace key) (refuse .invalidKey)))
      fun _ => others known rest

/-- Refuses every entry under another name than the given ones. -/
def noOthers (known : List String) : Fields → Checked Unit
  | [] => .good ()
  | (.text name, _) :: rest =>
    if known.contains name then noOthers known rest
    else seq (map (fun (_ : Unit) _ => ()) (under name (refuse .extraForbidden)))
      fun _ => noOthers known rest
  | (key, _) :: rest =>
    seq (map (fun (_ : Unit) _ => ()) (under (Reading.keyPlace key) (refuse .invalidKey)))
      fun _ => noOthers known rest

end Fields

/-- A record, read from its fields. -/
def Reading.record {α : Type} (read : Fields → Checked α) : Reading α
  | .dict fields => read fields
  | _ => Checked.refuse .modelType

end QueryDesk
