/-
**What a plain scalar is.**

* `Tag` — the kinds of nodes.
* `Tag.ofPlain` — the kind of a scalar without quotes, told from its text: a truth value, a
  double, a whole number, nothing, a point in time, or a text. Whole numbers may be written with
  base 2, 8, 10, 16 or, with colons, 60.
-/

import QueryDesk.Text.Basic

namespace QueryDesk.Yaml

open Text (isAsciiDigit)

/-- A kind of node. -/
inductive Tag where
  | null
  | bool
  | int
  | float
  | timestamp
  | text
  /-- The key whose value is merged into the mapping. -/
  | merge
  /-- The key of the main value of a mapping. -/
  | value
  | sequence
  | mapping
  | set
  /-- A kind that has no values. -/
  | unknown
deriving DecidableEq, Repr

/-! ### Shapes of texts -/

/-- The text behind a sign, if there is one. -/
def dropSign : List Char → List Char
  | '+' :: rest => rest
  | '-' :: rest => rest
  | text => text

/-- Whether a text is not empty and all its characters are of a class. -/
def allOf (inClass : Char → Bool) (text : List Char) : Bool := !text.isEmpty && text.all inClass

/-- Whether a character is a digit or groups digits. -/
def isGrouped (c : Char) : Bool := isAsciiDigit c || c = '_'

/-- Whether a text starts with a digit, and with digits and underscores goes on. -/
def startsDigit (text : List Char) : Bool :=
  (text.head?.any isAsciiDigit) && text.all isGrouped

/-- Whether a text is one or two digits below sixty. -/
def isSixtieth : List Char → Bool
  | [unit] => isAsciiDigit unit
  | [ten, unit] => '0' ≤ ten && ten ≤ '5' && isAsciiDigit unit
  | _ => false

/-- Whether a text is nothing, or an exponent with its sign. -/
def isExponent : List Char → Bool
  | [] => true
  | e :: sign :: digits =>
    (e = 'e' || e = 'E') && (sign = '+' || sign = '-') && allOf isAsciiDigit digits
  | _ => false

/-- Whether a text is a whole number. -/
def isInt (text : List Char) : Bool :=
  let digits := dropSign text
  let startsAboveZero (part : List Char) : Bool :=
    (part.head?.any fun c => c ≠ '0' && isAsciiDigit c) && part.all isGrouped
  match digits with
  | '0' :: 'b' :: rest => allOf (fun c => c = '0' || c = '1' || c = '_') rest
  | '0' :: 'x' :: rest => allOf (fun c => (Text.hexValue? c).isSome || c = '_') rest
  | ['0'] => true
  | '0' :: rest => rest.all fun c => ('0' ≤ c && c ≤ '7') || c = '_'
  | _ =>
    match Text.splitOnChar ':' digits with
    | [whole] => startsAboveZero whole
    | first :: others => startsAboveZero first && others.all isSixtieth
    | [] => false

/-- Whether a text is a number with a point, infinite, or not a number. -/
def isFloat (text : List Char) : Bool :=
  let digits := dropSign text
  let signed := digits.length < text.length
  match Text.cutAt '.' digits with
  | (_, none) => false
  | ([], some rest) =>
    let word := String.ofList rest
    ["inf", "Inf", "INF"].contains word || (!signed && (["nan", "NaN", "NAN"].contains word ||
      ((rest.head?.any isAsciiDigit) && isExponent (rest.dropWhile isGrouped))))
  | (whole, some rest) =>
    match Text.splitOnChar ':' whole with
    | [single] => startsDigit single && isExponent (rest.dropWhile isGrouped)
    | first :: others => startsDigit first && others.all isSixtieth && rest.all isGrouped
    | [] => false

/-! ### Points in time -/

/-- The parts of a point in time: hour, minute and second if there is a time of day, the
digits of the fraction of a second, and the offset from universal time with its sign,
its hours and its minutes. -/
structure MomentParts where
  year : Nat
  month : Nat
  day : Nat
  clock : Option (Nat × Nat × Nat)
  fraction : List Char
  offset : Option (Bool × Nat × Nat)
deriving Repr

/-- One or two digits, or two of them if asked for. -/
def shortNumber? (least : Nat) (text : List Char) : Option (Nat × List Char) :=
  let digits := (text.takeWhile isAsciiDigit).take 2
  if least ≤ digits.length ∧ 0 < digits.length then
    some (Text.readDigits digits, text.drop digits.length)
  else none

/-- The text behind a given character. -/
def behind? (wanted : Char) : List Char → Option (List Char)
  | c :: rest => if c = wanted then some rest else none
  | [] => none

/-- The offset at the end of a point in time. -/
def offsetParts? (text : List Char) : Option (Option (Bool × Nat × Nat)) :=
  match text.dropWhile fun c => c = ' ' || c = '\t' with
  | [] => if text.isEmpty then some none else none
  | ['Z'] => some (some (false, 0, 0))
  | sign :: rest =>
    if sign = '+' || sign = '-' then do
      let (hours, rest) ← shortNumber? 1 rest
      match rest with
      | [] => some (some (sign = '-', hours, 0))
      | ':' :: rest => do
        let (minutes, rest) ← shortNumber? 2 rest
        if rest.isEmpty then some (some (sign = '-', hours, minutes)) else none
      | _ => none
    else none

/-- The parts of a point in time. Without a time of day, month and day have two digits. -/
def momentParts? (text : List Char) : Option MomentParts := do
  let year := text.take 4
  if year.length < 4 ∨ !year.all isAsciiDigit then none
  else
    let afterYear ← behind? '-' (text.drop 4)
    let (month, afterMonth) ← shortNumber? 1 afterYear
    let afterDash ← behind? '-' afterMonth
    let (day, rest) ← shortNumber? 1 afterDash
    let year := Text.readDigits year
    if rest.isEmpty then
      if text.length = 10 then some ⟨year, month, day, none, [], none⟩ else none
    else
      let clock ← match rest with
        | 'T' :: clock => some clock
        | 't' :: clock => some clock
        | ' ' :: _ | '\t' :: _ => some (rest.dropWhile fun c => c = ' ' || c = '\t')
        | _ => none
      let (hour, rest) ← shortNumber? 1 clock
      let (minute, rest) ← shortNumber? 2 (← behind? ':' rest)
      let (second, rest) ← shortNumber? 2 (← behind? ':' rest)
      let (fraction, rest) := match rest with
        | '.' :: digits => (digits.takeWhile isAsciiDigit, digits.dropWhile isAsciiDigit)
        | _ => ([], rest)
      let offset ← offsetParts? rest
      some ⟨year, month, day, some (hour, minute, second), fraction, offset⟩

/-! ### Kinds -/

namespace Tag

/-- The words for truth values, in small letters. -/
def truthWords : List (String × Bool) :=
  [("yes", true), ("true", true), ("on", true), ("no", false), ("false", false), ("off", false)]

/-- Whether a text is a word for a truth value: in small letters, in capitals,
or with one capital. -/
def isTruth (text : String) : Bool :=
  truthWords.any fun (word, _) => text = word || text = word.capitalize || text = word.toUpper

/-- The kind of a plain scalar. -/
def ofPlain (text : String) : Tag :=
  let chars := text.toList
  if isTruth text then .bool
  else if isFloat chars then .float
  else if isInt chars then .int
  else if text = "<<" then .merge
  else if ["", "~", "null", "Null", "NULL"].contains text then .null
  else if (momentParts? chars).isSome then .timestamp
  else if text = "=" then .value
  else .text

/-- The kind that a full tag names. -/
def ofName (name : String) : Tag :=
  match name.dropPrefix? "tag:yaml.org,2002:" with
  | none => .unknown
  | some kind =>
    match kind.toString with
    | "null" => .null
    | "bool" => .bool
    | "int" => .int
    | "float" => .float
    | "timestamp" => .timestamp
    | "str" => .text
    | "seq" => .sequence
    | "map" => .mapping
    | "set" => .set
    | _ => .unknown

end Tag

end QueryDesk.Yaml
