/-
**Values of YAML documents.**

* `Scalar.int`, `Scalar.double`, `Scalar.moment` — the values of scalars.
* `Node.value` — the value of a node. The entries of merged mappings come first, and later entries
  take the place of earlier ones with the same key.
* `Yaml.read` — the value of a text that holds one document; a text without one is nothing. Of
  several scalars that cannot be read, the first in the text counts.
-/

import QueryDesk.Yaml.Node
import QueryDesk.Number.Numeral
import QueryDesk.Value.Equality

namespace QueryDesk.Yaml

/-! ### Scalars -/

namespace Scalar

/-- The text without the underscores that group digits. -/
def ungrouped (text : String) : List Char := text.toList.filter (· ≠ '_')

/-- A number in a base, or why it is none. -/
def inBase (base : Nat) (digits : List Char) : Except Failure Int :=
  let values := digits.mapM fun c => (Text.hexValue? c).filter (· < base)
  match values with
  | some (first :: rest) =>
    .ok (Int.ofNat ((first :: rest).foldl (fun sum digit => sum * base + digit) 0))
  | _ =>
    let literal := Text.quoted (String.ofList digits)
    .error (.unreadableScalar
      ("invalid literal for int() with base " ++ toString base ++ ": " ++ literal))

/-- A number in base ten, which has a largest length. -/
def inBaseTen (digits : List Char) : Except Failure Int :=
  if Numeral.maxDigits < digits.length then .error (.tooManyDigits (some digits.length))
  else inBase 10 digits

/-- A whole number, in the base that its beginning tells. -/
def int (text : String) : Except Failure Int := do
  let (negative, digits) := Numeral.splitSign (ungrouped text)
  let size ← match digits with
    | [] => .error (.outOfRange "string")
    | ['0'] => pure 0
    | '0' :: 'b' :: rest => inBase 2 rest
    | '0' :: 'x' :: rest => inBase 16 rest
    | '0' :: _ => inBase 8 digits
    | _ =>
      let parts := Text.splitOnChar ':' digits
      parts.foldlM (fun sum part => (inBaseTen part).map fun number => sum * 60 + number) 0
  return if negative then -size else size

/-- The sum of doubles, with one rounding. -/
def plus (left right : Binary64) : Binary64 :=
  match left.toRat?, right.toRat? with
  | some left, some right => .ofRat (left + right)
  | _, _ => .infinite false

/-- The product of two doubles, with one rounding. -/
def times (left right : Binary64) : Binary64 :=
  match left.toRat?, right.toRat? with
  | some left, some right => .ofRat (left * right)
  | _, _ => left

/-- The sum of parts in base sixty, from the last to the first; the value of a
place can be out of reach. -/
def inBaseSixty (sum : Binary64) (place : Nat) : List Binary64 → Except Failure Binary64
  | [] => .ok sum
  | digit :: rest =>
    let factor := Binary64.ofInt place
    if factor.isFinite then inBaseSixty (plus sum (times digit factor)) (place * 60) rest
    else .error (.value .doubleOverflow)

/-- A double; parts between colons count in base sixty, from the last to the first. -/
def double (text : String) : Except Failure Binary64 := do
  if (ungrouped text).isEmpty then throw (.outOfRange "string")
  let (negative, digits) := Numeral.splitSign (ungrouped text)
  let word := (String.ofList digits).toLower
  let part (digits : List Char) : Except Failure Binary64 :=
    match Numeral.scientific? digits with
    | some number => .ok number.toDouble
    | none => .error (.unreadableScalar ("could not convert string to float: " ++
        Text.quoted (String.ofList digits)))
  let size ← match word with
    | ".inf" => pure (.infinite false)
    | ".nan" => pure .nan
    | _ =>
      match Text.splitOnChar ':' digits with
      | [single] => part single
      | parts => do inBaseSixty (Binary64.signedZero false) 1 (← parts.reverse.mapM part)
  return if negative then size.neg else size

/-- A date or a point in time. -/
def moment (text : String) : Except Failure Value := do
  let some parts := momentParts? text.toList | .error (.yaml .constructor)
  let date : Date := ⟨parts.year, parts.month, parts.day⟩
  let fail (message : String) : Except Failure Unit := .error (.unreadableScalar message)
  if parts.year = 0 then fail "year 0 is out of range"
  if parts.month = 0 ∨ 12 < parts.month then fail "month must be in 1..12"
  if !date.isValid then fail "day is out of range for month"
  match parts.clock with
  | none => return .date date
  | some (hour, minute, second) =>
    if 23 < hour then fail "hour must be in 0..23"
    if 59 < minute then fail "minute must be in 0..59"
    if 59 < second then fail "second must be in 0..59"
    let digits := (parts.fraction ++ List.replicate 6 '0').take 6
    let offset := parts.offset.map fun (negative, hours, minutes) =>
      let size : Int := (hours * 60 + minutes : Nat) * 60000000
      if negative then -size else size
    return .datetime ⟨date, ⟨hour, minute, second, Text.readDigits digits, offset⟩⟩

end Scalar

/-- The value of a scalar. -/
def scalarValue (kind : Tag) (text : String) : Except Failure Value :=
  match kind with
  | .null => .ok .null
  | .bool =>
    match Tag.truthWords.lookup text.toLower with
    | some truth => .ok (.bool truth)
    | none => .error (.unknownKey text.toLower)
  | .int => (Scalar.int text).map .int
  | .float => (Scalar.double text).map .double
  | .timestamp => Scalar.moment text
  | .text => .ok (.text text)
  | _ => .error (.yaml .constructor)

/-! ### Nodes -/

/-- A value as the key of a mapping. -/
def keyValue (value : Value) : Except Failure Value :=
  match Value.checkKey value with
  | .ok () => .ok value
  | .error _ => .error (.yaml .constructor)

/-- The entries of a mapping: those merged into it, and its own. -/
structure Entries where
  merged : List (Value × Value)
  own : List (Value × Value)

/-- All entries, those that are merged first. -/
def Entries.all (entries : Entries) : List (Value × Value) := entries.merged ++ entries.own

mutual

/-- The value of a node. -/
def Node.value : Node → Except Failure Value
  | .scalar kind text => scalarValue kind text
  | .sequence kind items =>
    match kind with
    | .sequence => (valuesOf items).map .list
    | _ => .error (.yaml .constructor)
  | .mapping kind entries => do
    let found ← entriesOf entries
    match kind, Value.dictOf found.all with
    | .mapping, dict => pure dict
    | .set, .dict entries => pure (.set (entries.map Prod.fst))
    | _, _ => .error (.yaml .constructor)

/-- The values of nodes. -/
def valuesOf : List Node → Except Failure (List Value)
  | [] => .ok []
  | node :: rest => do return (← node.value) :: (← valuesOf rest)

/-- The entries of a mapping. -/
def entriesOf : List (Node × Node) → Except Failure Entries
  | [] => .ok ⟨[], []⟩
  | (.scalar .merge _, content) :: rest => do
    let merged ← mergedOf content
    let others ← entriesOf rest
    pure ⟨merged ++ others.merged, others.own⟩
  | (.scalar .value text, content) :: rest => do
    let value ← content.value
    let others ← entriesOf rest
    pure ⟨others.merged, (.text text, value) :: others.own⟩
  | (key, content) :: rest => do
    let key ← keyValue (← key.value)
    let value ← content.value
    let others ← entriesOf rest
    pure ⟨others.merged, (key, value) :: others.own⟩

/-- The entries of a mapping, or of a list of them, that are merged. -/
def mergedOf : Node → Except Failure (List (Value × Value))
  | .mapping _ entries => (entriesOf entries).map Entries.all
  | .sequence _ items => mergedOfAll items
  | .scalar .. => .error (.yaml .constructor)

/-- The entries of mappings that are merged; the first mapping wins, so it comes last. -/
def mergedOfAll : List Node → Except Failure (List (Value × Value))
  | [] => .ok []
  | .mapping _ entries :: rest => do
    let first ← entriesOf entries
    return (← mergedOfAll rest) ++ first.all
  | _ :: _ => .error (.yaml .constructor)

end

/-! ### Documents -/

/-- The value of a text. -/
def read (text : String) : Except Failure Value := do
  let chars := text.toList
  if !chars.all isAllowed then .error (.yaml .reader)
  else
    let (found, fault) := tokens chars
    match Node.ofTokens? found (fault.getD .parser) with
    | .error fault => .error (.yaml fault)
    | .ok none => pure .null
    | .ok (some node) => node.value

end QueryDesk.Yaml
