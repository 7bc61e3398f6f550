/-
**Condition trees as SQL.**

* `Clause` — the text of a condition, the values of its parameters and the number of the next one.
  Parameters are named `val1`, `val2`, … from a given number on.
* `compileLeaf` — a comparison: the column, the word of its operator and its parameters.
* `compile` — a tree: the comparisons in document order, joined by AND or OR, inner groups in
  parentheses on lines of their own.
-/

import QueryDesk.Sql.Operator
import QueryDesk.Sql.Placeholder
import QueryDesk.Rule.ConditionReading
import QueryDesk.Value.Coercion
import QueryDesk.Json.Reader

namespace QueryDesk.Sql

open Text

/-- The types of columns by their names; the first entry of a name counts. -/
abbrev ColumnTypes := List (String × ColumnType)

/-- The type of a column, text when the column is unknown. -/
def ColumnTypes.typeOf (columns : ColumnTypes) (name : String) : ColumnType :=
  (columns.lookup name).getD .text

/-- A name as it stands in SQL, between backticks if wanted. -/
def quoteName (quote : Bool) (name : String) : String :=
  if quote then "`" ++ name ++ "`" else name

/-- The text of a condition with the values of its parameters by their names, and the number of the
parameter after the last one. -/
structure Clause where
  text : String
  binds : Binds
  next : Int
deriving Repr

/-- The name of a parameter. -/
def bindName (position : Int) : String := "val" ++ toString position

/-! ### Values -/

/-- The parts of a text between commas, without the blanks around them. -/
def commaParts (text : List Char) : List Value :=
  (splitOnChar ',' text).map fun part => .text (String.ofList (stripChars part))

/-- The elements of a text in brackets: those of the JSON array it is, else its
parts between commas. -/
def bracketElements (text : List Char) : List Value :=
  match Json.readChars text with
  | .ok (.list items) => items
  | _ => commaParts (text.drop 1).dropLast

/-- The elements a value stands for as a list. -/
def listElements (value : Value) : Except Fault (List Value) :=
  match value.elements? with
  | some items => .ok items
  | none => value.written.map fun written =>
    let text := stripChars written.toList
    if text.head? = some '[' ∧ text.getLast? = some ']' then bracketElements text
    else commaParts text

/-- An element as what a column holds; for columns without a conversion, its text. -/
def convertElement (type : ColumnType) (item : Value) : Except Fault Value := do
  match ← type.convert? item with
  | some converted => pure (converted.getD .null)
  | none => item.written.map .text

/-- The elements as what a column holds. -/
def convertElements (type : ColumnType) : List Value → Except Fault (List Value)
  | [] => .ok []
  | item :: rest => do
    let first ← convertElement type item
    let others ← convertElements type rest
    pure (first :: others)

/-- The list of values an operator on lists binds; none for nothing. -/
def convertList? (type : ColumnType) (value : Value) : Except Fault (Option (List Value)) :=
  if value.isNull then .ok none
  else do
    let items ← listElements value
    (convertElements type items).map some

/-- The pattern of a text operator; nothing stays nothing. -/
def likePattern (value : Value) (pattern : String → String) : Except Fault Value :=
  if value.isNull then .ok .null else value.written.map fun text => .text (pattern text)

/-- The value an operator on single values binds. -/
def singleValue (operator : String) (type : ColumnType) (value : Value) : Except Fault Value :=
  if operator = "startsWith" then likePattern value fun text => text ++ "%"
  else if operator = "endsWith" then likePattern value fun text => "%" ++ text
  else type.convert value

/-! ### Comparisons -/

/-- The text behind a comparison's operator and the values of its parameters. -/
def leafBinds (operator : String) (type : ColumnType) (value : Value) (position : Int) :
    Except Fault (String × Binds) :=
  if Operator.takesNoValue operator then .ok ("", [])
  else if operator = "between" then do
    let bounds := (← convertList? type value).getD []
    let low := bindName position
    let high := bindName (position + 1)
    pure (" :" ++ low ++ " AND :" ++ high,
      [(low, bounds[0]?.getD .null), (high, bounds[1]?.getD .null)])
  else if Operator.takesList operator then do
    let items ← convertList? type value
    let name := bindName position
    pure (" (:" ++ name ++ ")", [(name, (items.map Value.list).getD .null)])
  else do
    let name := bindName position
    pure (" :" ++ name, [(name, ← singleValue operator type value)])

/-- A comparison whose first parameter has the given number. -/
def compileLeaf (columns : ColumnTypes) (quote : Bool) (position : Int) (leaf : Leaf) :
    Except Failure Clause := do
  let word ← Operator.sql? leaf.operator
  let (tail, binds) ←
    (leafBinds leaf.operator (columns.typeOf leaf.fact) leaf.value position).mapError
    Failure.value
  pure ⟨quoteName quote leaf.fact ++ " " ++ word ++ tail, binds, position + binds.length⟩

/-! ### Groups -/

/-- The operands of a group with the values of all their parameters, and the number of the parameter
after the last one. -/
structure Operands where
  texts : List String
  binds : Binds
  next : Int
deriving Repr

/-- Operands joined by a connective, each but the first on a line of its own. -/
def joinOperands (indent : String) (connective : Connective) (texts : List String) : String :=
  if texts.isEmpty then ""
  else indent ++ ("\n" ++ indent ++ connective.sql ++ " ").intercalate texts

/-- A group in parentheses. -/
def parenthesized (indent inner : String) : String := "(\n" ++ inner ++ "\n" ++ indent ++ ")"

mutual

/-- A condition as an operand of a group with the given indent. -/
def compileOperand (columns : ColumnTypes) (quote : Bool) (indent : String) (position : Int) :
    Condition → Except Failure Clause
  | .leaf comparison => compileLeaf columns quote position comparison
  | .group connective children => do
    let inner ← compileOperands columns quote (indent ++ "  ") position children
    pure ⟨parenthesized indent (joinOperands (indent ++ "  ") connective inner.texts), inner.binds,
      inner.next⟩

/-- The operands of a group, one after another. -/
def compileOperands (columns : ColumnTypes) (quote : Bool) (indent : String) (position : Int) :
    List Condition → Except Failure Operands
  | [] => .ok ⟨[], [], position⟩
  | child :: rest => do
    let first ← compileOperand columns quote indent position child
    let others ← compileOperands columns quote indent first.next rest
    pure ⟨first.text :: others.texts, first.binds ++ others.binds, others.next⟩

end

/-- A tree as SQL; its first parameter has the given number. -/
def compile (columns : ColumnTypes) (quote : Bool) (indent : String) (position : Int)
    (tree : ConditionTree) : Except Failure Clause := do
  let operands ← compileOperands columns quote indent position tree.children
  pure ⟨joinOperands indent tree.connective operands.texts, operands.binds, operands.next⟩

/-- The indent of a clause inside a query. -/
def standardIndent : String := "  "

end QueryDesk.Sql
