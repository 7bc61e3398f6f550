/-
**What a compiled condition looks like.**

Compiling fails only at the leaves: at an operator that SQL has no word for, or at a value that
cannot be converted. A tree all of whose leaves can be compiled is compiled to a text that depends
on its shape and its names alone, and to the values of its leaves in document order.

* `boundValues`, `Leaf.bound` — the values a comparison binds.
* `bindsFrom` — values under the names of parameters that are numbered one after another.
* `operandText`, `treeText` — the text of a condition and of a tree.
* `compile_eq` — the compiled tree, as a whole; `compiles_of_compile` — no other tree is compiled.
* `compile_eq_error_iff` — a tree fails as its first leaf does that cannot be compiled.
-/

import QueryDesk.Proofs.Outcomes
import QueryDesk.Proofs.Search
import QueryDesk.Sql.Clause

namespace QueryDesk

/-! ### The values of a comparison -/

namespace Sql

/-- The values a comparison binds: none, two bounds, a list as one value, or a single value. -/
def boundValues (operator : String) (type : ColumnType) (value : Value) :
    Except Fault (List Value) :=
  if Operator.takesNoValue operator then .ok []
  else if operator = "between" then
    (convertList? type value).map fun items =>
      [(items.getD [])[0]?.getD .null, (items.getD [])[1]?.getD .null]
  else if Operator.takesList operator then
    (convertList? type value).map fun items => [(items.map Value.list).getD .null]
  else (singleValue operator type value).map fun single => [single]

/-- The number of values a comparison binds. -/
def arity (operator : String) : Nat :=
  if Operator.takesNoValue operator then 0 else if operator = "between" then 2 else 1

/-- The parameters behind an operator, the first with the given number. -/
def tailText (operator : String) (position : Int) : String :=
  if Operator.takesNoValue operator then ""
  else if operator = "between" then
    " :" ++ bindName position ++ " AND :" ++ bindName (position + 1)
  else if Operator.takesList operator then " (:" ++ bindName position ++ ")"
  else " :" ++ bindName position

/-- Values under the names of parameters that are numbered one after another. -/
def bindsFrom : Int → List Value → Binds
  | _, [] => []
  | position, value :: rest => (bindName position, value) :: bindsFrom (position + 1) rest

/-- Values behind others are numbered from where these end. -/
theorem bindsFrom_append (first second : List Value) :
    ∀ position : Int, bindsFrom position (first ++ second) =
      bindsFrom position first ++ bindsFrom (position + first.length) second := by
  induction first with
  | nil =>
    intro position
    rw [List.length_nil, Int.natCast_zero, Int.add_zero]
    rfl
  | cons value rest ih =>
    intro position
    rw [List.cons_append, bindsFrom, ih, bindsFrom, List.cons_append, List.length_cons,
      Int.natCast_succ, Int.add_assoc, Int.add_comm 1]

theorem length_bindsFrom (values : List Value) :
    ∀ position : Int, (bindsFrom position values).length = values.length := by
  induction values with
  | nil => exact fun _ => rfl
  | cons value rest ih =>
    intro position
    rw [bindsFrom, List.length_cons, List.length_cons, ih]

theorem map_snd_bindsFrom (values : List Value) :
    ∀ position : Int, (bindsFrom position values).map Prod.snd = values := by
  induction values with
  | nil => exact fun _ => rfl
  | cons value rest ih =>
    intro position
    rw [bindsFrom, List.map_cons, ih]

/-- The names of parameters that are numbered one after another. -/
def bindNames : Int → Nat → List String
  | _, 0 => []
  | position, count + 1 => bindName position :: bindNames (position + 1) count

/-- Values are bound under the names of the numbers from a position on. -/
theorem map_fst_bindsFrom (values : List Value) :
    ∀ position : Int, (bindsFrom position values).map Prod.fst =
      bindNames position values.length := by
  induction values with
  | nil => exact fun _ => rfl
  | cons value rest ih =>
    intro position
    rw [bindsFrom, List.map_cons, ih]
    rfl

/-- **What stands behind an operator**: as many numbered parameters as there are values. -/
theorem leafBinds_eq (operator : String) (type : ColumnType) (value : Value) (position : Int) :
    leafBinds operator type value position =
      (boundValues operator type value).map fun values =>
        (tailText operator position, bindsFrom position values) := by
  unfold leafBinds boundValues tailText
  split
  · rfl
  · split
    · cases convertList? type value <;> rfl
    · split
      · cases convertList? type value <;> rfl
      · cases singleValue operator type value <;> rfl

/-- Values made of something that was converted are as many as are made each time. -/
theorem length_of_converted {α : Type} {converted : Except Fault α} {made : α → List Value}
    {values : List Value} (bound : converted.map made = .ok values) {count : Nat}
    (lengths : ∀ result, (made result).length = count) : values.length = count := by
  cases converted with
  | error fault => cases bound
  | ok result =>
    cases bound
    exact lengths result

/-- A comparison binds as many values as its operator asks for. -/
theorem length_boundValues {operator : String} {type : ColumnType} {value : Value}
    {values : List Value} (bound : boundValues operator type value = .ok values) :
    values.length = arity operator := by
  unfold boundValues at bound
  unfold arity
  split at bound
  · cases bound
    rw [if_pos ‹_›]
    rfl
  · rw [if_neg ‹_›]
    split at bound
    · rw [if_pos ‹_›]
      exact length_of_converted bound fun _ => rfl
    · rw [if_neg ‹_›]
      split at bound
      · exact length_of_converted bound fun _ => rfl
      · exact length_of_converted bound fun _ => rfl

end Sql

/-! ### Leaves that can be compiled -/

namespace Leaf

open Sql

/-- The SQL word of a leaf's operator, if it has one. -/
def sqlWord? (leaf : Leaf) : Option String := Operator.words.lookup leaf.operator

/-- The values a leaf binds for columns of the given types. -/
def bound? (columns : ColumnTypes) (leaf : Leaf) : Except Fault (List Value) :=
  boundValues leaf.operator (columns.typeOf leaf.fact) leaf.value

/-- A leaf whose operator SQL has a word for and whose value can be converted. -/
def Compiles (columns : ColumnTypes) (leaf : Leaf) : Prop :=
  leaf.sqlWord?.isSome ∧ ∃ values, leaf.bound? columns = .ok values

/-- What a leaf that cannot be compiled fails with: an operator without a word, or a value
that cannot be converted. -/
inductive FailsWith (columns : ColumnTypes) (leaf : Leaf) : Failure → Prop
  | noWord (missing : leaf.sqlWord? = none) : FailsWith columns leaf (.noSqlForm leaf.operator)
  | noValue {fault : Fault} (some_word : leaf.sqlWord?.isSome)
      (failed : leaf.bound? columns = .error fault) : FailsWith columns leaf (.value fault)

/-- The values a leaf binds, none if it cannot be compiled. -/
def bound (columns : ColumnTypes) (leaf : Leaf) : List Value :=
  (leaf.bound? columns).toOption.getD []

/-- The text of a leaf whose first parameter has the given number. -/
def text (quote : Bool) (position : Int) (leaf : Leaf) : String :=
  quoteName quote leaf.fact ++ " " ++ leaf.sqlWord?.getD "" ++ tailText leaf.operator position

/-- The number of parameters of a leaf. -/
def width (leaf : Leaf) : Nat := arity leaf.operator

theorem mem_words {leaf : Leaf} (some_word : leaf.sqlWord?.isSome) :
    (leaf.operator, leaf.sqlWord?.getD "") ∈ Operator.words := by
  obtain ⟨word, spelled⟩ := Option.isSome_iff_exists.1 some_word
  rw [spelled]
  exact mem_of_lookup spelled

theorem bound_eq {columns : ColumnTypes} {leaf : Leaf} {values : List Value}
    (found : leaf.bound? columns = .ok values) : leaf.bound columns = values := by
  unfold bound
  rw [found]
  rfl

/-- A leaf that compiles binds as many values as its operator takes. -/
theorem length_bound {columns : ColumnTypes} {leaf : Leaf} (compiles : leaf.Compiles columns) :
    (leaf.bound columns).length = leaf.width := by
  obtain ⟨-, values, found⟩ := compiles
  rw [bound_eq found]
  exact length_boundValues found

end Leaf

namespace Sql

theorem sql?_of_word {leaf : Leaf} {word : String} (spelled : leaf.sqlWord? = some word) :
    Operator.sql? leaf.operator = .ok word := by
  unfold Operator.sql?
  rw [show Operator.words.lookup leaf.operator = some word from spelled]

/-- An operator without a word has no SQL form. -/
theorem sql?_of_noWord {leaf : Leaf} (missing : leaf.sqlWord? = none) :
    Operator.sql? leaf.operator = .error (.noSqlForm leaf.operator) := by
  unfold Operator.sql?
  rw [show Operator.words.lookup leaf.operator = none from missing]

/-- What stands behind the operator of a leaf. -/
theorem leafBinds_of_leaf (columns : ColumnTypes) (leaf : Leaf) (position : Int) :
    leafBinds leaf.operator (columns.typeOf leaf.fact) leaf.value position =
      (leaf.bound? columns).map fun values =>
        (tailText leaf.operator position, bindsFrom position values) :=
  leafBinds_eq _ _ _ position

/-- **A compiled leaf.** -/
theorem compileLeaf_eq {columns : ColumnTypes} {leaf : Leaf} (compiles : leaf.Compiles columns)
    (quote : Bool) (position : Int) :
    compileLeaf columns quote position leaf =
      .ok ⟨leaf.text quote position, bindsFrom position (leaf.bound columns),
        position + leaf.width⟩ := by
  have length := Leaf.length_bound compiles
  obtain ⟨some_word, values, found⟩ := compiles
  obtain ⟨word, spelled⟩ := Option.isSome_iff_exists.1 some_word
  rw [Leaf.bound_eq found] at length ⊢
  unfold compileLeaf Leaf.text
  rw [sql?_of_word spelled, leafBinds_of_leaf, found, spelled, ← length,
    ← length_bindsFrom values position]
  rfl

end Sql

/-! ### Conditions and trees -/

/-- The values that leaves bind, in order. -/
def boundOf (columns : Sql.ColumnTypes) (leaves : List Leaf) : List Value :=
  leaves.flatMap (Leaf.bound columns)

/-- The number of parameters of several leaves. -/
def widthOf : List Leaf → Nat
  | [] => 0
  | leaf :: rest => leaf.width + widthOf rest

theorem boundOf_append (columns : Sql.ColumnTypes) (first second : List Leaf) :
    boundOf columns (first ++ second) = boundOf columns first ++ boundOf columns second :=
  List.flatMap_append

theorem widthOf_append (first second : List Leaf) :
    widthOf (first ++ second) = widthOf first + widthOf second := by
  induction first with
  | nil => exact (Nat.zero_add _).symm
  | cons leaf rest ih => rw [List.cons_append, widthOf, ih, widthOf, Nat.add_assoc]

/-- Leaves that compile bind as many values as their operators take together. -/
theorem length_boundOf {columns : Sql.ColumnTypes} {leaves : List Leaf}
    (compiles : ∀ leaf ∈ leaves, leaf.Compiles columns) :
    (boundOf columns leaves).length = widthOf leaves := by
  induction leaves with
  | nil => rfl
  | cons leaf rest ih =>
    obtain ⟨here, others⟩ := List.forall_mem_cons.1 compiles
    show (leaf.bound columns ++ boundOf columns rest).length = leaf.width + widthOf rest
    rw [List.length_append, Leaf.length_bound here, ih others]

namespace Sql

mutual

/-- The text of a condition as an operand of a group with the given indent. -/
def operandText (quote : Bool) (indent : String) (position : Int) : Condition → String
  | .leaf comparison => comparison.text quote position
  | .group connective children =>
    parenthesized indent (joinOperands (indent ++ "  ") connective
      (operandTexts quote (indent ++ "  ") position children))

/-- The texts of the operands of a group, their parameters numbered one after another. -/
def operandTexts (quote : Bool) (indent : String) (position : Int) : List Condition → List String
  | [] => []
  | child :: rest =>
    operandText quote indent position child ::
      operandTexts quote indent (position + widthOf child.leaves) rest

end

/-- What stands between the operands of a group. -/
def separator (indent : String) (connective : Connective) : String :=
  "\n" ++ indent ++ connective.sql ++ " "

theorem toList_separator (indent : String) (connective : Connective) :
    (separator indent connective).toList =
      '\n' :: (indent.toList ++ (connective.sql.toList ++ [' '])) := by
  simp [separator]

/-- The text of a tree. -/
def treeText (quote : Bool) (indent : String) (position : Int) (tree : ConditionTree) : String :=
  joinOperands indent tree.connective (operandTexts quote indent position tree.children)

section Compile

variable (columns : ColumnTypes) (quote : Bool)

mutual

/-- **A compiled condition**, when all its leaves can be compiled. -/
theorem compileOperand_eq (indent : String) (position : Int) : ∀ condition : Condition,
    (∀ leaf ∈ condition.leaves, leaf.Compiles columns) →
      compileOperand columns quote indent position condition =
        .ok ⟨operandText quote indent position condition,
          bindsFrom position (boundOf columns condition.leaves),
            position + widthOf condition.leaves⟩
  | .leaf comparison, compiles => by
    have here := compiles comparison (List.mem_singleton_self comparison)
    rw [compileOperand, compileLeaf_eq here, operandText, Condition.leaves]
    show _ = Except.ok (Clause.mk _ (bindsFrom position (comparison.bound columns ++ []))
      (position + (comparison.width + 0 : Nat)))
    rw [List.append_nil, Nat.add_zero]
  | .group connective children, compiles => by
    rw [Condition.leaves] at compiles ⊢
    rw [compileOperand, compileOperands_eq (indent ++ "  ") position children compiles, operandText]
    rfl

theorem compileOperands_eq (indent : String) (position : Int) : ∀ children : List Condition,
    (∀ leaf ∈ Condition.leavesOf children, leaf.Compiles columns) →
      compileOperands columns quote indent position children =
        .ok ⟨operandTexts quote indent position children,
          bindsFrom position (boundOf columns (Condition.leavesOf children)),
          position + widthOf (Condition.leavesOf children)⟩
  | [], _ => by
    rw [compileOperands, operandTexts, Condition.leavesOf]
    show _ = Except.ok (Operands.mk [] [] (position + (0 : Nat)))
    rw [Int.natCast_zero, Int.add_zero]
  | child :: rest, compiles => by
    rw [Condition.leavesOf] at compiles ⊢
    obtain ⟨here, others⟩ := List.forall_mem_append.1 compiles
    have next := compileOperands_eq indent (position + widthOf child.leaves) rest others
    have lengths := length_boundOf here
    rw [compileOperands, compileOperand_eq indent position child here]
    show (do
      let found ← compileOperands columns quote indent (position + widthOf child.leaves) rest
      pure (Operands.mk _ _ found.next)) = _
    rw [next, operandTexts, boundOf_append, bindsFrom_append, widthOf_append, lengths,
      Int.natCast_add, ← Int.add_assoc]
    rfl

end

/-- **A compiled tree**, when all its leaves can be compiled. -/
theorem compile_eq (indent : String) (position : Int) (tree : ConditionTree)
    (compiles : ∀ leaf ∈ tree.leaves, leaf.Compiles columns) :
    compile columns quote indent position tree =
      .ok ⟨treeText quote indent position tree, bindsFrom position (boundOf columns tree.leaves),
        position + widthOf tree.leaves⟩ := by
  unfold compile
  rw [compileOperands_eq columns quote indent position tree.children compiles]
  rfl

/-! ### Trees that were compiled -/

variable {columns quote}

theorem compiles_of_compileLeaf {position : Int} {leaf : Leaf} {clause : Clause}
    (compiled : compileLeaf columns quote position leaf = .ok clause) : leaf.Compiles columns := by
  obtain ⟨word, spelled, behind⟩ := bind_eq_ok_iff.1 compiled
  obtain ⟨binds, found, -⟩ := bind_eq_ok_iff.1 behind
  refine ⟨?_, ?_⟩
  · cases form : leaf.sqlWord? with
    | none =>
      rw [sql?_of_noWord form] at spelled
      cases spelled
    | some _ => rfl
  · rw [leafBinds_of_leaf] at found
    cases result : leaf.bound? columns with
    | ok values => exact ⟨values, rfl⟩
    | error fault =>
      rw [result] at found
      cases found

mutual

/-- By induction on a condition: if it is compiled, its leaves compile. -/
theorem compiles_of_compileOperand {indent : String} {position : Int} : ∀ {condition : Condition}
    {clause : Clause}, compileOperand columns quote indent position condition = .ok clause →
      ∀ leaf ∈ condition.leaves, leaf.Compiles columns
  | .leaf comparison, _, compiled => by
    rw [compileOperand] at compiled
    exact List.forall_mem_singleton.2 (compiles_of_compileLeaf compiled)
  | .group _ _, _, compiled => by
    rw [compileOperand] at compiled
    obtain ⟨_, inner, -⟩ := bind_eq_ok_iff.1 compiled
    exact compiles_of_compileOperands inner

/-- By induction on conditions: if all are compiled, their leaves compile. -/
theorem compiles_of_compileOperands {indent : String} {position : Int} :
    ∀ {children : List Condition}
    {operands : Operands}, compileOperands columns quote indent position children = .ok operands →
      ∀ leaf ∈ Condition.leavesOf children, leaf.Compiles columns
  | [], _, _ => List.forall_mem_nil _
  | child :: rest, _, compiled => by
    rw [compileOperands] at compiled
    obtain ⟨_, here, behind⟩ := bind_eq_ok_iff.1 compiled
    obtain ⟨_, others, -⟩ := bind_eq_ok_iff.1 behind
    exact List.forall_mem_append.2
      ⟨compiles_of_compileOperand here, compiles_of_compileOperands others⟩

end

/-- **A tree is compiled only if all its leaves can be.** -/
theorem compiles_of_compile {indent : String} {position : Int} {tree : ConditionTree}
    {clause : Clause} (compiled : compile columns quote indent position tree = .ok clause) :
    ∀ leaf ∈ tree.leaves, leaf.Compiles columns := by
  obtain ⟨_, operands, -⟩ := bind_eq_ok_iff.1 compiled
  exact compiles_of_compileOperands operands

/-! ### Trees that are not compiled -/

/-- A leaf is refused exactly with its own failure. -/
theorem compileLeaf_eq_error_iff {position : Int} {leaf : Leaf} {failure : Failure} :
    compileLeaf columns quote position leaf = .error failure ↔ leaf.FailsWith columns failure := by
  cases spelled : leaf.sqlWord? with
  | none =>
    rw [compileLeaf, sql?_of_noWord spelled]
    constructor
    · rintro ⟨⟩
      exact .noWord spelled
    · rintro (_ | ⟨some_word, -⟩)
      · rfl
      · rw [spelled] at some_word
        cases some_word
  | some word =>
    have some_word : leaf.sqlWord?.isSome := Option.isSome_of_eq_some spelled
    cases converted : leaf.bound? columns with
    | ok values =>
      rw [compileLeaf_eq ⟨some_word, values, converted⟩]
      refine ⟨nofun, ?_⟩
      rintro (missing | ⟨-, failed⟩)
      · cases missing.symm.trans spelled
      · cases failed.symm.trans converted
    | error fault =>
      rw [compileLeaf, sql?_of_word spelled, leafBinds_of_leaf, converted]
      constructor
      · rintro ⟨⟩
        exact .noValue some_word converted
      · rintro (missing | ⟨-, failed⟩)
        · cases missing.symm.trans spelled
        · cases failed.symm.trans converted
          rfl

mutual

/-- By induction on a condition: it is refused with the failure of its first
leaf that does not compile. -/
theorem compileOperand_eq_error_iff {failure : Failure} (indent : String) (position : Int) :
    ∀ condition : Condition, compileOperand columns quote indent position condition =
      .error failure ↔
      StopsAt (Leaf.Compiles columns) (Leaf.FailsWith columns · failure) condition.leaves
  | .leaf comparison => by
    rw [compileOperand, compileLeaf_eq_error_iff, Condition.leaves, stopsAt_cons]
    simp
  | .group _ children => by
    rw [compileOperand, Condition.leaves,
      ← compileOperands_eq_error_iff (indent ++ "  ") position children, bind_eq_error_iff]
    exact or_iff_left nofun

/-- By induction on conditions: they are refused with the failure of the first
leaf that does not compile. -/
theorem compileOperands_eq_error_iff {failure : Failure} (indent : String) (position : Int) :
    ∀ children : List Condition,
      compileOperands columns quote indent position children = .error failure ↔
        StopsAt (Leaf.Compiles columns) (Leaf.FailsWith columns · failure)
          (Condition.leavesOf children)
  | [] => by
    rw [compileOperands, Condition.leavesOf]
    simp
  | child :: rest => by
    rw [compileOperands, Condition.leavesOf, stopsAt_append,
      ← compileOperand_eq_error_iff indent position child, bind_eq_error_iff]
    refine or_congr_right ?_
    constructor
    · rintro ⟨first, compiled, behind⟩
      obtain others | ⟨_, _, impossible⟩ := bind_eq_error_iff.1 behind
      · exact ⟨compiles_of_compileOperand compiled,
          (compileOperands_eq_error_iff indent first.next rest).1 others⟩
      · cases impossible
    · rintro ⟨compiles, others⟩
      exact ⟨_, compileOperand_eq columns quote indent position child compiles,
        bind_eq_error_iff.2 (.inl ((compileOperands_eq_error_iff indent _ rest).2 others))⟩

end

/-- **A tree fails as the first leaf in document order does that cannot be compiled**, whatever the
position, the indent and the quotes. -/
theorem compile_eq_error_iff {indent : String} {position : Int} {tree : ConditionTree}
    {failure : Failure} :
    compile columns quote indent position tree = .error failure ↔
      StopsAt (Leaf.Compiles columns) (Leaf.FailsWith columns · failure) tree.leaves := by
  rw [compile, ConditionTree.leaves, ← compileOperands_eq_error_iff indent position tree.children,
    bind_eq_error_iff]
  exact or_iff_left nofun

end Compile

end Sql

end QueryDesk
