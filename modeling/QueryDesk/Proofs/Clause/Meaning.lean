/-
**A compiled tree means what the tree says.**

* `atomsFrom` — the comparisons of leaves, their parameters numbered one after another.
* `Condition.valueFrom` — the value of a condition, given one for every leaf: conjunction for all,
  disjunction for any. It is the verdict of a condition whose leaves all have one
  (`Condition.holds_eq_valueFrom`).
* `Means` — a text is read as an expression with given comparisons and a given value.
* `means_operand` — the text of a condition as an operand means the condition, by induction on the
  condition together with the lists of its operands: `Means.join` adds an operand behind a
  connective, and `Means.parenthesized` keeps the connectives of a group from those around it.
* `compile_meaning` — the clause of a tree is read as one expression, which means the tree.
-/

import QueryDesk.Proofs.Clause.Spelling
import QueryDesk.Rule.Engine

namespace QueryDesk

open Sql Predicate Text

/-! ### Values and comparisons of a tree -/

/-- The comparisons of leaves, their parameters numbered one after another. -/
def atomsFrom (quote : Bool) : Int → List Leaf → List Atom
  | _, [] => []
  | position, leaf :: rest =>
    leaf.atom quote position :: atomsFrom quote (position + leaf.width) rest

/-- Leaves behind others have atoms numbered from where these end. -/
theorem atomsFrom_append (quote : Bool) (first second : List Leaf) :
    ∀ position : Int, atomsFrom quote position (first ++ second) =
      atomsFrom quote position first ++ atomsFrom quote (position + widthOf first) second := by
  induction first with
  | nil =>
    intro position
    show _ = [] ++ atomsFrom quote (position + (0 : Nat)) second
    rw [Int.natCast_zero, Int.add_zero]
    rfl
  | cons leaf rest ih =>
    intro position
    show leaf.atom quote position :: atomsFrom quote _ (rest ++ second) =
      leaf.atom quote position :: (atomsFrom quote _ rest ++
        atomsFrom quote (position + (leaf.width + widthOf rest : Nat)) second)
    rw [ih, Int.natCast_add, Int.add_assoc]

theorem length_atomsFrom (quote : Bool) (leaves : List Leaf) :
    ∀ position : Int, (atomsFrom quote position leaves).length = leaves.length := by
  induction leaves with
  | nil => exact fun _ => rfl
  | cons leaf rest ih =>
    intro position
    rw [atomsFrom, List.length_cons, List.length_cons, ih]

namespace Connective

/-- Two values joined. -/
def both : Connective → Bool → Bool → Bool
  | .all, left, right => left && right
  | .any, left, right => left || right

/-- The value of a group: whether all or any of the values hold. -/
def value : Connective → List Bool → Bool
  | .all, values => values.all id
  | .any, values => values.any id

theorem value_cons (connective : Connective) (first : Bool) (rest : List Bool) :
    connective.value (first :: rest) = connective.both first (connective.value rest) := by
  cases connective <;> rfl

theorem both_value_nil (connective : Connective) (first : Bool) :
    connective.both first (connective.value []) = first := by
  cases connective <;> cases first <;> rfl

theorem both_assoc (connective : Connective) (first second third : Bool) :
    connective.both (connective.both first second) third =
      connective.both first (connective.both second third) := by
  cases connective
  · exact Bool.and_assoc _ _ _
  · exact Bool.or_assoc _ _ _

end Connective

namespace Condition

mutual

/-- The value of a condition, given one for every leaf, where its first leaf has
the given number. -/
def valueFrom (truth : Nat → Bool) (first : Nat) : Condition → Bool
  | .leaf _ => truth first
  | .group connective children => connective.value (valuesFrom truth first children)

/-- The values of conditions whose leaves are numbered one after another. -/
def valuesFrom (truth : Nat → Bool) (first : Nat) : List Condition → List Bool
  | [] => []
  | child :: rest =>
    valueFrom truth first child :: valuesFrom truth (first + child.leaves.length) rest

end

mutual

/-- Whether no group in a condition is empty. -/
def isFilled : Condition → Bool
  | .leaf _ => true
  | .group _ children => !children.isEmpty && areFilled children

/-- Whether no group in several conditions is empty. -/
def areFilled : List Condition → Bool
  | [] => true
  | child :: rest => isFilled child && areFilled rest

end

section Verdict

variable (operators : OperatorTable) (facts : Facts) (truth : Nat → Bool)

/-- The leaves have the verdicts of an assignment of truth values. -/
def HaveVerdicts (first : Nat) (leaves : List Leaf) : Prop :=
  ∀ (number : Nat) (leaf : Leaf), leaves[number]? = some leaf →
    leaf.holds operators facts = .ok (truth (first + number))

/-- The verdicts of leaves, split in two. -/
theorem HaveVerdicts.append {first : Nat} {before behind : List Leaf}
    (verdicts : HaveVerdicts operators facts truth first (before ++ behind)) :
    HaveVerdicts operators facts truth first before ∧
      HaveVerdicts operators facts truth (first + before.length) behind := by
  constructor
  · intro number leaf found
    have inside := (List.getElem?_eq_some_iff.1 found).1
    exact verdicts number leaf (by rw [List.getElem?_append_left inside, found])
  · intro number leaf found
    have shifted := verdicts (before.length + number) leaf (by
      rw [List.getElem?_append_right (Nat.le_add_right _ _), Nat.add_sub_cancel_left, found])
    rwa [← Nat.add_assoc] at shifted

mutual

/-- **The verdict of a condition is its value**, when every leaf has a verdict. -/
theorem holds_eq_valueFrom (first : Nat) : ∀ condition : Condition,
    HaveVerdicts operators facts truth first condition.leaves →
      condition.holds operators facts = .ok (condition.valueFrom truth first)
  | .leaf comparison, verdicts => by
    rw [holds, valueFrom]
    exact verdicts 0 comparison rfl
  | .group .all children, verdicts => by
    rw [holds, valueFrom]
    exact (holds_eq_valuesFrom first children verdicts).1
  | .group .any children, verdicts => by
    rw [holds, valueFrom]
    exact (holds_eq_valuesFrom first children verdicts).2

/-- By induction on conditions: they hold together as their values say. -/
theorem holds_eq_valuesFrom (first : Nat) : ∀ children : List Condition,
    HaveVerdicts operators facts truth first (leavesOf children) →
      allHold operators facts children =
        .ok (Connective.all.value (valuesFrom truth first children)) ∧
        anyHolds operators facts children =
          .ok (Connective.any.value (valuesFrom truth first children))
  | [], _ => ⟨rfl, rfl⟩
  | child :: rest, verdicts => by
    rw [leavesOf] at verdicts
    obtain ⟨here, others⟩ := verdicts.append
    obtain ⟨all, any⟩ := holds_eq_valuesFrom (first + child.leaves.length) rest others
    rw [allHold, anyHolds, holds_eq_valueFrom first child here, valuesFrom, Connective.value_cons,
      Connective.value_cons, all, any]
    cases child.valueFrom truth first <;> exact ⟨rfl, rfl⟩

end

end Verdict

end Condition

/-! ### Connectives in the grammar -/

namespace Connective

/-- The expressions a connective makes. -/
def strength : Connective → Strength
  | .all => .term
  | .any => .expression

/-- Two expressions joined. -/
def join : Connective → Expression → Expression → Expression
  | .all => .and
  | .any => .or

theorem derives_of_factor (connective : Connective) {symbols : List Symbol} {found : Expression}
    (derived : Derives .factor symbols found) : Derives connective.strength symbols found := by
  cases connective
  · exact .factor derived
  · exact .term (.factor derived)

theorem derives_expression (connective : Connective) {symbols : List Symbol} {found : Expression}
    (derived : Derives connective.strength symbols found) : Derives .expression symbols found := by
  cases connective
  · exact .term derived
  · exact derived

/-- Two expressions that a connective may stand between are joined by it. -/
theorem derives_join (connective : Connective) {before behind : List Symbol}
    {left right : Expression}
    (first : Derives connective.strength before left) (second : Derives .factor behind right) :
    Derives connective.strength (before ++ connective.symbol :: behind)
      (connective.join left right) := by
  cases connective
  · exact .and first second
  · exact .or first (.factor second)

theorem atoms_join (connective : Connective) (left right : Expression) :
    (connective.join left right).atoms = left.atoms ++ right.atoms := by
  cases connective <;> rfl

/-- What two joined expressions are worth is what the connective makes of both. -/
theorem valueFrom_join (connective : Connective) (left right : Expression) (truth : Nat → Bool)
    (first : Nat) :
    (connective.join left right).valueFrom truth first =
      connective.both (left.valueFrom truth first)
        (right.valueFrom truth (first + left.atoms.length)) := by
  cases connective <;> rfl

end Connective

/-! ### Texts that mean something -/

/-- A text that is read, whatever stands behind it, as an expression of a strength with the given
comparisons and the given value. -/
def Means (strength : Strength) (text : String) (atoms : List Atom)
    (value : (Nat → Bool) → Nat → Bool) : Prop :=
  ∃ symbols found, Spells text symbols ∧ Derives strength symbols found ∧ found.atoms = atoms ∧
    ∀ truth first, found.valueFrom truth first = value truth first

namespace Means

variable {text : String} {atoms : List Atom} {value : (Nat → Bool) → Nat → Bool}
variable {indent : String} (blanks : ∀ c ∈ indent.toList, isBlank c = true)

/-- A comparison means one atom. -/
theorem leaf {leaf : Leaf} (some_word : leaf.sqlWord?.isSome) (named : leaf.NamesColumn)
    (quote : Bool) {position : Int} (start : 0 ≤ position) :
    Means .factor (leaf.text quote position) [leaf.atom quote position] fun truth first =>
      truth first :=
  ⟨_, _, ⟨_, leaf.scans_text some_word named quote start,
    fun rest => leaf.symbols?_tokens some_word quote position rest⟩, .atom _, rfl, fun _ _ => rfl⟩

include blanks

theorem indented {strength : Strength} (means : Means strength text atoms value) :
    Means strength (indent ++ text) atoms value := by
  obtain ⟨symbols, found, spells, others⟩ := means
  exact ⟨symbols, found, spells.indented blanks, others⟩

/-- **An operand behind a connective.** -/
theorem join (connective : Connective) {other : String} {more : List Atom}
    {next : (Nat → Bool) → Nat → Bool} (first : Means connective.strength text atoms value)
    (second : Means .factor other more next) :
    Means connective.strength (text ++ separator indent connective ++ other)
      (atoms ++ more) fun truth first =>
        connective.both (value truth first) (next truth (first + atoms.length)) := by
  obtain ⟨before, left, leftSpells, leftDerived, rfl, leftValue⟩ := first
  obtain ⟨behind, right, rightSpells, rightDerived, rfl, rightValue⟩ := second
  refine ⟨_, connective.join left right, leftSpells.joined blanks connective rightSpells,
    connective.derives_join leftDerived rightDerived, connective.atoms_join left right, ?_⟩
  intro truth first
  rw [connective.valueFrom_join, leftValue, rightValue]

/-- **A group in parentheses** is a factor, whatever joins its operands. -/
theorem parenthesized (connective : Connective)
    (means : Means connective.strength text atoms value) :
    Means .factor (parenthesized indent text) atoms value := by
  obtain ⟨symbols, found, spells, derived, others⟩ := means
  exact ⟨_, found, spells.parenthesized blanks,
    .parentheses (connective.derives_expression derived), others⟩

end Means

theorem Means.congr {strength : Strength} {text : String} {atoms others : List Atom}
    {value other : (Nat → Bool) → Nat → Bool} (means : Means strength text atoms value)
    (same : atoms = others) (agree : ∀ truth first, value truth first = other truth first) :
    Means strength text others other := by
  obtain ⟨symbols, found, spells, derived, shown, valued⟩ := means
  exact ⟨symbols, found, spells, derived, shown.trans same,
    fun truth first => (valued truth first).trans (agree truth first)⟩

/-- A factor may stand beside any connective. -/
theorem Means.weaken {text : String} {atoms : List Atom} {value : (Nat → Bool) → Nat → Bool}
    (means : Means .factor text atoms value) (connective : Connective) :
    Means connective.strength text atoms value := by
  obtain ⟨symbols, found, spells, derived, others⟩ := means
  exact ⟨symbols, found, spells, connective.derives_of_factor derived, others⟩

/-! ### What a condition means -/

/-- A leaf that stands in SQL as a comparison of a column. -/
def Leaf.Stands (leaf : Leaf) : Prop := leaf.sqlWord?.isSome ∧ leaf.NamesColumn

section Tree

variable (quote : Bool)

mutual

/-- **The text of a condition as an operand means the condition.** -/
theorem means_operand {indent : String} (blanks : ∀ c ∈ indent.toList, isBlank c = true)
    {position : Int} (start : 0 ≤ position) : ∀ condition : Condition,
    (∀ leaf ∈ condition.leaves, leaf.Stands) → condition.isFilled = true →
      Means .factor (operandText quote indent position condition)
        (atomsFrom quote position condition.leaves) fun truth first =>
          condition.valueFrom truth first
  | .leaf comparison, stand, _ => by
    have here := stand comparison (List.mem_singleton_self comparison)
    rw [operandText]
    exact (Means.leaf here.1 here.2 quote start).congr rfl fun truth first => by
      rw [Condition.valueFrom]
  | .group connective children, stand, filled => by
    rw [Condition.isFilled, Bool.and_eq_true] at filled
    rw [Condition.leaves] at stand ⊢
    rw [operandText]
    have inner :=
      means_group (blank_indent blanks) start connective children stand filled.1 filled.2
    exact (inner.parenthesized blanks connective).congr rfl fun truth first => by
      rw [Condition.valueFrom]

/-- The text of a group that is not empty. -/
theorem means_group {indent : String} (blanks : ∀ c ∈ indent.toList, isBlank c = true)
    {position : Int} (start : 0 ≤ position) (connective : Connective) : ∀ children : List Condition,
    (∀ leaf ∈ Condition.leavesOf children, leaf.Stands) → (!children.isEmpty) = true →
      Condition.areFilled children = true →
        Means connective.strength
          (joinOperands indent connective (operandTexts quote indent position children))
          (atomsFrom quote position (Condition.leavesOf children)) fun truth first =>
            connective.value (Condition.valuesFrom truth first children)
  | [], _, nonempty, _ => by cases nonempty
  | child :: rest, stand, _, filled => by
    rw [Condition.areFilled, Bool.and_eq_true] at filled
    rw [Condition.leavesOf] at stand ⊢
    obtain ⟨here, others⟩ := List.forall_mem_append.1 stand
    have first := (means_operand blanks start child here filled.1).weaken connective
    have counted : 0 ≤ position + widthOf child.leaves := by omega
    have whole := (means_operands blanks counted connective others filled.2 first).indented blanks
    rw [operandTexts]
    refine whole.congr (atomsFrom_append quote _ _ _).symm fun truth number => ?_
    rw [Condition.valuesFrom, connective.value_cons, length_atomsFrom]

/-- Operands behind a first one: connectives of one group associate to the left, so what has been
read so far is the left operand of the next connective. -/
theorem means_operands {indent : String} (blanks : ∀ c ∈ indent.toList, isBlank c = true)
    {position : Int} (start : 0 ≤ position) (connective : Connective) :
    ∀ {children : List Condition},
    (∀ leaf ∈ Condition.leavesOf children, leaf.Stands) → Condition.areFilled children = true →
      ∀ {text : String} {atoms : List Atom} {value : (Nat → Bool) → Nat → Bool},
        Means connective.strength text atoms value →
        Means connective.strength
          ((separator indent connective).intercalate
            (text :: operandTexts quote indent position children))
          (atoms ++ atomsFrom quote position (Condition.leavesOf children)) fun truth first =>
            connective.both (value truth first)
              (connective.value (Condition.valuesFrom truth (first + atoms.length) children))
  | [], _, _, text, atoms, value, means => by
    rw [operandTexts, String.intercalate_singleton, Condition.leavesOf]
    refine means.congr (List.append_nil _).symm fun truth first => ?_
    rw [Condition.valuesFrom, connective.both_value_nil]
  | child :: rest, stand, filled, text, atoms, value, means => by
    rw [Condition.areFilled, Bool.and_eq_true] at filled
    rw [Condition.leavesOf] at stand ⊢
    obtain ⟨here, others⟩ := List.forall_mem_append.1 stand
    have next := means.join blanks connective (means_operand blanks start child here filled.1)
    have counted : 0 ≤ position + widthOf child.leaves := by omega
    have whole := means_operands blanks counted connective others filled.2 next
    rw [operandTexts]
    refine whole.congr ?_ fun truth first => ?_
    · rw [List.append_assoc, atomsFrom_append]
    · rw [connective.both_assoc, Condition.valuesFrom, connective.value_cons, List.length_append,
        length_atomsFrom, Nat.add_assoc]

end

end Tree

/-- **A compiled tree means what the tree says.** The clause is read as one expression and no other;
the comparisons of the expression are the leaves in document order, and its value is that of the
tree whatever values the comparisons have. -/
theorem compile_meaning (columns : ColumnTypes) (quote : Bool) {indent : String}
    (blanks : ∀ c ∈ indent.toList, isBlank c = true) {position : Int} (start : 0 ≤ position)
    (tree : ConditionTree) (compiles : ∀ leaf ∈ tree.leaves, leaf.Compiles columns)
    (named : ∀ leaf ∈ tree.leaves, leaf.NamesColumn) (filled : tree.toCondition.isFilled = true) :
    ∃ clause found, compile columns quote indent position tree = .ok clause ∧
      Reads clause.text found ∧ (∀ other, Reads clause.text other → other = found) ∧
      found.atoms = atomsFrom quote position tree.leaves ∧
      ∀ truth, found.valueFrom truth 0 = tree.toCondition.valueFrom truth 0 := by
  have stand : ∀ leaf ∈ tree.leaves, leaf.Stands := fun leaf member =>
    ⟨(compiles leaf member).1, named leaf member⟩
  rw [ConditionTree.toCondition, Condition.isFilled, Bool.and_eq_true] at filled
  obtain ⟨symbols, found, spells, derived, atoms, value⟩ :=
    means_group quote blanks start tree.connective tree.children stand filled.1 filled.2
  obtain ⟨tokens, scanned, grouped⟩ := spells.whole
  have reads : Reads (treeText quote indent position tree) found :=
    ⟨tokens, symbols, scanned, grouped, tree.connective.derives_expression derived⟩
  refine ⟨_, found, compile_eq columns quote indent position tree compiles, reads,
    fun other again => again.unique reads, atoms, fun truth => ?_⟩
  rw [value, ConditionTree.toCondition, Condition.valueFrom]

/-- A group of one BETWEEN inside a disjunction, next to a conjunction of an IN and a NULL test. -/
theorem compile_meaning_of_nested_groups :
    let columns : ColumnTypes := [("age", .integer)]
    let tree : ConditionTree := ⟨.any, [
      .group .all [.leaf ⟨"age", "between", .list [.int 1, .int 5]⟩],
      .group .all [.leaf ⟨"name", "notIn", .text "a, b"⟩, .leaf ⟨"left_on", "isNull", .null⟩],
      .leaf ⟨"name", "startsWith", .text "c"⟩]⟩
    (∀ c ∈ standardIndent.toList, isBlank c = true) ∧ (0 : Int) ≤ 1 ∧
      (∀ leaf ∈ tree.leaves, leaf.Compiles columns) ∧ (∀ leaf ∈ tree.leaves, leaf.NamesColumn) ∧
      tree.toCondition.isFilled = true ∧
      ∃ clause found, compile columns false standardIndent 1 tree = .ok clause ∧
        Reads clause.text found ∧ (∀ other, Reads clause.text other → other = found) ∧
        found.atoms = atomsFrom false 1 tree.leaves ∧
        ∀ truth, found.valueFrom truth 0 = tree.toCondition.valueFrom truth 0 := by
  intro columns tree
  have blanks : ∀ c ∈ standardIndent.toList, isBlank c = true := List.all_eq_true.1 (by decide)
  have compiles : ∀ leaf ∈ tree.leaves, leaf.Compiles columns := by
    refine List.forall_mem_cons.2 ⟨⟨rfl, _, rfl⟩, List.forall_mem_cons.2 ⟨⟨rfl, _, rfl⟩,
      List.forall_mem_cons.2 ⟨⟨rfl, _, rfl⟩, List.forall_mem_cons.2 ⟨⟨rfl, _, rfl⟩, ?_⟩⟩⟩⟩
    exact fun _ member => by cases member
  have named : ∀ leaf ∈ tree.leaves, leaf.NamesColumn := by
    unfold Leaf.NamesColumn
    decide +kernel
  exact ⟨blanks, by decide, compiles, named, rfl,
    compile_meaning columns false blanks (by decide) tree compiles named rfl⟩

end QueryDesk
