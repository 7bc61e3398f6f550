/-
**Parentheses around nothing.**

A group without children has no text, so inside of another group it leaves a pair of
parentheses with blanks between them. That is seen on a text without its blanks, where the
two parentheses are neighbours.

* `HasHollowParentheses` — a text with parentheses around nothing but blanks;
  `hasHollowParentheses_iff` says it of neighbours.
* `IsSolid` — characters that can be put next to each other without a hollow pair (`IsSolid.append`)
  and into parentheses (`IsSolid.enclosed`).
* `hollow_operand`, `solid_operand` — a condition with an empty group has hollow parentheses,
  and one without is solid, however its parameters are written; `hollow_tree`,
  `isChain_tree_iff` — so of a tree.
* `JoinsOperands`, `Derives.joinsOperands` — in what is read as an expression, every connective
  has an operand on both sides.
-/

import Mathlib.Data.List.Chain
import QueryDesk.Proofs.Clause.Meaning
import QueryDesk.Proofs.Clause.Rendering

namespace QueryDesk

open Sql Text

namespace Sql

/-! ### Hollow parentheses -/

/-- A text with parentheses around nothing but blanks. -/
def HasHollowParentheses (text : String) : Prop :=
  ∃ before blanks behind : List Char,
    text.toList = before ++ '(' :: (blanks ++ ')' :: behind) ∧ ∀ c ∈ blanks, isBlank c = true

/-- The characters of a text that are no blanks. -/
def marksOf (text : List Char) : List Char := text.filter fun c => !isBlank c

@[simp] theorem marksOf_append (first second : List Char) :
    marksOf (first ++ second) = marksOf first ++ marksOf second :=
  List.filter_append _ _

theorem marksOf_of_blanks {text : List Char} (blanks : ∀ c ∈ text, isBlank c = true) :
    marksOf text = [] :=
  List.filter_eq_nil_iff.2 fun c member => by rw [blanks c member]; exact Bool.false_ne_true

/-- Two characters that are no opening parenthesis with the closing one behind it. -/
def Apart (first second : Char) : Prop := ¬ (first = '(' ∧ second = ')')

/-- **Hollow parentheses are neighbours when the blanks are gone.** -/
theorem hasHollowParentheses_iff {text : String} :
    HasHollowParentheses text ↔ ¬ (marksOf text.toList).IsChain Apart := by
  rw [List.isChain_iff_forall_rel_of_append_cons_cons]
  constructor
  · rintro ⟨before, blanks, behind, spelled, blank⟩ apart
    have marks : marksOf text.toList = marksOf before ++ '(' :: ')' :: marksOf behind := by
      rw [spelled, marksOf_append]
      show _ ++ '(' :: marksOf (blanks ++ ')' :: behind) = _
      rw [marksOf_append, marksOf_of_blanks blank]
      rfl
    exact apart marks ⟨rfl, rfl⟩
  · intro touching
    simp only [not_forall, Apart, not_not] at touching
    obtain ⟨_, _, start, rest, marks, rfl, rfl⟩ := touching
    obtain ⟨before, later, parts, -, found⟩ := List.filter_eq_append_iff.1 marks
    obtain ⟨blanks, more, rfl, blank, -, next⟩ := List.filter_eq_cons_iff.1 found
    obtain ⟨between, behind, rfl, inside, -, -⟩ := List.filter_eq_cons_iff.1 next
    refine ⟨before ++ blanks, between, behind, ?_, fun c member => ?_⟩
    · rw [parts, List.append_assoc]
    · simpa using inside c member

/-! ### Solid characters -/

/-- Characters among which no parenthesis stands. -/
def IsBare (marks : List Char) : Prop := ∀ c ∈ marks, c ≠ '(' ∧ c ≠ ')'

instance (marks : List Char) : Decidable (IsBare marks) :=
  List.decidableBAll (fun c => c ≠ '(' ∧ c ≠ ')') marks

/-- Characters that begin with no closing and end with no opening parenthesis,
and have no hollow pair. -/
structure IsSolid (marks : List Char) : Prop where
  begins : ∃ c ∈ marks.head?, c ≠ ')'
  ends : ∃ c ∈ marks.getLast?, c ≠ '('
  apart : marks.IsChain Apart

namespace IsBare

variable {marks more : List Char}

theorem of_text {text : List Char} (bare : IsBare text) : IsBare (marksOf text) :=
  fun c member => bare c (List.mem_of_mem_filter member)

theorem append (first : IsBare marks) (second : IsBare more) : IsBare (marks ++ more) :=
  List.forall_mem_append.2 ⟨first, second⟩

/-- Bare characters make no hollow pair with what stands behind them. -/
theorem isChain_append_iff (bare : IsBare marks) :
    (marks ++ more).IsChain Apart ↔ more.IsChain Apart := by
  have own : marks.IsChain Apart := List.isChain_iff_forall_rel_of_append_cons_cons.2
    fun c d before behind parts touching => (bare c (by simp [parts])).1 touching.1
  refine ⟨List.IsChain.right_of_append, fun chain => own.append chain fun c last d _ touching => ?_⟩
  exact (bare c (List.mem_of_mem_getLast? last)).1 touching.1

theorem isSolid (bare : IsBare marks) (some_mark : marks ≠ []) : IsSolid marks := by
  have chain := @isChain_append_iff marks [] bare
  rw [List.append_nil] at chain
  refine ⟨⟨marks.head some_mark, List.head?_eq_some_head some_mark, ?_⟩,
    ⟨marks.getLast some_mark, List.getLast?_eq_some_getLast some_mark, ?_⟩, chain.2 .nil⟩
  · exact (bare _ (List.head_mem some_mark)).2
  · exact (bare _ (List.getLast_mem some_mark)).1

end IsBare

namespace IsSolid

variable {marks more : List Char}

/-- **Solid characters behind one another.** -/
theorem append (first : IsSolid marks) (second : IsSolid more) : IsSolid (marks ++ more) := by
  obtain ⟨c, head, unclosed⟩ := first.begins
  obtain ⟨d, last, unopened⟩ := first.ends
  obtain ⟨e, final, ending⟩ := second.ends
  refine ⟨⟨c, ?_, unclosed⟩, ⟨e, ?_, ending⟩,
    first.apart.append second.apart fun x here y _ touching => ?_⟩
  · rw [List.head?_append, head]
    rfl
  · rw [List.getLast?_append, final]
    rfl
  · obtain rfl := Option.mem_unique here last
    exact unopened touching.1

/-- Bare characters may stand in front of solid ones. -/
theorem prepend (solid : IsSolid more) (bare : IsBare marks) : IsSolid (marks ++ more) := by
  by_cases nothing : marks = []
  · rwa [nothing]
  · exact (bare.isSolid nothing).append solid

/-- Bare characters may stand behind solid ones. -/
theorem close (solid : IsSolid marks) (bare : IsBare more) : IsSolid (marks ++ more) := by
  by_cases nothing : more = []
  · rwa [nothing, List.append_nil]
  · exact solid.append (bare.isSolid nothing)

/-- **Solid characters in parentheses.** -/
theorem enclosed (solid : IsSolid marks) : IsSolid ('(' :: (marks ++ [')'])) := by
  obtain ⟨c, head, unclosed⟩ := solid.begins
  obtain ⟨d, last, unopened⟩ := solid.ends
  have inner : (marks ++ [')']).IsChain Apart :=
    solid.apart.append (.singleton _) fun x here y _ touching => by
      obtain rfl := Option.mem_unique here last
      exact unopened touching.1
  refine ⟨⟨'(', rfl, by decide⟩, ⟨')', ?_, by decide⟩, inner.cons fun y first touching => ?_⟩
  · rw [← List.cons_append, List.getLast?_concat]
    rfl
  · rw [List.head?_append, head] at first
    obtain rfl := Option.mem_unique first rfl
    exact unclosed touching.2

end IsSolid

/-! ### Leaves -/

/-- A way to write a parameter that leaves no parentheses around nothing: it shows
something, and no parenthesis. -/
def IsShown (text : String) : Prop := IsBare text.toList ∧ ∃ c ∈ text.toList, isBlank c = false

theorem IsShown.isSolid {text : String} (shown : IsShown text) : IsSolid (marksOf text.toList) := by
  obtain ⟨bare, c, member, unblank⟩ := shown
  refine bare.of_text.isSolid (List.ne_nil_of_mem (List.mem_filter.2 ⟨member, ?_⟩))
  rw [unblank]
  rfl

section Param

variable (param : Int → String) (quote : Bool)

/-- The characters of a leaf. -/
theorem isSolid_leaf {leaf : Leaf} (some_word : leaf.sqlWord?.isSome)
    (bare : IsBare leaf.fact.toList)
    {position : Int} (shown : ∀ number, position ≤ number → number < position + leaf.width →
      IsShown (param number)) :
    IsSolid (marksOf (leaf.textWith param quote position).toList) := by
  have words : ∀ entry ∈ Operator.words, IsBare entry.2.toList ∧ marksOf entry.2.toList ≠ [] := by
    decide
  obtain ⟨bareWord, some_mark⟩ := words _ (Leaf.mem_words some_word)
  have word := bareWord.of_text.isSolid some_mark
  have name : IsBare (quoteName quote leaf.fact).toList :=
    forall_mem_quoteName (by decide) quote bare
  have named : IsBare (marksOf ((quoteName quote leaf.fact).toList ++ " ".toList)) :=
    (name.append (by decide)).of_text
  -- one case for each form of the tail: nothing, two parameters, one in parentheses, or one alone
  have tail : IsSolid (marksOf (leaf.sqlWord?.getD "").toList ++
      marksOf (tailWith param leaf.operator position).toList) := by
    unfold Leaf.width arity at shown
    unfold tailWith
    split
    · exact word.close (List.forall_mem_nil _)
    · rw [if_neg ‹_›] at shown
      split
      · rw [if_pos ‹_›] at shown
        have low := (shown position (Int.le_refl _) (by omega)).1
        have high := (shown (position + 1) (by omega) (by omega)).1
        refine word.close (IsBare.of_text ?_)
        simp only [String.toList_append]
        exact .append (.append (.append (by decide) low) (by decide)) high
      · rw [if_neg ‹_›] at shown
        have single := shown position (Int.le_refl _) (by omega)
        split
        · have inner := single.isSolid.enclosed
          rw [String.toList_append, String.toList_append, marksOf_append, marksOf_append]
          exact word.append inner
        · refine word.close (IsBare.of_text ?_)
          rw [String.toList_append]
          exact .append (by decide) single.1
  unfold Leaf.textWith
  rw [String.toList_append, String.toList_append, marksOf_append, marksOf_append, List.append_assoc,
    String.toList_append]
  exact tail.prepend named

/-! ### Groups -/

/-- Parentheses are marks of the text that they stand around. -/
theorem marksOf_parenthesized {indent : String} (blanks : ∀ c ∈ indent.toList, isBlank c = true)
    (text : String) :
    marksOf (parenthesized indent text).toList = '(' :: (marksOf text.toList ++ [')']) := by
  unfold parenthesized
  simp only [String.toList_append, marksOf_append, marksOf_of_blanks blanks, List.append_assoc]
  rfl

/-- The marks of joined operands are those between and inside of them. -/
theorem marksOf_joinOperands {indent : String} (blanks : ∀ c ∈ indent.toList, isBlank c = true)
    (connective : Connective) (texts : List String) :
    marksOf (joinOperands indent connective texts).toList =
      marksOf ((separator indent connective).intercalate texts).toList := by
  unfold joinOperands
  cases texts with
  | nil => rfl
  | cons text texts =>
    rw [List.isEmpty_cons, if_neg Bool.false_ne_true, String.toList_append, marksOf_append,
      marksOf_of_blanks blanks]
    rfl

/-- The connective of a separator is solid. -/
theorem isSolid_separator {indent : String} (blanks : ∀ c ∈ indent.toList, isBlank c = true)
    (connective : Connective) : IsSolid (marksOf (separator indent connective).toList) := by
  have word : marksOf (separator indent connective).toList = marksOf connective.sql.toList := by
    rw [toList_separator]
    show marksOf (indent.toList ++ (connective.sql.toList ++ [' '])) = _
    rw [marksOf_append, marksOf_append, marksOf_of_blanks blanks]
    exact List.append_nil _
  rw [word]
  cases connective <;> exact IsBare.isSolid (by decide) (by decide)

/-- The characters of a text in front of others, a separator between them. -/
theorem marksOf_intercalate_cons (separator text : String) (texts : List String) :
    marksOf (separator.intercalate (text :: texts)).toList = marksOf text.toList ++
      (if texts = [] then []
        else marksOf separator.toList ++ marksOf (separator.intercalate texts).toList) := by
  cases texts with
  | nil =>
    rw [String.intercalate_singleton, if_pos rfl, List.append_nil]
  | cons next texts =>
    rw [String.intercalate_cons_cons, String.toList_append, String.toList_append, marksOf_append,
      marksOf_append, List.append_assoc, if_neg (List.cons_ne_nil _ _)]

mutual

/-- **A condition with an empty group has hollow parentheses.** -/
theorem hollow_operand {indent : String} (blanks : ∀ c ∈ indent.toList, isBlank c = true)
    (position : Int) : ∀ condition : Condition, condition.isFilled = false →
      ¬ (marksOf (operandWith param quote indent position condition).toList).IsChain Apart
  | .leaf _, unfilled => by
    rw [Condition.isFilled] at unfilled
    cases unfilled
  | .group connective children, unfilled => by
    have deeper := blank_indent blanks
    rw [Condition.isFilled, Bool.and_eq_false_iff, Bool.not_eq_false'] at unfilled
    rw [operandWith, marksOf_parenthesized blanks, marksOf_joinOperands deeper]
    intro chain
    rcases unfilled with empty | inner
    · rw [List.isEmpty_iff.1 empty, operandsWith] at chain
      exact List.isChain_pair.1 chain ⟨rfl, rfl⟩
    · exact hollow_operands deeper connective position children inner chain.tail.left_of_append

/-- The operands of a group, with what stands between them. -/
theorem hollow_operands {indent : String} (blanks : ∀ c ∈ indent.toList, isBlank c = true)
    (connective : Connective) (position : Int) : ∀ children : List Condition,
      Condition.areFilled children = false →
        ¬ (marksOf ((separator indent connective).intercalate
          (operandsWith param quote indent position children)).toList).IsChain Apart
  | [], unfilled => by
    rw [Condition.areFilled] at unfilled
    cases unfilled
  | child :: rest, unfilled => by
    rw [Condition.areFilled, Bool.and_eq_false_iff] at unfilled
    rw [operandsWith, marksOf_intercalate_cons]
    intro chain
    rcases unfilled with here | later
    · exact hollow_operand blanks position child here chain.left_of_append
    · have some_child : rest ≠ [] := by
        rintro rfl
        rw [Condition.areFilled] at later
        cases later
      have behind := chain.right_of_append
      rw [if_neg (mt (operandsWith_eq_nil_iff quote param indent _ rest).1 some_child)] at behind
      exact hollow_operands blanks connective _ rest later behind.right_of_append

end

mutual

/-- **A condition without empty groups is solid.** -/
theorem solid_operand {indent : String} (blanks : ∀ c ∈ indent.toList, isBlank c = true)
    (position : Int) : ∀ condition : Condition,
      (∀ leaf ∈ condition.leaves, leaf.sqlWord?.isSome ∧ IsBare leaf.fact.toList) →
        (∀ number, position ≤ number → number < position + widthOf condition.leaves →
          IsShown (param number)) → condition.isFilled = true →
          IsSolid (marksOf (operandWith param quote indent position condition).toList)
  | .leaf comparison, bare, shown, _ => by
    obtain ⟨some_word, fact⟩ := bare comparison (List.mem_singleton_self comparison)
    rw [operandWith]
    exact isSolid_leaf param quote some_word fact fun number => shown number
  | .group connective children, bare, shown, filled => by
    have deeper := blank_indent blanks
    rw [Condition.isFilled, Bool.and_eq_true] at filled
    rw [Condition.leaves] at bare shown
    have some_child : children ≠ [] := by simpa using filled.1
    rw [operandWith, marksOf_parenthesized blanks, marksOf_joinOperands deeper]
    exact (solid_operands deeper connective position children bare shown filled.2
      some_child).enclosed

/-- The operands of a group, with what stands between them. -/
theorem solid_operands {indent : String} (blanks : ∀ c ∈ indent.toList, isBlank c = true)
    (connective : Connective) (position : Int) : ∀ children : List Condition,
      (∀ leaf ∈ Condition.leavesOf children, leaf.sqlWord?.isSome ∧ IsBare leaf.fact.toList) →
        (∀ number, position ≤ number → number < position + widthOf (Condition.leavesOf children) →
          IsShown (param number)) → Condition.areFilled children = true → children ≠ [] →
          IsSolid (marksOf ((separator indent connective).intercalate
            (operandsWith param quote indent position children)).toList)
  | [], _, _, _, some_child => absurd rfl some_child
  | child :: rest, bare, shown, filled, _ => by
    rw [Condition.areFilled, Bool.and_eq_true] at filled
    rw [Condition.leavesOf] at bare shown
    rw [widthOf_append] at shown
    obtain ⟨bareHere, bareLater⟩ := List.forall_mem_append.1 bare
    have first := solid_operand blanks position child bareHere
      (fun number low high => shown number low (by omega)) filled.1
    rw [operandsWith, marksOf_intercalate_cons]
    split
    · rwa [List.append_nil]
    · have some_child : rest ≠ [] := mt (operandsWith_eq_nil_iff quote param indent _ rest).2 ‹_›
      have others :=
        solid_operands blanks connective (position + widthOf child.leaves) rest bareLater
        (fun number low high => shown number (by omega) (by omega)) filled.2 some_child
      exact first.append ((isSolid_separator blanks connective).append others)

end

/-- A tree with an empty group inside of it has hollow parentheses. -/
theorem hollow_tree {indent : String} (blanks : ∀ c ∈ indent.toList, isBlank c = true)
    (position : Int) {tree : ConditionTree} (unfilled : Condition.areFilled tree.children = false) :
    ¬ (marksOf (treeTextWith param quote indent position tree).toList).IsChain Apart := by
  rw [treeTextWith, marksOf_joinOperands blanks]
  exact hollow_operands param quote blanks tree.connective position tree.children unfilled

/-- **A tree has hollow parentheses exactly when a group inside of it is empty.** -/
theorem isChain_tree_iff {indent : String} (blanks : ∀ c ∈ indent.toList, isBlank c = true)
    {position : Int} {tree : ConditionTree}
    (bare : ∀ leaf ∈ tree.leaves, leaf.sqlWord?.isSome ∧ IsBare leaf.fact.toList)
    (shown : ∀ number, position ≤ number → number < position + widthOf tree.leaves →
      IsShown (param number)) :
    (marksOf (treeTextWith param quote indent position tree).toList).IsChain Apart ↔
      Condition.areFilled tree.children = true := by
  constructor
  · intro chain
    by_contra unfilled
    exact hollow_tree param quote blanks position (Bool.not_eq_true _ ▸ unfilled) chain
  · intro filled
    rw [treeTextWith, marksOf_joinOperands blanks]
    by_cases childless : tree.children = []
    · rw [childless, operandsWith]
      exact .nil
    · exact (solid_operands param quote blanks tree.connective position tree.children bare shown
        filled childless).apart

end Param

/-! ### Connectives -/

namespace Predicate

namespace Symbol

/-- Whether a symbol joins two operands. -/
def isConnective : Symbol → Bool
  | .and => true
  | .or => true
  | _ => false

/-- Whether an operand may begin with a symbol. -/
def beginsOperand : Symbol → Bool
  | .atom _ => true
  | .opening => true
  | _ => false

/-- Whether an operand may end with a symbol. -/
def endsOperand : Symbol → Bool
  | .atom _ => true
  | .closing => true
  | _ => false

end Symbol

namespace Symbol

theorem not_isConnective_of_begins {symbol : Symbol} (begins : symbol.beginsOperand = true) :
    ¬ symbol.isConnective = true := by
  cases symbol <;> first | exact Bool.false_ne_true | cases begins

theorem not_isConnective_of_ends {symbol : Symbol} (ends : symbol.endsOperand = true) :
    ¬ symbol.isConnective = true := by
  cases symbol <;> first | exact Bool.false_ne_true | cases ends

/-- Neighbours of which an operand ends before a connective and begins behind one. -/
def Fits (left right : Symbol) : Prop :=
  (right.isConnective = true → left.endsOperand = true) ∧
    (left.isConnective = true → right.beginsOperand = true)

end Symbol

/-- Symbols in which every connective stands between two operands: operands are at both ends, and
next to every connective one ends and one begins. -/
structure JoinsOperands (symbols : List Symbol) : Prop where
  begins : ∃ symbol ∈ symbols.head?, symbol.beginsOperand = true
  ends : ∃ symbol ∈ symbols.getLast?, symbol.endsOperand = true
  between : symbols.IsChain Symbol.Fits

namespace JoinsOperands

variable {symbols more : List Symbol}

/-- Symbols that join operands make an operand between parentheses. -/
theorem parentheses (joins : JoinsOperands symbols) :
    JoinsOperands (.opening :: symbols ++ [.closing]) := by
  obtain ⟨first, head, begins⟩ := joins.begins
  obtain ⟨last, final, ends⟩ := joins.ends
  have inner := joins.between.append (.singleton Symbol.closing) fun left here right there => by
    obtain rfl := Option.mem_unique here final
    obtain rfl := Option.mem_unique there rfl
    exact ⟨nofun, fun connective => absurd connective (Symbol.not_isConnective_of_ends ends)⟩
  refine ⟨⟨.opening, rfl, rfl⟩, ⟨.closing, List.getLast?_concat, rfl⟩,
    inner.cons fun right there => ?_⟩
  rw [List.head?_append, head] at there
  obtain rfl := Option.mem_unique there rfl
  exact ⟨fun connective => absurd connective (Symbol.not_isConnective_of_begins begins), nofun⟩

/-- Two rows with a connective between them. -/
theorem join (before : JoinsOperands symbols) (connective : Symbol) (behind : JoinsOperands more) :
    JoinsOperands (symbols ++ connective :: more) := by
  obtain ⟨first, head, begins⟩ := before.begins
  obtain ⟨left, final, ends⟩ := before.ends
  obtain ⟨right, next, opens⟩ := behind.begins
  obtain ⟨last, close, ending⟩ := behind.ends
  have tail : (connective :: more).IsChain Symbol.Fits := behind.between.cons fun other there => by
    obtain rfl := Option.mem_unique there next
    exact ⟨fun impossible => absurd impossible (Symbol.not_isConnective_of_begins opens),
      fun _ => opens⟩
  refine ⟨⟨first, ?_, begins⟩, ⟨last, ?_, ending⟩,
    before.between.append tail fun other here sign there => ?_⟩
  · rw [List.head?_append, head]
    rfl
  · rw [List.getLast?_append, List.getLast?_cons, close]
    rfl
  · obtain rfl := Option.mem_unique here final
    exact ⟨fun _ => ends, fun impossible =>
      absurd impossible (Symbol.not_isConnective_of_ends ends)⟩

end JoinsOperands

/-- **What is read as an expression joins operands.** -/
theorem Derives.joinsOperands {strength : Strength} {symbols : List Symbol} {found : Expression}
    (derived : Derives strength symbols found) : JoinsOperands symbols := by
  induction derived with
  | atom comparison => exact ⟨⟨_, rfl, rfl⟩, ⟨_, rfl, rfl⟩, .singleton _⟩
  | parentheses _ ih => exact ih.parentheses
  | factor _ ih => exact ih
  | and _ _ left right => exact left.join _ right
  | term _ ih => exact ih
  | or _ _ left right => exact left.join _ right

end Predicate

end Sql

end QueryDesk
