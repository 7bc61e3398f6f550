/-
**What a clause writes around its parameters.**

What the compiler writes around the parameters does not depend on how these are written. So a clause
is described by what it becomes for every way to write a numbered parameter: its own text is written
with the names behind colons, and the bound query with placeholders.

* `numbered` — what is made of numbers, one after another; `bindNames_eq_numbered`, `bindNames_add`
  — the names of parameters are made so, and `nodup_bindNames` — none is given twice.
* `tailWith`, `Leaf.textWith`, `treeTextWith` — the texts with parameters written in a given way;
  `treeText_eq_treeTextWith` — the compiled text among them.
* `Writes` — a text is one tidy template, filled with the parameters however they are written. Texts
  are put together with `Writes.append`.
* `writes_operand`, `writes_tree` — **a condition and a tree are written around their parameters**,
  by induction on the condition together with the lists of its operands.
-/

import Mathlib.Data.List.Nodup
import QueryDesk.Proofs.Clause.Compiled
import QueryDesk.Proofs.Placeholder.Tidy

namespace QueryDesk

open Sql Text

namespace Sql

/-! ### The names of numbered parameters -/

/-- What is made of the numbers from a position on, one after another. -/
def numbered {α : Type} (make : Int → α) (position : Int) (count : Nat) : List α :=
  (List.range count).map fun offset : Nat => make (position + offset)

theorem length_numbered {α : Type} (make : Int → α) (position : Int) (count : Nat) :
    (numbered make position count).length = count := by
  rw [numbered, List.length_map, List.length_range]

theorem numbered_add {α : Type} (make : Int → α) (position : Int) (first second : Nat) :
    numbered make position (first + second) =
      numbered make position first ++ numbered make (position + first) second := by
  unfold numbered
  rw [List.range_add, List.map_append, List.map_map]
  refine congrArg (_ ++ ·) (List.map_congr_left fun offset _ => ?_)
  show make (position + (first + offset : Nat)) = make (position + first + offset)
  rw [Int.natCast_add, Int.add_assoc]

theorem numbered_one {α : Type} (make : Int → α) (position : Int) :
    numbered make position 1 = [make position] := by
  show [make (position + (0 : Nat))] = _
  rw [Int.natCast_zero, Int.add_zero]

theorem map_numbered {α β : Type} (change : α → β) (make : Int → α) (position : Int) (count : Nat) :
    (numbered make position count).map change =
      numbered (fun number => change (make number)) position count := by
  rw [numbered, List.map_map]
  rfl

/-- **The names of parameters, each by its number.** -/
theorem bindNames_eq_numbered (count : Nat) : ∀ position : Int,
    bindNames position count = numbered bindName position count := by
  induction count with
  | zero => exact fun _ => rfl
  | succ count ih =>
    intro position
    rw [bindNames, ih, Nat.add_comm count 1, numbered_add, numbered_one]
    rfl

theorem bindNames_add (first second : Nat) (position : Int) :
    bindNames position (first + second) =
      bindNames position first ++ bindNames (position + first) second := by
  rw [bindNames_eq_numbered, bindNames_eq_numbered, bindNames_eq_numbered, numbered_add]

theorem length_bindNames (count : Nat) (position : Int) :
    (bindNames position count).length = count := by
  rw [bindNames_eq_numbered, length_numbered]

/-- Different numbers give different names. -/
theorem bindName_injective {first second : Nat}
    (same : bindName (first : Int) = bindName (second : Int)) : first = second := by
  have spelled := congrArg String.toList same
  rwa [toList_bindName, toList_bindName, List.append_cancel_left_eq, Text.toDigits_inj] at spelled

/-- **No name is given twice.** -/
theorem nodup_bindNames (count : Nat) {position : Int} (start : 0 ≤ position) :
    (bindNames position count).Nodup := by
  obtain ⟨first, rfl⟩ := Int.eq_ofNat_of_zero_le start
  rw [bindNames_eq_numbered]
  refine List.Nodup.map (fun left right same => ?_) List.nodup_range
  exact Nat.add_left_cancel (bindName_injective same)

/-- The name of a number is the name of a parameter. -/
theorem isParameterName_bindName {position : Int} (start : 0 ≤ position) :
    Template.isParameterName (bindName position).toList = true := by
  obtain ⟨number, rfl⟩ := Int.eq_ofNat_of_zero_le start
  have words := isWord_of_mem_plainName (isPlainName_bindName start)
  rw [toList_bindName] at words ⊢
  show (Template.startsName 'v' && (['v', 'a', 'l'] ++ Nat.toDigits 10 number).all isWord) = true
  rw [List.all_eq_true.2 words]
  decide

/-! ### Texts with parameters in place -/

/-- The parameter of a number, as the compiler writes it. -/
def namedParam (number : Int) : String := ":" ++ bindName number

/-- The parameters behind an operator, written in a given way. -/
def tailWith (param : Int → String) (operator : String) (position : Int) : String :=
  if Operator.takesNoValue operator then ""
  else if operator = "between" then " " ++ param position ++ " AND " ++ param (position + 1)
  else if Operator.takesList operator then " (" ++ param position ++ ")"
  else " " ++ param position

theorem tailText_eq_tailWith (operator : String) (position : Int) :
    tailText operator position = tailWith namedParam operator position := by
  have colon : " :" = " " ++ ":" ∧ " AND :" = " AND " ++ ":" ∧ " (:" = " (" ++ ":" := by decide
  unfold tailText tailWith namedParam
  rw [colon.1, colon.2.1, colon.2.2]
  simp only [String.append_assoc]

end Sql

/-- The text of a leaf with its parameters written in a given way. -/
def Leaf.textWith (param : Int → String) (quote : Bool) (position : Int) (leaf : Leaf) : String :=
  quoteName quote leaf.fact ++ " " ++ leaf.sqlWord?.getD "" ++ tailWith param leaf.operator position

namespace Sql

mutual

/-- The text of a condition with its parameters written in a given way. -/
def operandWith (param : Int → String) (quote : Bool) (indent : String) (position : Int) :
    Condition → String
  | .leaf comparison => comparison.textWith param quote position
  | .group connective children =>
    parenthesized indent (joinOperands (indent ++ "  ") connective
      (operandsWith param quote (indent ++ "  ") position children))

/-- The texts of the operands of a group with their parameters written in a given way. -/
def operandsWith (param : Int → String) (quote : Bool) (indent : String) (position : Int) :
    List Condition → List String
  | [] => []
  | child :: rest =>
    operandWith param quote indent position child ::
      operandsWith param quote indent (position + widthOf child.leaves) rest

end

/-- The text of a tree with its parameters written in a given way. -/
def treeTextWith (param : Int → String) (quote : Bool) (indent : String) (position : Int)
    (tree : ConditionTree) : String :=
  joinOperands indent tree.connective (operandsWith param quote indent position tree.children)

section Named

variable (quote : Bool)

mutual

/-- By induction on a condition: it is spelled with named parameters. -/
theorem operandText_eq_operandWith (indent : String) (position : Int) : ∀ condition : Condition,
    operandText quote indent position condition =
      operandWith namedParam quote indent position condition
  | .leaf comparison => by
    rw [operandText, operandWith, Leaf.text, Leaf.textWith, tailText_eq_tailWith]
  | .group connective children => by
    rw [operandText, operandWith, operandTexts_eq_operandsWith]

/-- By induction on conditions: they are spelled with named parameters. -/
theorem operandTexts_eq_operandsWith (indent : String) (position : Int) :
    ∀ children : List Condition,
    operandTexts quote indent position children =
      operandsWith namedParam quote indent position children
  | [] => by rw [operandTexts, operandsWith]
  | child :: rest => by
    rw [operandTexts, operandsWith, operandText_eq_operandWith, operandTexts_eq_operandsWith]

end

/-- **The compiled text is the one with the names behind colons.** -/
theorem treeText_eq_treeTextWith (indent : String) (position : Int) (tree : ConditionTree) :
    treeText quote indent position tree = treeTextWith namedParam quote indent position tree := by
  rw [treeText, treeTextWith, operandTexts_eq_operandsWith]

end Named

/-! ### Texts that are written around parameters -/

/-- A text is written around numbered parameters: one tidy template with their names is filled with
the parameters, however they are written. -/
def Writes (position : Int) (count : Nat) (text : (Int → String) → String) : Prop :=
  ∃ template : Template, template.Tidy ∧ template.names = bindNames position count ∧
    ∀ param : Int → String,
      (text param).toList =
        template.fill (numbered (fun number => (param number).toList) position count)

/-- A template that is filled with its own names is its source. -/
theorem source_eq_fill_numbered {template : Template} {position : Int} {count : Nat}
    (names : template.names = bindNames position count) :
    template.source =
      template.fill (numbered (fun number => (namedParam number).toList) position count) := by
  have marked := congrArg (List.map fun name : String => ':' :: name.toList) names
  rw [Template.names, List.map_map, bindNames_eq_numbered, map_numbered] at marked
  have spelled : ∀ number, (namedParam number).toList = ':' :: (bindName number).toList :=
    fun number => by
    rw [namedParam, String.toList_append]
    rfl
  unfold Template.source
  simp only [spelled, ← marked]
  exact congrArg template.fill (List.map_congr_left fun slot _ => by simp)

namespace Writes

variable {position : Int} {count more : Nat} {text rest : (Int → String) → String}

theorem congr (writes : Writes position count text) (same : ∀ param, text param = rest param) :
    Writes position count rest :=
  (funext same : text = rest) ▸ writes

theorem ofText {text : String} (inert : ∀ c ∈ text.toList, isInert c = true) (position : Int) :
    Writes position 0 fun _ => text :=
  ⟨⟨text.toList, []⟩, .ofText inert, rfl, fun _ => (List.append_nil _).symm⟩

theorem param (start : 0 ≤ position) : Writes position 1 fun param => param position := by
  refine ⟨⟨[], [((bindName position).toList, [])]⟩,
    .slot (by simp) (isParameterName_bindName start) (by simp) (.ofText (by simp)), ?_,
      fun param => ?_⟩
  · show [String.ofList (bindName position).toList] = [bindName position]
    rw [String.ofList_toList]
  · rw [numbered_one, Template.fill_slot]
    exact (List.append_nil _).symm

/-- The text with the names behind colons is the source of the template. -/
theorem lays (writes : Writes position count text) :
    Lays (text namedParam).toList (bindNames position count) := by
  obtain ⟨template, tidy, names, filled⟩ := writes
  exact ⟨template, tidy, (source_eq_fill_numbered names).trans (filled namedParam).symm, names⟩

/-- **Texts behind one another**, where the second does not go on with a name. -/
theorem append (first : Writes position count text) (second : Writes (position + count) more rest)
    (ends : ∀ c ∈ (rest namedParam).toList.head?, isWord c = false) :
    Writes position (count + more) fun param => text param ++ rest param := by
  obtain ⟨template, tidy, names, filled⟩ := first
  obtain ⟨next, tidyNext, namesNext, filledNext⟩ := second
  have stops : ∀ c ∈ next.lead.head?, isWord c = false := by
    rw [filledNext, ← source_eq_fill_numbered namesNext] at ends
    obtain ⟨lead, slots⟩ := next
    cases lead with
    | nil => exact fun _ member => by cases member
    | cons c lead => exact ends
  have lengths : template.slots.length = count := by
    have counted := congrArg List.length names
    rwa [Template.names, List.length_map, length_bindNames] at counted
  refine ⟨template.append next, tidyNext.behind stops template.slots template.lead tidy, ?_,
    fun param => ?_⟩
  · rw [bindNames_add, ← names, ← namesNext]
    exact Template.names_behind next template.slots template.lead
  · rw [String.toList_append, filled, filledNext, numbered_add]
    exact (Template.fill_append template.slots next _ template.lead _
      ((length_numbered _ _ _).trans lengths.symm)).symm

/-- Inert text in front, whatever stands behind it. -/
theorem prepend (writes : Writes position count rest) (before : String)
    (inert : ∀ c ∈ before.toList, isInert c = true) :
    Writes position count fun param => before ++ rest param := by
  obtain ⟨template, tidy, names, filled⟩ := writes
  refine ⟨⟨before.toList ++ template.lead, template.slots⟩,
    ⟨List.forall_mem_append.2 ⟨inert, tidy.lead⟩, tidy.names, tidy.texts, tidy.ends⟩, names,
      fun param => ?_⟩
  rw [String.toList_append, filled]
  exact (List.append_assoc _ _ _).symm

/-- Inert text behind that does not go on with a name. -/
theorem close (writes : Writes position count text) (behind : String)
    (inert : ∀ c ∈ behind.toList, isInert c = true)
    (ends : ∀ c ∈ behind.toList.head?, isWord c = false) :
    Writes position count fun param => text param ++ behind :=
  writes.append (ofText inert _) ends

end Writes

/-! ### Leaves -/

/-- The parameters of an operator are written with as many numbers as it takes. -/
theorem writes_tail (operator : String) {position : Int} (start : 0 ≤ position) :
    Writes position (arity operator) fun param => tailWith param operator position := by
  have first := Writes.param start
  have second : Writes (position + (1 : Nat)) 1 _ := .param (Int.le_add_one start)
  -- one case for each form of the tail, put together from the right
  unfold tailWith arity
  by_cases valueless : Operator.takesNoValue operator = true
  · simp only [if_pos valueless]
    exact .ofText (List.forall_mem_nil _) position
  · simp only [if_neg valueless]
    by_cases bounds : operator = "between"
    · simp only [if_pos bounds]
      have upper := second.prepend " AND " (List.all_eq_true.1 (by decide))
      have joined := first.append upper (by
        rw [String.toList_append]
        rintro _ ⟨⟩
        decide)
      refine (joined.prepend " " (List.all_eq_true.1 (by decide))).congr fun param => ?_
      simp only [String.append_assoc]
      rfl
    · simp only [if_neg bounds]
      by_cases list : Operator.takesList operator = true
      · simp only [if_pos list]
        have closed := first.close ")" (List.all_eq_true.1 (by decide)) (by rintro _ ⟨⟩; decide)
        refine (closed.prepend " (" (List.all_eq_true.1 (by decide))).congr fun param => ?_
        rw [String.append_assoc]
      · simp only [if_neg list]
        exact first.prepend " " (List.all_eq_true.1 (by decide))

/-- The characters of a name, with the backticks around it. -/
theorem forall_mem_quoteName {claim : Char → Prop} (tick : claim '`') (quote : Bool) {name : String}
    (each : ∀ c ∈ name.toList, claim c) : ∀ c ∈ (quoteName quote name).toList, claim c := by
  cases quote with
  | false => exact each
  | true =>
    show ∀ c ∈ ("`" ++ name ++ "`").toList, claim c
    rw [String.toList_append, String.toList_append]
    exact List.forall_mem_append.2 ⟨List.forall_mem_append.2
      ⟨List.forall_mem_singleton.2 tick, each⟩, List.forall_mem_singleton.2 tick⟩

theorem isInert_of_isPlainName {name : String} (plain : isPlainName name.toList = true) :
    ∀ c ∈ name.toList, isInert c = true :=
  fun c member => isInert_of_isWord (isWord_of_mem_plainName plain c member)

/-- The characters of a word that SQL has for an operator. -/
theorem forall_mem_sqlWord {claim : Char → Prop}
    (words : ∀ entry ∈ Operator.words, ∀ c ∈ entry.2.toList, claim c) (leaf : Leaf) :
    ∀ c ∈ (leaf.sqlWord?.getD "").toList, claim c := by
  cases spelled : leaf.sqlWord? with
  | none => exact fun _ member => by cases member
  | some word =>
    have member := Leaf.mem_words (Option.isSome_of_eq_some spelled)
    rw [spelled] at member
    exact words _ member

/-- The word of an operator consists of inert characters. -/
theorem isInert_sqlWord (leaf : Leaf) : ∀ c ∈ (leaf.sqlWord?.getD "").toList, isInert c = true := by
  have words : ∀ entry ∈ Operator.words, entry.2.toList.all isInert = true := by decide
  exact forall_mem_sqlWord (fun entry member => List.all_eq_true.1 (words entry member)) leaf

/-- A comparison is written with as many numbers as its operator takes. -/
theorem writes_leaf {leaf : Leaf} (inert : ∀ c ∈ leaf.fact.toList, isInert c = true) (quote : Bool)
    {position : Int} (start : 0 ≤ position) :
    Writes position leaf.width fun param => leaf.textWith param quote position := by
  refine (writes_tail leaf.operator start).prepend
    (quoteName quote leaf.fact ++ " " ++ leaf.sqlWord?.getD "") ?_
  rw [String.toList_append, String.toList_append]
  exact List.forall_mem_append.2
    ⟨List.forall_mem_append.2 ⟨forall_mem_quoteName (by decide) quote inert,
    List.all_eq_true.1 (by decide)⟩, isInert_sqlWord leaf⟩

/-! ### Groups -/

/-- A text in front of others, a separator between them. -/
theorem writes_intercalate_cons {position : Int} {count more : Nat} {separator : String}
    {text : (Int → String) → String} {texts : (Int → String) → List String}
    (inert : ∀ c ∈ separator.toList, isInert c = true)
    (breaks : ∀ rest : List Char, ∀ c ∈ (separator.toList ++ rest).head?, isWord c = false)
    (alone : (∀ param, texts param = []) ∨ ∀ param, texts param ≠ [])
    (first : Writes position count text)
    (rest : Writes (position + count) more fun param => separator.intercalate (texts param)) :
    Writes position (count + more) fun param =>
      separator.intercalate (text param :: texts param) := by
  rcases alone with single | several
  · have nothing : ∀ param, separator.intercalate (texts param) = "" := fun param => by
      rw [single]
      rfl
    refine (first.append rest fun c member => ?_).congr fun param => ?_
    · rw [nothing] at member
      cases member
    · rw [nothing, single, String.intercalate_singleton, String.append_empty]
  · refine (first.append (rest.prepend separator inert) fun c member => ?_).congr fun param => ?_
    · rw [String.toList_append] at member
      exact breaks _ c member
    · obtain ⟨next, others, spelled⟩ := List.exists_cons_of_ne_nil (several param)
      rw [spelled, String.intercalate_cons_cons, String.append_assoc]

theorem isInert_of_blanks {indent : String} (blanks : ∀ c ∈ indent.toList, isBlank c = true) :
    ∀ c ∈ indent.toList, isInert c = true :=
  fun c member => isInert_of_isBlank (blanks c member)

theorem isInert_separator {indent : String} (blanks : ∀ c ∈ indent.toList, isBlank c = true)
    (connective : Connective) : ∀ c ∈ (separator indent connective).toList, isInert c = true := by
  have word : ∀ c ∈ connective.sql.toList, isInert c = true := by
    cases connective <;> exact List.all_eq_true.1 (by decide)
  rw [toList_separator]
  exact List.forall_mem_cons.2 ⟨by decide, List.forall_mem_append.2 ⟨isInert_of_blanks blanks,
    List.forall_mem_append.2 ⟨word, List.all_eq_true.1 (by decide)⟩⟩⟩

/-- A separator goes on with no word. -/
theorem breaks_separator (indent : String) (connective : Connective) (rest : List Char) :
    ∀ c ∈ ((separator indent connective).toList ++ rest).head?, isWord c = false := by
  rw [toList_separator]
  rintro _ ⟨⟩
  decide

/-- Operands that are written with some numbers stay so when they are joined. -/
theorem writes_joined {position : Int} {count : Nat} {indent : String}
    (blanks : ∀ c ∈ indent.toList, isBlank c = true) (connective : Connective)
    {texts : (Int → String) → List String}
    (alone : (∀ param, texts param = []) ∨ ∀ param, texts param ≠ [])
    (writes : Writes position count fun param =>
      (separator indent connective).intercalate (texts param)) :
    Writes position count fun param => joinOperands indent connective (texts param) := by
  unfold joinOperands
  rcases alone with nothing | several
  · refine writes.congr fun param => ?_
    rw [nothing]
    rfl
  · refine (writes.prepend indent (isInert_of_blanks blanks)).congr fun param => ?_
    rw [if_neg (by simpa using several param)]
    rfl

theorem writes_parenthesized {position : Int} {count : Nat} {indent : String}
    (blanks : ∀ c ∈ indent.toList, isBlank c = true) {text : (Int → String) → String}
    (writes : Writes position count text) :
    Writes position count fun param => parenthesized indent (text param) := by
  have tail : ∀ c ∈ ("\n" ++ indent ++ ")").toList, isInert c = true := by
    rw [String.toList_append, String.toList_append]
    exact List.forall_mem_append.2 ⟨List.forall_mem_append.2
      ⟨List.all_eq_true.1 (by decide), isInert_of_blanks blanks⟩, List.all_eq_true.1 (by decide)⟩
  have closed := writes.close ("\n" ++ indent ++ ")") tail (by
    rw [String.toList_append, String.toList_append]
    rintro _ ⟨⟩
    decide)
  refine (closed.prepend "(\n" (List.all_eq_true.1 (by decide))).congr fun param => ?_
  unfold parenthesized
  simp only [String.append_assoc]

section Tree

variable (quote : Bool)

/-- Only a group without conditions has no operands. -/
theorem operandsWith_eq_nil_iff (param : Int → String) (indent : String) (position : Int)
    (children : List Condition) :
    operandsWith param quote indent position children = [] ↔ children = [] := by
  cases children with
  | nil => simp [operandsWith]
  | cons child rest => simp [operandsWith]

/-- The operands of a group are none, however the parameters are written, or some. -/
theorem operandsWith_alone (indent : String) (position : Int) (children : List Condition) :
    (∀ param, operandsWith param quote indent position children = []) ∨
      ∀ param, operandsWith param quote indent position children ≠ [] := by
  simp only [ne_eq, operandsWith_eq_nil_iff]
  by_cases childless : children = []
  · exact .inl fun _ => childless
  · exact .inr fun _ => childless

mutual

/-- **A condition is written around its parameters.** -/
theorem writes_operand {indent : String} (blanks : ∀ c ∈ indent.toList, isBlank c = true)
    {position : Int} (start : 0 ≤ position) : ∀ condition : Condition,
    (∀ leaf ∈ condition.leaves, ∀ c ∈ leaf.fact.toList, isInert c = true) →
      Writes position (widthOf condition.leaves) fun param =>
        operandWith param quote indent position condition
  | .leaf comparison, inert => by
    simp only [operandWith]
    exact writes_leaf (inert comparison (List.mem_singleton_self comparison)) quote start
  | .group connective children, inert => by
    have deeper := blank_indent blanks
    simp only [operandWith]
    rw [Condition.leaves] at inert ⊢
    exact writes_parenthesized blanks (writes_joined deeper connective
      (operandsWith_alone quote _ position children)
        (writes_operands deeper start connective children inert))

/-- The operands of a group, with what stands between them. -/
theorem writes_operands {indent : String} (blanks : ∀ c ∈ indent.toList, isBlank c = true)
    {position : Int} (start : 0 ≤ position) (connective : Connective) : ∀ children : List Condition,
    (∀ leaf ∈ Condition.leavesOf children, ∀ c ∈ leaf.fact.toList, isInert c = true) →
      Writes position (widthOf (Condition.leavesOf children)) fun param =>
        (separator indent connective).intercalate
          (operandsWith param quote indent position children)
  | [], _ => by
    simp only [operandsWith]
    exact .ofText (List.forall_mem_nil _) position
  | child :: rest, inert => by
    rw [Condition.leavesOf] at inert ⊢
    obtain ⟨here, others⟩ := List.forall_mem_append.1 inert
    have counted : 0 ≤ position + widthOf child.leaves := by omega
    simp only [operandsWith]
    rw [widthOf_append]
    exact writes_intercalate_cons (isInert_separator blanks connective)
      (breaks_separator indent connective)
      (operandsWith_alone quote indent _ rest) (writes_operand blanks start child here)
      (writes_operands blanks counted connective rest others)

end

/-- **A tree is written around its parameters.** -/
theorem writes_tree {indent : String} (blanks : ∀ c ∈ indent.toList, isBlank c = true)
    {position : Int} (start : 0 ≤ position) {tree : ConditionTree}
    (inert : ∀ leaf ∈ tree.leaves, ∀ c ∈ leaf.fact.toList, isInert c = true) :
    Writes position (widthOf tree.leaves) fun param =>
      treeTextWith param quote indent position tree :=
  writes_joined blanks tree.connective (operandsWith_alone quote indent position tree.children)
    (writes_operands quote blanks start tree.connective tree.children inert)

/-- A tree lays out the names of its parameters. -/
theorem lays_tree {indent : String} (blanks : ∀ c ∈ indent.toList, isBlank c = true)
    {position : Int} (start : 0 ≤ position) {tree : ConditionTree}
    (plain : ∀ leaf ∈ tree.leaves, isPlainName leaf.fact.toList = true) :
    Lays (treeText quote indent position tree).toList
      (bindNames position (widthOf tree.leaves)) := by
  rw [treeText_eq_treeTextWith]
  exact (writes_tree quote blanks start fun leaf member =>
    isInert_of_isPlainName (plain leaf member)).lays

end Tree

end Sql

end QueryDesk
