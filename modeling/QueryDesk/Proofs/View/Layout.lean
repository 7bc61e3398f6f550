/-
**The text of a view query, before its parameters are replaced.**

* `framed_tree` — a clause whose names are quoted: between backticks stand the facts of its leaves,
  and behind each its parameters.
* `viewNames`, `viewSource` — the names in a view query, and its text as it is normalized.
* `framed_viewSource` — the text frames the names of the table and of the leaves. The blank at the
  end of a query without a clause is the only one that is taken off.
* `viewQuery_of_compiles`, `viewQuery_eq` — a view query is its text, normalized
  with the values of its leaves.
-/

import QueryDesk.Proofs.Placeholder.Enclosed
import QueryDesk.Proofs.Text.Parts
import QueryDesk.Sql.Statement

namespace QueryDesk

open Sql Text

namespace Sql

/-! ### Texts around names -/

theorem isClean_of_isWord {c : Char} (word : isWord c = true) : isClean c = true := by
  have others : ['`', '?', '\r'].all (fun d => !isWord d) = true := by decide
  rw [isClean, Bool.not_eq_true']
  refine Bool.eq_false_iff.2 fun listed => ?_
  have fails := List.all_eq_true.1 others c (List.contains_iff_mem.1 listed)
  rw [word] at fails
  cases fails

theorem outside_param {position : Int} (start : 0 ≤ position) :
    Outside (':' :: (bindName position).toList) [bindName position] := by
  refine ⟨.param (isParameterName_bindName start),
    List.forall_mem_cons.2 ⟨by decide, fun c member => ?_⟩⟩
  exact isClean_of_isWord (isWord_of_mem_plainName (isPlainName_bindName start) c member)

/-- The parameters of an operator stand outside of names. -/
theorem outside_tail (operator : String) {position : Int} (start : 0 ≤ position) :
    Outside (tailText operator position).toList (bindNames position (arity operator)) := by
  have first := outside_param start
  have second := outside_param (Int.le_add_one start)
  have closing : Outside ")".toList [] := .ofText (by decide)
  refine ⟨tailText_eq_tailWith operator position ▸ (writes_tail operator start).lays, ?_⟩
  unfold tailText
  -- one case for each form of the tail, as for its parameters
  split
  · exact List.forall_mem_nil _
  · split
    · have upper : Outside (" AND ".toList ++ ':' :: (bindName (position + 1)).toList) _ :=
        .prepend (by decide) second
      have both : Outside (" ".toList ++ _) _ :=
        .prepend (by decide) (first.append upper (by rintro _ ⟨⟩; decide))
      simp only [String.toList_append, List.append_assoc]
      exact both.clean
    · split
      · have closed : Outside (" (".toList ++ _) _ :=
          .prepend (by decide) (first.append closing (by rintro _ ⟨⟩; decide))
        simp only [String.toList_append, List.append_assoc]
        exact closed.clean
      · have single : Outside (" ".toList ++ _) _ := .prepend (by decide) first
        simp only [String.toList_append]
        exact single.clean

/-! ### Clauses -/

/-- The facts of leaves, each with the names of its parameters. -/
def leafSlots : Int → List Leaf → List (String × List String)
  | _, [] => []
  | position, leaf :: rest =>
    (leaf.fact, bindNames position leaf.width) :: leafSlots (position + leaf.width) rest

theorem leafSlots_append (first second : List Leaf) : ∀ position : Int,
    leafSlots position (first ++ second) =
      leafSlots position first ++ leafSlots (position + widthOf first) second := by
  induction first with
  | nil =>
    intro position
    show _ = leafSlots (position + (0 : Nat)) second
    rw [Int.natCast_zero, Int.add_zero]
    rfl
  | cons leaf rest ih =>
    intro position
    rw [List.cons_append, leafSlots, ih, leafSlots, List.cons_append, widthOf, Int.natCast_add,
      Int.add_assoc]

theorem plain_sqlWord (leaf : Leaf) : IsPlain (leaf.sqlWord?.getD "").toList :=
  forall_mem_sqlWord (by decide : ∀ entry ∈ Operator.words, IsPlain entry.2.toList) leaf

theorem toList_quoteName (name : String) :
    (quoteName true name).toList = backticked name.toList := by
  simp [quoteName, backticked]

/-- A comparison is framed around its column, with its parameters behind it. -/
theorem framed_leaf (leaf : Leaf) {position : Int} (start : 0 ≤ position) :
    Framed (leaf.text true position).toList [] [(leaf.fact, bindNames position leaf.width)] := by
  have tail : Outside (" ".toList ++ ((leaf.sqlWord?.getD "").toList ++ _)) _ :=
    .prepend (by decide) (.prepend (plain_sqlWord leaf) (outside_tail leaf.operator start))
  have named := @Framed.name [] _ [] _ leaf.fact [] (.ofText (List.forall_mem_nil _))
    (.outside tail)
  have spelled : (leaf.text true position).toList = backticked leaf.fact.toList ++
      (" ".toList ++
        ((leaf.sqlWord?.getD "").toList ++ (tailText leaf.operator position).toList)) := by
    simp [Leaf.text, toList_quoteName]
  rw [spelled]
  exact named

/-- A text in front of others, a separator between them. -/
theorem framed_intercalate_cons {separator text : String} {texts : List String}
    {slots more : List (String × List String)} (plain : IsPlain separator.toList)
    (breaks : ∀ rest : List Char, ∀ c ∈ (separator.toList ++ rest).head?, isWord c = false)
    (first : Framed text.toList [] slots)
    (rest : Framed (separator.intercalate texts).toList [] more) :
    Framed (separator.intercalate (text :: texts)).toList [] (slots ++ more) := by
  cases texts with
  | nil =>
    rw [String.intercalate_singleton, ← List.append_nil text.toList]
    exact first.append rest (by rintro _ ⟨⟩)
  | cons next texts =>
    rw [String.intercalate_cons_cons, String.toList_append, String.toList_append, List.append_assoc]
    exact first.append (rest.prepend plain) (breaks _)

theorem plain_separator {indent : String} (plain : IsPlain indent.toList)
    (connective : Connective) :
    IsPlain (separator indent connective).toList := by
  have word : IsPlain connective.sql.toList := by
    cases connective <;> decide
  rw [toList_separator]
  exact List.forall_mem_cons.2 ⟨by decide, plain.append (word.append (by decide))⟩

/-- Operands that are framed around names stay so when they are joined. -/
theorem framed_joined {indent : String} (plain : IsPlain indent.toList) (connective : Connective)
    {texts : List String} {slots : List (String × List String)}
    (framed : Framed ((separator indent connective).intercalate texts).toList [] slots) :
    Framed (joinOperands indent connective texts).toList [] slots := by
  unfold joinOperands
  cases texts with
  | nil => exact framed
  | cons text texts =>
    rw [List.isEmpty_cons, if_neg Bool.false_ne_true, String.toList_append]
    exact framed.prepend plain

/-- Parentheses around a framed text keep its frame. -/
theorem framed_parenthesized {indent text : String} (plain : IsPlain indent.toList)
    {slots : List (String × List String)} (framed : Framed text.toList [] slots) :
    Framed (parenthesized indent text).toList [] slots := by
  have tail : IsPlain ("\n".toList ++ (indent.toList ++ ")".toList)) :=
    .append (by decide) (plain.append (by decide))
  have closed := framed.append (.outside (.ofText tail)) (by rintro _ ⟨⟩; decide)
  have whole : Framed ("(\n".toList ++ _) _ _ := closed.prepend (by decide)
  unfold parenthesized
  simp only [String.toList_append, List.append_assoc, List.append_nil] at whole ⊢
  exact whole

theorem plain_indent {indent : String} (plain : IsPlain indent.toList) :
    IsPlain (indent ++ "  ").toList := by
  rw [String.toList_append]
  exact plain.append (by decide)

mutual

/-- **A condition frames the facts of its leaves.** -/
theorem framed_operand {indent : String} (plain : IsPlain indent.toList) {position : Int}
    (start : 0 ≤ position) : ∀ condition : Condition,
      Framed (operandText true indent position condition).toList []
        (leafSlots position condition.leaves)
  | .leaf comparison => by
    rw [operandText]
    exact framed_leaf comparison start
  | .group connective children => by
    have deeper := plain_indent plain
    rw [operandText, Condition.leaves]
    exact framed_parenthesized plain
      (framed_joined deeper connective (framed_operands deeper start connective children))

/-- The operands of a group, with what stands between them. -/
theorem framed_operands {indent : String} (plain : IsPlain indent.toList) {position : Int}
    (start : 0 ≤ position) (connective : Connective) : ∀ children : List Condition,
      Framed ((separator indent connective).intercalate
        (operandTexts true indent position children)).toList []
          (leafSlots position (Condition.leavesOf children))
  | [] => by
    rw [operandTexts]
    exact .outside (.ofText (List.forall_mem_nil _))
  | child :: rest => by
    have counted : 0 ≤ position + widthOf child.leaves := by omega
    rw [Condition.leavesOf, operandTexts, leafSlots_append]
    exact framed_intercalate_cons (plain_separator plain connective)
      (breaks_separator indent connective)
      (framed_operand plain start child) (framed_operands plain counted connective rest)

end

/-- **A tree frames the facts of its leaves.** -/
theorem framed_tree {indent : String} (plain : IsPlain indent.toList) {position : Int}
    (start : 0 ≤ position) (tree : ConditionTree) :
    Framed (treeText true indent position tree).toList [] (leafSlots position tree.leaves) :=
  framed_joined plain tree.connective (framed_operands plain start tree.connective tree.children)

/-! ### Blanks at the end -/

/-- A text that does not end in a blank. -/
def EndsSolid (text : List Char) : Prop := ∃ start c, text = start ++ [c] ∧ isBlank c = false

theorem EndsSolid.append {text : List Char} (solid : EndsSolid text) (start : List Char) :
    EndsSolid (start ++ text) := by
  obtain ⟨middle, c, rfl, unblank⟩ := solid
  exact ⟨start ++ middle, c, (List.append_assoc _ _ _).symm, unblank⟩

theorem endsSolid_of_getLast? {text : List Char} {c : Char} (last : text.getLast? = some c)
    (unblank : isBlank c = false) : EndsSolid text := by
  obtain ⟨start, rfl⟩ := List.getLast?_eq_some_iff.1 last
  exact ⟨start, c, rfl, unblank⟩

theorem isBlank_of_isWord {c : Char} (word : isWord c = true) : isBlank c = false := by
  refine Bool.eq_false_iff.2 fun blank => ?_
  rw [isWord_of_isBlank blank] at word
  cases word

theorem endsSolid_of_isPlainName {name : List Char} (plain : isPlainName name = true) :
    EndsSolid name := by
  have some_char : name ≠ [] := by
    rintro rfl
    cases plain
  exact ⟨_, _, (List.dropLast_append_getLast some_char).symm,
    isBlank_of_isWord (isWord_of_mem_plainName plain _ (List.getLast_mem some_char))⟩

theorem endsSolid_bindName {position : Int} (start : 0 ≤ position) :
    EndsSolid (bindName position).toList :=
  endsSolid_of_isPlainName (isPlainName_bindName start)

/-- A comparison does not end with a blank. -/
theorem endsSolid_leaf {leaf : Leaf} (some_word : leaf.sqlWord?.isSome) (quote : Bool)
    {position : Int} (start : 0 ≤ position) : EndsSolid (leaf.text quote position).toList := by
  have words : ∀ entry ∈ Operator.words, entry.2.toList.getLast?.map isBlank = some false := by
    decide
  have tail : tailText leaf.operator position = "" ∨
    EndsSolid (tailText leaf.operator position).toList := by
    unfold tailText
    split
    · exact .inl rfl
    · refine .inr ?_
      split
      · rw [String.toList_append]
        exact (endsSolid_bindName (Int.le_add_one start)).append _
      · split
        · rw [String.toList_append]
          exact (endsSolid_of_getLast? rfl (by decide)).append _
        · rw [String.toList_append]
          exact (endsSolid_bindName start).append _
  unfold Leaf.text
  rw [String.toList_append]
  rcases tail with none_there | solid
  · obtain ⟨c, last, unblank⟩ := Option.map_eq_some_iff.1 (words _ (Leaf.mem_words some_word))
    rw [none_there, String.toList_append]
    show EndsSolid (_ ++ [])
    rw [List.append_nil]
    exact (endsSolid_of_getLast? last unblank).append _
  · exact solid.append _

theorem endsSolid_intercalate_cons {separator text : String} {texts : List String}
    (first : EndsSolid text.toList)
    (rest : texts ≠ [] → EndsSolid (separator.intercalate texts).toList) :
    EndsSolid (separator.intercalate (text :: texts)).toList := by
  cases texts with
  | nil =>
    rw [String.intercalate_singleton]
    exact first
  | cons next texts =>
    rw [String.intercalate_cons_cons, String.toList_append]
    exact (rest (List.cons_ne_nil _ _)).append _

section Quote

variable (quote : Bool)

mutual

/-- By induction on a condition: it does not end with a blank. -/
theorem endsSolid_operand (indent : String) {position : Int} (start : 0 ≤ position) :
    ∀ condition : Condition, (∀ leaf ∈ condition.leaves, leaf.sqlWord?.isSome) →
      EndsSolid (operandText quote indent position condition).toList
  | .leaf comparison, words => by
    rw [operandText]
    exact endsSolid_leaf (words comparison (List.mem_singleton_self comparison)) quote start
  | .group connective children, _ => by
    rw [operandText, parenthesized, String.toList_append]
    exact (endsSolid_of_getLast? rfl (by decide)).append _

/-- By induction on the conditions of a group: together they do not end with a blank. -/
theorem endsSolid_operands (indent separator : String) {position : Int} (start : 0 ≤ position) :
    ∀ children : List Condition, (∀ leaf ∈ Condition.leavesOf children, leaf.sqlWord?.isSome) →
      operandTexts quote indent position children ≠ [] →
        EndsSolid (separator.intercalate (operandTexts quote indent position children)).toList
  | [], _, some_text => absurd rfl some_text
  | child :: rest, words, _ => by
    rw [Condition.leavesOf] at words
    obtain ⟨here, others⟩ := List.forall_mem_append.1 words
    have counted : 0 ≤ position + widthOf child.leaves := by omega
    rw [operandTexts]
    exact endsSolid_intercalate_cons (endsSolid_operand indent start child here)
      (endsSolid_operands indent separator counted rest others)

end

/-- The text of a tree that has children does not end in a blank. -/
theorem endsSolid_tree (indent : String) {position : Int} (start : 0 ≤ position)
    {tree : ConditionTree}
    (some_child : tree.children ≠ []) (words : ∀ leaf ∈ tree.leaves, leaf.sqlWord?.isSome) :
    EndsSolid (treeText quote indent position tree).toList := by
  have some_text : operandTexts quote indent position tree.children ≠ [] := by
    cases children : tree.children with
    | nil => exact absurd children some_child
    | cons child rest => simp [operandTexts]
  unfold treeText joinOperands
  rw [if_neg (by simpa using some_text), String.toList_append]
  exact (endsSolid_operands quote indent _ start tree.children words some_text).append _

/-- A tree without children has no text. -/
theorem text_of_childless {indent : String} {position : Int} {tree : ConditionTree}
    (childless : tree.children = []) : treeText quote indent position tree = "" := by
  rw [treeText, childless, operandTexts]
  rfl

/-- Only a tree without children has no text. -/
theorem childless_of_isEmpty {tree : ConditionTree}
    (words : ∀ leaf ∈ tree.leaves, leaf.sqlWord?.isSome)
    (empty : (treeText quote standardIndent 1 tree).isEmpty = true) : tree.children = [] := by
  by_contra some_child
  obtain ⟨start, c, spelled, -⟩ :=
    endsSolid_tree quote standardIndent (show (0 : Int) ≤ 1 by decide) some_child words
  rw [String.isEmpty_iff.1 empty] at spelled
  simp at spelled

end Quote

theorem leaves_of_childless {tree : ConditionTree} (childless : tree.children = []) :
    tree.leaves = [] := by
  rw [ConditionTree.leaves, childless, Condition.leavesOf]

/-- Only the blanks at the end are taken from a text that begins and ends with something else. -/
theorem stripChars_append {text blanks : List Char}
    (begins : ∃ c, text.head? = some c ∧ isBlank c = false)
    (solid : EndsSolid text) (behind : ∀ c ∈ blanks, isBlank c = true) :
    stripChars (text ++ blanks) = text := by
  obtain ⟨first, head, unblank⟩ := begins
  obtain ⟨start, last, rfl, unblankLast⟩ := solid
  rw [stripChars_append_blanks behind]
  refine stripChars_of_ends (fun c found => ?_) fun c found => ?_
  · obtain rfl := Option.some.inj (head.symm.trans found)
    exact unblank
  · obtain rfl := Option.some.inj (List.getLast?_concat.symm.trans found)
    exact unblankLast

/-- **The text of a view query** as it is normalized: only the blank at the end of one
without a clause is taken off. -/
theorem strip_viewText {name : String} (solid : EndsSolid name.toList) {clause : Clause}
    (ends : clause.text ≠ "" → EndsSolid clause.text.toList) :
    strip (viewText name (some clause)).1 =
      "SELECT * \nFROM " ++ name ++
        (if clause.text = "" then "" else " \nWHERE\n" ++ clause.text) := by
  have begins : ∀ rest : List Char,
      ∃ c, ("SELECT * \nFROM ".toList ++ rest).head? = some c ∧ isBlank c = false :=
    fun _ => ⟨'S', rfl, by decide⟩
  have named := solid.append "SELECT * \nFROM ".toList
  unfold strip viewText
  dsimp only
  by_cases empty : clause.text = ""
  · have kept := stripChars_append (begins _) named
      (show ∀ c ∈ " ".toList, isBlank c = true from List.forall_mem_singleton.2 (by decide))
    rw [if_pos empty, if_pos (String.isEmpty_iff.2 empty), String.append_empty,
      String.toList_append, String.toList_append, kept, ← String.toList_append,
      String.ofList_toList]
  · have whole := (((ends empty).append " \nWHERE\n".toList).append name.toList).append
      "SELECT * \nFROM ".toList
    have kept := stripChars_append (begins _) whole (List.forall_mem_nil _)
    have joined : ∀ rest : String, " " ++ ("\nWHERE\n" ++ rest) = " \nWHERE\n" ++ rest :=
      fun rest => by
      rw [← String.append_assoc]
      exact congrArg (· ++ rest) (by decide)
    rw [if_neg empty, if_neg (mt String.isEmpty_iff.1 empty)]
    simp only [← String.toList_append, List.append_nil] at kept
    simp only [String.append_assoc]
    rw [joined, kept, String.ofList_toList]

/-! ### View queries -/

/-- The names in the name of a table. -/
def tableNames (schema : Option String) (table : String) : List String :=
  match schema with
  | none => [table]
  | some name => if name.isEmpty then [table] else [name, table]

/-- The names in a view query: those of the table, then the facts of the leaves. -/
def viewNames (schema : Option String) (table : Table) (tree : ConditionTree) : List String :=
  tableNames schema table.name ++ tree.leaves.map Leaf.fact

/-- The names in a view query, each with the values that its leaf binds. -/
def viewEntries (schema : Option String) (table : Table) (tree : ConditionTree) : NamedValues :=
  (tableNames schema table.name).map (fun name => (name, [])) ++
    tree.leaves.map fun leaf => (leaf.fact, leaf.bound (columnTypesOf table))

/-- A view query whose names are quoted, before its parameters are replaced. -/
def viewSource (schema : Option String) (table : Table) (tree : ConditionTree) : String :=
  strip (viewText (tableName true schema table.name)
    (some ⟨treeText true standardIndent 1 tree, [], 1⟩)).1

/-- Names that bind nothing take no numbers. -/
theorem numberedSlots_names (entries : NamedValues) (position : Int) (names : List String) :
    numberedSlots position (names.map (fun name => (name, [])) ++ entries) =
      names.map (fun name => (name, [])) ++ numberedSlots position entries := by
  induction names with
  | nil => rfl
  | cons name rest ih =>
    rw [List.map_cons, List.cons_append, numberedSlots, List.length_nil, Int.natCast_zero,
      Int.add_zero, ih]
    rfl

/-- The slots of leaves are numbered by the values that they bind. -/
theorem numberedSlots_leaves {columns : ColumnTypes} (leaves : List Leaf) : ∀ position : Int,
    (∀ leaf ∈ leaves, leaf.Compiles columns) →
      numberedSlots position (leaves.map fun leaf => (leaf.fact, leaf.bound columns)) =
        leafSlots position leaves := by
  induction leaves with
  | nil => exact fun _ _ => rfl
  | cons leaf rest ih =>
    intro position compiles
    obtain ⟨here, others⟩ := List.forall_mem_cons.1 compiles
    rw [List.map_cons, numberedSlots, leafSlots, Leaf.length_bound here, ih _ others]

section View

variable (schema : Option String) (table : Table) (tree : ConditionTree)

theorem map_fst_viewEntries :
    (viewEntries schema table tree).map Prod.fst = viewNames schema table tree := by
  unfold viewEntries viewNames
  rw [List.map_append, List.map_map, List.map_map]
  refine congrArg (· ++ _) ?_
  exact List.map_id _

/-- The values of a view are those bound by its leaves. -/
theorem values_viewEntries :
    (viewEntries schema table tree).values = boundOf (columnTypesOf table) tree.leaves := by
  have nothing :
    ((tableNames schema table.name).map fun name => ((name, []) : String × List Value)).flatMap
      Prod.snd = [] := by
    rw [List.flatMap_map]
    exact List.flatMap_eq_nil_iff.2 fun _ _ => rfl
  unfold viewEntries NamedValues.values
  rw [List.flatMap_append, nothing, List.nil_append, List.flatMap_map]
  rfl

variable {tree}

/-- The slots of a view: its tables without parameters, and its leaves numbered from one on. -/
theorem numberedSlots_viewEntries
    (compiles : ∀ leaf ∈ tree.leaves, leaf.Compiles (columnTypesOf table)) :
    numberedSlots 1 (viewEntries schema table tree) =
      (tableNames schema table.name).map (fun name => (name, [])) ++ leafSlots 1 tree.leaves := by
  rw [viewEntries, numberedSlots_names, numberedSlots_leaves tree.leaves 1 compiles]

/-- A text behind the table of a view is framed around its names and the name of the table. -/
theorem framed_table {behind : List Char} {slots : List (String × List String)}
    (framed : Framed behind [] slots) :
    Framed ("SELECT * \nFROM ".toList ++ ((tableName true schema table.name).toList ++ behind)) []
      ((tableNames schema table.name).map (fun name => (name, [])) ++ slots) := by
  have blank : Outside [] [] := .ofText (List.forall_mem_nil _)
  have single := @Framed.name [] behind [] [] table.name slots blank framed
  have named : Framed ((tableName true schema table.name).toList ++ behind) []
      ((tableNames schema table.name).map (fun name => (name, [])) ++ slots) := by
    cases schema with
    | none =>
      show Framed ((quoteName true table.name).toList ++ behind) [] _
      rw [toList_quoteName]
      exact single
    | some name =>
      by_cases absent : name.isEmpty = true
      · have alone : tableName true (some name) table.name = quoteName true table.name ∧
            tableNames (some name) table.name = [table.name] := ⟨if_pos absent, if_pos absent⟩
        rw [alone.1, alone.2, toList_quoteName]
        exact single
      · have paired : tableName true (some name) table.name =
              quoteName true name ++ "." ++ quoteName true table.name ∧
            tableNames (some name) table.name = [name, table.name] := ⟨if_neg absent, if_neg absent⟩
        have dot : Outside ".".toList [] := .ofText (by decide)
        have both := @Framed.name [] _ [] [] name _ blank
          (@Framed.name ".".toList behind [] [] table.name slots dot framed)
        rw [paired.1, paired.2, String.toList_append, String.toList_append, toList_quoteName,
          toList_quoteName]
        simp only [List.append_assoc]
        exact both
  exact named.prepend (by decide)

theorem endsSolid_quoteName (name : String) : EndsSolid (quoteName true name).toList := by
  rw [toList_quoteName]
  exact ⟨'`' :: name.toList, '`', rfl, by decide⟩

/-- The name of a table ends as its own part does. -/
theorem endsSolid_tableName {quote : Bool} {name : String}
    (solid : EndsSolid (quoteName quote name).toList) :
    EndsSolid (tableName quote schema name).toList := by
  unfold tableName
  split
  · exact solid
  · split
    · exact solid
    · rw [String.toList_append]
      exact solid.append _

/-- What stands behind the name of the table. -/
def viewTail (tree : ConditionTree) : List Char :=
  if tree.children = [] then [] else " \nWHERE\n".toList ++
    (treeText true standardIndent 1 tree).toList

/-- The text of a view that is normalized: the words in front, the table, and the rest. -/
theorem toList_viewSource (words : ∀ leaf ∈ tree.leaves, leaf.sqlWord?.isSome) :
    (viewSource schema table tree).toList =
      "SELECT * \nFROM ".toList ++
        ((tableName true schema table.name).toList ++ viewTail tree) := by
  have spelled := @strip_viewText _ (endsSolid_tableName schema (endsSolid_quoteName table.name))
    ⟨treeText true standardIndent 1 tree, [], 1⟩ fun some_text =>
      endsSolid_tree true standardIndent (by decide)
        (fun childless => some_text (text_of_childless true childless)) words
  unfold viewSource viewTail
  rw [spelled, String.toList_append, String.toList_append, List.append_assoc]
  by_cases childless : tree.children = []
  · rw [if_pos childless, if_pos (text_of_childless true childless)]
    rfl
  · have some_text : treeText true standardIndent 1 tree ≠ "" := fun empty =>
      childless (childless_of_isEmpty true words (String.isEmpty_iff.2 empty))
    rw [if_neg childless, if_neg some_text, String.toList_append]

/-- **A view query frames the names of the table and the facts of the leaves.** -/
theorem framed_viewSource (words : ∀ leaf ∈ tree.leaves, leaf.sqlWord?.isSome) :
    Framed (viewSource schema table tree).toList []
      ((tableNames schema table.name).map (fun name => (name, [])) ++ leafSlots 1 tree.leaves) := by
  rw [toList_viewSource schema table words]
  refine framed_table schema table ?_
  unfold viewTail
  split
  · rw [leaves_of_childless ‹_›]
    exact .outside (.ofText (List.forall_mem_nil _))
  · exact (framed_tree (by decide) (by decide) tree).prepend (by decide)

/-- The query for the rows that meet conditions. -/
theorem viewQuery_some (style : PlaceholderStyle) (quote : Bool) (tree : ConditionTree) :
    viewQuery style quote schema table (some tree) =
      (compile (columnTypesOf table) quote standardIndent 1 tree).bind fun clause =>
        let (text, binds) := viewText (tableName quote schema table.name) (some clause)
        normalize style (some binds) (strip text) := by
  show ((compile (columnTypesOf table) quote standardIndent 1 tree).map some).bind _ = _
  cases compile (columnTypesOf table) quote standardIndent 1 tree <;> rfl

/-- **A view query whose conditions can be compiled** is its text, normalized with
the values of the leaves. -/
theorem viewQuery_of_compiles (style : PlaceholderStyle) (quote : Bool)
    (compiles : ∀ leaf ∈ tree.leaves, leaf.Compiles (columnTypesOf table)) :
    viewQuery style quote schema table (some tree) =
      normalize style (some (bindsFrom 1 (boundOf (columnTypesOf table) tree.leaves)))
        (strip (viewText (tableName quote schema table.name)
          (some ⟨treeText quote standardIndent 1 tree, [], 1⟩)).1) := by
  rw [viewQuery_some, compile_eq (columnTypesOf table) quote standardIndent 1 tree compiles]
  unfold viewText
  by_cases empty : (treeText quote standardIndent 1 tree).isEmpty = true
  · have childless := childless_of_isEmpty quote (fun leaf member => (compiles leaf member).1) empty
    simp only [Except.bind, if_pos empty]
    rw [leaves_of_childless childless]
    rfl
  · simp only [Except.bind, if_neg empty]

/-- The query of a view is what its text is normalized to, with the values bound from one on. -/
theorem viewQuery_eq (style : PlaceholderStyle)
    (compiles : ∀ leaf ∈ tree.leaves, leaf.Compiles (columnTypesOf table)) :
    viewQuery style true schema table (some tree) =
      normalize style (some (bindsFrom 1 (viewEntries schema table tree).values))
        (viewSource schema table tree) := by
  rw [values_viewEntries]
  exact viewQuery_of_compiles schema table style true compiles

end View

end Sql

end QueryDesk
