/-
**Empty groups in clauses and in view queries.**

A group without children is written as nothing. Alone it leaves the WHERE of a view query out;
inside of another group it stands there as parentheses around nothing, which SQL does not read.

* `IsWellFormed` — a clause that can stand behind WHERE.
* `hasHollowParentheses_unified` — making line breaks equal neither makes hollow
  parentheses nor takes any away.
* `viewQuery_hollow_iff` — a view query has hollow parentheses exactly when a group
  inside of its conditions is empty.
* `compile_wellFormed_iff` — **a clause is empty or well-formed exactly when no group
  inside of the tree is empty.**
* `view_keeps_empty_group` — the query of a tree whose only child is an empty group.
-/

import QueryDesk.Proofs.Clause.Parentheses
import QueryDesk.Proofs.Clause.Shares
import QueryDesk.Proofs.View.Layout

namespace QueryDesk.Sql

open Predicate Text

/-- A clause that can stand behind WHERE: no parentheses stand around nothing, and it is read as
symbols in which every connective stands between two operands. -/
structure IsWellFormed (text : String) : Prop where
  solid : ¬ HasHollowParentheses text
  joins : ∃ tokens symbols, tokens? text.toList = some tokens ∧ symbols? tokens = some symbols ∧
    JoinsOperands symbols

/-! ### Parameters that show something -/

theorem isBare_of_isWord {c : Char} (word : isWord c = true) : c ≠ '(' ∧ c ≠ ')' :=
  ⟨ne_of_test word (by decide), ne_of_test word (by decide)⟩

theorem isShown_namedParam {number : Int} (start : 0 ≤ number) : IsShown (namedParam number) := by
  have words := isWord_of_mem_plainName (isPlainName_bindName start)
  rw [IsShown, namedParam, String.toList_append]
  exact ⟨.append (by decide) fun c member => isBare_of_isWord (words c member),
    ':', List.mem_cons_self, by decide⟩

theorem IsPlaceholder.unblank {text : String} (one : IsPlaceholder text) :
    ∃ c ∈ text.toList, isBlank c = false := by
  rcases one with rfl | ⟨place, rfl⟩
  · exact ⟨'?', by decide, by decide⟩
  · rw [toList_placeholder]
    exact ⟨'$', List.mem_cons_self, by decide⟩

theorem ShowsPlaceholders.isShown {text : String} (shows : ShowsPlaceholders text) :
    IsShown text := by
  refine ⟨fun c member => ⟨ne_of_test (shows.chars c member) (by decide),
    ne_of_test (shows.chars c member) (by decide)⟩, ?_⟩
  obtain ⟨list, rfl, placeholders⟩ := shows
  match list with
  | [] => exact ⟨'n', by decide, by decide⟩
  | [one] =>
    show ∃ c ∈ (",".intercalate [one]).toList, isBlank c = false
    rw [String.intercalate_singleton]
    exact (placeholders one List.mem_cons_self).unblank
  | one :: next :: list =>
    obtain ⟨c, member, unblank⟩ := (placeholders one List.mem_cons_self).unblank
    show ∃ c ∈ (",".intercalate (one :: next :: list)).toList, isBlank c = false
    rw [String.intercalate_cons_cons, String.toList_append, String.toList_append]
    exact ⟨c, List.mem_append_left _ (List.mem_append_left _ member), unblank⟩

theorem isShown_shareParam (style : PlaceholderStyle) (values : List Value) {position number : Int}
    (low : position ≤ number) (high : number < position + values.length) :
    IsShown (shareParam (sharesFrom style 0 values) position number) := by
  obtain ⟨place, rfl⟩ := Int.le.dest low
  have inside : place < (sharesFrom style 0 values).length := by
    rw [length_sharesFrom]
    omega
  have every := @forall_mem_sharesFrom style (fun share => IsShown share.text)
    (fun place value => (showsPlaceholders_shareText style place (.ofValue value)).isShown) values 0
  rw [shareParam_of_getElem? (List.getElem?_eq_getElem inside)]
  exact every _ (List.getElem_mem inside)

/-! ### View queries -/

theorem marksOf_unifyLineBreaks (text : List Char) :
    marksOf (unifyLineBreaks text) = marksOf text := by
  unfold marksOf
  fun_induction unifyLineBreaks text with
  | case1 text ih =>
    have blank : isBlank '\r' = true := by decide
    rw [List.filter_cons, ih, List.filter_cons, List.filter_cons, blank]
    rfl
  | case2 c text other ih => rw [List.filter_cons, ih, List.filter_cons]
  | case3 => rfl

theorem hasHollowParentheses_unified {text : List Char} :
    HasHollowParentheses (String.ofList (unifyLineBreaks text)) ↔
      ¬ (marksOf text).IsChain Apart := by
  rw [hasHollowParentheses_iff, String.toList_ofList, marksOf_unifyLineBreaks]

section Table

variable {schema : Option String} {table : String} (quote : Bool)

theorem forall_mem_tableName {claim : Char → Prop} (tick : claim '`') (dot : claim '.')
    (names : ∀ name ∈ tableNames schema table, ∀ c ∈ name.toList, claim c) :
    ∀ c ∈ (tableName quote schema table).toList, claim c := by
  have quoted {name : String} (each : ∀ c ∈ name.toList, claim c) :=
    forall_mem_quoteName tick quote each
  unfold tableNames at names
  unfold tableName
  cases schema with
  | none => exact quoted (names table List.mem_cons_self)
  | some name =>
    dsimp only at names ⊢
    split
    · rw [if_pos ‹_›] at names
      exact quoted (names table List.mem_cons_self)
    · rw [if_neg ‹_›] at names
      rw [String.toList_append, String.toList_append]
      exact List.forall_mem_append.2 ⟨List.forall_mem_append.2
        ⟨quoted (names name List.mem_cons_self), List.forall_mem_singleton.2 dot⟩,
        quoted (names table (List.mem_cons_of_mem _ List.mem_cons_self))⟩

theorem endsSolid_tableName_of_plain
    (plain : ∀ name ∈ tableNames schema table, isPlainName name.toList = true) :
    EndsSolid (tableName quote schema table).toList := by
  have member : table ∈ tableNames schema table := by
    unfold tableNames
    cases schema with
    | none => exact List.mem_cons_self
    | some name =>
      dsimp only
      split <;> simp
  refine endsSolid_tableName schema ?_
  cases quote with
  | false => exact endsSolid_of_isPlainName (plain table member)
  | true => exact endsSolid_quoteName table

end Table

section View

variable {schema : Option String} {table : Table} {tree : ConditionTree}

/-- **What stands before the clause of a view query** has no parenthesis and no parameter. -/
theorem exists_viewLead (quote : Bool)
    (tables : ∀ name ∈ tableNames schema table.name, isPlainName name.toList = true)
    (words : ∀ leaf ∈ tree.leaves, leaf.sqlWord?.isSome) :
    ∃ lead : String, IsBare lead.toList ∧ (∀ c ∈ lead.toList, isInert c = true) ∧
      strip (viewText (tableName quote schema table.name)
        (some ⟨treeText quote standardIndent 1 tree, [], 1⟩)).1 =
          lead ++ treeText quote standardIndent 1 tree := by
  have names := fun name member => isWord_of_mem_plainName (tables name member)
  have bare := forall_mem_tableName quote (show '`' ≠ '(' ∧ '`' ≠ ')' by decide) (by decide)
    fun name member c inside => isBare_of_isWord (names name member c inside)
  have inert := forall_mem_tableName quote (show isInert '`' = true by decide) (by decide)
    fun name member c inside => isInert_of_isWord (names name member c inside)
  have spelled := @strip_viewText _ (endsSolid_tableName_of_plain quote tables)
    ⟨treeText quote standardIndent 1 tree, [], 1⟩ fun some_text =>
      endsSolid_tree quote standardIndent
      (by decide) (fun childless => some_text (text_of_childless quote childless)) words
  rw [spelled]
  split
  · rename_i empty
    have nothing : treeText quote standardIndent 1 tree = "" := empty
    refine ⟨"SELECT * \nFROM " ++ tableName quote schema table.name, ?_, ?_, by rw [nothing]⟩
    · rw [String.toList_append]
      exact .append (by decide) bare
    · rw [String.toList_append]
      exact List.forall_mem_append.2 ⟨List.all_eq_true.1 (by decide), inert⟩
  · refine ⟨"SELECT * \nFROM " ++ tableName quote schema table.name ++ " \nWHERE\n", ?_, ?_,
      String.append_assoc.symm⟩
    · rw [String.toList_append, String.toList_append]
      exact .append (.append (by decide) bare) (by decide)
    · rw [String.toList_append, String.toList_append]
      exact List.forall_mem_append.2 ⟨List.forall_mem_append.2
        ⟨List.all_eq_true.1 (by decide), inert⟩, List.all_eq_true.1 (by decide)⟩

/-- **A view query has hollow parentheses exactly when a group inside of its conditions is empty**,
whatever stands in the places of the parameters. -/
theorem viewQuery_hollow_iff (style : PlaceholderStyle) (quote : Bool)
    (tables : ∀ name ∈ tableNames schema table.name, isPlainName name.toList = true)
    (compiles : ∀ leaf ∈ tree.leaves, leaf.Compiles (columnTypesOf table))
    (facts : ∀ leaf ∈ tree.leaves, isPlainName leaf.fact.toList = true) :
    ∃ bound, viewQuery style quote schema table (some tree) = .ok bound ∧
      (HasHollowParentheses bound.query ↔ Condition.areFilled tree.children = false) := by
  have blanks : ∀ c ∈ standardIndent.toList, isBlank c = true := List.all_eq_true.1 (by decide)
  have lengths := length_boundOf compiles
  obtain ⟨lead, bare, inert, spelled⟩ :=
    exists_viewLead quote tables fun leaf member => (compiles leaf member).1
  have shown : ∀ number : Int, 1 ≤ number → number < 1 + widthOf tree.leaves →
      IsShown (shareParam (sharesFrom style 0 (boundOf (columnTypesOf table) tree.leaves)) 1
        number) :=
    fun number low high => isShown_shareParam style _ low (by omega)
  have writes := (writes_tree quote blanks (by decide : (0 : Int) ≤ 1) fun leaf member =>
    isInert_of_isPlainName (facts leaf member)).prepend lead inert
  rw [viewQuery_of_compiles schema table style quote compiles, spelled, treeText_eq_treeTextWith]
  refine ⟨_, writes.normalize (by decide) lengths style, ?_⟩
  rw [hasHollowParentheses_unified, String.toList_append, marksOf_append,
    bare.of_text.isChain_append_iff, isChain_tree_iff _ quote blanks
    (fun leaf member => ⟨(compiles leaf member).1, fun c inside =>
      isBare_of_isWord (isWord_of_mem_plainName (facts leaf member) c inside)⟩) shown,
        Bool.not_eq_true]

end View

/-! ### Clauses -/

section Tree

variable (columns : ColumnTypes) (quote : Bool)

/-- A tree with children and without empty groups is well-formed. -/
theorem isWellFormed_tree {indent : String} (blanks : ∀ c ∈ indent.toList, isBlank c = true)
    {position : Int} (start : 0 ≤ position) {tree : ConditionTree}
    (stand : ∀ leaf ∈ tree.leaves, leaf.Stands) (some_child : tree.children ≠ [])
    (filled : Condition.areFilled tree.children = true) :
    IsWellFormed (treeText quote indent position tree) := by
  obtain ⟨symbols, found, spells, derived, -, -⟩ :=
    means_group quote blanks start tree.connective tree.children
    stand (by simpa using some_child) filled
  obtain ⟨tokens, scanned, grouped⟩ := spells.whole
  have apart :=
    (isChain_tree_iff namedParam quote blanks (fun leaf member => ⟨(stand leaf member).1,
    fun c inside => isBare_of_isWord (isWord_of_mem_plainName (stand leaf member).2.1 c inside)⟩)
    fun number low _ => isShown_namedParam (Int.le_trans start low)).2 filled
  refine ⟨?_, tokens, symbols, scanned, grouped, derived.joinsOperands⟩
  rw [hasHollowParentheses_iff, treeText_eq_treeTextWith]
  exact not_not.2 apart

/-- **When empty groups break the SQL.** A tree with an empty group inside of it is compiled
to a text with hollow parentheses. For columns with plain names the clause is empty or
well-formed exactly when no group inside of the tree is empty, and it is the same with hollow
parentheses in a view query. -/
theorem compile_wellFormed_iff {indent : String} (blanks : ∀ c ∈ indent.toList, isBlank c = true)
    {position : Int} (start : 0 ≤ position) (tree : ConditionTree)
    (compiles : ∀ leaf ∈ tree.leaves, leaf.Compiles columns) :
    ∃ clause, compile columns quote indent position tree = .ok clause ∧
      (Condition.areFilled tree.children = false → HasHollowParentheses clause.text) ∧
      ((∀ leaf ∈ tree.leaves, leaf.NamesColumn) →
        (clause.text = "" ∨ IsWellFormed clause.text ↔ Condition.areFilled tree.children = true) ∧
        ∀ (style : PlaceholderStyle) (schema : Option String) (table : Table),
          columnTypesOf table = columns →
          (∀ name ∈ tableNames schema table.name, isPlainName name.toList = true) →
          ∃ bound, viewQuery style quote schema table (some tree) = .ok bound ∧
            (HasHollowParentheses bound.query ↔ Condition.areFilled tree.children = false)) := by
  have hollow : Condition.areFilled tree.children = false →
      HasHollowParentheses (treeText quote indent position tree) := fun unfilled => by
    rw [hasHollowParentheses_iff, treeText_eq_treeTextWith]
    exact hollow_tree namedParam quote blanks position unfilled
  refine ⟨_, compile_eq columns quote indent position tree compiles, hollow,
    fun named => ⟨⟨?_, ?_⟩, ?_⟩⟩
  · intro fine
    by_contra unfilled
    have broken := hollow (Bool.not_eq_true _ ▸ unfilled)
    rcases fine with empty | formed
    · obtain ⟨before, inside, behind, spelled, -⟩ := broken
      rw [show treeText quote indent position tree = "" from empty] at spelled
      simp at spelled
    · exact formed.solid broken
  · intro filled
    by_cases childless : tree.children = []
    · exact .inl (text_of_childless quote childless)
    · exact .inr (isWellFormed_tree quote blanks start
        (fun leaf member => ⟨(compiles leaf member).1, named leaf member⟩) childless filled)
  · rintro style schema table rfl tables
    exact viewQuery_hollow_iff style quote tables compiles fun leaf member => (named leaf member).1

end Tree

/-- A group inside of a group that is inside of the tree, empty and with a comparison in it. -/
theorem compile_wellFormed_iff_of_nested_group :
    let table : Table := ⟨"items", none, [⟨"age", .integer, false, false, true, none⟩]⟩
    let tree (inner : List Condition) : ConditionTree := ⟨.any, [
      .leaf ⟨"age", "between", .list [.int 1, .int 5]⟩,
      .group .all [.group .any inner], .leaf ⟨"name", "isNull", .null⟩]⟩
    let other : Condition := .leaf ⟨"name", "in", .list [.text "a", .text "b"]⟩
    (∀ c ∈ standardIndent.toList, isBlank c = true) ∧ (0 : Int) ≤ 1 ∧
      (∀ inner ∈ [[], [other]],
        (∀ leaf ∈ (tree inner).leaves, leaf.Compiles (columnTypesOf table)) ∧
        ∀ leaf ∈ (tree inner).leaves, leaf.NamesColumn) ∧
      (∀ name ∈ tableNames (some "main") table.name, isPlainName name.toList = true) ∧
      (∃ clause, compile (columnTypesOf table) true standardIndent 1 (tree []) = .ok clause ∧
        HasHollowParentheses clause.text ∧ ¬ (clause.text = "" ∨ IsWellFormed clause.text) ∧
        ∃ bound, viewQuery .simple true (some "main") table (some (tree [])) = .ok bound ∧
          HasHollowParentheses bound.query) ∧
      ∃ clause, compile (columnTypesOf table) true standardIndent 1 (tree [other]) = .ok clause ∧
        (clause.text = "" ∨ IsWellFormed clause.text) ∧
        ∃ bound, viewQuery .simple true (some "main") table (some (tree [other])) = .ok bound ∧
          ¬ HasHollowParentheses bound.query := by
  intro table tree other
  have blanks : ∀ c ∈ standardIndent.toList, isBlank c = true := List.all_eq_true.1 (by decide)
  have tables : ∀ name ∈ tableNames (some "main") table.name, isPlainName name.toList = true := by
    decide
  have whole (inner : List Condition) :=
    compile_wellFormed_iff (columnTypesOf table) true blanks (by decide : (0 : Int) ≤ 1)
      (tree inner)
  have leaves : ∀ inner ∈ [[], [other]],
    (∀ leaf ∈ (tree inner).leaves, leaf.Compiles (columnTypesOf table)) ∧
      ∀ leaf ∈ (tree inner).leaves, leaf.NamesColumn := by
    refine List.forall_mem_cons.2 ⟨⟨?_, ?_⟩, List.forall_mem_singleton.2 ⟨?_, ?_⟩⟩
    · exact List.forall_mem_cons.2 ⟨⟨rfl, _, rfl⟩, List.forall_mem_singleton.2 ⟨rfl, _, rfl⟩⟩
    · unfold Leaf.NamesColumn
      decide +kernel
    · exact List.forall_mem_cons.2 ⟨⟨rfl, _, rfl⟩, List.forall_mem_cons.2 ⟨⟨rfl, _, rfl⟩,
        List.forall_mem_singleton.2 ⟨rfl, _, rfl⟩⟩⟩
    · unfold Leaf.NamesColumn
      decide +kernel
  refine ⟨blanks, by decide, leaves, tables, ?_, ?_⟩
  · obtain ⟨compiles, named⟩ := leaves [] (by simp)
    obtain ⟨clause, found, hollow, others⟩ := whole [] compiles
    obtain ⟨formed, views⟩ := others named
    obtain ⟨bound, query, broken⟩ := views .simple (some "main") table rfl tables
    exact ⟨clause, found, hollow rfl, fun fine => Bool.false_ne_true (formed.1 fine),
      bound, query, broken.2 rfl⟩
  · obtain ⟨compiles, named⟩ := leaves [other] (by simp)
    obtain ⟨clause, found, -, others⟩ := whole [other] compiles
    obtain ⟨formed, views⟩ := others named
    obtain ⟨bound, query, broken⟩ := views .simple (some "main") table rfl tables
    exact ⟨clause, found, formed.2 rfl, bound, query,
      fun hollow => Bool.false_ne_true (broken.1 hollow).symm⟩

/-- **An empty group inside of the conditions is kept**: the clause is a pair of parentheses around
blanks, and the view query compares with nothing. -/
theorem view_keeps_empty_group :
    let table : Table := ⟨"t", none, []⟩
    let tree : ConditionTree := ⟨.all, [.group .any []]⟩
    compile [] false standardIndent 1 tree = .ok ⟨"  (\n\n  )", [], 1⟩ ∧
      HasHollowParentheses "  (\n\n  )" ∧
      viewQuery .simple false none table (some tree) =
        .ok ⟨"SELECT * \nFROM t \nWHERE\n  (\n\n  )", []⟩ := by
  intro table tree
  have cut : Template.ofQuery (strip ("SELECT * \nFROM t " ++ "\nWHERE\n" ++ "  (\n\n  )")) =
      ⟨"SELECT * \nFROM t \nWHERE\n  (\n\n  )".toList, []⟩ := by decide +kernel
  have query : viewQuery .simple false none table (some tree) = Template.bind .simple (some [])
      (Template.ofQuery (strip ("SELECT * \nFROM t " ++ "\nWHERE\n" ++ "  (\n\n  )"))) := by
    rfl
  rw [query, cut]
  exact ⟨rfl, ⟨"  ".toList, "\n\n  ".toList, [], by decide, List.all_eq_true.1 (by decide)⟩, rfl⟩

end QueryDesk.Sql
