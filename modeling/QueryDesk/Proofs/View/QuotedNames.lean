/-
**The names a view query quotes itself.**

The compiler puts names between backticks. The normalizer that runs on its text behind it
knows quotes, but no backticks.

* `encloses_viewSource` — the text of a view query is framed around its names.
* `view_keeps_names_iff` — the bound query has every name between its backticks, with the
  placeholders of its leaf behind it, exactly when no value is refused, no comment begins in the
  text and no name has a parameter in it.
* `view_loses_marks_in_names` — a colon in a name asks for a value, a sharp sign
  takes the rest of the line.
-/

import QueryDesk.Proofs.View.Layout

namespace QueryDesk.Sql

open Text

section View

variable {schema : Option String} {table : Table} {tree : ConditionTree}

/-- **The text of a view query is framed around its names**, when its conditions can be compiled. -/
theorem encloses_viewSource
    (closed : ∀ name ∈ viewNames schema table tree, '`' ∉ name.toList ∧ '\n' ∉ name.toList)
    (compiles : ∀ leaf ∈ tree.leaves, leaf.Compiles (columnTypesOf table)) :
    Encloses (viewSource schema table tree) (viewEntries schema table tree) := by
  refine ⟨?_, fun entry member => ?_⟩
  · rw [numberedSlots_viewEntries schema table compiles]
    exact framed_viewSource schema table fun leaf member => (compiles leaf member).1
  · refine closed entry.1 ?_
    rw [← map_fst_viewEntries]
    exact List.mem_map_of_mem member

/-- The parameters inside of the names of a view query. -/
theorem namesInside_viewEntries : (viewEntries schema table tree).namesInside = [] ↔
    ∀ name ∈ viewNames schema table tree, (Template.scan false name.toList).names = [] := by
  unfold NamedValues.namesInside
  rw [List.flatMap_eq_nil_iff, ← map_fst_viewEntries]
  simp only [List.forall_mem_map]

theorem compiles_of_viewQuery {style : PlaceholderStyle} {quote : Bool} {bound : BoundQuery}
    (found : viewQuery style quote schema table (some tree) = .ok bound) :
    ∀ leaf ∈ tree.leaves, leaf.Compiles (columnTypesOf table) := by
  rw [viewQuery_some] at found
  obtain ⟨clause, compiled, -⟩ := bind_eq_ok_iff.1 found
  exact compiles_of_compile compiled

/-- **When a view query keeps its names**: for names without backticks and line feeds and operators
that SQL has words for, the query is found, has every name between its backticks and behind it the
placeholders of the values its leaf binds, exactly when every value can be converted, no comment
begins anywhere in the text, and no name has a parameter in it. -/
theorem view_keeps_names_iff
    (closed : ∀ name ∈ viewNames schema table tree, '`' ∉ name.toList ∧ '\n' ∉ name.toList)
    (words : ∀ leaf ∈ tree.leaves, leaf.sqlWord?.isSome) (style : PlaceholderStyle) :
    (∃ bound, viewQuery style true schema table (some tree) = .ok bound ∧
        KeepsNames style (viewEntries schema table tree) bound) ↔
      (∀ leaf ∈ tree.leaves, ∃ values, leaf.bound? (columnTypesOf table) = .ok values) ∧
        stripComments (viewSource schema table tree) = viewSource schema table tree ∧
          ∀ name ∈ viewNames schema table tree, (Template.scan false name.toList).names = [] := by
  constructor
  · rintro ⟨bound, found, keeps⟩
    have compiles := compiles_of_viewQuery found
    have encloses := encloses_viewSource closed compiles
    rw [viewQuery_eq schema table style compiles] at found
    exact ⟨fun leaf member => (compiles leaf member).2,
      uncommented_of_keeps encloses found keeps.names,
      namesInside_viewEntries.1 (unnamed_of_keeps encloses found keeps.names)⟩
  · rintro ⟨values, whole, unnamed⟩
    have compiles : ∀ leaf ∈ tree.leaves, leaf.Compiles (columnTypesOf table) :=
      fun leaf member => ⟨words leaf member, values leaf member⟩
    rw [viewQuery_eq schema table style compiles]
    exact normalize_keeps_names (encloses_viewSource closed compiles) whole
      (namesInside_viewEntries.2 unnamed) style

end View

/-- Quotes, signs and colons that begin nothing are kept. -/
theorem view_keeps_quotes_in_names :
    let table : Table := ⟨"it's #1", none, [⟨"n ::int", .integer, true, true, false, none⟩,
      ⟨"what's - 'x'", .text, false, false, true, none⟩]⟩
    let tree : ConditionTree := ⟨.any, [.leaf ⟨"n ::int", "between", .list [.int 1, .int 9]⟩,
      .group .all [.leaf ⟨"what's - 'x'", "in", .list [.text "a", .text "b"]⟩,
        .leaf ⟨"what's - 'x'", "isNotNull", .null⟩]]⟩
    (∀ name ∈ viewNames (some "main") table tree, '`' ∉ name.toList ∧ '\n' ∉ name.toList) ∧
      (∀ leaf ∈ tree.leaves, leaf.sqlWord?.isSome) ∧
      ∀ style, ∃ bound, viewQuery style true (some "main") table (some tree) = .ok bound ∧
        KeepsNames style (viewEntries (some "main") table tree) bound := by
  intro table tree
  have closed : ∀ name ∈ viewNames (some "main") table tree,
      '`' ∉ name.toList ∧ '\n' ∉ name.toList := by decide +kernel
  have words : ∀ leaf ∈ tree.leaves, leaf.sqlWord?.isSome := by decide +kernel
  have whole : stripComments (viewSource (some "main") table tree) =
      viewSource (some "main") table tree := by
    rw [← stripCommentChars_eq_self, toList_viewSource _ _ words]
    decide +kernel
  have unnamed : ∀ name ∈ viewNames (some "main") table tree,
      (Template.scan false name.toList).names = [] := by decide +kernel
  have values : ∀ leaf ∈ tree.leaves, ∃ values, leaf.bound? (columnTypesOf table) = .ok values := by
    refine List.forall_mem_cons.2 ⟨⟨[.int 1, .int 9], rfl⟩, List.forall_mem_cons.2
      ⟨⟨[.list [.text "a", .text "b"]], rfl⟩, List.forall_mem_singleton.2 ⟨[], rfl⟩⟩⟩
  exact ⟨closed, words, fun style => (view_keeps_names_iff closed words style).2
    ⟨values, whole, unnamed⟩⟩

/-- **Names with marks are lost**: for `a:b` the value of a parameter `b` is missing, and for `a #
b` the comparison is cut off in the name and binds nothing. -/
theorem view_loses_marks_in_names :
    let table (column : String) : Table :=
  ⟨"t", none, [⟨column, .integer, false, false, true, none⟩]⟩
    let tree (column : String) : ConditionTree := ⟨.all, [.leaf ⟨column, "equal", .int 1⟩]⟩
    let query (column : String) := viewQuery .simple true none (table column) (some (tree column))
    (∀ column ∈ ["a:b", "a # b"],
        (∀ name ∈ viewNames none (table column) (tree column), '`' ∉ name.toList ∧
          '\n' ∉ name.toList) ∧
          ∀ leaf ∈ (tree column).leaves, leaf.sqlWord?.isSome) ∧
      query "a:b" = .error (.missingBinds ["b"]) ∧
      query "a # b" = .ok ⟨"SELECT * \nFROM `t` \nWHERE\n  `a ", []⟩ := by
  intro table tree query
  have templates : Template.ofQuery (viewSource none (table "a:b") (tree "a:b")) =
        ⟨"SELECT * \nFROM `t` \nWHERE\n  `a".toList,
          [("b".toList, "` = ".toList), ("val1".toList, [])]⟩ ∧
      Template.ofQuery (viewSource none (table "a # b") (tree "a # b")) =
        ⟨"SELECT * \nFROM `t` \nWHERE\n  `a ".toList, []⟩ := by decide +kernel
  have found : query "a:b" = Template.bind .simple _ _ ∧
    query "a # b" = Template.bind .simple _ _ :=
    ⟨viewQuery_eq none (table "a:b") .simple
      (List.forall_mem_singleton.2 ⟨by decide, [.int 1], rfl⟩),
      viewQuery_eq none (table "a # b") .simple
        (List.forall_mem_singleton.2 ⟨by decide, [.int 1], rfl⟩)⟩
  rw [templates.1, templates.2] at found
  refine ⟨by decide +kernel, found.1.trans ?_, found.2.trans ?_⟩
  · rfl
  · rfl

end QueryDesk.Sql
