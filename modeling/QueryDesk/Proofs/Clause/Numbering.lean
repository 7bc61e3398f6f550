/-
**How a clause numbers its parameters.**

The number of the next parameter is threaded through the tree while its text is put together from
the leaves up, so the numbers, the values and the text have to be shown to stay in step.

* `Clause.IsNumbered` — the values of a clause stand under the names from the first number on,
  as many as the leaves ask for.
* `compile_eq_error_of_converted_iff` — where values can be converted, compiling fails only at an
  operator without a word, and names the first one in document order.
* `compile_numbers_parameters` — **the numbering of a compiled tree**, and where its text is cut.
-/

import Mathlib.Algebra.GroupWithZero.Nat
import QueryDesk.Proofs.Clause.Chain

namespace QueryDesk

open Sql Text

/-! ### Numbers and names -/

theorem widthOf_eq_sum (leaves : List Leaf) :
    widthOf leaves = (leaves.map fun leaf => arity leaf.operator).sum := by
  induction leaves with
  | nil => rfl
  | cons leaf rest ih => rw [widthOf, ih, List.map_cons, List.sum_cons, Leaf.width]

namespace Sql

/-- The names that the values of leaves stand under. -/
theorem names_boundOf {columns : ColumnTypes} {leaves : List Leaf}
    (compiles : ∀ leaf ∈ leaves, leaf.Compiles columns) (position : Int) :
    (bindsFrom position (boundOf columns leaves)).map Prod.fst =
      bindNames position (widthOf leaves) := by
  rw [map_fst_bindsFrom, length_boundOf compiles]

/-- A clause for some leaves whose parameters are numbered from a position on: every leaf takes
as many numbers as its operator binds values, and the values stand under the names of these
numbers in order, none twice. -/
structure Clause.IsNumbered (clause : Clause) (position : Int) (leaves : List Leaf) : Prop where
  next : clause.next = position + (leaves.map fun leaf => arity leaf.operator).sum
  names : clause.binds.map Prod.fst =
    (List.range (clause.next - position).toNat).map fun offset : Nat => bindName (position + offset)
  distinct : (clause.binds.map Prod.fst).Nodup

variable (columns : ColumnTypes) (quote : Bool) (indent : String)

/-- **The numbers of a compiled tree.** -/
theorem isNumbered_of_compile {position : Int} (start : 0 ≤ position) {tree : ConditionTree}
    (compiles : ∀ leaf ∈ tree.leaves, leaf.Compiles columns) :
    Clause.IsNumbered ⟨treeText quote indent position tree,
      bindsFrom position (boundOf columns tree.leaves), position + widthOf tree.leaves⟩
      position tree.leaves := by
  have names := names_boundOf compiles position
  constructor
  case next => rw [← widthOf_eq_sum]
  case names =>
    have count : (position + widthOf tree.leaves - position).toNat = widthOf tree.leaves := by omega
    rw [names, bindNames_eq_numbered]
    show numbered bindName position _ = numbered bindName position (_ - position).toNat
    rw [count]
  case distinct =>
    rw [names]
    exact nodup_bindNames _ start

/-! ### Operators without a word -/

/-- **Where values can be converted, compiling fails at the first operator without a word.** -/
theorem compile_eq_error_of_converted_iff {position : Int} {tree : ConditionTree}
    (converted : ∀ leaf ∈ tree.leaves, leaf.sqlWord?.isSome →
      ∃ values, leaf.bound? columns = .ok values) {failure : Failure} :
    compile columns quote indent position tree = .error failure ↔
      ∃ leaf, tree.leaves.find? (fun leaf => leaf.sqlWord?.isNone) = some leaf ∧
        failure = .noSqlForm leaf.operator := by
  rw [compile_eq_error_iff]
  constructor
  · rintro ⟨before, leaf, behind, parts, compiled, fails⟩
    cases fails with
    | noWord missing =>
      have spelled : ∀ earlier ∈ before, !earlier.sqlWord?.isNone := fun earlier inside => by
        rw [Option.not_isNone]
        exact (compiled earlier inside).1
      exact ⟨leaf, List.find?_eq_some_iff_append.2
        ⟨by rw [missing]; rfl, before, behind, parts, spelled⟩, rfl⟩
    | noValue some_word broken =>
      obtain ⟨values, made⟩ := converted leaf (by simp [parts]) some_word
      cases broken.symm.trans made
  · rintro ⟨leaf, found, rfl⟩
    obtain ⟨missing, before, behind, parts, spelled⟩ := List.find?_eq_some_iff_append.1 found
    refine ⟨before, leaf, behind, parts, fun earlier inside => ?_,
      .noWord (Option.isNone_iff_eq_none.1 missing)⟩
    have some_word : earlier.sqlWord?.isSome := by
      rw [← Option.not_isNone]
      exact spelled earlier inside
    exact ⟨some_word, converted earlier (by simp [parts, inside]) some_word⟩

/-! ### The numbering -/

/-- **The parameters of a compiled tree.** Let every value that has to be converted be one that can
be. The tree is refused exactly when an operator has no word, with the first such operator in
document order. Else every null test takes no number, every BETWEEN two and every other comparison
one, in document order from the first position on, and the values stand under these names. When all
facts are plain names, the text is cut at the same names, whether or not it is taken for a query. -/
theorem compile_numbers_parameters {position : Int} (start : 0 ≤ position) (tree : ConditionTree)
    (converted : ∀ leaf ∈ tree.leaves, leaf.sqlWord?.isSome →
      ∃ values, leaf.bound? columns = .ok values) :
    (∀ failure, compile columns quote indent position tree = .error failure ↔
      ∃ leaf, tree.leaves.find? (fun leaf => leaf.sqlWord?.isNone) = some leaf ∧
        failure = .noSqlForm leaf.operator) ∧
    ((∀ leaf ∈ tree.leaves, leaf.sqlWord?.isSome) →
      ∃ clause, compile columns quote indent position tree = .ok clause ∧
        clause.IsNumbered position tree.leaves ∧
        ((∀ c ∈ indent.toList, isBlank c = true) →
          (∀ leaf ∈ tree.leaves, isPlainName leaf.fact.toList = true) →
            (Template.scan false clause.text.toList).names = clause.binds.map Prod.fst ∧
            (Template.ofQuery clause.text).names = clause.binds.map Prod.fst)) := by
  refine ⟨fun failure => compile_eq_error_of_converted_iff columns quote indent converted, ?_⟩
  intro spelled
  have compiles : ∀ leaf ∈ tree.leaves, leaf.Compiles columns := fun leaf inside =>
    ⟨spelled leaf inside, converted leaf inside (spelled leaf inside)⟩
  refine ⟨_, compile_eq columns quote indent position tree compiles,
    isNumbered_of_compile columns quote indent start compiles, fun blanks plain => ?_⟩
  have laid := lays_tree quote blanks start plain
  have names := names_boundOf compiles position
  exact ⟨laid.scan.trans names.symm, laid.ofQuery.2.trans names.symm⟩

/-- Nested groups, a BETWEEN without bounds, a null test and a list, numbered from three on. -/
theorem compile_numbers_parameters_of_nested :
    let columns : ColumnTypes := [("age", .integer)]
    let tree : ConditionTree := ⟨.all, [
      .leaf ⟨"name", "isNotNil", .null⟩,
      .group .any [.leaf ⟨"age", "between", .null⟩,
        .group .all [.leaf ⟨"name", "in", .text "a, b"⟩]],
      .leaf ⟨"age", "equal", .text "7"⟩]⟩
    (0 : Int) ≤ 3 ∧
    (∀ leaf ∈ tree.leaves, leaf.sqlWord?.isSome → ∃ values, leaf.bound? columns = .ok values) ∧
    (∀ leaf ∈ tree.leaves, leaf.sqlWord?.isSome) ∧
    ∃ clause, compile columns true standardIndent 3 tree = .ok clause ∧
      clause.IsNumbered 3 tree.leaves ∧
      (Template.scan false clause.text.toList).names = clause.binds.map Prod.fst ∧
      (Template.ofQuery clause.text).names = clause.binds.map Prod.fst := by
  intro columns tree
  have converted : ∀ leaf ∈ tree.leaves, leaf.sqlWord?.isSome →
      ∃ values, leaf.bound? columns = .ok values := by
    refine List.forall_mem_cons.2 ⟨fun _ => ⟨_, rfl⟩, List.forall_mem_cons.2 ⟨fun _ => ⟨_, rfl⟩,
      List.forall_mem_cons.2 ⟨fun _ => ⟨_, rfl⟩, List.forall_mem_cons.2 ⟨fun _ => ⟨_, rfl⟩, ?_⟩⟩⟩⟩
    exact List.forall_mem_nil _
  have spelled : ∀ leaf ∈ tree.leaves, leaf.sqlWord?.isSome := by decide
  obtain ⟨-, built⟩ :=
    compile_numbers_parameters columns true standardIndent
      (by decide : (0 : Int) ≤ 3) tree converted
  obtain ⟨clause, compiled, numbered, cut⟩ := built spelled
  exact ⟨by decide, converted, spelled, clause, compiled, numbered,
    cut (List.all_eq_true.1 (by decide)) (by decide)⟩

end Sql

end QueryDesk
