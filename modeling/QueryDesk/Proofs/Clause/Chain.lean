/-
**Clauses compiled one after another, and normalized together.**

The compiler and the normalizer share nothing but the names of the parameters in the text. A
compiled text lays out the names it was numbered with (`lays_tree`), so the text of several clauses,
each numbered behind the last, is cut at exactly the names of their values.

* `compileInTurn` — trees compiled one after another; `compileInTurn_spec` says
  what the clauses are.
* `NormalizedTogether`, `normalize_compiled` — the clauses, joined line by line, are normalized with
  all their values in both styles: the placeholders are numbered from one, and both styles bind the
  values of the leaves in document order.
-/

import QueryDesk.Proofs.Clause.Rendering
import QueryDesk.Proofs.Placeholder.Distinct

namespace QueryDesk

open Sql Text

namespace Sql

/-! ### Clauses line by line -/

/-- A text in front of others, a separator between them. -/
theorem lays_intercalate_cons {separator text : String} {texts names others : List String}
    (inert : ∀ c ∈ separator.toList, isInert c = true)
    (breaks : ∀ rest : List Char, ∀ c ∈ (separator.toList ++ rest).head?, isWord c = false)
    (first : Lays text.toList names) (rest : Lays (separator.intercalate texts).toList others) :
    Lays (separator.intercalate (text :: texts)).toList (names ++ others) := by
  cases texts with
  | nil =>
    rw [String.intercalate_singleton, ← List.append_nil text.toList]
    exact first.append rest (by rintro _ ⟨⟩)
  | cons next texts =>
    rw [String.intercalate_cons_cons, String.toList_append, String.toList_append, List.append_assoc]
    exact first.append (rest.prepend inert) (breaks _)

end Sql

/-! ### Trees compiled one after another -/

/-- A tree to be compiled, with the types of the columns, whether names stand between
backticks, and the indent. -/
structure ClauseRequest where
  columns : ColumnTypes
  quote : Bool
  indent : String
  tree : ConditionTree

/-- The values the leaves of a request bind, in document order. -/
def ClauseRequest.bound (request : ClauseRequest) : List Value :=
  boundOf request.columns request.tree.leaves

/-- A request with a blank indent whose tree can be compiled and whose facts are plain names. -/
structure ClauseRequest.Regular (request : ClauseRequest) : Prop where
  blanks : ∀ c ∈ request.indent.toList, isBlank c = true
  compiles : ∀ leaf ∈ request.tree.leaves, leaf.Compiles request.columns
  plain : ∀ leaf ∈ request.tree.leaves, isPlainName leaf.fact.toList = true

/-- Trees compiled one after another: the parameters of each are numbered behind
those of the last. -/
def compileInTurn : Int → List ClauseRequest → Except Failure (List Clause)
  | _, [] => .ok []
  | position, request :: rest => do
    let clause ← compile request.columns request.quote request.indent position request.tree
    let others ← compileInTurn clause.next rest
    pure (clause :: others)

/-- The clauses joined line by line. -/
def joinedText (clauses : List Clause) : String := "\n".intercalate (clauses.map Clause.text)

/-- The values of all clauses by the names of their parameters. -/
def unitedBinds (clauses : List Clause) : Binds := clauses.flatMap Clause.binds

/-- **What trees compiled one after another bind and lay out**: the values of all leaves in document
order, under names that are numbered from the first position on. The induction is on the requests,
for every position to start from. -/
theorem compileInTurn_spec (requests : List ClauseRequest)
    (regular : ∀ request ∈ requests, request.Regular) : ∀ {position : Int}, 0 ≤ position →
      ∃ clauses, compileInTurn position requests = .ok clauses ∧
        unitedBinds clauses = bindsFrom position (requests.flatMap ClauseRequest.bound) ∧
        Lays (joinedText clauses).toList
          (bindNames position (requests.flatMap ClauseRequest.bound).length) := by
  induction requests with
  | nil => exact fun _ => ⟨[], rfl, rfl, .ofText (List.forall_mem_nil _)⟩
  | cons request rest ih =>
    intro position start
    obtain ⟨here, others⟩ := List.forall_mem_cons.1 regular
    have counted : 0 ≤ position + widthOf request.tree.leaves := by omega
    have count : request.bound.length = widthOf request.tree.leaves := length_boundOf here.compiles
    obtain ⟨clauses, compiled, binds, lays⟩ := ih others counted
    let clause : Clause := ⟨treeText request.quote request.indent position request.tree,
      bindsFrom position request.bound, position + widthOf request.tree.leaves⟩
    have first : compile request.columns request.quote request.indent position request.tree =
        .ok clause := compile_eq _ _ _ position request.tree here.compiles
    refine ⟨clause :: clauses, ?_, ?_, ?_⟩
    · rw [compileInTurn, first]
      show (do
        let others ← compileInTurn (position + widthOf request.tree.leaves) rest
        pure (clause :: others)) = _
      rw [compiled]
      rfl
    · show bindsFrom position request.bound ++ unitedBinds clauses = _
      rw [binds, List.flatMap_cons, bindsFrom_append, count]
    · have laid := lays_tree request.quote here.blanks start here.plain
      rw [List.flatMap_cons, List.length_append, bindNames_add, count]
      exact lays_intercalate_cons (List.all_eq_true.1 (by decide))
        (by rintro _ _ ⟨⟩; decide) laid lays

/-! ### Clauses normalized together -/

/-- What the two bound queries are that come from clauses whose leaves bind the given values. No
name is given twice, and the text is cut at the names in their order. Both styles bind the values in
order, lists and tuples spread out in place; in the place of every name stand its next positions or
as many question marks, or a null for an empty list, and positions are numbered from one on. -/
structure NormalizedTogether (clauses : List Clause) (values : List Value)
    (positioned simple : BoundQuery) : Prop where
  distinct : ((unitedBinds clauses).map Prod.fst).Nodup
  cut : (Template.ofQuery (joinedText clauses)).names = (unitedBinds clauses).map Prod.fst
  numbered : placeholders positioned.query.toList =
    (List.range (spread values).length).map fun place => placeholder (1 + place)
  positioned_binds : positioned.binds = spread values
  simple_binds : simple.binds = spread values
  positioned_text : positioned.query = String.ofList
    ((Template.ofQuery (joinedText clauses)).fillNumbered (placesFrom 0 values))
  simple_text : simple.query = String.ofList ((Template.ofQuery (joinedText clauses)).fill
    (values.map fun value => (SimpleScan.text (.ofValue value)).toList))

/-- **Clauses compiled one after another are normalized together.** No parameter is missed: the text
is cut at the names of the values. The placeholders of the positioned style are numbered from one
on, and both styles bind the values of all leaves in document order. -/
theorem normalize_compiled (requests : List ClauseRequest)
    (regular : ∀ request ∈ requests, request.Regular) {position : Int} (start : 0 ≤ position) :
    ∃ clauses positioned simple, compileInTurn position requests = .ok clauses ∧
      normalize .positioned (some (unitedBinds clauses)) (joinedText clauses) = .ok positioned ∧
      normalize .simple (some (unitedBinds clauses)) (joinedText clauses) = .ok simple ∧
      NormalizedTogether clauses (requests.flatMap ClauseRequest.bound) positioned simple := by
  obtain ⟨clauses, compiled, binds, lays⟩ := compileInTurn_spec requests regular start
  generalize requests.flatMap ClauseRequest.bound = values at binds lays
  have named : (unitedBinds clauses).map Prod.fst = bindNames position values.length := by
    rw [binds, map_fst_bindsFrom]
  have valued : (unitedBinds clauses).map Prod.snd = values := by
    rw [binds, map_snd_bindsFrom]
  have distinct : ((unitedBinds clauses).map Prod.fst).Nodup := by
    rw [named]
    exact nodup_bindNames values.length start
  obtain ⟨tidy, laid⟩ := lays.ofQuery
  have cut := laid.trans named.symm
  obtain ⟨positioned, simple⟩ := Template.bind_distinct _ _ distinct cut
  rw [valued] at positioned simple
  refine ⟨clauses, _, _, compiled, positioned, simple, distinct, cut, ?_, rfl, rfl, rfl, rfl⟩
  have lengths : (placesFrom 0 values).length =
      (Template.ofQuery (joinedText clauses)).slots.length := by
    have count := congrArg List.length laid
    rw [Template.names, List.length_map, length_bindNames] at count
    rw [length_placesFrom, count]
  have shown := placeholders_fillNumbered _ _ _ tidy lengths
  rw [flatten_placesFrom, List.map_map] at shown
  show placeholders (String.ofList _).toList = _
  rw [String.toList_ofList]
  refine shown.trans (List.map_congr_left fun place _ => ?_)
  show placeholder (0 + 1 + place) = placeholder (1 + place)
  rw [Nat.zero_add]

/-- Two trees with a BETWEEN, a list, an empty list and a group that is empty. -/
theorem normalize_compiled_of_two_trees :
    let requests : List ClauseRequest := [
      ⟨[("age", .integer)], false, standardIndent, ⟨.any, [
        .leaf ⟨"age", "between", .list [.int 1, .int 5]⟩, .group .all [],
        .leaf ⟨"name", "notIn", .text "a, b"⟩]⟩⟩,
      ⟨[], true, standardIndent, ⟨.all, [.leaf ⟨"name", "in", .list []⟩,
        .leaf ⟨"name", "startsWith", .text "c"⟩]⟩⟩]
    (∀ request ∈ requests, request.Regular) ∧ (0 : Int) ≤ 9 ∧
      ∃ clauses positioned simple, compileInTurn 9 requests = .ok clauses ∧
        normalize .positioned (some (unitedBinds clauses)) (joinedText clauses) = .ok positioned ∧
        normalize .simple (some (unitedBinds clauses)) (joinedText clauses) = .ok simple ∧
        NormalizedTogether clauses (requests.flatMap ClauseRequest.bound) positioned simple := by
  intro requests
  have regular : ∀ request ∈ requests, request.Regular := by
    refine List.forall_mem_cons.2 ⟨⟨List.all_eq_true.1 (by decide), ?_, by decide⟩,
      List.forall_mem_cons.2 ⟨⟨List.all_eq_true.1 (by decide), ?_, by decide⟩,
        fun _ member => by cases member⟩⟩
    · refine List.forall_mem_cons.2 ⟨⟨rfl, _, rfl⟩, List.forall_mem_cons.2 ⟨⟨rfl, _, rfl⟩, ?_⟩⟩
      exact fun _ member => by cases member
    · refine List.forall_mem_cons.2 ⟨⟨rfl, _, rfl⟩, List.forall_mem_cons.2 ⟨⟨rfl, _, rfl⟩, ?_⟩⟩
      exact fun _ member => by cases member
  exact ⟨regular, by decide, normalize_compiled requests regular (by decide)⟩

end QueryDesk
