/-
**Result sets are read back from data.**

Each part of a result set has a reading and is written as data, in either style of names. Here each
is read back from what it is written as, field by field.

* `Reading.items_map`, `Reading.entriesOf_map`, `Reading.optional_getD` — lists, records and what
  may be missing are read back when their parts are.
* `Marks.ofEntries_entries`, `Violation.reading_toValue`, … — the parts from the inside out.
* `ResultSet.reading_toValue` — **a well-formed result set is read back from its data.**
-/

import QueryDesk.Proofs.ConditionTree.Grammar
import QueryDesk.ResultSet.Reading

namespace QueryDesk

open Checked

/-! ### Lists, records and what may be missing -/

namespace Reading

variable {α : Type} {read : Reading α} {write : α → Value}

/-- Elements that are read back one by one are read back together. -/
theorem items_map {elements : List α}
    (back : ∀ element ∈ elements, read (write element) = .good element) :
    items read (.list (elements.map write)) = .good elements := by
  rw [items, eachFrom_eq_good_iff, List.forall₂_map_left_iff, List.forall₂_same]
  exact back

/-- Entries whose contents are read back one by one are read back together. -/
theorem entriesOf_map {entries : List (String × α)}
    (back : ∀ entry ∈ entries, read (write entry.2) = .good entry.2) :
    entriesOf read (Fields.named (entries.map fun entry => (entry.1, write entry.2))) =
      .good entries := by
  induction entries with
  | nil => rfl
  | cons entry rest ih =>
    obtain ⟨here, others⟩ := List.forall_mem_cons.1 back
    rw [List.map_cons, Fields.named, List.map_cons, entriesOf, ← Fields.named, ih others, here]
    rfl

theorem entries_anything (found : List (String × Value)) :
    entries anything (.record found) = .good found := by
  have same : found.map (fun entry => (entry.1, entry.2)) = found := List.map_id found
  have back := @entriesOf_map Value anything (fun value => value) found fun _ _ => rfl
  rw [same] at back
  exact back

/-- Something that may be missing is read back, if it is not written as a null. -/
theorem optional_getD {content : Option α}
    (back : ∀ found ∈ content, read (write found) = .good found)
    (there : ∀ found, write found ≠ .null) :
    optional read ((content.map write).getD .null) = .good content := by
  cases content with
  | none => rfl
  | some found =>
    have read_back := back found rfl
    rw [Option.map_some, Option.getD_some]
    unfold optional
    split
    · rename_i missing
      exact absurd missing (there found)
    · rw [read_back]
      rfl

theorem optional_textOrNull (text : Option String) :
    optional Reading.text (textOrNull text) = .good text :=
  optional_getD (fun _ _ => rfl) nofun

end Reading

/-! ### Columns -/

/-- A type is found under its name. -/
theorem ColumnType.ofName?_name (type : ColumnType) : ofName? type.name = some type := by
  cases type <;> rfl

theorem ColumnType.reading_name (type : ColumnType) : reading (.text type.name) = .good type := by
  rw [reading, Reading.oneOf, ofName?_name]

theorem ResultKey.reading_toValue (key : ResultKey) : reading key.toValue = .good key := by
  simp [reading, toValue, Reading.record, Value.record, fmap_eq, ap_eq, Fields.required,
    Fields.defaulted, Fields.optional, Fields.find?, Value.lookup?, Reading.text,
    ColumnType.reading_name,
    Reading.optional_textOrNull]

/-! ### Rows and their marks -/

/-- A kind of marks is found under its name. -/
theorem MarkKind.ofName?_name (kind : MarkKind) : ofName? kind.name = some kind := by
  cases kind <;> rfl

theorem Mark.reading_toValue (mark : Mark) : reading mark.toValue = .good mark := by
  have values : Reading.optional (Reading.entries Reading.anything) mark.valuesToValue =
      .good mark.values :=
        Reading.optional_getD (fun found _ => Reading.entries_anything found) nofun
  simp [reading, toValue, Reading.record, Value.record, fmap_eq, ap_eq, Fields.required,
    Fields.defaulted, Fields.optional, Fields.find?, Value.lookup?, Reading.oneOf,
    MarkKind.ofName?_name, values]

theorem changeEntry_of_not_mem (column : String) (change : List Mark → List Mark)
    {entries : List (String × List Mark)} (new : column ∉ entries.map Prod.fst) :
    changeEntry column change entries = entries ++ [(column, change [])] := by
  induction entries with
  | nil => rfl
  | cons entry rest ih =>
    obtain ⟨name, found⟩ := entry
    rw [List.map_cons, List.mem_cons, not_or] at new
    rw [changeEntry, if_neg (Ne.symm new.1), ih new.2, List.cons_append]

/-- By induction on entries with new columns: put into marks one after the other, they
stand behind them in order. -/
theorem Marks.entries_foldl_change (entries : List (String × List Mark)) : ∀ marks : Marks,
    ((marks.entries ++ entries).map Prod.fst).Nodup →
      (entries.foldl (fun marks (column, found) => marks.change column fun _ => found)
        marks).entries =
        marks.entries ++ entries := by
  induction entries with
  | nil => exact fun marks _ => (List.append_nil marks.entries).symm
  | cons entry rest ih =>
    intro marks distinct
    obtain ⟨column, found⟩ := entry
    have new : column ∉ marks.entries.map Prod.fst := by
      rw [List.map_append, List.map_cons] at distinct
      exact fun inside => (List.nodup_append.1 distinct).2.2 column inside column
        List.mem_cons_self rfl
    have changed : (marks.change column fun _ => found).entries =
      marks.entries ++ [(column, found)] :=
      changeEntry_of_not_mem column (fun _ => found) new
    rw [← List.singleton_append, ← List.append_assoc, ← changed] at distinct ⊢
    exact ih _ distinct

/-- Marks are what is made of their entries. -/
theorem Marks.ofEntries_entries (marks : Marks) : ofEntries marks.entries = marks := by
  have same : (ofEntries marks.entries).entries = marks.entries :=
    entries_foldl_change marks.entries empty marks.distinct
  generalize ofEntries marks.entries = built at same ⊢
  cases built
  cases marks
  subst same
  rfl

/-- A row is read back from the data it is written as. -/
theorem Row.reading_toValue (row : Row) : reading row.toValue = .good row := by
  have marks : Reading.entries (Reading.items Mark.reading) row.marks.toValue =
    .good row.marks.entries :=
    @Reading.entriesOf_map _ (Reading.items Mark.reading)
      (fun found => .list (found.map Mark.toValue))
      row.marks.entries fun entry _ => Reading.items_map fun mark _ => Mark.reading_toValue mark
  have values : Reading.entries Reading.anything
      (.dict (row.values.map fun entry => (.text entry.1, entry.2))) = .good row.values :=
    Reading.entries_anything row.values
  simp [reading, toValue, Reading.record, Value.record, fmap_eq, ap_eq, Fields.defaulted,
    Fields.find?, Value.lookup?, values, marks, Marks.ofEntries_entries]

/-! ### Where rows come from -/

/-- A key is read back from the data it is written as. -/
theorem CompareKey.reading_toValue (key : CompareKey) : reading key.toValue = .good key := by
  cases key with
  | composite origin names =>
    have back : Reading.items Reading.text (.list (names.map .text)) = .good names :=
      Reading.items_map fun _ _ => rfl
    cases origin <;>
      simp [toValue, reading, KeyOrigin.word, Value.record, Value.lookup?, compositeOfFields,
        Fields.required, Fields.find?, back]
  | unique name =>
    simp [toValue, reading, Value.record, Value.lookup?, uniqueOfFields, Fields.required,
      Fields.find?, Reading.text]

/-- Fields under other names than the known ones are kept as they are. -/
theorem Fields.others_named {known : List String} {entries : List (String × Value)}
    (apart : ∀ entry ∈ entries, entry.1 ∉ known) :
    others known (named entries) = .good entries := by
  induction entries with
  | nil => rfl
  | cons entry rest ih =>
    obtain ⟨name, value⟩ := entry
    obtain ⟨here, later⟩ := List.forall_mem_cons.1 apart
    rw [named, List.map_cons, others, ← named, ih later,
      if_neg fun known => here (List.contains_iff_mem.1 known)]
    rfl

/-- What is done about a violated rule, when its further entries are under other names. -/
theorem Violation.reading_toValue {violation : Violation}
    (apart : ∀ entry ∈ violation.others, entry.1 ∉ ["column", "limit"]) :
    reading violation.toValue = .good violation := by
  have others := Fields.others_named apart
  have limit : limitReading (.int violation.limit) = .good violation.limit := by
    simp [limitReading, Reading.wholeNumber, require, map]
  rw [Fields.named] at others
  simp [toValue, reading, Reading.record, Value.record, fmap_eq, ap_eq, Fields.required,
    Fields.find?, Value.lookup?, Reading.text, limit, Fields.others, others]

/-- A rule is read back if the further entries of its violation have names of their own. -/
theorem Rule.reading_toValue (style : NameStyle) {rule : Rule}
    (apart : ∀ entry ∈ rule.violation.others, entry.1 ∉ ["column", "limit"]) :
    reading (rule.toValue style) = .good rule := by
  have conditions : ConditionTree.reading rule.conditions.toValue = .good rule.conditions :=
    ConditionTree.reading_toValue rule.conditions
  cases style <;>
    simp [toValue, reading, Reading.record, Value.record, fmap_eq, ap_eq, NameStyle.pick,
      Fields.required, Fields.find?, Value.lookup?, Reading.text, conditions,
      Violation.reading_toValue apart]

/-- The rules of a table can be read back: their names are distinct, and the further entries of a
violation are under names of their own. -/
structure TableRule.IsWellFormed (table : TableRule) : Prop where
  distinct : (table.rules.map Rule.name).Nodup
  apart : ∀ rule ∈ table.rules, ∀ entry ∈ rule.violation.others, entry.1 ∉ ["column", "limit"]

/-- The rules of a table are read back if they are well-formed. -/
theorem TableRule.reading_toValue (style : NameStyle) {table : TableRule}
    (formed : table.IsWellFormed) :
    reading (table.toValue style) = .good table := by
  have rules : Reading.items Rule.reading (.list (table.rules.map (Rule.toValue style))) =
      .good table.rules :=
    Reading.items_map fun rule inside => Rule.reading_toValue style (formed.apart rule inside)
  simp [toValue, reading, Reading.record, Value.record, fmap_eq, ap_eq, Fields.required,
    Fields.defaulted, Fields.find?, Value.lookup?, Reading.text, rules, require, haveDistinctNames,
    formed.distinct]

/-- An origin is read back if its rules are well-formed. -/
theorem Provenance.reading_toValue (style : NameStyle) {origin : Provenance}
    (formed : ∀ table ∈ origin.tableRule, table.IsWellFormed) :
    reading (origin.toValue style) = .good origin := by
  have keys : Reading.optional (Reading.items CompareKey.reading) (keysToValue origin.compareKeys) =
      .good origin.compareKeys :=
    @Reading.optional_getD _ (Reading.items CompareKey.reading)
      (fun found => .list (found.map CompareKey.toValue)) origin.compareKeys
      (fun _ _ => Reading.items_map fun key _ => CompareKey.reading_toValue key) nofun
  have rules : Reading.optional TableRule.reading
      ((origin.tableRule.map (TableRule.toValue style)).getD .null) = .good origin.tableRule :=
    Reading.optional_getD
      (fun table inside => TableRule.reading_toValue style (formed table inside)) nofun
  have editable : Reading.optional Reading.truth ((origin.editable.map Value.bool).getD .null) =
      .good origin.editable := Reading.optional_getD (fun _ _ => rfl) nofun
  cases style <;>
    simp [toValue, reading, Reading.record, Value.record, fmap_eq, ap_eq, NameStyle.pick,
      Fields.optional, Fields.defaulted, Fields.find?, Value.lookup?, Reading.optional_textOrNull,
      keys, rules, editable]

/-- **A result set is read back from its data.** -/
theorem ResultSet.reading_toValue (style : NameStyle) {set : ResultSet}
    (formed : ∀ table ∈ set.origin.tableRule, table.IsWellFormed) :
    reading (set.toValue style) = .good set := by
  have keys : Reading.items ResultKey.reading (.list (set.keys.map ResultKey.toValue)) =
    .good set.keys :=
    Reading.items_map fun key _ => key.reading_toValue
  have rows : Reading.items Row.reading (.list (set.rows.map Row.toValue)) = .good set.rows :=
    Reading.items_map fun row _ => row.reading_toValue
  have conditions : Reading.optional ConditionTree.reading
      ((set.conditions.map ConditionTree.toValue).getD .null) = .good set.conditions :=
    Reading.optional_getD (fun tree _ => tree.reading_toValue) nofun
  have origin := Provenance.reading_toValue style formed
  have statement := Reading.optional_textOrNull set.statement
  obtain ⟨fields, data, found⟩ : ∃ fields : Fields, set.toValue style = .dict fields ∧
      fields.find? ["keys"] = some ("keys", .list (set.keys.map ResultKey.toValue)) ∧
      fields.find? ["rows"] = some ("rows", .list (set.rows.map Row.toValue)) ∧
      fields.find? ["meta"] = some ("meta", set.origin.toValue style) ∧
      fields.find? ["sqlStatement", "sql_statement"] =
        some (style.pick "sqlStatement" "sql_statement", textOrNull set.statement) ∧
      fields.find? ["queryConditions", "query_conditions"] =
        some (style.pick "queryConditions" "query_conditions",
          (set.conditions.map ConditionTree.toValue).getD .null) :=
    ⟨_, rfl, by cases style <;> exact ⟨rfl, rfl, rfl, rfl, rfl⟩⟩
  obtain ⟨keysFound, rowsFound, originFound, statementFound, conditionsFound⟩ := found
  rw [data, reading, Reading.record]
  simp [fmap_eq, ap_eq, Fields.optional, Fields.defaulted, keysFound, rowsFound, originFound,
    statementFound, conditionsFound, keys, rows, origin, statement, conditions]

end QueryDesk
