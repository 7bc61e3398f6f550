/-
**Result sets are loaded back from the documents they are written to.**

* `ResultSet.IsPlain` — all data in a result set is nothing, truth values, whole numbers that have a
  text, texts, and lists and records of these.
* `ResultSet.isPlain_toValue` — then the whole set is such data, part by part;
  `Value.toJsonData_of_isPlain` — which is written in JSON as it is.
* `ResultSet.load_write_document` — **a plain result set is loaded back from its document.**
-/

import QueryDesk.Proofs.Document.Reading
import QueryDesk.Proofs.Json.RoundTrip
import QueryDesk.Proofs.Program.Writing
import QueryDesk.Proofs.Value.Texts

namespace QueryDesk

/-! ### Plain data -/

/-- Entries under distinct names with plain values. -/
def ArePlain (entries : List (String × Value)) : Prop :=
  (entries.map Prod.fst).Nodup ∧ ∀ entry ∈ entries, entry.2.IsPlain

/-- All data in a condition tree is plain. -/
def ConditionTree.IsPlain (tree : ConditionTree) : Prop := ∀ leaf ∈ tree.leaves, leaf.value.IsPlain

/-- The rules of a table can be read back, their limits have a text, and all
data in them is plain. -/
structure TableRule.IsPlain (table : TableRule) : Prop extends table.IsWellFormed where
  conditions : ∀ rule ∈ table.rules, rule.conditions.IsPlain
  limits : ∀ rule ∈ table.rules, Numeral.isWritable rule.violation.limit = true
  others : ∀ rule ∈ table.rules, ArePlain rule.violation.others

/-- All data in a result set is plain: its cells, the values that explain a mark, the rules of its
table, and the conditions of its statement. -/
structure ResultSet.IsPlain (set : ResultSet) : Prop where
  cells : ∀ row ∈ set.rows, ArePlain row.values
  marks : ∀ row ∈ set.rows, ∀ column ∈ row.marks.entries, ∀ mark ∈ column.2, ∀ values ∈ mark.values,
    ArePlain values
  rules : ∀ table ∈ set.origin.tableRule, table.IsPlain
  conditions : ∀ tree ∈ set.conditions, tree.IsPlain

/-! ### What is written is plain -/

namespace Value

theorem isPlain_text (content : String) : (text content).IsPlain := .scalar (.text content)

theorem isPlain_null : null.IsPlain := .scalar .null

/-- Something that may be missing is plain. -/
theorem isPlain_getD {α : Type} {write : α → Value} {content : Option α}
    (plain : ∀ found ∈ content, (write found).IsPlain) :
    ((content.map write).getD .null).IsPlain := by
  cases content with
  | none => exact isPlain_null
  | some found => exact plain found rfl

theorem isPlain_textOrNull (content : Option String) : (textOrNull content).IsPlain :=
  isPlain_getD fun found _ => isPlain_text found

theorem isPlain_list_map {α : Type} {write : α → Value} {elements : List α}
    (plain : ∀ element ∈ elements, (write element).IsPlain) : (list (elements.map write)).IsPlain :=
  .list (List.forall_mem_map.2 plain)

end Value

open Value

mutual

/-- By induction on a condition: it is written as plain data. -/
theorem Condition.isPlain_toValue : ∀ node : Condition,
    (∀ leaf ∈ node.leaves, leaf.value.IsPlain) → node.toValue.IsPlain
  | .leaf ⟨fact, operator, value⟩, plain => by
    have compared : value.IsPlain := plain ⟨fact, operator, value⟩ (List.mem_singleton_self _)
    rw [toValue, Leaf.toValue]
    exact .record (by simp) (by simp [isPlain_text, compared])
  | .group connective children, plain => by
    have nodes : (Value.list (toValues children)).IsPlain :=
      .list (each_isPlain_toValue children plain)
    rw [toValue]
    exact .record (by simp) (by simpa using nodes)

theorem Condition.each_isPlain_toValue : ∀ children : List Condition,
    (∀ leaf ∈ leavesOf children, leaf.value.IsPlain) → ∀ value ∈ toValues children, value.IsPlain
  | [], _ => by simp [toValues]
  | child :: rest, plain => by
    rw [leavesOf, List.forall_mem_append] at plain
    rw [toValues, List.forall_mem_cons]
    exact ⟨isPlain_toValue child plain.1, each_isPlain_toValue rest plain.2⟩

end

theorem ConditionTree.isPlain_toValue {tree : ConditionTree} (plain : tree.IsPlain) :
    tree.toValue.IsPlain := Condition.isPlain_toValue tree.toCondition plain

theorem Mark.isPlain_toValue {mark : Mark} (plain : ∀ values ∈ mark.values, ArePlain values) :
    mark.toValue.IsPlain := by
  have values : mark.valuesToValue.IsPlain :=
    isPlain_getD fun found inside => .record (plain found inside).1 (plain found inside).2
  exact .record (by simp) (by simp [isPlain_text, values])

/-- A row of plain cells and marks is written as plain data. -/
theorem Row.isPlain_toValue {row : Row} (cells : ArePlain row.values)
    (marks : ∀ column ∈ row.marks.entries, ∀ mark ∈ column.2, ∀ values ∈ mark.values,
      ArePlain values) :
    row.toValue.IsPlain := by
  have values : (Value.record row.values).IsPlain := .record cells.1 cells.2
  have marked : row.marks.toValue.IsPlain := by
    rw [Marks.toValue, Marks.map]
    refine .record ?_ (List.forall_mem_map.2 fun column inside => ?_)
    · rw [List.map_map]
      exact row.marks.distinct
    · exact isPlain_list_map fun mark found => Mark.isPlain_toValue (marks column inside mark found)
  exact .record (by simp) (by simp [values, marked])

/-- Every key is written as plain data. -/
theorem CompareKey.isPlain_toValue (key : CompareKey) : key.toValue.IsPlain := by
  cases key with
  | composite origin names =>
    have list : (Value.list (names.map .text)).IsPlain :=
      isPlain_list_map fun name _ => isPlain_text name
    exact .record (by simp) (by simp [isPlain_text, list])
  | unique name => exact .record (by simp) (by simp [isPlain_text])

theorem ResultKey.isPlain_toValue (key : ResultKey) : key.toValue.IsPlain :=
  .record (by simp) (by simp [isPlain_text, isPlain_textOrNull])

/-- A violation whose further entries are plain is written as plain data. -/
theorem Violation.isPlain_toValue {violation : Violation} (others : ArePlain violation.others)
    (limit : Numeral.isWritable violation.limit = true)
    (apart : ∀ entry ∈ violation.others, entry.1 ∉ ["column", "limit"]) :
    violation.toValue.IsPlain := by
  obtain ⟨distinct, each⟩ := others
  refine .record ?_ ?_
  · have column_new : "column" ∉ violation.others.map Prod.fst := fun inside => by
      obtain ⟨entry, found, same⟩ := List.mem_map.1 inside
      exact apart entry found (by simp [same])
    have limit_new : "limit" ∉ violation.others.map Prod.fst := fun inside => by
      obtain ⟨entry, found, same⟩ := List.mem_map.1 inside
      exact apart entry found (by simp [same])
    simp only [List.map_cons, List.cons_append, List.nil_append, List.nodup_cons, List.mem_cons,
      not_or]
    exact ⟨⟨by decide, column_new⟩, limit_new, distinct⟩
  · refine List.forall_mem_append.2 ⟨?_, each⟩
    have written : (Value.int violation.limit).IsPlain := .scalar (.int _ limit)
    simp [isPlain_text, written]

theorem Rule.isPlain_toValue (style : NameStyle) {rule : Rule}
    (conditions : rule.conditions.IsPlain)
    (violation : rule.violation.toValue.IsPlain) : (rule.toValue style).IsPlain := by
  have tree := ConditionTree.isPlain_toValue conditions
  exact .record (by cases style <;> simp [NameStyle.pick]) (by simp [isPlain_text, tree, violation])

/-- The rules of a table are written as plain data. -/
theorem TableRule.isPlain_toValue (style : NameStyle) {table : TableRule} (plain : table.IsPlain) :
    (table.toValue style).IsPlain := by
  have rules : (Value.list (table.rules.map (Rule.toValue style))).IsPlain :=
    isPlain_list_map fun rule inside => Rule.isPlain_toValue style (plain.conditions rule inside)
      (Violation.isPlain_toValue (plain.others rule inside) (plain.limits rule inside)
        (plain.apart rule inside))
  exact .record (by simp) (by simp [isPlain_text, rules])

/-- An origin is written as plain data. -/
theorem Provenance.isPlain_toValue (style : NameStyle) {origin : Provenance}
    (plain : ∀ table ∈ origin.tableRule, table.IsPlain) : (origin.toValue style).IsPlain := by
  have rules : ((origin.tableRule.map (TableRule.toValue style)).getD .null).IsPlain :=
    isPlain_getD fun table inside => TableRule.isPlain_toValue style (plain table inside)
  have keys : (keysToValue origin.compareKeys).IsPlain :=
    isPlain_getD fun found _ => isPlain_list_map fun key _ => key.isPlain_toValue
  have editable : ((origin.editable.map Value.bool).getD .null).IsPlain :=
    isPlain_getD fun truth _ => .scalar (.bool truth)
  refine .record ?_ ?_
  · cases style <;> simp [NameStyle.pick]
  · simp [isPlain_textOrNull, rules, keys, editable]

/-- A plain result set is plain data. -/
theorem ResultSet.isPlain_toValue (style : NameStyle) {set : ResultSet} (plain : set.IsPlain) :
    (set.toValue style).IsPlain := by
  have keys : (Value.list (set.keys.map ResultKey.toValue)).IsPlain :=
    isPlain_list_map fun key _ => key.isPlain_toValue
  have rows : (Value.list (set.rows.map Row.toValue)).IsPlain :=
    isPlain_list_map fun row inside => Row.isPlain_toValue (plain.cells row inside)
      (plain.marks row inside)
  have conditions : ((set.conditions.map ConditionTree.toValue).getD .null).IsPlain :=
    isPlain_getD fun tree inside => ConditionTree.isPlain_toValue (plain.conditions tree inside)
  have origin := Provenance.isPlain_toValue style plain.rules
  refine .record ?_ ?_
  · cases style <;> simp [NameStyle.pick]
  · simp [isPlain_textOrNull, keys, rows, conditions, origin]

/-! ### Plain data is written as it is -/

namespace Value

theorem itemsToJsonData_eq_self {items : List Value}
    (same : ∀ item ∈ items, toJsonData item = item) :
    itemsToJsonData items = items := by
  induction items with
  | nil => rw [itemsToJsonData]
  | cons item rest ih =>
    obtain ⟨here, others⟩ := List.forall_mem_cons.1 same
    rw [itemsToJsonData, here, ih others]

theorem entriesToJsonData_eq_self {entries : List (String × Value)}
    (same : ∀ entry ∈ entries, toJsonData entry.2 = entry.2) :
    entriesToJsonData (Fields.named entries) = Fields.named entries := by
  induction entries with
  | nil => exact entriesToJsonData.eq_1
  | cons entry rest ih =>
    obtain ⟨name, value⟩ := entry
    obtain ⟨here, others⟩ := List.forall_mem_cons.1 same
    rw [Fields.named, List.map_cons, entriesToJsonData, ← Fields.named, ih others, here]
    rfl

/-- Plain data is JSON data already. -/
theorem toJsonData_of_isPlain {value : Value} (plain : value.IsPlain) :
    toJsonData value = value := by
  induction plain with
  | scalar allowed => cases allowed <;> rfl
  | list each ih => rw [toJsonData, itemsToJsonData_eq_self ih]
  | record distinct each ih => rw [Fields.record_eq, toJsonData, entriesToJsonData_eq_self ih]

/-- All numbers in plain data have a text. -/
theorem hasText_of_isPlain {value : Value} (plain : value.IsPlain) : value.hasText = true := by
  induction plain with
  | scalar allowed =>
    cases allowed with
    | int number writable => exact writable
    | _ => rfl
  | list each ih => exact haveTexts_iff.2 ih
  | record distinct each ih =>
    rw [Fields.record_eq, hasText, entriesHaveTexts_iff]
    exact List.forall_mem_map.2 fun entry inside => ⟨rfl, ih entry inside⟩

end Value

/-! ### Documents -/

/-- A text without carriage returns has its line ends unified already. -/
theorem unifyLineEnds_eq_self {text : List Char} (none_there : '\r' ∉ text) :
    unifyLineEnds text = text := by
  induction text with
  | nil => rfl
  | cons c rest ih =>
    rw [List.mem_cons, not_or] at none_there
    obtain ⟨other, later⟩ := none_there
    rw [unifyLineEnds, if_neg (Ne.symm other), ih later]
    exact fun _ same => absurd same.symm other

namespace ResultSet

/-- A document that holds the data of a set is the set. -/
theorem ofDocument_toValue {set : ResultSet}
    (formed : ∀ table ∈ set.origin.tableRule, table.IsWellFormed)
    (path : String) : ofDocument path none (set.toValue .document) = .ok set := by
  have back := reading_toValue .document formed
  rw [toValue, Fields.record_eq] at back ⊢
  rw [ofDocument, back]
  rfl

/-- A file that a plain result set without halves of characters is written to, in any
layout, is loaded as this set. -/
theorem load_write {set : ResultSet} (plain : set.IsPlain) (whole : (set.toValue .document).IsWhole)
    (layout : Json.Layout) {path : String}
    (format : DataFormat.ofPath path = .ok .json) (declared : Csv.Declared) :
    load path (some (Json.write layout (set.toValue .document))) declared none = .ok set := by
  have data := ResultSet.isPlain_toValue .document plain
  have unified := unifyLineEnds_eq_self (Json.no_return_write layout data)
  have file : path ≠ inputPath := by
    rintro rfl
    cases format
  have loaded :=
    ofDocument_toValue (fun table inside => (plain.rules table inside).toIsWellFormed) path
  rw [load, format, if_neg file]
  simp only [bind, Except.bind]
  rw [unified, String.ofList_toList, Json.read_write layout data whole]
  exact loaded

/-- The data of the document on a plain set is plain. -/
theorem isPlain_documentData {set : ResultSet} (plain : set.IsPlain) (summary : Option String) :
    (Report.documentData set summary).IsPlain := by
  have data := ResultSet.isPlain_toValue .document plain
  rw [Report.documentData, toJsonData_of_isPlain data]
  exact .record (by simp) (by simp [isPlain_textOrNull, data])

/-- The document on a plain set without halves of characters can be made and encoded, unless
something in it nests too deep. -/
theorem canReport_of_isPlain {machine : Cli.Machine} {set : ResultSet} (plain : set.IsPlain)
    {summary : String} (whole : (Report.documentData set summary).IsWhole)
    (shallow : set.isShallow machine.library.nesting = true) : machine.CanReport set summary :=
  ⟨shallow, hasText_of_isPlain (isPlain_documentData plain summary),
    Json.isWhole_write .indented (isPlain_documentData plain summary) whole⟩

/-- **A plain result set without halves of characters is loaded back from its document.** Its
report to a file that can be written leaves the document there. This is an object with the
summary and, under `resultSet`, an object; a file that this object is written to, in any
layout, is loaded as the set. -/
theorem load_write_document (machine : Cli.Machine) {set : ResultSet} (plain : set.IsPlain)
    (summary : String) (whole : (Report.documentData set summary).IsWhole)
    (shallow : set.isShallow machine.library.nesting = true) :
    (∀ path, path ≠ "" → path ≠ inputPath → machine.folder.CanWrite path →
      Cli.carryOut machine.charset machine.folder (machine.report ⟨.json, some path⟩ set summary) =
        ⟨"", machine.folder.put path (Report.document set summary), none⟩) ∧
    ∃ object,
      Json.read (Report.document set summary) =
        .ok (.record [("summary", .text summary), ("resultSet", object)]) ∧
      ∀ (layout : Json.Layout) (path : String), DataFormat.ofPath path = .ok .json →
        ∀ declared, load path (some (Json.write layout object)) declared none = .ok set := by
  have data := ResultSet.isPlain_toValue .document plain
  have same := toJsonData_of_isPlain data
  constructor
  · intro path named file writable
    rw [← List.append_nil (machine.report ⟨.json, some path⟩ set summary),
      Cli.Machine.carryOut_report named file (canReport_of_isPlain plain whole shallow) writable []]
    rfl
  · have inner : (set.toValue .document).IsWhole := by
      rw [Report.documentData, same, isWhole_record_iff] at whole
      exact (whole _ (List.mem_cons_of_mem _ (List.mem_singleton_self _))).2
    refine ⟨set.toValue .document, ?_, fun layout path format =>
      load_write plain inner layout format⟩
    rw [Report.document, Json.read_write .indented (isPlain_documentData plain summary) whole,
      Report.documentData, same]
    rfl

/-- A set with a nested cell, a mark with values, both sorts of keys for matching rows, a rule with
an entry of its own, and conditions. -/
def ofManyParts : ResultSet :=
  ⟨[⟨"id", .integer, none⟩, ⟨"name", .varchar, some "given\tname"⟩],
    [⟨[("id", .int (-7)), ("name", .record [("parts", .list [.null, .bool true])])],
      Marks.empty.push "id" ⟨.updated, some [("old", .text "\"6\"")]⟩⟩],
    ⟨some "main", some "items", none, none, some false,
      some [.composite .primary ["id"], .unique "name"],
      some ⟨"items", [⟨"positive", ⟨.all, [.leaf ⟨"id", "lessThan", .int 0⟩]⟩,
        ⟨"id", 3, [("severity", .text "high")]⟩⟩]⟩⟩,
    some "SELECT 1", some ⟨.any, []⟩⟩

theorem isPlain_ofManyParts : ofManyParts.IsPlain := by
  have number (value : Int) (writable : Numeral.isWritable value = true) :
    (Value.int value).IsPlain :=
    .scalar (.int value writable)
  have truth : (Value.bool true).IsPlain := .scalar (.bool true)
  have parts : (Value.list [.null, .bool true]).IsPlain := .list (by simp [isPlain_null, truth])
  have cell : (Value.record [("parts", .list [.null, .bool true])]).IsPlain :=
    .record (by simp) (by simpa using parts)
  refine ⟨?_, ?_, ?_, ?_⟩
  · refine List.forall_mem_singleton.2 ⟨by simp, ?_⟩
    exact List.forall_mem_cons.2 ⟨number (-7) rfl, List.forall_mem_singleton.2 cell⟩
  · simp [ofManyParts, ArePlain, Marks.push, Marks.change, changeEntry, Marks.empty, isPlain_text]
  · simp only [ofManyParts, Option.mem_some_iff, forall_eq']
    refine ⟨⟨by simp, by simp⟩, ?_, List.forall_mem_singleton.2 rfl, ?_⟩
    · simp [ConditionTree.IsPlain, ConditionTree.leaves, Condition.leavesOf, Condition.leaves,
        number 0 rfl]
    · simp [ArePlain, isPlain_text]
  · simp [ofManyParts, ConditionTree.IsPlain, ConditionTree.leaves, Condition.leavesOf]

/-- The surroundings of a program in an empty folder. -/
def emptyFolder : Cli.Machine := ⟨.ofFiles [], .ok "", [], .all, .standard⟩

/-- A set of many parts is reported and loaded back. -/
theorem load_write_document_of_many_parts :
    Cli.carryOut .all (.ofFiles []) (emptyFolder.report
      ⟨.json, some "rows.json"⟩ ofManyParts "1 row") =
        ⟨"", (Cli.Folder.ofFiles []).put "rows.json" (Report.document ofManyParts (some "1 row")),
          none⟩ ∧
      ∃ object,
        Json.read (Report.document ofManyParts (some "1 row")) =
          .ok (.record [("summary", .text "1 row"), ("resultSet", object)]) ∧
        load "rows.json" (some (Json.write .oneLine object)) [] none = .ok ofManyParts := by
  obtain ⟨reported, object, document, back⟩ :=
    load_write_document emptyFolder isPlain_ofManyParts "1 row" (by decide +kernel)
      (by decide +kernel)
  exact ⟨reported "rows.json" (by decide) (by decide) (by decide +kernel), object, document,
    back .oneLine "rows.json" rfl []⟩

/-- A plain set with half a character in a cell. -/
def ofHalf : ResultSet :=
  ⟨[⟨"a", .text, none⟩], [⟨[("a", .text (String.singleton (Text.half 0xd800)))], Marks.empty⟩],
    Provenance.unknown, none, none⟩

/-- What is written of it, up to the piece with the half. -/
def brokenOff : String := (Cli.Charset.whole.encode (Report.documentPieces ofHalf (some "1 row"))).1

/-- **Half a character cannot be written**: the report of a plain set with one breaks off, and what
it leaves in the file is no document. -/
theorem report_breaks_off_at_half :
    ofHalf.IsPlain ∧
      Cli.carryOut .all (.ofFiles []) (emptyFolder.report
        ⟨.json, some "rows.json"⟩ ofHalf "1 row") =
        ⟨"", (Cli.Folder.ofFiles []).put "rows.json" brokenOff,
          some (.unprintable "utf-8" "surrogates not allowed" [Text.half 0xd800] 1)⟩ ∧
      ∀ document, Json.read brokenOff ≠ .ok document := by
  have cell : (Value.text (String.singleton (Text.half 0xd800))).IsPlain := isPlain_text _
  refine ⟨⟨by simp [ofHalf, ArePlain, cell], by simp [ofHalf, Marks.empty], nofun, nofun⟩, ?_, ?_⟩
  · have sent : emptyFolder.report ⟨.json, some "rows.json"⟩ ofHalf "1 row" =
        [.write "rows.json" (Report.documentPieces ofHalf (some "1 row"))] := by
      decide +kernel
    have stopped : (Cli.Charset.whole.encode (Report.documentPieces ofHalf (some "1 row"))).2 =
        some (.unprintable "utf-8" "surrogates not allowed" [Text.half 0xd800] 1) := by
      decide +kernel
    have writable : (Cli.Folder.ofFiles []).CanWrite "rows.json" := by decide +kernel
    rw [sent, Cli.carryOut]
    simp only [Cli.Folder.write_of_canWrite writable, stopped]
    rfl
  · have unread : (Json.read brokenOff).toOption.isNone = true := by decide +kernel
    intro document read
    rw [read] at unread
    cases unread

end ResultSet

end QueryDesk
