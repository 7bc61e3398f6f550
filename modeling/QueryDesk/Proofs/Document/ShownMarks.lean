/-
**The marks that a document shows.**

* `Marks.all`, `ResultSet.allMarks` — every mark of a row and of a set, also those on columns that
  are no columns of the set (`ResultSet.mem_allMarks`).
* `Report.shownMarks` — the marks under the rows of a document.
* `Report.shownMarks_documentData` — **the document of a set shows its marks**, all of them, in
  order; `Report.read_document` — the document of a plain set is read as its data.
-/

import QueryDesk.Proofs.Document.RoundTrip
import QueryDesk.Proofs.Search

namespace QueryDesk

/-! ### The marks of a set -/

/-- The marks of a row, column by column. -/
def Marks.all (marks : Marks) : List Mark := marks.entries.flatMap Prod.snd

/-- A mark of a row stands on some column. -/
theorem Marks.mem_all {marks : Marks} {mark : Mark} :
    mark ∈ marks.all ↔ ∃ column, mark ∈ marks.of column none := by
  have wanted : ∀ column, marks.of column none = (marks.entries.lookup column).getD [] :=
    fun column =>
    List.filter_eq_self.2 fun _ _ => rfl
  simp only [wanted, all, List.mem_flatMap]
  constructor
  · rintro ⟨⟨column, found⟩, inside, member⟩
    exact ⟨column, by rwa [lookup_of_distinct marks.distinct inside]⟩
  · rintro ⟨column, member⟩
    cases held : marks.entries.lookup column with
    | none =>
      rw [held] at member
      cases member
    | some found =>
      rw [held] at member
      exact ⟨(column, found), mem_of_lookup held, member⟩

/-- The marks of a set, row by row. -/
def ResultSet.allMarks (set : ResultSet) : List Mark := set.rows.flatMap fun row => row.marks.all

theorem ResultSet.mem_allMarks {set : ResultSet} {mark : Mark} :
    mark ∈ set.allMarks ↔ ∃ row ∈ set.rows, ∃ column, mark ∈ row.marks.of column none := by
  simp only [allMarks, List.mem_flatMap, Marks.mem_all]

/-- A mark in terms of what JSON has. -/
def Mark.toJsonData (mark : Mark) : Value := mark.toValue.toJsonData

/-! ### What JSON has of records and lists -/

namespace Value

theorem itemsToJsonData_eq_map (items : List Value) :
    itemsToJsonData items = items.map toJsonData := by
  induction items with
  | nil => rw [itemsToJsonData, List.map_nil]
  | cons item rest ih => rw [itemsToJsonData, ih, List.map_cons]

theorem toJsonData_list (items : List Value) :
    (list items).toJsonData = .list (items.map toJsonData) := by
  rw [toJsonData, itemsToJsonData_eq_map]

theorem entriesToJsonData_named (entries : List (String × Value)) :
    entriesToJsonData (Fields.named entries) =
      Fields.named (entries.map fun entry => (entry.1, entry.2.toJsonData)) := by
  induction entries with
  | nil => exact entriesToJsonData.eq_1
  | cons entry rest ih =>
    rw [Fields.named, List.map_cons, entriesToJsonData, ← Fields.named, ih]
    rfl

theorem toJsonData_record (entries : List (String × Value)) :
    (record entries).toJsonData =
      record (entries.map fun entry => (entry.1, entry.2.toJsonData)) := by
  rw [Fields.record_eq, toJsonData, entriesToJsonData_named]
  rfl

/-! ### Ways into a document -/

/-- What a record has under a name, nothing if it has no such entry. -/
def part (name : String) (data : Value) : Value := (data.get? name).getD .null

/-- The elements of a list, none of anything else. -/
def elements (data : Value) : List Value := data.elements?.getD []

/-- The contents of a record without their names, none of anything else. -/
def contents : Value → List Value
  | .dict entries => entries.map Prod.snd
  | _ => []

theorem part_record_cons_self (name : String) (value : Value) (rest : List (String × Value)) :
    (record ((name, value) :: rest)).part name = value := by
  simp [part, get?, record, lookup?]

theorem part_record_cons_of_ne {name other : String} (differs : other ≠ name) (value : Value)
    (rest : List (String × Value)) :
    (record ((other, value) :: rest)).part name = (record rest).part name := by
  simp [part, get?, record, lookup?, differs]

theorem contents_record (entries : List (String × Value)) :
    (record entries).contents = entries.map Prod.snd := by
  rw [record, contents, List.map_map]
  rfl

end Value

open Value

/-! ### Marks in a document -/

namespace Report

/-- The marks under a row of a document. -/
def shownOnRow (row : Value) : List Value := (row.part "meta").contents.flatMap elements

/-- The marks under the rows of a document. -/
def shownMarks (document : Value) : List Value :=
  ((document.part "resultSet").part "rows").elements.flatMap shownOnRow

/-- A row shows all of its marks. -/
theorem shownOnRow_toJsonData (row : Row) :
    shownOnRow row.toValue.toJsonData = row.marks.all.map Mark.toJsonData := by
  rw [Row.toValue, toJsonData_record, shownOnRow, List.map_cons,
    part_record_cons_of_ne (show "values" ≠ "meta" by decide), List.map_cons, part_record_cons_self,
    Marks.toValue, Marks.map,
    toJsonData_record, contents_record, List.map_map, List.map_map, List.flatMap_map, Marks.all,
    List.map_flatMap]
  refine congrArg (row.marks.entries.flatMap ·) (funext fun entry => ?_)
  show elements (list (entry.2.map Mark.toValue)).toJsonData = entry.2.map Mark.toJsonData
  rw [toJsonData_list, List.map_map]
  rfl

/-- **The document of a set shows its marks**, row by row and column by column. -/
theorem shownMarks_documentData (set : ResultSet) (summary : Option String) :
    shownMarks (documentData set summary) = set.allMarks.map Mark.toJsonData := by
  have rows : ((documentData set summary).part "resultSet").part "rows" =
      .list (set.rows.map fun row => row.toValue.toJsonData) := by
    rw [documentData, part_record_cons_of_ne (show "summary" ≠ "resultSet" by decide),
      part_record_cons_self, ResultSet.toValue, toJsonData_record, List.map_cons,
      part_record_cons_of_ne (show "keys" ≠ "rows" by decide), List.map_cons, part_record_cons_self,
      toJsonData_list, List.map_map]
    rfl
  rw [shownMarks, rows]
  show (set.rows.map fun row => row.toValue.toJsonData).flatMap shownOnRow = _
  rw [List.flatMap_map, ResultSet.allMarks, List.map_flatMap]
  exact congrArg (set.rows.flatMap ·) (funext shownOnRow_toJsonData)

/-- The document of a plain set without halves of characters is read as the data
it was written from. -/
theorem read_document {set : ResultSet} (plain : set.IsPlain) {summary : Option String}
    (whole : (documentData set summary).IsWhole) :
    Json.read (document set summary) = .ok (documentData set summary) :=
  Json.read_write .indented (ResultSet.isPlain_documentData plain summary) whole

end Report

end QueryDesk
