/-
**Result sets from comma separated text.**

* `FrameColumn.HoldsData`, `ResultSet.HoldsData` — columns and sets with no other cells than data.
* `FrameColumn.Overflows`, `FrameColumn.escapes_restored_iff` — whole numbers among which some are
  missing have to fit into a column of whole numbers again.
* `ResultSet.escapes_ofFrame_iff`, `ResultSet.holdsData_ofFrame` — sets from columns under distinct
  names; `ResultSet.column_of_ofFrame` — a column of such a set.
* `Csv.escapes_resultSet_iff`, `Csv.holdsData_resultSet` — **the set of a text holds data, and only
  a column that overflows is not reported.**
-/

import QueryDesk.Proofs.Load.ColumnNames
import QueryDesk.Proofs.Program.Escapes
import QueryDesk.Proofs.Value.Data

namespace QueryDesk

/-- All cells of a set are data. -/
def ResultSet.HoldsData (set : ResultSet) : Prop :=
  ∀ row ∈ set.rows, ∀ entry ∈ row.values, entry.2.IsData

/-! ### Columns -/

namespace FrameColumn

/-- A column of no other values than data. -/
def HoldsData : FrameColumn → Prop
  | .values cells => ∀ cell ∈ cells, cell.IsData
  | _ => True

theorem isData_plainCell {value : Value} (data : value.IsData) : (plainCell value).IsData := by
  unfold plainCell
  split
  · exact Value.isData_of_no_parts rfl rfl
  · exact Value.isData_of_no_parts rfl rfl
  · exact data

/-- Cells that are values of one kind or nothing. -/
theorem isData_of_optional {α : Type} {wrap : α → Value} (each : ∀ content, (wrap content).IsData)
    (cells : List (Option α)) : ∀ cell ∈ cells.map fun cell => (cell.map wrap).getD .null,
      cell.IsData := by
  refine List.forall_mem_map.2 fun cell _ => ?_
  cases cell with
  | none => exact Value.isData_of_no_parts rfl rfl
  | some content => exact each content

theorem isData_cells {column : FrameColumn} (data : column.HoldsData) :
    ∀ cell ∈ column.cells, cell.IsData := by
  cases column with
  | values cells =>
    exact List.forall_mem_map.2 fun cell inside => isData_plainCell (data cell inside)
  | doubles cells =>
    exact List.forall_mem_map.2 fun _ _ => isData_plainCell (Value.isData_of_no_parts rfl rfl)
  | _ => exact isData_of_optional (fun _ => Value.isData_of_no_parts rfl rfl) _

/-- A whole number that a column of whole numbers can hold beside missing ones. -/
def CanHold (number : Int) : Prop := smallestInteger ≤ number ∧ number ≤ largestSigned

/-- Doubles that only stand for whole numbers because some are missing: those that are not missing
are whole, and there are some. -/
structure StandForIntegers (cells : List Binary64) : Prop where
  missing : ∃ cell ∈ cells, cell.isNaN = true
  present : ∃ cell ∈ cells, cell.isNaN = false
  whole : ∀ cell ∈ cells, cell.isNaN = true ∨ cell.isWhole = true

/-- Doubles that stand for whole numbers, one of which no column of whole numbers can hold. -/
def Overflows : FrameColumn → Prop
  | .doubles cells =>
    StandForIntegers cells ∧ ∃ cell ∈ cells, ∃ number, cell.toInt? = some number ∧ ¬ CanHold number
  | _ => False

theorem failure_of_integerCell {cell : Binary64} {failure : Failure}
    (failed : integerCell cell = .error failure) : failure.isReported = false := by
  unfold integerCell at failed
  split at failed
  · cases failed
  · split at failed
    · cases failed
    · cases failed
      rfl

/-- A cell passes a failure exactly when its whole number needs more than 64 bits. -/
theorem escapes_integerCell_iff (cell : Binary64) :
    Escapes (integerCell cell) ↔ ∃ number, cell.toInt? = some number ∧ ¬ CanHold number := by
  unfold integerCell
  cases cell.toInt? with
  | none => simp
  | some number =>
    dsimp only
    split
    · rename_i fits
      simp [show CanHold number from fits]
    · rename_i beyond
      simp [show ¬ CanHold number from beyond, Failure.isReported]

/-- When doubles stand for whole numbers, as it is tested. -/
theorem standForIntegers_iff (cells : List Binary64) :
    StandForIntegers cells ↔ (cells.filter fun cell => !cell.isNaN).length < cells.length ∧
      !(cells.filter fun cell => !cell.isNaN).isEmpty ∧
      (cells.filter fun cell => !cell.isNaN).all Binary64.isWhole := by
  have missing : (∃ cell ∈ cells, cell.isNaN = true) ↔
      (cells.filter fun cell => !cell.isNaN).length < cells.length := by
    simp [List.length_filter_lt_length_iff_exists]
  have present : (∃ cell ∈ cells, cell.isNaN = false) ↔
      !(cells.filter fun cell => !cell.isNaN).isEmpty := by
    simp [List.filter_eq_nil_iff]
  have whole : (∀ cell ∈ cells, cell.isNaN = true ∨ cell.isWhole = true) ↔
      (cells.filter fun cell => !cell.isNaN).all Binary64.isWhole := by
    simp only [List.all_filter, List.all_eq_true, Bool.or_eq_true, Bool.not_not]
  rw [← missing, ← present, ← whole]
  exact ⟨fun ⟨one, two, three⟩ => ⟨one, two, three⟩, fun ⟨one, two, three⟩ => ⟨one, two, three⟩⟩

theorem restored_doubles_of {cells : List Binary64} (stand : StandForIntegers cells) :
    (doubles cells).restored = (cells.mapM integerCell).map .integers :=
  if_pos ((standForIntegers_iff cells).1 stand)

theorem restored_doubles_of_not {cells : List Binary64} (other : ¬ StandForIntegers cells) :
    (doubles cells).restored = .ok (.doubles cells) :=
  if_neg fun stand => other ((standForIntegers_iff cells).2 stand)

/-- **A column is not restored** exactly when it overflows. -/
theorem escapes_restored_iff (column : FrameColumn) :
    Escapes column.restored ↔ column.Overflows := by
  cases column with
  | doubles cells =>
    by_cases stand : StandForIntegers cells
    · rw [restored_doubles_of stand, escapes_map_iff,
        escapes_mapM_iff fun _ _ _ => failure_of_integerCell, Overflows, and_iff_right stand]
      simp only [escapes_integerCell_iff]
    · rw [restored_doubles_of_not stand]
      exact iff_of_false (not_escapes_ok _) fun overflows => stand overflows.1
  | _ => exact iff_of_false (not_escapes_ok _) nofun

theorem failure_of_restored {column : FrameColumn} {failure : Failure}
    (failed : column.restored = .error failure) : failure.isReported = false := by
  cases column with
  | doubles cells =>
    by_cases stand : StandForIntegers cells
    · rw [restored_doubles_of stand, map_eq_error_iff] at failed
      obtain ⟨cell, -, broken⟩ := exists_of_mapM_eq_error failed
      exact failure_of_integerCell broken
    · rw [restored_doubles_of_not stand] at failed
      cases failed
  | _ => cases failed

/-- Restored columns hold data. -/
theorem holdsData_restored {column done : FrameColumn} (restored : column.restored = .ok done)
    (data : column.HoldsData) : done.HoldsData := by
  cases column with
  | doubles cells =>
    by_cases stand : StandForIntegers cells
    · rw [restored_doubles_of stand, map_eq_ok_iff] at restored
      obtain ⟨_, -, rfl⟩ := restored
      trivial
    · rw [restored_doubles_of_not stand] at restored
      cases restored
      trivial
  | _ =>
    cases restored
    exact data

theorem length_cells_restored {column done : FrameColumn} (restored : column.restored = .ok done) :
    done.cells.length = column.cells.length := by
  cases column with
  | doubles cells =>
    by_cases stand : StandForIntegers cells
    · rw [restored_doubles_of stand, map_eq_ok_iff] at restored
      obtain ⟨found, made, rfl⟩ := restored
      simpa [FrameColumn.cells] using (mapM_eq_ok_iff.1 made).length_eq.symm
    · rw [restored_doubles_of_not stand] at restored
      cases restored
      rfl
  | _ =>
    cases restored
    rfl

end FrameColumn

/-! ### Sets from columns -/

namespace ResultSet

variable {columns : List NamedColumn} {origin : Provenance}

/-- A frame with distinct names passes a failure exactly when one of its columns overflows. -/
theorem escapes_ofFrame_iff (distinct : (columns.map Prod.fst).Nodup) :
    Escapes (ofFrame columns origin) ↔ ∃ column ∈ columns, column.2.Overflows := by
  unfold ofFrame
  rw [if_neg (by simpa using distinct), escapes_bind_iff, escapes_mapM_iff]
  · simp [FrameColumn.escapes_restored_iff]
  · intro column _ failure failed
    obtain broken | ⟨_, _, impossible⟩ := bind_eq_error_iff.1 failed
    · exact FrameColumn.failure_of_restored broken
    · cases impossible

/-- A set made of columns of data holds data. -/
theorem holdsData_ofFrame (data : ∀ column ∈ columns, column.2.HoldsData) {set : ResultSet}
    (made : ofFrame columns origin = .ok set) : set.HoldsData := by
  unfold ofFrame at made
  split at made
  · cases made
  · obtain ⟨restored, done, same⟩ := bind_eq_ok_iff.1 made
    obtain rfl := Except.ok.inj same
    have all : ∀ column ∈ restored, ∀ cell ∈ column.2.cells, cell.IsData := by
      intro column inside
      obtain ⟨original, member, one⟩ := exists_of_mapM_eq_ok done inside
      obtain ⟨again, here, same⟩ := bind_eq_ok_iff.1 one
      obtain rfl := Except.ok.inj same
      exact FrameColumn.isData_cells (FrameColumn.holdsData_restored here (data original member))
    intro row there entry inside
    obtain ⟨place, -, rfl⟩ := List.mem_map.1 there
    obtain ⟨named, member, rfl⟩ := List.mem_map.1 inside
    obtain ⟨column, original, rfl⟩ := List.mem_map.1 member
    dsimp only
    cases here : column.2.cells[place]? with
    | none => exact Value.isData_of_no_parts rfl rfl
    | some cell => exact all column original cell (List.mem_of_getElem? here)

/-- The cells of a column, read from the rows. -/
theorem map_cell_rowsOfColumns {columns : List (String × List Value)}
    (distinct : (columns.map Prod.fst).Nodup)
    {name : String} {cells : List Value} (member : (name, cells) ∈ columns) :
    (rowsOfColumns columns cells.length).map (·.cell name) = cells := by
  have cell (place : Nat) :
      (columns.map fun entry => (entry.1, entry.2[place]?.getD Value.null)).lookup name =
        some (cells[place]?.getD .null) := by
    refine lookup_of_distinct ?_ (List.mem_map.2 ⟨_, member, rfl⟩)
    rw [List.map_map]
    exact distinct
  unfold rowsOfColumns
  rw [List.map_map]
  refine List.ext_getElem (by simp) fun place _ within => ?_
  rw [List.getElem_map, List.getElem_range]
  unfold Row.cell Row.cell? Function.comp
  dsimp only
  rw [cell, List.getElem?_eq_getElem within]
  rfl

/-- Columns of which none overflows make a set. -/
theorem exists_ofFrame (distinct : (columns.map Prod.fst).Nodup)
    (fit : ∀ column ∈ columns, ¬ column.2.Overflows) : ∃ set, ofFrame columns origin = .ok set := by
  cases made : ofFrame columns origin with
  | ok set => exact ⟨set, rfl⟩
  | error failure =>
    have unreported : failure.isReported = false := by
      unfold ofFrame at made
      rw [if_neg (by simpa using distinct)] at made
      obtain failed | ⟨_, -, impossible⟩ := bind_eq_error_iff.1 made
      · obtain ⟨column, -, broken⟩ := exists_of_mapM_eq_error failed
        obtain broken | ⟨_, -, impossible⟩ := bind_eq_error_iff.1 broken
        · exact FrameColumn.failure_of_restored broken
        · cases impossible
      · cases impossible
    obtain ⟨column, inside, overflows⟩ :=
      (escapes_ofFrame_iff distinct).1 ⟨failure, made, unreported⟩
    exact absurd overflows (fit column inside)

/-- **A column of a set** is the restored column, under its name. -/
theorem column_of_ofFrame {count : Nat} (even : ∀ entry ∈ columns, entry.2.cells.length = count)
    {set : ResultSet} (made : ofFrame columns origin = .ok set) {place : Nat} {name : String}
    {column : FrameColumn} (there : columns[place]? = some (name, column)) :
    ∃ done, column.restored = .ok done ∧ set.keys[place]? = some ⟨name, done.type, none⟩ ∧
      set.rows.map (·.cell name) = done.cells := by
  unfold ofFrame at made
  split_ifs at made with repeated
  obtain ⟨restored, all, same⟩ := bind_eq_ok_iff.1 made
  obtain rfl := Except.ok.inj same
  have related : List.Forall₂ (fun (entry made : NamedColumn) => made.1 = entry.1 ∧
    entry.2.restored = .ok made.2)
      columns restored := by
    refine (mapM_eq_ok_iff.1 all).imp fun entry made step => ?_
    obtain ⟨done, here, same⟩ := bind_eq_ok_iff.1 step
    obtain rfl := Except.ok.inj same
    exact ⟨rfl, here⟩
  have names : restored.map Prod.fst = columns.map Prod.fst := by
    rw [← List.forall₂_eq_eq_eq, List.forall₂_map_left_iff, List.forall₂_map_right_iff]
    exact related.flip.imp fun _ _ both => both.1
  obtain ⟨⟨_, done⟩, here, rfl, step⟩ := getElem?_of_forall₂ related there
  refine ⟨done, step, by simp [here], ?_⟩
  have member := List.mem_of_getElem? here
  have distinct : (restored.map Prod.fst).Nodup := by
    rw [names]
    simpa using repeated
  have rows : rowCount columns = done.cells.length := by
    rw [FrameColumn.length_cells_restored step, even _ (List.mem_of_getElem? there)]
    cases columns with
    | nil => cases there
    | cons first _ => exact even first List.mem_cons_self
  rw [rows]
  refine map_cell_rowsOfColumns ?_ (List.mem_map_of_mem member)
  rw [List.map_map]
  exact distinct

end ResultSet

/-! ### Sets from a text -/

namespace Csv

/-- A column that is inferred holds data. -/
theorem holdsData_inferInexact (cells : List (Option String)) : (inferInexact cells).HoldsData := by
  unfold inferInexact
  split
  · trivial
  · split
    · split
      · trivial
      · exact FrameColumn.isData_of_optional (fun _ => Value.isData_of_no_parts rfl rfl) _
    · trivial

/-- Whatever is made of texts is data. -/
theorem holdsData_infer (cells : List (Option String)) : (infer cells).HoldsData := by
  unfold infer
  split
  · split <;> trivial
  · unfold inferUnsigned
    split
    · trivial
    · exact holdsData_inferInexact cells
    · split <;> trivial
  · exact holdsData_inferInexact cells

theorem holdsData_truthsAsDoubles {column doubles : FrameColumn}
    (made : truthsAsDoubles? column = some doubles) : doubles.HoldsData := by
  unfold truthsAsDoubles? at made
  split at made
  · obtain rfl := Option.some.inj made
    trivial
  · obtain ⟨_, -, rfl⟩ := Option.map_eq_some_iff.1 made
    trivial
  · cases made

/-- A column of a declared kind holds data. -/
theorem holdsData_readAs {kind : CellKind} {cells : List (Option String)} {column : FrameColumn}
    (read : readAs kind cells = some column) : column.HoldsData := by
  cases kind with
  | text =>
    obtain rfl := Option.some.inj read
    trivial
  | whole =>
    obtain ⟨_, -, rfl⟩ := Option.map_eq_some_iff.1 read
    trivial
  | truth =>
    obtain ⟨_, -, rfl⟩ := Option.map_eq_some_iff.1 read
    trivial
  | double =>
    rw [readAs] at read
    split at read
    · obtain rfl := Option.some.inj read
      trivial
    · exact holdsData_truthsAsDoubles read

/-- The columns with declared kinds have the names of the columns, and hold data. -/
theorem declaredColumns?_spec {declared : Declared}
    {named : List (HeaderName × List (Option String))}
    {found : List NamedColumn} (made : declaredColumns? declared named = some found) :
    found.map Prod.fst = named.map (fun entry => entry.1.name) ∧ ∀ column ∈ found,
      column.2.HoldsData := by
  unfold declaredColumns? at made
  induction named generalizing found with
  | nil =>
    cases made
    exact ⟨rfl, nofun⟩
  | cons entry rest ih =>
    rw [List.mapM_cons] at made
    obtain ⟨first, here, made⟩ := Option.bind_eq_some_iff.1 made
    obtain ⟨others, later, made⟩ := Option.bind_eq_some_iff.1 made
    obtain rfl := Option.some.inj made
    obtain ⟨names, data⟩ := ih later
    have one : first.1 = entry.1.name ∧ first.2.HoldsData := by
      dsimp only at here
      split at here
      · obtain ⟨column, read, rfl⟩ := Option.map_eq_some_iff.1 here
        exact ⟨rfl, holdsData_readAs read⟩
      · obtain rfl := Option.some.inj here
        exact ⟨rfl, holdsData_infer _⟩
    exact ⟨by rw [List.map_cons, one.1, names]; rfl, List.forall_mem_cons.2 ⟨one.2, data⟩⟩

/-- The columns of a text have the names of its columns, and hold data. -/
theorem columns_spec (declared : Declared) (header : List String) (rows : List (List String)) :
    (columns declared header rows).map Prod.fst = (columnNames header).map HeaderName.name ∧
      ∀ column ∈ columns declared header rows, column.2.HoldsData := by
  unfold columns
  extract_lets labels named
  have names : named.map (fun entry => entry.1.name) =
    (columnNames header).map HeaderName.name := by
    have firsts : (columnNames header).map HeaderName.name =
        ((columnNames header).zipIdx.map Prod.fst).map HeaderName.name := by
      rw [List.zipIdx_map_fst]
    rw [firsts, List.map_map, List.map_map]
    rfl
  rw [← names]
  split
  · rw [List.map_map]
    exact ⟨rfl, List.forall_mem_map.2 fun _ _ => nofun⟩
  · cases all : declaredColumns? declared named with
    | some found => exact declaredColumns?_spec all
    | none =>
      rw [Option.getD_none, List.map_map]
      exact ⟨rfl, List.forall_mem_map.2 fun _ _ => holdsData_infer _⟩

/-- A text with a column that overflows. -/
def Overflows (declared : Declared) (text : String) : Prop :=
  ∃ header rows, align text = .ok (header, rows) ∧
    ∃ column ∈ columns declared header rows, column.2.Overflows

variable {declared : Declared} {origin : Provenance} {text : String}

/-- **Only a column that overflows is not reported.** -/
theorem escapes_resultSet_iff : Escapes (resultSet declared origin text) ↔
    Overflows declared text := by
  unfold resultSet Overflows
  rw [escapes_bind_iff, or_iff_right (not_escapes_align text), Prod.exists]
  refine exists₂_congr fun header rows => and_congr_right fun _ => ?_
  have distinct := (columns_spec declared header rows).1 ▸ columnNames_nodup header
  rw [← ResultSet.escapes_ofFrame_iff distinct, escapes_bind_iff]
  refine or_iff_left ?_
  rintro ⟨set, -, impossible⟩
  exact not_escapes_pure _ impossible

/-- **The set of a text holds data.** -/
theorem holdsData_resultSet {set : ResultSet} (made : resultSet declared origin text = .ok set) :
    set.HoldsData := by
  simp only [resultSet, bind_eq_ok_iff] at made
  obtain ⟨⟨header, rows⟩, -, set, framed, same⟩ := made
  obtain rfl := Except.ok.inj same
  have held : set.HoldsData :=
    ResultSet.holdsData_ofFrame (columns_spec declared header rows).2 framed
  exact held

end Csv

end QueryDesk
