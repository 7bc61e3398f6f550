/-
**Statements whose placeholders line up with what they bind.**

A statement on the rows of a table is fixed text around the places of its values. The text
depends on the table and the columns alone, so both styles fill the same places, and they
fill them from left to right.

* `StatementPiece`, `written` — fixed text and places of values, and what they are with marks in the
  places, numbered from left to right; `written_append` — pieces behind one another go on counting.
* `fronts` — the fixed text in front of each place.
* `IsQuiet`, `count_sign_written` — where no fixed text has the sign of a placeholder, there
  are as many signs as places.
* `Target.insertPieces`, `Target.updatePieces`, `Target.deletePieces` — the
  pieces of the statements.
* `Target.IsBound`, `Target.converted_eq_ok_iff` — entries with the values they are bound as.
* `Target.placeholders_line_up` — **every statement is its pieces with the
  values in place**, in both styles.
-/

import QueryDesk.Proofs.Outcomes
import QueryDesk.Sql.Statement

namespace QueryDesk.Sql

/-! ### Pieces -/

/-- A piece of a statement: fixed text, or the place of a value. -/
inductive StatementPiece where
  | text (content : String)
  | place
deriving DecidableEq, Repr

/-- Pieces with marks in their places, numbered from left to right from the given number on. -/
def written (mark : Nat → String) : Nat → List StatementPiece → String
  | _, [] => ""
  | number, .text content :: rest => content ++ written mark number rest
  | number, .place :: rest => mark number ++ written mark (number + 1) rest

/-- The number of places. -/
def places (pieces : List StatementPiece) : Nat := pieces.count .place

/-- The fixed texts that stand directly in front of a place. -/
def fronts : List StatementPiece → List String
  | .text content :: .place :: rest => content :: fronts rest
  | _ :: rest => fronts rest
  | [] => []

@[simp] theorem places_text (content : String) (rest : List StatementPiece) :
    places (.text content :: rest) = places rest :=
  List.count_cons_of_ne (by simp)

@[simp] theorem places_place (rest : List StatementPiece) :
    places (.place :: rest) = places rest + 1 :=
  List.count_cons_self

theorem places_append (first second : List StatementPiece) :
    places (first ++ second) = places first + places second :=
  List.count_append

/-- **Pieces behind one another** go on counting. -/
theorem written_append (mark : Nat → String) (first second : List StatementPiece) : ∀ number,
    written mark number (first ++ second) =
      written mark number first ++ written mark (number + places first) second := by
  induction first with
  | nil => exact fun number => (String.empty_append).symm
  | cons piece rest ih =>
    intro number
    cases piece with
    | text content =>
      rw [List.cons_append, written, ih, written, String.append_assoc, places_text]
    | place =>
      rw [List.cons_append, written, ih, written, String.append_assoc, places_place, Nat.add_assoc,
        Nat.add_comm 1]

/-- A text that no place follows ends the fronts before it. -/
theorem fronts_append (first second : List StatementPiece) (opens : second.head? ≠ some .place) :
    fronts (first ++ second) = fronts first ++ fronts second := by
  fun_induction fronts first with
  | case1 content rest ih => rw [List.cons_append, List.cons_append, fronts, ih, List.cons_append]
  | case2 piece rest other ih =>
    rw [← ih, List.cons_append, fronts]
    rintro content more rfl parts
    cases rest with
    | nil => exact opens (by rw [show second = _ from parts]; rfl)
    | cons next rest =>
      obtain ⟨rfl, -⟩ := List.cons.inj parts
      exact other content rest rfl rfl
  | case3 => rfl

/-- **Items with one place each, joined**: the mark of an item has its number among them. -/
theorem written_joined {α : Type} (mark : Nat → String) (separator : String)
    {item : α → List StatementPiece}
    (single : ∀ entry, places (item entry) = 1) (entries : List α) : ∀ number,
    written mark number ([.text separator].intercalate (entries.map item)) =
      separator.intercalate
        (entries.mapIdx fun offset entry => written mark (number + offset) (item entry)) := by
  induction entries with
  | nil => exact fun _ => rfl
  | cons entry rest ih =>
    intro number
    cases rest with
    | nil =>
      rw [List.map_singleton, List.intercalate_singleton, List.mapIdx_cons, List.mapIdx_nil,
        String.intercalate_singleton, Nat.add_zero]
    | cons next rest =>
      -- the marks behind the first item begin one later
      have shifted : (next :: rest).mapIdx (fun offset entry =>
        written mark (number + 1 + offset) (item entry)) =
          (next :: rest).mapIdx fun offset entry =>
            written mark (number + (offset + 1)) (item entry) := by
        simp only [Nat.add_assoc, Nat.add_comm 1]
      rw [List.map_cons, List.map_cons, List.intercalate_cons_cons, ← List.map_cons,
        List.append_assoc, written_append, single, List.singleton_append, written, ih, shifted,
        List.mapIdx_cons (a := entry),
        String.intercalate_cons_of_ne_nil (by simp), Nat.add_zero, String.append_assoc]

/-- Pieces put together from entries with one place each have a place for each entry. -/
theorem places_joined {α : Type} (separator : String) {item : α → List StatementPiece}
    (single : ∀ entry, places (item entry) = 1) (entries : List α) :
    places ([.text separator].intercalate (entries.map item)) = entries.length := by
  induction entries with
  | nil => rfl
  | cons entry rest ih =>
    cases rest with
    | nil => rw [List.map_singleton, List.intercalate_singleton, single, List.length_singleton]
    | cons next rest =>
      rw [List.map_cons, List.map_cons, List.intercalate_cons_cons, ← List.map_cons,
        List.append_assoc, places_append, single, List.singleton_append, places_text, ih,
        Nat.add_comm]
      rfl

/-- A piece of items that are joined is the separator or a piece of an item. -/
theorem mem_joined {α β : Type} {separator : β} {item : α → List β} {entries : List α} {piece : β}
    (inside : piece ∈ [separator].intercalate (entries.map item)) :
    piece = separator ∨ ∃ entry ∈ entries, piece ∈ item entry := by
  induction entries with
  | nil => cases inside
  | cons entry rest ih =>
    cases rest with
    | nil =>
      rw [List.map_singleton, List.intercalate_singleton] at inside
      exact .inr ⟨entry, List.mem_cons_self, inside⟩
    | cons next rest =>
      rw [List.map_cons, List.map_cons, List.intercalate_cons_cons, ← List.map_cons,
        List.mem_append, List.mem_append, List.mem_singleton] at inside
      rcases inside with (here | between) | later
      · exact .inr ⟨entry, List.mem_cons_self, here⟩
      · exact .inl between
      · exact (ih later).imp_right fun ⟨other, member, found⟩ =>
          ⟨other, List.mem_cons_of_mem _ member, found⟩

/-! ### The signs of placeholders -/

/-- The sign that a placeholder begins with. -/
def PlaceholderStyle.sign : PlaceholderStyle → Char
  | .simple => '?'
  | .positioned => '$'

/-- A mark shows the sign of its style once. -/
theorem count_sign_mark (style : PlaceholderStyle) (number : Nat) :
    (style.mark number).toList.count style.sign = 1 := by
  cases style with
  | simple =>
    show "?".toList.count '?' = 1
    decide
  | positioned =>
    have digits : '$' ∉ Nat.toDigits 10 (number + 1) := fun inside =>
      absurd (Nat.isDigit_of_mem_toDigits (by decide) (Nat.le_refl 10) inside) (by decide)
    show ("$" ++ Nat.repr (number + 1)).toList.count '$' = 1
    rw [String.toList_append, List.count_append, Nat.toList_repr, List.count_eq_zero.2 digits]
    rfl

/-- No fixed text has the sign of a placeholder. -/
def IsQuiet (style : PlaceholderStyle) (pieces : List StatementPiece) : Prop :=
  ∀ content, .text content ∈ pieces → style.sign ∉ content.toList

section Quiet

variable {style : PlaceholderStyle}

theorem isQuiet_nil : IsQuiet style [] := nofun

theorem isQuiet_cons_text {content : String} {rest : List StatementPiece} :
    IsQuiet style (.text content :: rest) ↔ style.sign ∉ content.toList ∧ IsQuiet style rest := by
  simp [IsQuiet]

theorem isQuiet_cons_place {rest : List StatementPiece} :
    IsQuiet style (.place :: rest) ↔ IsQuiet style rest := by
  simp [IsQuiet]

theorem IsQuiet.append {first second : List StatementPiece} (before : IsQuiet style first)
    (behind : IsQuiet style second) : IsQuiet style (first ++ second) := fun content inside =>
  (List.mem_append.1 inside).elim (before content) (behind content)

/-- Quiet pieces joined by a quiet separator are quiet. -/
theorem isQuiet_joined {α : Type} {separator : String} (between : style.sign ∉ separator.toList)
    {item : α → List StatementPiece} {entries : List α}
    (each : ∀ entry ∈ entries, IsQuiet style (item entry)) :
    IsQuiet style ([.text separator].intercalate (entries.map item)) := by
  intro content inside
  obtain same | ⟨entry, member, inside⟩ := mem_joined inside
  · obtain rfl := StatementPiece.text.inj same
    exact between
  · exact each entry member content inside

/-- **As many signs as places**, where the fixed texts have none. -/
theorem count_sign_written {pieces : List StatementPiece} (quiet : IsQuiet style pieces) : ∀ number,
    (written style.mark number pieces).toList.count style.sign = places pieces := by
  induction pieces with
  | nil => exact fun _ => rfl
  | cons piece rest ih =>
    intro number
    cases piece with
    | text content =>
      obtain ⟨here, behind⟩ := isQuiet_cons_text.1 quiet
      rw [written, String.toList_append, List.count_append, ih behind, List.count_eq_zero.2 here,
        Nat.zero_add, places_text]
    | place =>
      rw [written, String.toList_append, List.count_append, ih (isQuiet_cons_place.1 quiet),
        count_sign_mark, Nat.add_comm, places_place]

end Quiet

namespace Target

/-! ### The pieces of a statement -/

/-- A column with the place of its value. -/
def columnPieces (target : Target) (column : String) : List StatementPiece :=
  [.text (quoteName target.quote column ++ " = "), .place]

/-- The pieces of an insert: the columns, then as many places. -/
def insertPieces (target : Target) (columns : List String) : List StatementPiece :=
  .text ("INSERT INTO " ++ target.table ++ " (" ++
    ",".intercalate (columns.map (quoteName target.quote)) ++
      ") VALUES (") ::
    ([.text ","].intercalate (columns.map fun _ => [.place]) ++ [.text ")"])

/-- The pieces of an update: columns that are changed, then columns of the rows it is about. -/
def updatePieces (target : Target) (changed wanted : List String) : List StatementPiece :=
  .text ("UPDATE " ++ target.table ++ " SET ") ::
    ([.text ","].intercalate (changed.map target.columnPieces) ++
      .text " WHERE " :: [.text " AND "].intercalate (wanted.map target.columnPieces))

/-- The pieces of a delete: columns of the rows it is about. -/
def deletePieces (target : Target) (wanted : List String) : List StatementPiece :=
  .text ("DELETE FROM " ++ target.table ++ " WHERE ") ::
    [.text " AND "].intercalate (wanted.map target.columnPieces)

variable (target : Target)

theorem places_columnPieces (column : String) : places (target.columnPieces column) = 1 := rfl

/-- An insertion has a place for each column. -/
theorem places_insertPieces (columns : List String) :
    places (target.insertPieces columns) = columns.length := by
  rw [insertPieces, places_text, places_append, places_joined "," (fun _ => rfl), places_text]
  rfl

/-- An update has a place for each column that is changed or asked for. -/
theorem places_updatePieces (changed wanted : List String) :
    places (target.updatePieces changed wanted) = (changed ++ wanted).length := by
  rw [updatePieces, places_text, places_append, places_text,
    places_joined _ target.places_columnPieces, places_joined _ target.places_columnPieces,
    List.length_append]

/-- A deletion has a place for each column that is asked for. -/
theorem places_deletePieces (wanted : List String) :
    places (target.deletePieces wanted) = wanted.length := by
  rw [deletePieces, places_text, places_joined _ target.places_columnPieces]

/-! ### What stands in front of a value -/

/-- Columns put together with a separator do not begin with a place. -/
theorem head?_joined (separator : String) (columns : List String) :
    ([.text separator].intercalate (columns.map target.columnPieces)).head? ≠ some .place := by
  rcases columns with - | ⟨column, - | ⟨next, rest⟩⟩ <;>
    simp [columnPieces, List.intercalate_cons_cons]

/-- A text in front of anything else than a place is not the front of one. -/
theorem fronts_text (content : String) {rest : List StatementPiece}
    (opens : rest.head? ≠ some .place) :
    fronts (.text content :: rest) = fronts rest := by
  rw [fronts]
  rintro _ more - parts
  exact opens (by rw [parts]; rfl)

/-- In front of the place of each column stands the column. -/
theorem fronts_joined (separator : String) (columns : List String) :
    fronts ([.text separator].intercalate (columns.map target.columnPieces)) =
      columns.map fun column => quoteName target.quote column ++ " = " := by
  induction columns with
  | nil => rfl
  | cons column rest ih =>
    cases rest with
    | nil =>
      rw [List.map_singleton, List.intercalate_singleton, columnPieces]
      rfl
    | cons next rest =>
      have behind := target.head?_joined separator (next :: rest)
      rw [List.map_cons, List.map_cons, List.intercalate_cons_cons, ← List.map_cons,
        List.append_assoc, fronts_append _ _ (by simp), List.singleton_append,
        fronts_text separator behind, ih, columnPieces]
      rfl

/-- Each place of an update stands behind its column. -/
theorem fronts_updatePieces (changed wanted : List String) :
    fronts (target.updatePieces changed wanted) =
      (changed ++ wanted).map fun column => quoteName target.quote column ++ " = " := by
  have opens : ([.text ","].intercalate (changed.map target.columnPieces) ++
      .text " WHERE " :: [.text " AND "].intercalate (wanted.map target.columnPieces)).head? ≠
        some .place := by
    have first := target.head?_joined "," changed
    rw [List.head?_append]
    cases head : ([.text ","].intercalate (changed.map target.columnPieces)).head? with
    | none => simp
    | some piece => simpa [head] using first
  rw [updatePieces, fronts_text _ opens, fronts_append _ _ (by simp), fronts_joined,
    fronts_text _ (target.head?_joined " AND " wanted), fronts_joined, List.map_append]

/-- Each place of a deletion stands behind its column. -/
theorem fronts_deletePieces (wanted : List String) :
    fronts (target.deletePieces wanted) = wanted.map fun column =>
      quoteName target.quote column ++ " = " := by
  rw [deletePieces, fronts_text _ (target.head?_joined " AND " wanted), fronts_joined]

/-! ### Pieces without signs -/

section Quiet

/-- The words that statements are made of. -/
def fixedWords : List String :=
  ["INSERT INTO ", " (", ",", ") VALUES (", ")", "UPDATE ", " SET ", " = ", " WHERE ", " AND ",
    "DELETE FROM ", "`"]

/-- No fixed word of a statement shows the sign of a style. -/
theorem sign_not_mem_fixedWords (style : PlaceholderStyle) :
    ∀ word ∈ fixedWords, style.sign ∉ word.toList := by
  cases style <;> decide

theorem not_mem_append {c : Char} {first second : String} (before : c ∉ first.toList)
    (behind : c ∉ second.toList) :
    c ∉ (first ++ second).toList := by
  rw [String.toList_append, List.mem_append]
  exact not_or.2 ⟨before, behind⟩

variable {target} {style : PlaceholderStyle}

theorem sign_not_mem_quoteName (quote : Bool) {name : String} (quiet : style.sign ∉ name.toList) :
    style.sign ∉ (quoteName quote name).toList := by
  have tick := sign_not_mem_fixedWords style "`" (by decide)
  cases quote with
  | false => exact quiet
  | true => exact not_mem_append (not_mem_append tick quiet) tick

/-- Columns with their places, joined by a fixed word. -/
theorem quiet_columns {separator : String} (fixed : separator ∈ fixedWords) {columns : List String}
    (quiet : ∀ column ∈ columns, style.sign ∉ column.toList) :
    IsQuiet style ([.text separator].intercalate (columns.map target.columnPieces)) := by
  have words := sign_not_mem_fixedWords style
  refine isQuiet_joined (words separator fixed) fun column member => ?_
  have front := not_mem_append (sign_not_mem_quoteName target.quote (quiet column member))
    (words " = " (by decide))
  exact isQuiet_cons_text.2 ⟨front, isQuiet_cons_place.2 isQuiet_nil⟩

variable (table : style.sign ∉ target.table.toList)

include table

theorem quiet_insertPieces {columns : List String}
    (quiet : ∀ column ∈ columns, style.sign ∉ column.toList) :
    IsQuiet style (target.insertPieces columns) := by
  have words := sign_not_mem_fixedWords style
  have listed : style.sign ∉ (",".intercalate (columns.map (quoteName target.quote))).toList := by
    rw [String.toList_intercalate, List.map_map]
    intro inside
    obtain comma | ⟨column, member, inside⟩ := mem_joined inside
    · exact words "," (by decide) (by rw [comma]; decide)
    · exact sign_not_mem_quoteName _ (quiet column member) inside
  have front := not_mem_append
    (not_mem_append (not_mem_append (not_mem_append (words "INSERT INTO " (by decide))
    table) (words " (" (by decide))) listed) (words ") VALUES (" (by decide))
  have marks : IsQuiet style ([.text ","].intercalate (columns.map fun _ => [.place])) :=
    isQuiet_joined (words "," (by decide)) fun _ _ => isQuiet_cons_place.2 isQuiet_nil
  exact isQuiet_cons_text.2
    ⟨front, marks.append (isQuiet_cons_text.2 ⟨words ")" (by decide), isQuiet_nil⟩)⟩

theorem quiet_updatePieces {changed wanted : List String}
    (quiet : ∀ column ∈ changed ++ wanted, style.sign ∉ column.toList) :
    IsQuiet style (target.updatePieces changed wanted) := by
  have words := sign_not_mem_fixedWords style
  obtain ⟨first, second⟩ := List.forall_mem_append.1 quiet
  have front := not_mem_append (not_mem_append (words "UPDATE " (by decide)) table)
    (words " SET " (by decide))
  refine isQuiet_cons_text.2 ⟨front, (quiet_columns (by decide) first).append ?_⟩
  exact isQuiet_cons_text.2 ⟨words " WHERE " (by decide), quiet_columns (by decide) second⟩

theorem quiet_deletePieces {wanted : List String}
    (quiet : ∀ column ∈ wanted, style.sign ∉ column.toList) :
    IsQuiet style (target.deletePieces wanted) := by
  have words := sign_not_mem_fixedWords style
  have front := not_mem_append (not_mem_append (words "DELETE FROM " (by decide)) table)
    (words " WHERE " (by decide))
  exact isQuiet_cons_text.2 ⟨front, quiet_columns (by decide) quiet⟩

end Quiet

/-! ### Entries and what they are bound as -/

/-- Entries with the values they are bound as, in the same order. -/
def IsBound (target : Target) (entries bound : List (String × Value)) : Prop :=
  List.Forall₂ (fun entry made => made.1 = entry.1 ∧
    (target.typeOf entry.1).bindValue entry.2 = .ok made.2) entries bound

/-- The entries that are not bound as nothing. -/
def present (bound : List (String × Value)) : List (String × Value) :=
  bound.filter fun entry => !entry.2.isNull

/-- By induction on the entries: all of them are converted exactly when each is bound. -/
theorem converted_eq_ok_iff {entries : List (String × Value)} : ∀ {bound : List (String × Value)},
    target.converted entries = .ok bound ↔ target.IsBound entries bound := by
  unfold IsBound
  induction entries with
  | nil =>
    intro bound
    rw [List.forall₂_nil_left_iff]
    refine ⟨fun same => (Except.ok.inj same).symm, ?_⟩
    rintro rfl
    rfl
  | cons entry rest ih =>
    intro bound
    obtain ⟨column, value⟩ := entry
    simp only [converted, bind_eq_ok_iff, mapError_eq_ok_iff, ih, List.forall₂_cons_left_iff]
    constructor
    · rintro ⟨made, here, others, later, same⟩
      exact ⟨(column, made), others, ⟨rfl, here⟩, later, (Except.ok.inj same).symm⟩
    · rintro ⟨⟨_, made⟩, others, ⟨rfl, here⟩, later, rfl⟩
      exact ⟨made, here, others, later, rfl⟩

/-- What is bound stands under the same columns. -/
theorem IsBound.columns {target : Target} {entries bound : List (String × Value)}
    (made : target.IsBound entries bound) : bound.map Prod.fst = entries.map Prod.fst := by
  induction made with
  | nil => rfl
  | cons here _ ih => rw [List.map_cons, List.map_cons, here.1, ih]

/-- Entries are bound when the value of each is. -/
theorem exists_isBound {entries : List (String × Value)}
    (convertible : ∀ entry ∈ entries, ∃ bound,
      (target.typeOf entry.1).bindValue entry.2 = .ok bound) :
    ∃ bound, target.IsBound entries bound := by
  induction entries with
  | nil => exact ⟨[], .nil⟩
  | cons entry rest ih =>
    obtain ⟨⟨made, here⟩, others⟩ := List.forall_mem_cons.1 convertible
    obtain ⟨bound, later⟩ := ih others
    exact ⟨(entry.1, made) :: bound, .cons ⟨rfl, here⟩ later⟩

/-! ### Statements and their pieces -/

/-- The marks of a style, one for each column. -/
theorem marksFrom_eq {α : Type} (place : Nat) (columns : List α) :
    target.marksFrom place columns.length =
      columns.mapIdx fun offset _ => written target.style.mark (place + offset) [.place] := by
  refine List.ext_getElem? fun offset => ?_
  rw [marksFrom, List.getElem?_map, List.getElem?_mapIdx]
  by_cases inside : offset < columns.length
  · rw [List.getElem?_range inside, List.getElem?_eq_getElem inside]
    exact congrArg some String.append_empty.symm
  · rw [List.getElem?_eq_none (by simpa using inside),
      List.getElem?_eq_none (by simpa using inside)]
    rfl

/-- Assignments are the pieces of the columns, with marks numbered from a place on. -/
theorem assignments_eq (place : Nat) (entries : List (String × Value)) :
    target.assignments place entries = (entries.map Prod.fst).mapIdx fun offset column =>
      written target.style.mark (place + offset) (target.columnPieces column) := by
  refine List.ext_getElem? fun offset => ?_
  rw [assignments, ← List.length_map (f := Prod.fst), marksFrom_eq, List.getElem?_zipWith,
    List.getElem?_mapIdx, List.getElem?_mapIdx]
  cases (entries.map Prod.fst)[offset]? <;> rfl

variable {target} {values conditions changed wanted : List (String × Value)}

/-- The mark of a style in each place, numbered from one place on. -/
theorem written_places (number : Nat) {α : Type} (columns : List α) :
    written target.style.mark number ([.text ","].intercalate (columns.map fun _ => [.place])) =
      ",".intercalate (target.marksFrom number columns.length) := by
  rw [marksFrom_eq, written_joined target.style.mark "," (fun _ => rfl)]

/-- Pieces of columns with a separator between them are written as the joined assignments. -/
theorem written_columns (number : Nat) (separator : String) (entries : List (String × Value)) :
    written target.style.mark number
        ([.text separator].intercalate ((entries.map Prod.fst).map target.columnPieces)) =
      separator.intercalate (target.assignments number entries) := by
  rw [assignments_eq, written_joined target.style.mark separator target.places_columnPieces]

/-- An insert of the entries that are not bound as nothing. -/
theorem insert_eq (bound : target.IsBound values changed) :
    target.insert values =
      .ok ⟨written target.style.mark 0 (target.insertPieces ((present changed).map Prod.fst)),
        (present changed).map Prod.snd⟩ := by
  have marks := target.written_places 0 ((present changed).map Prod.fst)
  rw [insert, target.converted_eq_ok_iff.2 bound, insertPieces, written, written_append, marks,
    List.length_map, List.map_map]
  show Except.ok _ = _
  simp only [written, String.append_empty, String.append_assoc]
  rfl

/-- An update counts on behind the columns that are changed. -/
theorem update_eq (bound : target.IsBound values changed)
    (asked : target.IsBound conditions wanted) :
    target.update values conditions =
      .ok ⟨written target.style.mark 0
        (target.updatePieces (values.map Prod.fst) (conditions.map Prod.fst)),
        (changed ++ wanted).map Prod.snd⟩ := by
  have counted := places_joined "," target.places_columnPieces (changed.map Prod.fst)
  rw [List.length_map] at counted
  rw [update, target.converted_eq_ok_iff.2 bound, target.converted_eq_ok_iff.2 asked,
    ← bound.columns, ← asked.columns, updatePieces, written, written_append, written_columns,
    counted, written, written_columns,
    Nat.zero_add]
  show Except.ok _ = _
  simp only [String.append_assoc]

theorem delete_eq (asked : target.IsBound conditions wanted) :
    target.delete conditions =
      .ok ⟨written target.style.mark 0 (target.deletePieces (conditions.map Prod.fst)),
        wanted.map Prod.snd⟩ := by
  rw [delete, target.converted_eq_ok_iff.2 asked, ← asked.columns, deletePieces, written,
    written_columns]
  show Except.ok _ = _
  simp only [String.append_assoc]

/-! ### Both styles -/

/-- The target with placeholders in another style. -/
def inStyle (target : Target) (style : PlaceholderStyle) : Target := { target with style := style }

/-- A statement lines up with entries: it has a place for each of them and binds their
values in this order. In either style it is the same pieces, the places being filled with
the style's placeholders from left to right. As many placeholders are seen in it, if none of
its names has their sign. -/
structure LinesUp (target : Target) (build : Target → Except Failure BoundQuery)
    (pieces : List StatementPiece) (entries : List (String × Value)) : Prop where
  builds : ∀ style : PlaceholderStyle,
    build (target.inStyle style) = .ok ⟨written style.mark 0 pieces, entries.map Prod.snd⟩
  counts : places pieces = entries.length
  shows : ∀ style : PlaceholderStyle,
    (∀ name ∈ target.table :: entries.map Prod.fst, style.sign ∉ name.toList) →
      (written style.mark 0 pieces).toList.count style.sign = entries.length

/-- A statement that lines up with entries and has the place of each behind its column. -/
structure LinesUpBehindColumns (target : Target) (build : Target → Except Failure BoundQuery)
    (pieces : List StatementPiece) (entries : List (String × Value)) : Prop
    extends LinesUp target build pieces entries where
  behind : fronts pieces = entries.map fun entry => quoteName target.quote entry.1 ++ " = "

theorem linesUp_insert (bound : target.IsBound values changed) :
    target.LinesUp (·.insert values) (target.insertPieces ((present changed).map Prod.fst))
      (present changed) where
  builds style := @insert_eq (target.inStyle style) _ _ bound
  counts := by rw [places_insertPieces, List.length_map]
  shows style quiet := by
    obtain ⟨table, columns⟩ := List.forall_mem_cons.1 quiet
    rw [count_sign_written (quiet_insertPieces table columns), places_insertPieces,
      List.length_map]

theorem linesUp_update (bound : target.IsBound values changed)
    (asked : target.IsBound conditions wanted) :
    target.LinesUpBehindColumns (·.update values conditions)
      (target.updatePieces (values.map Prod.fst) (conditions.map Prod.fst))
        (changed ++ wanted) where
  builds style := @update_eq (target.inStyle style) _ _ _ _ bound asked
  counts := by
    rw [places_updatePieces, ← bound.columns, ← asked.columns, ← List.map_append, List.length_map]
  shows style quiet := by
    obtain ⟨table, columns⟩ := List.forall_mem_cons.1 quiet
    rw [← bound.columns, ← asked.columns]
    rw [List.map_append] at columns
    rw [count_sign_written (quiet_updatePieces table columns), places_updatePieces,
      ← List.map_append, List.length_map]
  behind := by
    rw [fronts_updatePieces, ← bound.columns, ← asked.columns, ← List.map_append, List.map_map]
    rfl

theorem linesUp_delete (asked : target.IsBound conditions wanted) :
    target.LinesUpBehindColumns (·.delete conditions)
      (target.deletePieces (conditions.map Prod.fst)) wanted where
  builds style := @delete_eq (target.inStyle style) _ _ asked
  counts := by rw [places_deletePieces, ← asked.columns, List.length_map]
  shows style quiet := by
    obtain ⟨table, columns⟩ := List.forall_mem_cons.1 quiet
    rw [← asked.columns, count_sign_written (quiet_deletePieces table columns),
      places_deletePieces, List.length_map]
  behind := by
    rw [fronts_deletePieces, ← asked.columns, List.map_map]
    rfl

/-- **The placeholders of every statement line up with what it binds**, whenever each value can be
bound. An insert has a place for each entry that is not bound as nothing, behind the list of their
columns. An update has one for each value and then for each condition, a delete for each condition,
those bound as nothing among them, and each place stands behind the column of its entry. -/
theorem placeholders_line_up (target : Target) {values conditions : List (String × Value)}
    (convertible : ∀ entry ∈ values ++ conditions,
      ∃ bound, (target.typeOf entry.1).bindValue entry.2 = .ok bound) :
    ∃ changed wanted, target.IsBound values changed ∧ target.IsBound conditions wanted ∧
      target.LinesUp (·.insert values) (target.insertPieces ((present changed).map Prod.fst))
        (present changed) ∧
      target.LinesUpBehindColumns (·.update values conditions)
        (target.updatePieces (values.map Prod.fst) (conditions.map Prod.fst)) (changed ++ wanted) ∧
      target.LinesUpBehindColumns (·.delete conditions)
        (target.deletePieces (conditions.map Prod.fst)) wanted := by
  obtain ⟨first, second⟩ := List.forall_mem_append.1 convertible
  obtain ⟨changed, bound⟩ := target.exists_isBound first
  obtain ⟨wanted, asked⟩ := target.exists_isBound second
  exact ⟨changed, wanted, bound, asked, linesUp_insert bound, linesUp_update bound asked,
    linesUp_delete asked⟩

/-- A text that is no number is left out of the insert and bound as nothing by the update, whose
numbering goes on behind it. -/
theorem placeholders_line_up_of_left_out :
    let target : Target := ⟨"items", [("id", .integer), ("price", .numeric)], .positioned, true⟩
    let values : List (String × Value) :=
      [("id", .text "7"), ("price", .text "?"), ("name", .text "a")]
    let conditions : List (String × Value) := [("id", .null), ("note", .int 2)]
    (∀ entry ∈ values ++ conditions, ∃ bound,
      (target.typeOf entry.1).bindValue entry.2 = .ok bound) ∧
    (∃ changed wanted, target.IsBound values changed ∧ target.IsBound conditions wanted ∧
      target.LinesUp (·.insert values) (target.insertPieces ((present changed).map Prod.fst))
        (present changed) ∧
      target.LinesUpBehindColumns (·.update values conditions)
        (target.updatePieces (values.map Prod.fst) (conditions.map Prod.fst)) (changed ++ wanted) ∧
      target.LinesUpBehindColumns (·.delete conditions)
        (target.deletePieces (conditions.map Prod.fst)) wanted) ∧
    target.insert values = .ok ⟨"INSERT INTO items (`id`,`name`) VALUES ($1,$2)",
      [.int 7, .text "a"]⟩ ∧
    target.update values conditions =
      .ok ⟨"UPDATE items SET `id` = $1,`price` = $2,`name` = $3 WHERE `id` = $4 AND `note` = $5",
        [.int 7, .null, .text "a", .null, .int 2]⟩ := by
  intro target values conditions
  have convertible : ∀ entry ∈ values ++ conditions,
      ∃ bound, (target.typeOf entry.1).bindValue entry.2 = .ok bound := by
    refine List.forall_mem_cons.2 ⟨⟨_, rfl⟩,
      List.forall_mem_cons.2 ⟨⟨_, rfl⟩, List.forall_mem_cons.2 ⟨⟨_, rfl⟩,
      List.forall_mem_cons.2 ⟨⟨_, rfl⟩, List.forall_mem_cons.2 ⟨⟨_, rfl⟩, List.forall_mem_nil _⟩⟩⟩⟩⟩
  exact ⟨convertible, target.placeholders_line_up convertible, rfl, rfl⟩

end Target

end QueryDesk.Sql
