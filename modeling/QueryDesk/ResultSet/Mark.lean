/-
**Marks on the cells of a row.**

* `Mark` — an addition, a deletion, an update or a violated rule, with values that explain it.
* `Marks` — the marks of a row by column: columns in the order they were first marked, each once,
  the marks of a column in the order they were pushed.
* `Marks.push`, `Marks.of`, `Marks.clear`, `Marks.any` — the operations on them.
* `Marks.of_push`, `Marks.of_clear_none`, `Marks.of_clear_some` — what a column holds afterwards;
  `Marks.any_iff` — there is a mark when some column holds one.
-/

import QueryDesk.Model.Reading

namespace QueryDesk

/-- What a mark says about its cell. -/
inductive MarkKind where
  | added
  | deleted
  | updated
  | violated
deriving DecidableEq, Repr

namespace MarkKind

/-- All kinds. -/
def all : List MarkKind := [.added, .deleted, .updated, .violated]

/-- The name of a kind. -/
def name : MarkKind → String
  | .added => "Add"
  | .deleted => "Del"
  | .updated => "Upd"
  | .violated => "Rul"

/-- The kind of a name. -/
def ofName? (word : String) : Option MarkKind := all.find? fun kind => kind.name == word

end MarkKind

/-- A mark on a cell: what it says, and the values that explain it. -/
structure Mark where
  kind : MarkKind
  values : Option (List (String × Value))
deriving Repr

namespace Mark

/-- A mark without values. -/
def plain (kind : MarkKind) : Mark := ⟨kind, none⟩

open Checked

/-- Reads a mark. -/
def reading : Reading Mark :=
  Reading.record fun fields =>
    mk <$> fields.required ["type"] (Reading.oneOf MarkKind.ofName? .notOfEnum) <*>
      fields.optional ["values"] (Reading.entries Reading.anything)

/-- The values of a mark as data. -/
def valuesToValue (mark : Mark) : Value := (mark.values.map Value.record).getD .null

/-- A mark as data. -/
def toValue (mark : Mark) : Value :=
  .record [("type", .text mark.kind.name), ("values", mark.valuesToValue)]

end Mark

/-- The entries with the marks of a column changed; a column that has none yet goes to the end. -/
def changeEntry (column : String) (change : List Mark → List Mark) :
    List (String × List Mark) → List (String × List Mark)
  | [] => [(column, change [])]
  | (name, found) :: rest =>
    if name = column then (name, change found) :: rest
    else (name, found) :: changeEntry column change rest

/-- Only the column whose marks are changed may be new. -/
theorem map_fst_changeEntry (column : String) (change : List Mark → List Mark) :
    ∀ entries : List (String × List Mark), (changeEntry column change entries).map Prod.fst =
      if column ∈ entries.map Prod.fst then entries.map Prod.fst
      else entries.map Prod.fst ++ [column]
  | [] => rfl
  | (name, found) :: rest => by
    by_cases here : name = column
    · simp [changeEntry, here]
    · have tail := map_fst_changeEntry column change rest
      have there : column ≠ name := fun same => here same.symm
      by_cases inside : column ∈ rest.map Prod.fst
      · rw [if_pos inside] at tail
        rw [changeEntry, if_neg here, List.map_cons, List.map_cons, tail,
          if_pos (List.mem_cons_of_mem name inside)]
      · rw [if_neg inside] at tail
        have outside : column ∉ name :: rest.map Prod.fst := fun member =>
          (List.mem_cons.1 member).elim there inside
        rw [changeEntry, if_neg here, List.map_cons, List.map_cons, tail, if_neg outside,
          List.cons_append]

/-- By induction on the columns: one of them changes, and the others stay. -/
theorem lookup_changeEntry (column other : String) (change : List Mark → List Mark) :
    ∀ entries : List (String × List Mark), (changeEntry column change entries).lookup other =
      if other = column then some (change ((entries.lookup column).getD []))
      else entries.lookup other
  | [] => by
    by_cases same : other = column
    · simp [changeEntry, same]
    · have differs : (other == column) = false := beq_eq_false_iff_ne.2 same
      simp [changeEntry, List.lookup_cons, same, differs]
  | (name, found) :: rest => by
    have tail := lookup_changeEntry column other change rest
    by_cases here : name = column
    · subst here
      by_cases same : other = name
      · simp [changeEntry, same]
      · have differs : (other == name) = false := beq_eq_false_iff_ne.2 same
        simp [changeEntry, List.lookup_cons, same, differs]
    · have there : (column == name) = false := beq_eq_false_iff_ne.2 fun equal => here equal.symm
      rw [changeEntry, if_neg here, List.lookup_cons, tail]
      by_cases same : other = column
      · subst same
        simp [List.lookup_cons, there]
      · simp [List.lookup_cons, same]

/-- The marks of a row by column, columns in the order they were first marked
and none listed twice. -/
structure Marks where
  entries : List (String × List Mark)
  distinct : (entries.map Prod.fst).Nodup
deriving Repr

namespace Marks

/-- No marks. -/
def empty : Marks := ⟨[], List.nodup_nil⟩

/-- The marks with those of one column changed. -/
def change (column : String) (how : List Mark → List Mark) (marks : Marks) : Marks where
  entries := changeEntry column how marks.entries
  distinct := by
    rw [map_fst_changeEntry]
    split
    · exact marks.distinct
    · rename_i outside
      refine List.nodup_append.2 ⟨marks.distinct, by simp, ?_⟩
      rintro name inside other (member : other ∈ [column]) rfl
      exact outside (List.mem_singleton.1 member ▸ inside)

/-- The marks with one more on a column. -/
def push (column : String) (mark : Mark) : Marks → Marks := change column (· ++ [mark])

/-- Marks from entries by column; the last of several entries of a column counts. -/
def ofEntries (entries : List (String × List Mark)) : Marks :=
  entries.foldl (fun marks (column, found) => marks.change column fun _ => found) empty

/-- Something made of every column and its marks. -/
def map {α : Type} (each : String × List Mark → α) (marks : Marks) : List α :=
  marks.entries.map each

/-- Whether a mark is of the wanted kind; every mark is when no kind is given. -/
def isWanted (kind : Option MarkKind) (mark : Mark) : Bool :=
  match kind with
  | none => true
  | some wanted => mark.kind == wanted

/-- The marks of a column, of one kind if one is given. -/
def of (marks : Marks) (column : String) (kind : Option MarkKind) : List Mark :=
  ((marks.entries.lookup column).getD []).filter (isWanted kind)

/-- The marks that are not of a kind. -/
def others (unwanted : MarkKind) (found : List Mark) : List Mark :=
  found.filter fun mark => mark.kind != unwanted

/-- The entries without the marks of a kind; columns that are left without marks are left out. -/
def withoutKind (unwanted : MarkKind) : List (String × List Mark) → List (String × List Mark)
  | [] => []
  | (column, found) :: rest =>
    if (others unwanted found).isEmpty then withoutKind unwanted rest
    else (column, others unwanted found) :: withoutKind unwanted rest

/-- By induction on the columns: none is new, and they stay in order. -/
theorem map_fst_withoutKind_sublist (unwanted : MarkKind) :
    ∀ entries : List (String × List Mark),
      ((withoutKind unwanted entries).map Prod.fst).Sublist (entries.map Prod.fst)
  | [] => List.Sublist.slnil
  | (column, found) :: rest => by
    have tail := map_fst_withoutKind_sublist unwanted rest
    rw [withoutKind]
    split
    · exact tail.cons column
    · exact tail.cons_cons column

/-- The marks without those of a kind, or without any. -/
def clear (kind : Option MarkKind) (marks : Marks) : Marks :=
  match kind with
  | none => empty
  | some unwanted =>
    ⟨withoutKind unwanted marks.entries,
      marks.distinct.sublist (map_fst_withoutKind_sublist unwanted marks.entries)⟩

@[simp] theorem of_empty (column : String) (kind : Option MarkKind) : empty.of column kind = [] :=
  rfl

/-- A mark is pushed behind the others of its column. -/
theorem of_push (marks : Marks) (column other : String) (mark : Mark) (kind : Option MarkKind) :
    (marks.push column mark).of other kind =
      marks.of other kind ++ if other = column then [mark].filter (isWanted kind) else [] := by
  unfold of push change
  rw [lookup_changeEntry]
  by_cases same : other = column
  · subst same
    simp
  · simp [same]

/-- By induction on the columns: each keeps its other marks. -/
theorem lookup_withoutKind (unwanted : MarkKind) (column : String) :
    ∀ entries : List (String × List Mark), (entries.map Prod.fst).Nodup →
      ((withoutKind unwanted entries).lookup column).getD [] =
        others unwanted ((entries.lookup column).getD [])
  | [], _ => rfl
  | (name, found) :: rest, distinct => by
    obtain ⟨once, distinctRest⟩ := List.nodup_cons.1 distinct
    have tail := lookup_withoutKind unwanted column rest distinctRest
    rw [withoutKind]
    by_cases here : column = name
    · subst here
      have absent : rest.lookup column = none :=
        List.lookup_eq_none_iff.2 fun entry inside => bne_iff_ne.2 fun equal =>
          once (List.mem_map.2 ⟨entry, inside, equal.symm⟩)
      rw [absent] at tail
      split
      · rename_i dropped
        rw [tail, List.lookup_cons_self, Option.getD_some, List.isEmpty_iff.1 dropped]
        rfl
      · rw [List.lookup_cons_self, List.lookup_cons_self, Option.getD_some, Option.getD_some]
    · have differs : (column == name) = false := beq_eq_false_iff_ne.2 here
      split
      · simpa [List.lookup_cons, differs] using tail
      · simpa [List.lookup_cons, differs] using tail

@[simp] theorem of_clear_none (marks : Marks) (column : String) (kind : Option MarkKind) :
    (marks.clear none).of column kind = [] := rfl

/-- Clearing a kind takes the marks of this kind out of every column and no others. -/
theorem of_clear_some (marks : Marks) (unwanted : MarkKind) (column : String)
    (kind : Option MarkKind) :
    (marks.clear (some unwanted)).of column kind = others unwanted (marks.of column kind) := by
  unfold of clear
  rw [lookup_withoutKind unwanted column marks.entries marks.distinct]
  simp only [others, List.filter_filter, Bool.and_comm]

/-- Whether there is a mark, of one kind if one is given. -/
def any (marks : Marks) (kind : Option MarkKind) : Bool :=
  marks.entries.any fun entry => !(marks.of entry.1 kind).isEmpty

/-- The marks of one kind on a column are those of the column that are of the kind. -/
theorem of_eq_filter (marks : Marks) (column : String) (kind : Option MarkKind) :
    marks.of column kind = (marks.of column none).filter (isWanted kind) := by
  unfold of
  rw [List.filter_filter]
  exact congrArg (List.filter · _) (funext fun mark => (Bool.and_true _).symm)

/-- There is a mark when some column holds one. -/
theorem any_iff (marks : Marks) (kind : Option MarkKind) :
    marks.any kind = true ↔ ∃ column, marks.of column kind ≠ [] := by
  unfold any
  rw [List.any_eq_true]
  constructor
  · rintro ⟨entry, _, some_mark⟩
    exact ⟨entry.1, fun none_there => by rw [none_there] at some_mark; cases some_mark⟩
  · rintro ⟨column, some_mark⟩
    cases found : marks.entries.lookup column with
    | none => exact absurd (by rw [of, found]; rfl) some_mark
    | some held =>
      obtain ⟨before, behind, layout, _⟩ := List.lookup_eq_some_iff.1 found
      refine ⟨(column, held), ?_, ?_⟩
      · rw [layout]
        exact List.mem_append_right before List.mem_cons_self
      · rw [Bool.not_eq_true', List.isEmpty_eq_false_iff]
        exact some_mark

/-- Marks as data. -/
def toValue (marks : Marks) : Value :=
  .record (marks.map fun (column, found) => (column, .list (found.map Mark.toValue)))

end Marks

end QueryDesk
