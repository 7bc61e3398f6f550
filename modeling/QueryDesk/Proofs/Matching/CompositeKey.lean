/-
**When keys of several columns tell rows apart.**

Such a key puts the texts of its columns behind one another with a separator between them,
which overlaps with itself. Texts without the separator can still be cut in another place:
`|:` at the end of one text, in front of the separator, reads like a separator in front of
`:|`, at the start of the next.

* `Row.LacksSeparator` — the separator does not occur in the texts of some columns.
* `RowKey.Slides` — the texts of one row become those of another when the end `|:` of a text is
  moved over the separator behind it.
* `RowKey.intercalate_eq_iff` — texts without the separator have the same key
  when they are the same or slide.
* `matchedByTexts` — what a comparison by such a key makes of rows without the separator.
* `CompareKey.ofRow_composite_eq_iff` — **when rows have the same key**, and where a comparison
  matches rows that differ in a column of the key; `CompareKey.composite_joins_different_rows`
  — two rows that it confuses.
-/

import QueryDesk.Proofs.Comparison.EditScript
import QueryDesk.Proofs.Comparison.Symmetry

namespace QueryDesk

namespace RowKey

/-- The separator does not occur in a text. -/
def IsFree (text : String) : Prop := ¬ keySeparator.toList <:+: text.toList

instance (text : String) : Decidable (IsFree text) := inferInstanceAs (Decidable (¬ _))

/-- The texts of one row slide into those of another: in the first place where they differ one ends
with `|:`, which the other lacks, and what is left of the other's key has `:|` in front instead. -/
inductive Slides : List String → List String → Prop
  | here {text first second : String} {rest others : List String}
      (moved : keySeparator.intercalate (second :: others) =
        ":|" ++ keySeparator.intercalate (first :: rest)) :
      Slides ((text ++ "|:") :: first :: rest) (text :: second :: others)
  | later {text : String} {rest others : List String} (deeper : Slides rest others) :
      Slides (text :: rest) (text :: others)

/-! ### One seam -/

theorem toList_intercalate_cons (text : String) {rest : List String} (more : rest ≠ []) :
    (keySeparator.intercalate (text :: rest)).toList =
      text.toList ++ keySeparator.toList ++ (keySeparator.intercalate rest).toList := by
  obtain ⟨next, others, rfl⟩ := List.exists_cons_of_ne_nil more
  rw [String.toList_intercalate, String.toList_intercalate, List.map_cons, List.map_cons,
    List.intercalate_cons_cons]

/-- **The separator overlaps with itself** in two ways only: not at all, or by
its last character. -/
theorem overlap {moved left right : List Char} (free : ¬ keySeparator.toList <:+: moved)
    (same : keySeparator.toList ++ left = moved ++ (keySeparator.toList ++ right)) :
    moved = [] ∧ left = right ∨ moved = ['|', ':'] ∧ left = ':' :: '|' :: right := by
  have spelled : keySeparator.toList = ['|', ':', '|'] := by decide
  rw [spelled] at same free
  match moved, free, same with
  | [], _, same => exact .inl ⟨rfl, List.append_cancel_left same⟩
  | [first], _, same => simp at same
  | [first, second], _, same =>
    simp only [List.cons_append, List.nil_append, List.cons.injEq] at same
    obtain ⟨rfl, rfl, -, rfl⟩ := same
    exact .inr ⟨rfl, rfl⟩
  | first :: second :: third :: rest, free, same =>
    simp only [List.cons_append, List.nil_append, List.cons.injEq] at same
    obtain ⟨rfl, rfl, rfl, -⟩ := same
    exact absurd ⟨[], rest, rfl⟩ free

/-- Two texts in front of a separator: they are the same, or one is the other
with `|:` behind it. -/
theorem seam {text other : String} {left right : List Char} (free : IsFree text)
    (freeOther : IsFree other) (same : text.toList ++ keySeparator.toList ++ left =
      other.toList ++ keySeparator.toList ++ right) :
    text = other ∧ left = right ∨
      text = other ++ "|:" ∧ right = ':' :: '|' :: left ∨
      other = text ++ "|:" ∧ left = ':' :: '|' :: right := by
  rw [List.append_assoc, List.append_assoc] at same
  -- what one text has behind the other is free of the separator too
  rcases List.append_eq_append_iff.1 same with ⟨moved, longer, rest⟩ | ⟨moved, longer, rest⟩
  · have freeMoved : ¬ keySeparator.toList <:+: moved := fun inside =>
      freeOther (longer ▸ inside.trans (List.suffix_append _ _).isInfix)
    rcases overlap freeMoved rest with ⟨rfl, rfl⟩ | ⟨rfl, rfl⟩
    · exact .inl ⟨String.toList_injective (by rw [longer, List.append_nil]), rfl⟩
    · exact .inr (.inr ⟨String.toList_injective (by rw [longer, String.toList_append]; rfl), rfl⟩)
  · have freeMoved : ¬ keySeparator.toList <:+: moved := fun inside =>
      free (longer ▸ inside.trans (List.suffix_append _ _).isInfix)
    rcases overlap freeMoved rest with ⟨rfl, rfl⟩ | ⟨rfl, rfl⟩
    · exact .inl ⟨String.toList_injective (by rw [longer, List.append_nil]), rfl⟩
    · exact .inr (.inl ⟨String.toList_injective (by rw [longer, String.toList_append]; rfl), rfl⟩)

/-! ### All seams -/

theorem Slides.ne_nil {texts others : List String} (slides : Slides texts others) :
    texts ≠ [] ∧ others ≠ [] := by
  cases slides <;> exact ⟨List.cons_ne_nil _ _, List.cons_ne_nil _ _⟩

/-- Texts that slide differ somewhere. -/
theorem Slides.ne {texts others : List String} (slides : Slides texts others) : texts ≠ others := by
  induction slides with
  | @here text first second rest others moved =>
    intro same
    have lengths := congrArg String.length (List.cons.inj same).1
    rw [String.length_append] at lengths
    have some_characters : ("|:" : String).length = 2 := by decide
    omega
  | later _ ih => exact fun same => ih (List.cons.inj same).2

/-- Texts that slide into one another look the same once they are joined. -/
theorem Slides.intercalate_eq {texts others : List String} (slides : Slides texts others) :
    keySeparator.intercalate texts = keySeparator.intercalate others := by
  apply String.toList_injective
  induction slides with
  | here moved =>
    rw [toList_intercalate_cons _ (List.cons_ne_nil _ _),
      toList_intercalate_cons _ (List.cons_ne_nil _ _), moved, String.toList_append,
      String.toList_append]
    simp [keySeparator]
  | later deeper ih =>
    rw [toList_intercalate_cons _ deeper.ne_nil.1, toList_intercalate_cons _ deeper.ne_nil.2, ih]

/-- **Texts without the separator have the same key** when they are the same, or when one
row's slide into the other's. The induction is on the columns: the first seam is the same for
both or moved by two characters. -/
theorem intercalate_eq_iff : ∀ {texts others : List String}, texts.length = others.length →
    (∀ text ∈ texts, IsFree text) → (∀ text ∈ others, IsFree text) →
      (keySeparator.intercalate texts = keySeparator.intercalate others ↔
        texts = others ∨ Slides texts others ∨ Slides others texts)
  | [], [], _, _, _ => by simp
  | [text], [other], _, _, _ => by
    rw [String.intercalate_singleton, String.intercalate_singleton]
    constructor
    · exact fun same => .inl (congrArg (fun only => [only]) same)
    · rintro (same | slides | slides)
      · exact (List.cons.inj same).1
      · cases slides with
        | later deeper => exact absurd rfl deeper.ne_nil.1
      · cases slides with
        | later deeper => exact absurd rfl deeper.ne_nil.1
  | text :: first :: rest, other :: second :: others, lengths, free, freeOthers => by
    obtain ⟨here, later⟩ := List.forall_mem_cons.1 free
    obtain ⟨hereOther, laterOthers⟩ := List.forall_mem_cons.1 freeOthers
    constructor
    · intro same
      have parts := congrArg String.toList same
      rw [toList_intercalate_cons _ (List.cons_ne_nil _ _),
        toList_intercalate_cons _ (List.cons_ne_nil _ _)] at parts
      rcases seam here hereOther parts with ⟨rfl, behind⟩ | ⟨rfl, behind⟩ | ⟨rfl, behind⟩
      · -- the first seam is the same, so the others are
        rcases (intercalate_eq_iff (Nat.succ.inj lengths) later laterOthers).1
          (String.toList_injective behind) with equal | slides | slides
        · exact .inl (congrArg (text :: ·) equal)
        · exact .inr (.inl (.later slides))
        · exact .inr (.inr (.later slides))
      · exact .inr
          (.inl (.here (String.toList_injective (by rw [behind, String.toList_append]; rfl))))
      · exact .inr
          (.inr (.here (String.toList_injective (by rw [behind, String.toList_append]; rfl))))
    · rintro (same | slides | slides)
      · rw [same]
      · exact slides.intercalate_eq
      · exact slides.intercalate_eq.symm

/-- Texts none of which ends with `|:`, the last one apart, do not slide. -/
theorem not_slides_of_ends {texts others : List String}
    (ends : ∀ text ∈ texts.dropLast, ¬ "|:".toList <:+ text.toList) : ¬ Slides texts others := by
  intro slides
  induction slides with
  | @here text first second rest others moved =>
    refine ends (text ++ "|:") ?_ ⟨text.toList, (String.toList_append).symm⟩
    rw [List.dropLast_cons_cons]
    exact List.mem_cons_self
  | later deeper ih =>
    refine ih fun text member => ends text ?_
    rw [List.dropLast_cons_of_ne_nil deeper.ne_nil.1]
    exact List.mem_cons_of_mem _ member

/-- Texts that a key of several columns takes for the same: they are, or they slide. -/
def Meets (texts others : List String) : Prop :=
  texts = others ∨ Slides texts others ∨ Slides others texts

end RowKey

/-! ### Rows -/

/-- The cells of a row under some columns have texts, and the separator does not occur in them. -/
def Row.LacksSeparator (names : List String) (row : Row) : Prop :=
  row.HasTexts names ∧ ∀ text ∈ row.texts names, RowKey.IsFree text

instance (names : List String) (row : Row) : Decidable (row.LacksSeparator names) :=
  inferInstanceAs (Decidable (row.HasTexts names ∧ ∀ text ∈ row.texts names, RowKey.IsFree text))

/-- A key of several columns is made of their texts, where these exist. -/
theorem RowKey.ofRow_composite {names : List String} {row : Row} (texts : row.HasTexts names)
    (origin : KeyOrigin) :
    ofRow (.composite origin names) row =
      composite (keySeparator.intercalate (row.texts names)) := by
  show ofMade _ (cellTexts row names) = _
  rw [cellTexts_of_hasTexts texts]
  rfl

/-- Rows without the separator agree exactly when their texts meet. -/
theorem CompareKey.agree_iff_meets {origin : KeyOrigin} {names : List String} {row other : Row}
    (free : row.LacksSeparator names) (freeOther : other.LacksSeparator names) :
    (CompareKey.composite origin names).agree row other = true ↔
      RowKey.Meets (row.texts names) (other.texts names) := by
  have lengths : (row.texts names).length = (other.texts names).length := by
    rw [Row.texts, Row.texts, List.length_map, List.length_map]
  rw [RowKey.Meets, ← RowKey.intercalate_eq_iff lengths free.2 freeOther.2, agree,
    RowKey.ofRow_composite free.1, RowKey.ofRow_composite freeOther.1]
  exact beq_iff_eq

/-! ### Kinds of marks -/

theorem Marks.of_ne_nil_iff (marks : Marks) (column : String) (kind : MarkKind) :
    marks.of column (some kind) ≠ [] ↔ ∃ mark ∈ marks.of column none, mark.kind = kind := by
  rw [Marks.of_eq_filter, ne_eq, List.filter_eq_nil_iff]
  simp [Marks.isWanted]

section Kinds

variable (key : CompareKey) (columns : List String) (row : Row) (column : String)

/-- An old row carries a deletion exactly when no new row agrees with it. -/
theorem oldMarks_deleted_on_iff (new : List Row) :
    (∃ mark ∈ oldMarks key columns new row column, mark.kind = .deleted) ↔
      column ∈ columns ∧ ∀ other ∈ new, ¬ key.agree row other = true := by
  rw [← List.find?_eq_none]
  unfold oldMarks
  by_cases inside : column ∈ columns
  · cases found : new.find? (key.agree row) with
    | none => simp [inside, Mark.plain]
    | some first =>
      cases differs : textsDiffer row first column <;> simp [inside, differs, updateMark]
  · simp [inside]

/-- An old row carries an update exactly when it differs from the first new row
that agrees with it. -/
theorem oldMarks_updated_on_iff (new : List Row) :
    (∃ mark ∈ oldMarks key columns new row column, mark.kind = .updated) ↔
      column ∈ columns ∧ ∃ other, new.find? (key.agree row) = some other ∧
        textsDiffer row other column = true := by
  unfold oldMarks
  by_cases inside : column ∈ columns
  · cases found : new.find? (key.agree row) with
    | none => simp [inside, Mark.plain]
    | some first =>
      cases differs : textsDiffer row first column <;> simp [inside, differs, updateMark]
  · simp [inside]

/-- A new row carries an addition exactly when no old row agrees with it. -/
theorem newMarks_added_on_iff (old earlier : List Row) :
    (∃ mark ∈ newMarks key columns old earlier row column, mark.kind = .added) ↔
      column ∈ columns ∧ ∀ other ∈ old, ¬ key.agree other row = true := by
  unfold newMarks
  by_cases inside : column ∈ columns
  · cases met : old.any (key.agree · row) with
    | true =>
      have some_row : ∃ other ∈ old, key.agree other row = true := List.any_eq_true.1 met
      have updates : ¬ ∃ mark ∈ (if earlier.any (key.agree · row) = true then []
          else (old.filter fun other => key.agree other row && textsDiffer other row column).map
            fun other => updateMark (other.cell column)), mark.kind = .added := by
        split
        · simp
        · simp [updateMark]
      simp only [if_pos inside, if_true]
      refine iff_of_false updates ?_
      rintro ⟨-, none_there⟩
      obtain ⟨other, member, agrees⟩ := some_row
      exact none_there other member agrees
    | false => simpa [inside, Mark.plain] using met
  · simp [inside]

end Kinds

/-! ### Comparisons by a key of several columns -/

theorem ResultSet.columns_of_matchingKey {set : ResultSet} {key : CompareKey}
    (chosen : set.matchingKey = .ok key) : ∀ name ∈ key.columns, name ∈ set.names := by
  unfold matchingKey at chosen
  split at chosen
  · cases chosen
  · cases chosen
  · rename_i keys _ _
    cases found : CompareKey.firstAvailable? set.names keys with
    | none =>
      rw [found] at chosen
      cases chosen
    | some first =>
      rw [found] at chosen
      cases chosen
      have available := List.find?_some found
      rw [CompareKey.isAvailable, List.all_eq_true] at available
      exact fun name member => List.contains_iff_mem.1 (available name member)

/-- The outcome of a comparison by a key of several columns: what each row is matched with is
decided by the texts under these columns. A row carries deletions or additions, on all columns, when
its texts meet those of no row of the other set. An old row carries an update on a column of the key
when it slides into the first new row whose texts its own meet, or this row into it. -/
structure MatchedByTexts (names : List String) (old new : ResultSet) (outcome : DiffOutcome) :
    Prop where
  deleted : ∀ (place : Nat) (row marked : Row), old.rows[place]? = some row →
    outcome.old.rows[place]? = some marked → ∀ column, marked.marks.of column (some .deleted) ≠ [] ↔
      column ∈ old.names ∧ ∀ other ∈ new.rows, ¬ RowKey.Meets (row.texts names) (other.texts names)
  added : ∀ (place : Nat) (row marked : Row), new.rows[place]? = some row →
    outcome.new.rows[place]? = some marked → ∀ column, marked.marks.of column (some .added) ≠ [] ↔
      column ∈ old.names ∧ ∀ other ∈ old.rows, ¬ RowKey.Meets (other.texts names) (row.texts names)
  updated : ∀ (place : Nat) (row marked : Row), old.rows[place]? = some row →
    outcome.old.rows[place]? = some marked →
      ((∃ name ∈ names, marked.marks.of name (some .updated) ≠ []) ↔
      ∃ before other behind, new.rows = before ++ other :: behind ∧
        (∀ earlier ∈ before, ¬ RowKey.Meets (row.texts names) (earlier.texts names)) ∧
        (RowKey.Slides (row.texts names) (other.texts names) ∨
          RowKey.Slides (other.texts names) (row.texts names)))

theorem any_textsDiffer_iff (names : List String) (row other : Row) :
    (∃ name ∈ names, textsDiffer row other name = true) ↔ row.texts names ≠ other.texts names := by
  rw [Row.texts, Row.texts, ne_eq, List.map_inj_left]
  simp [textsDiffer]

section Comparison

variable {origin : KeyOrigin} {names : List String} {old new : ResultSet}
  (chosen : old.matchingKey = .ok (.composite origin names))
  (freeOld : ∀ row ∈ old.rows, row.LacksSeparator names)
  (freeNew : ∀ row ∈ new.rows, row.LacksSeparator names)

include freeOld freeNew in
/-- Where the columns of the key have texts, only the other columns can keep
rows from being compared. -/
theorem fault_comparison_composite_iff :
    (old.comparison (.composite origin names) new).fault = none ↔
      (CompareKey.composite origin names).Compares old.names old.rows new.rows := by
  have reads (row : Row) (free : row.LacksSeparator names) :
      (CompareKey.composite origin names).reads row := by
    rw [CompareKey.reads, RowKey.ofRow_composite free.1]
    rfl
  rw [fault_comparison_iff_reads]
  exact (and_iff_right fun row member => reads row (freeOld row member)).trans
    (and_iff_right fun row member => reads row (freeNew row member))

include chosen freeOld freeNew in
theorem completed_composite_iff :
    (∃ report, (diff old new).report = .ok report ∧ report.ok = true) ↔
      (CompareKey.composite origin names).Compares old.names old.rows new.rows := by
  rw [← fault_comparison_composite_iff freeOld freeNew]
  constructor
  · rintro ⟨report, completed, compared⟩
    obtain ⟨key, same, fault, -⟩ := diff_completed completed compared
    obtain rfl := Except.ok.inj (chosen.symm.trans same)
    exact fault
  · exact fun fault => ⟨_, congrArg DiffOutcome.report (diff_of_completed chosen fault), rfl⟩

include chosen freeOld freeNew in
theorem matchedByTexts
    (compares : (CompareKey.composite origin names).Compares old.names old.rows new.rows) :
    MatchedByTexts names old new (diff old new) := by
  have fault := (fault_comparison_composite_iff freeOld freeNew).2 compares
  have oldShows := shows_old fault
  have newShows := shows_new fault
  rw [diff_of_completed chosen fault]
  constructor
  case deleted =>
    intro place row marked here there column
    obtain ⟨after, found, -, marks⟩ := oldShows.2 place row here
    obtain rfl : after = marked := Option.some.inj (found.symm.trans there)
    simp only [Marks.of_ne_nil_iff, marks, oldMarks_deleted_on_iff]
    refine and_congr_right fun _ => forall₂_congr fun other member => not_congr ?_
    exact CompareKey.agree_iff_meets (freeOld row (List.mem_of_getElem? here))
      (freeNew other member)
  case added =>
    intro place row marked here there column
    obtain ⟨after, found, -, marks⟩ := newShows.2 place row here
    obtain rfl : after = marked := Option.some.inj (found.symm.trans there)
    simp only [Marks.of_ne_nil_iff, marks, newMarks_added_on_iff]
    refine and_congr_right fun _ => forall₂_congr fun other member => not_congr ?_
    exact CompareKey.agree_iff_meets (freeOld other member)
      (freeNew row (List.mem_of_getElem? here))
  case updated =>
    intro place row marked here there
    obtain ⟨after, found, -, marks⟩ := oldShows.2 place row here
    obtain rfl : after = marked := Option.some.inj (found.symm.trans there)
    have meets : ∀ other ∈ new.rows, ((CompareKey.composite origin names).agree row other = true ↔
        RowKey.Meets (row.texts names) (other.texts names)) := fun other member =>
      CompareKey.agree_iff_meets (freeOld row (List.mem_of_getElem? here)) (freeNew other member)
    simp only [Marks.of_ne_nil_iff, marks, oldMarks_updated_on_iff]
    constructor
    · rintro ⟨name, inside, -, other, first, differs⟩
      obtain ⟨agrees, before, behind, parts, earlier⟩ := List.find?_eq_some_iff_append.1 first
      have apart : row.texts names ≠ other.texts names :=
        (any_textsDiffer_iff ..).1 ⟨name, inside, differs⟩
      refine ⟨before, other, behind, parts, fun one member meet => ?_, ?_⟩
      · have none_there := earlier one member
        rw [(meets one (by simp [parts, member])).2 meet] at none_there
        cases none_there
      · exact ((meets other (by simp [parts])).1 agrees).resolve_left apart
    · rintro ⟨before, other, behind, parts, earlier, slides⟩
      have apart : row.texts names ≠ other.texts names :=
        slides.elim RowKey.Slides.ne fun back => back.ne.symm
      obtain ⟨name, inside, differs⟩ := (any_textsDiffer_iff ..).2 apart
      refine ⟨name, inside, ResultSet.columns_of_matchingKey chosen name inside, other, ?_, differs⟩
      refine List.find?_eq_some_iff_append.2
        ⟨(meets other (by simp [parts])).2 (.inr slides), before, behind, parts,
          fun one member => ?_⟩
      rw [Bool.not_eq_true', Bool.eq_false_iff, ne_eq, meets one (by simp [parts, member])]
      exact earlier one member

end Comparison

namespace CompareKey

/-- **When a key of several columns is the same for two rows** in whose texts the separator does not
occur: exactly when all texts are the same, or those of one row slide into those of the other. They
cannot slide where no text but the last ends with `|:`. A comparison by such a key is completed when
all cells of matched rows have texts; then it matches rows by this, and matches two that differ in a
column of the key exactly where they slide. -/
theorem ofRow_composite_eq_iff (origin : KeyOrigin) (names : List String) :
    (∀ row other : Row, row.LacksSeparator names → other.LacksSeparator names →
      (RowKey.ofRow (.composite origin names) row = RowKey.ofRow (.composite origin names) other ↔
        (∀ name ∈ names, (row.cell name).bareText = (other.cell name).bareText) ∨
          RowKey.Slides (row.texts names) (other.texts names) ∨
          RowKey.Slides (other.texts names) (row.texts names))) ∧
    (∀ row other : Row, (∀ text ∈ (row.texts names).dropLast, ¬ "|:".toList <:+ text.toList) →
      ¬ RowKey.Slides (row.texts names) (other.texts names)) ∧
    ∀ old new : ResultSet, old.matchingKey = .ok (.composite origin names) →
      (∀ row ∈ old.rows, row.LacksSeparator names) → (∀ row ∈ new.rows, row.LacksSeparator names) →
        ((∃ report, (diff old new).report = .ok report ∧ report.ok = true) ↔
          (CompareKey.composite origin names).Compares old.names old.rows new.rows) ∧
        ((CompareKey.composite origin names).Compares old.names old.rows new.rows →
          MatchedByTexts names old new (diff old new)) := by
  refine ⟨fun row other free freeOther => ?_, fun row other => RowKey.not_slides_of_ends,
    fun old new chosen freeOld freeNew =>
      ⟨completed_composite_iff chosen freeOld freeNew, matchedByTexts chosen freeOld freeNew⟩⟩
  have meets : (composite origin names).agree row other = true ↔
      RowKey.Meets (row.texts names) (other.texts names) := agree_iff_meets free freeOther
  have same : RowKey.ofRow (.composite origin names) row =
    RowKey.ofRow (.composite origin names) other ↔
      (CompareKey.composite origin names).agree row other = true := by
    rw [agree, RowKey.ofRow_composite free.1, RowKey.ofRow_composite freeOther.1,
      RowKey.composite.injEq]
    exact beq_iff_eq.symm
  rw [same, meets, RowKey.Meets, Row.texts, Row.texts, List.map_inj_left]

/-- Ordinary texts with bars and colons in them. -/
theorem ofRow_composite_eq_iff_of_bars :
    let names := ["a", "b"]
    let old : ResultSet :=
      .keyedBy (.composite .primary names) names [[("a", .text "x|"), ("b", .int 1)]]
    let new : ResultSet :=
      .keyedBy (.composite .primary names) names [[("a", .text "x"), ("b", .text "|1")]]
    old.matchingKey = .ok (.composite .primary names) ∧
      (∀ row ∈ old.rows, row.LacksSeparator names) ∧ (∀ row ∈ new.rows, row.LacksSeparator names) ∧
      (∀ row ∈ old.rows, ∀ other ∈ new.rows,
        RowKey.ofRow (.composite .primary names) row =
          RowKey.ofRow (.composite .primary names) other ↔
          (∀ name ∈ names, (row.cell name).bareText = (other.cell name).bareText) ∨
            RowKey.Slides (row.texts names) (other.texts names) ∨
            RowKey.Slides (other.texts names) (row.texts names)) ∧
      MatchedByTexts names old new (diff old new) := by
  intro names old new
  have freeOld : ∀ row ∈ old.rows, row.LacksSeparator names := by decide +kernel
  have freeNew : ∀ row ∈ new.rows, row.LacksSeparator names := by decide +kernel
  obtain ⟨same, -, matched⟩ := ofRow_composite_eq_iff .primary names
  obtain ⟨completed, byTexts⟩ := matched old new rfl freeOld freeNew
  have compared : (diff old new).report = .ok ⟨true, 1, 1, 0, "Inserted:1, Deleted:1, Updated:0"⟩ :=
    eq_ok_of_toOption (by decide +kernel)
  exact ⟨rfl, freeOld, freeNew, fun row member other there =>
    same row other (freeOld row member) (freeNew other there),
      byTexts (completed.1 ⟨_, compared, rfl⟩)⟩

/-- **Two rows that differ in both columns have the same key**, although the separator occurs in
none of their texts: a comparison counts an update instead of an insertion and a deletion. -/
theorem composite_joins_different_rows :
    let names := ["a", "b"]
    let row : Row := ⟨[("a", .text "x|:"), ("b", .text "y")], .empty⟩
    let other : Row := ⟨[("a", .text "x"), ("b", .text ":|y")], .empty⟩
    let old : ResultSet := .keyedBy (.composite .primary names) names [row.values]
    let new : ResultSet := .keyedBy (.composite .primary names) names [other.values]
    row.LacksSeparator names ∧ other.LacksSeparator names ∧
      (∀ name ∈ names, (row.cell name).bareText ≠ (other.cell name).bareText) ∧
      RowKey.ofRow (.composite .primary names) row =
        RowKey.ofRow (.composite .primary names) other ∧
      (diff old new).report = .ok ⟨true, 0, 0, 1, "Inserted:0, Deleted:0, Updated:1"⟩ := by
  intro names row other old new
  refine ⟨by decide +kernel, by decide +kernel, by
    decide +kernel, ?_, eq_ok_of_toOption (by decide +kernel)⟩
  exact congrArg RowKey.composite (by decide +kernel)

end CompareKey

end QueryDesk
