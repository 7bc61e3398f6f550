/-
**Values without a text.**

* `Value.HoldsLongNumber`, `Value.hasText_eq_false_iff` — a value has no text exactly when a whole
  number inside it has too many digits.
* `Value.written_eq_error_iff`, `Value.cellText_eq_ok_iff`, `Value.cellText_eq_error_iff` — when a
  value is written and what else becomes of it.
* `Row.HasTexts`, `RowKey.cellTexts_of_hasTexts`, `RowKey.cellTexts_of_not` — the texts of several
  cells of a row, which are all there or not.
-/

import QueryDesk.Proofs.Outcomes
import QueryDesk.Proofs.Value.Equality
import QueryDesk.ResultSet.Diff

namespace QueryDesk

namespace Value

/-! ### One value -/

/-- A whole number that is too long to be written stands somewhere in a value. -/
inductive HoldsLongNumber : Value → Prop
  | here {number : Int} (long : Numeral.maxDigits < (toString number.natAbs).length) :
      HoldsLongNumber (.int number)
  | inside {value part : Value} (member : part ∈ value.parts) (deeper : HoldsLongNumber part) :
      HoldsLongNumber value

theorem haveTexts_eq_false_iff {items : List Value} :
    haveTexts items = false ↔ ∃ item ∈ items, hasText item = false := by
  induction items with
  | nil => simp [haveTexts]
  | cons item rest ih => rw [haveTexts, Bool.and_eq_false_iff, ih, List.exists_mem_cons_iff]

theorem entriesHaveTexts_eq_false_iff {entries : List (Value × Value)} :
    entriesHaveTexts entries = false ↔ ∃ part ∈ (dict entries).parts, hasText part = false := by
  induction entries with
  | nil => simp [entriesHaveTexts, parts]
  | cons entry rest ih =>
    rw [entriesHaveTexts, Bool.and_eq_false_iff, Bool.and_eq_false_iff, ih]
    simp [parts, or_and_right, exists_or, or_assoc]

/-- All elements have a text when each of them has. -/
theorem haveTexts_iff {items : List Value} :
    haveTexts items = true ↔ ∀ item ∈ items, item.hasText = true := by
  induction items with
  | nil => simp [haveTexts]
  | cons item rest ih => rw [haveTexts, Bool.and_eq_true, ih, List.forall_mem_cons]

/-- All entries have a text when each key and each value has. -/
theorem entriesHaveTexts_iff {entries : List (Value × Value)} :
    entriesHaveTexts entries = true ↔
      ∀ entry ∈ entries, entry.1.hasText = true ∧ entry.2.hasText = true := by
  induction entries with
  | nil => simp [entriesHaveTexts]
  | cons entry rest ih =>
    rw [entriesHaveTexts, Bool.and_eq_true, Bool.and_eq_true, ih, List.forall_mem_cons, and_assoc]

/-- A number that is too long is the value or inside one of its parts. -/
theorem holdsLongNumber_iff {value : Value} :
    value.HoldsLongNumber ↔
      (∃ number, value = .int number ∧ Numeral.maxDigits < (toString number.natAbs).length) ∨
        ∃ part ∈ value.parts, part.HoldsLongNumber := by
  constructor
  · intro long
    cases long with
    | here long => exact .inl ⟨_, rfl, long⟩
    | inside member deeper => exact .inr ⟨_, member, deeper⟩
  · rintro (⟨number, rfl, long⟩ | ⟨part, member, deeper⟩)
    · exact .here long
    · exact .inside member deeper

/-- **A value has no text exactly when it holds a number that is too long.** -/
theorem hasText_eq_false_iff (value : Value) : value.hasText = false ↔ value.HoldsLongNumber := by
  induction value using induction_on_parts with
  | step value ih =>
    have some_part : (∃ part ∈ value.parts, part.HoldsLongNumber) ↔
        ∃ part ∈ value.parts, part.hasText = false :=
      exists_congr fun part => and_congr_right fun member => (ih part member).symm
    rw [holdsLongNumber_iff, some_part]
    cases value with
    | int number => simp [hasText, parts, Numeral.isWritable]
    | list items | tuple items | set items => simpa [hasText, parts] using haveTexts_eq_false_iff
    | dict entries =>
      rw [hasText, entriesHaveTexts_eq_false_iff]
      simp
    | _ => simp [hasText, parts]

/-- A value cannot be written exactly when it holds a number that is too long. -/
theorem written_eq_error_iff {value : Value} {fault : Fault} :
    value.written = .error fault ↔ fault = .tooManyDigits ∧ value.HoldsLongNumber := by
  rw [← hasText_eq_false_iff]
  unfold written
  cases value.hasText <;> simp [eq_comm]

theorem cellText_eq_ok_iff {value : Value} {text : String} :
    value.cellText = .ok text ↔ value.hasText = true ∧ value.bareText = text := by
  unfold cellText
  cases value.hasText <;> simp

theorem cellText_eq_error_iff {value : Value} {fault : Fault} :
    value.cellText = .error fault ↔ fault = .tooManyDigits ∧ value.hasText = false := by
  unfold cellText
  cases value.hasText <;> simp [eq_comm]

end Value

/-! ### The cells of a row -/

/-- All cells of a row under some columns have a text. -/
def Row.HasTexts (columns : List String) (row : Row) : Prop :=
  ∀ column ∈ columns, (row.cell column).hasText = true

instance (columns : List String) (row : Row) : Decidable (row.HasTexts columns) :=
  inferInstanceAs (Decidable (∀ column ∈ columns, _))

namespace RowKey

/-- The texts of cells that all have one. -/
theorem cellTexts_of_hasTexts {row : Row} {names : List String} (texts : row.HasTexts names) :
    cellTexts row names = .ok (names.map fun name => (row.cell name).bareText) := by
  refine mapM_eq_ok_iff.2 (List.forall₂_map_right_iff.2 (List.forall₂_same.2 fun name inside => ?_))
  exact Value.cellText_eq_ok_iff.2 ⟨texts name inside, rfl⟩

/-- There are no texts of cells one of which has none. -/
theorem cellTexts_of_not {row : Row} {names : List String} (lacks : ¬ row.HasTexts names) :
    cellTexts row names = .error .tooManyDigits := by
  cases found : cellTexts row names with
  | ok texts =>
    refine absurd (fun name inside => ?_) lacks
    obtain ⟨text, -, written⟩ := succeeds_of_mapM found inside
    exact (Value.cellText_eq_ok_iff.1 written).1
  | error fault =>
    obtain ⟨name, -, failed⟩ := exists_of_mapM_eq_error found
    rw [(Value.cellText_eq_error_iff.1 failed).1]

end RowKey

end QueryDesk
