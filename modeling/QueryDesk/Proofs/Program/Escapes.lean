/-
**Failures that the command line does not report.**

* `Escapes` — a computation fails with a failure that passes through the program
  instead of ending it.
* `escapes_bind_iff`, `escapes_map_iff`, `escapes_mapM_iff` — where a computation of several
  steps escapes: at one of its steps, behind others that succeed; `not_escapes_bind`,
  `not_escapes_mapM` — when it does not.
* `not_escapes_orElseFail`, `Json.not_escapes_read`, `Csv.not_escapes_align`,
  `Cli.Charset.not_escapes_check` — what never escapes.
-/

import QueryDesk.Cli.Charset
import QueryDesk.Json.Reader
import QueryDesk.Load.CsvRecord
import QueryDesk.Model.Checked
import QueryDesk.Proofs.Outcomes

namespace QueryDesk

variable {α β : Type}

/-- A computation fails with a failure that is not reported. -/
def Escapes (outcome : Except Failure α) : Prop :=
  ∃ failure, outcome = .error failure ∧ failure.isReported = false

@[simp] theorem not_escapes_ok (result : α) : ¬ Escapes (.ok result) := nofun

@[simp] theorem not_escapes_pure (result : α) : ¬ Escapes (pure result : Except Failure α) := nofun

@[simp] theorem escapes_error_iff {failure : Failure} :
    Escapes (.error failure : Except Failure α) ↔ failure.isReported = false := by
  simp [Escapes]

/-! ### Several steps -/

/-- A computation of two steps escapes in the first, or in the second behind a
first that succeeds. -/
theorem escapes_bind_iff {first : Except Failure α} {next : α → Except Failure β} :
    Escapes (first >>= next) ↔ Escapes first ∨ ∃ found, first = .ok found ∧
      Escapes (next found) := by
  cases first <;> simp [bind, Except.bind]

@[simp] theorem escapes_map_iff {change : α → β} {outcome : Except Failure α} :
    Escapes (outcome.map change) ↔ Escapes outcome := by
  cases outcome <;> simp [Except.map]

@[simp] theorem escapes_fmap_iff {change : α → β} {outcome : Except Failure α} :
    Escapes (change <$> outcome) ↔ Escapes outcome :=
  escapes_map_iff

theorem not_escapes_bind {first : Except Failure α} {next : α → Except Failure β}
    (one : ¬ Escapes first)
    (two : ∀ found, first = .ok found → ¬ Escapes (next found)) : ¬ Escapes (first >>= next) := by
  rw [escapes_bind_iff]
  rintro (broken | ⟨found, done, broken⟩)
  · exact one broken
  · exact two found done broken

theorem not_escapes_mapM {step : α → Except Failure β} {items : List α}
    (each : ∀ item ∈ items, ¬ Escapes (step item)) : ¬ Escapes (items.mapM step) := by
  rintro ⟨failure, failed, unreported⟩
  obtain ⟨item, inside, broken⟩ := exists_of_mapM_eq_error failed
  exact each item inside ⟨failure, broken, unreported⟩

/-- Steps that fail in no other way than by escaping escape together when one of them does. -/
theorem escapes_mapM_iff {step : α → Except Failure β} {items : List α}
    (plain : ∀ item ∈ items, ∀ failure, step item = .error failure → failure.isReported = false) :
    Escapes (items.mapM step) ↔ ∃ item ∈ items, Escapes (step item) := by
  constructor
  · rintro ⟨failure, failed, unreported⟩
    obtain ⟨item, inside, broken⟩ := exists_of_mapM_eq_error failed
    exact ⟨item, inside, failure, broken, unreported⟩
  · rintro ⟨item, inside, failure, broken, -⟩
    cases done : items.mapM step with
    | ok results =>
      obtain ⟨result, -, succeeded⟩ := succeeds_of_mapM done inside
      rw [broken] at succeeded
      cases succeeded
    | error other =>
      obtain ⟨item, inside, broken⟩ := exists_of_mapM_eq_error done
      exact ⟨other, rfl, plain item inside other broken⟩

/-! ### What never escapes -/

theorem not_escapes_orElseFail {failure : List Issue → Failure}
    (reported : ∀ issues, (failure issues).isReported = true) (checked : Checked α) :
    ¬ Escapes (checked.orElseFail failure) := by
  cases checked with
  | good result => exact nofun
  | bad issues => simp [Checked.orElseFail, reported]

theorem not_escapes_orFail (shape : String) (checked : Checked α) :
    ¬ Escapes (checked.orFail shape) :=
  not_escapes_orElseFail (fun _ => rfl) checked

/-- Malformed JSON is reported. -/
theorem Json.not_escapes_read (document : String) : ¬ Escapes (Json.read document) := by
  unfold Json.read
  split
  · simp [Failure.isReported]
  · cases readChars document.toList with
    | ok found => exact nofun
    | error stop => cases stop <;> simp [Except.mapError, failureAt, Failure.isReported]

theorem Csv.not_escapes_alignRows (records : List Record) :
    ∀ width, ¬ Escapes (alignRows width records) := by
  induction records with
  | nil => exact fun _ => nofun
  | cons record rest ih =>
    intro width
    rw [alignRows]
    split
    · simp [Failure.isReported]
    · rw [escapes_map_iff]
      exact ih width

/-- A table that cannot be cut into cells is reported. -/
theorem Csv.not_escapes_align (text : String) : ¬ Escapes (align text) := by
  unfold align
  dsimp only
  split
  on_goal 3 => refine not_escapes_bind (not_escapes_alignRows _ _) fun _ _ => ?_
  all_goals
    -- whatever was cut, the ending is looked at in the same way
    refine not_escapes_bind (not_escapes_pure _) fun found _ => ?_
    split
    · simp [Failure.isReported]
    · split <;> simp [Failure.isReported]

/-- A character that cannot be printed is reported. -/
theorem Cli.Charset.not_escapes_check (charset : Charset) (piece : String) :
    ¬ Escapes (charset.check piece) := by
  unfold check
  split
  · simp [Failure.isReported]
  · simp [Failure.isReported]
  · exact nofun

end QueryDesk
