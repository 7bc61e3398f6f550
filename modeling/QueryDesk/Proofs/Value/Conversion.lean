/-
**What conversions make.**

* `ColumnType.converts` — whether a column asks for a conversion.
* `Value.elements?_toNumber?` and its like for truth values, points in time and times of day — what
  a value is converted to is no list or tuple.
* `ColumnType.elements?_convert` — so a converted value is one only when it was one already and the
  column asks for no conversion.
-/

import QueryDesk.Proofs.Outcomes
import QueryDesk.Value.Coercion

namespace QueryDesk

/-- Whether a column asks for a conversion of what it is compared with. -/
def ColumnType.converts (type : ColumnType) : Bool :=
  type.isNumericLike || type.isBooleanLike || type.isDatetimeLike || type.isTimeLike

namespace Value

theorem elements?_numberOfText? (text : String) :
    ((numberOfText? text).getD .null).elements? = none := by
  unfold numberOfText?
  split
  · rfl
  · split
    · split <;> rfl
    · rfl

theorem elements?_toNumber? {value : Value} {found : Option Value}
    (number : value.toNumber? = .ok found) :
    (found.getD .null).elements? = none := by
  unfold toNumber? at number
  split at number
  · exact Except.ok.inj number ▸ rfl
  · exact Except.ok.inj number ▸ rfl
  · exact Except.ok.inj number ▸ rfl
  · rw [← Except.ok.inj number]
    split <;> rfl
  · split at number
    · cases number
    · rw [← Except.ok.inj number]
      split <;> rfl
  · obtain ⟨text, -, rfl⟩ := map_eq_ok_iff.1 number
    exact elements?_numberOfText? text

theorem elements?_toTruth? (value : Value) : (value.toTruth?.getD .null).elements? = none := by
  unfold toTruth?
  split
  · rfl
  · rfl
  · rfl
  · dsimp only
    split
    · rfl
    · split <;> rfl
  · rfl

theorem elements?_toDatetime? (value : Value) :
    (value.toDatetime?.getD .null).elements? = none := by
  unfold toDatetime?
  split
  · rfl
  · rfl
  · split
    · rfl
    · rename_i content _
      cases Timestamp.ofText? (Text.strip content) <;> rfl
  · rfl

theorem elements?_toTime? (value : Value) : (value.toTime?.getD .null).elements? = none := by
  unfold toTime?
  split
  · rfl
  · rfl
  · dsimp only
    split
    · rfl
    · split
      · rfl
      · rename_i content _ _ _
        cases Timestamp.ofText? (Text.strip content) <;> rfl
  · rfl

end Value

/-- **A conversion makes no list**; without one a value stays what it is. -/
theorem ColumnType.elements?_convert {type : ColumnType} {value converted : Value}
    (found : type.convert value = .ok converted) :
    converted.elements? = if type.converts then none else value.elements? := by
  unfold convert convert? at found
  unfold converts
  by_cases numeric : type.isNumericLike = true
  · rw [if_pos numeric] at found
    obtain ⟨outer, inner, same⟩ := bind_eq_ok_iff.1 found
    obtain ⟨number, read, rfl⟩ := map_eq_ok_iff.1 inner
    cases same
    rw [numeric]
    exact Value.elements?_toNumber? read
  · rw [if_neg numeric] at found
    by_cases truth : type.isBooleanLike = true
    · rw [if_pos truth] at found
      cases found
      rw [truth, Bool.or_true]
      exact Value.elements?_toTruth? value
    · rw [if_neg truth] at found
      by_cases moment : type.isDatetimeLike = true
      · rw [if_pos moment] at found
        cases found
        rw [moment, Bool.or_true]
        exact Value.elements?_toDatetime? value
      · rw [if_neg moment] at found
        by_cases clock : type.isTimeLike = true
        · rw [if_pos clock] at found
          cases found
          rw [clock, Bool.or_true]
          exact Value.elements?_toTime? value
        · rw [if_neg clock] at found
          cases found
          rw [Bool.not_eq_true] at numeric truth moment clock
          rw [numeric, truth, moment, clock]
          rfl

end QueryDesk
