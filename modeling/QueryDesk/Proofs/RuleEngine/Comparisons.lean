/-
**When a comparison of a fact and a value fails.**

Values that cannot be put in order do not make a comparison fail: they are compared as doubles, and
where there are none the comparison does not hold. It does fail on a not-a-number beside a decimal,
and on a whole number out of reach of doubles that has to be read as one.

* `NoResult` — an outcome is a failure.
* `Operator.ConversionFails` — the pairs for which a whole number cannot be read as a double.
* `Operator.comparePresent_eq_error_iff` — a comparison fails in one of these
  two ways, and in no other.
* `Operator.compare_of_unordered` — a comparison of values without an order.
-/

import QueryDesk.Rule.Operator
import QueryDesk.Proofs.Number.Range
import QueryDesk.Proofs.Value.Order

namespace QueryDesk

/-! ### Outcomes without a result -/

/-- An outcome is a failure. -/
def NoResult {ε α : Type} (outcome : Except ε α) : Prop := ∃ failure, outcome = .error failure

section Outcomes

variable {ε δ α β : Type}

@[simp] theorem not_noResult_ok (result : α) : ¬ NoResult (Except.ok result : Except ε α) := nofun

@[simp] theorem noResult_error (failure : ε) : NoResult (Except.error failure : Except ε α) :=
  ⟨failure, rfl⟩

@[simp] theorem noResult_mapError (change : ε → δ) (outcome : Except ε α) :
    NoResult (outcome.mapError change) ↔ NoResult outcome := by
  cases outcome <;> simp [Except.mapError]

@[simp] theorem noResult_map (change : α → β) (outcome : Except ε α) :
    NoResult (outcome.map change) ↔ NoResult outcome := by
  cases outcome <;> simp [Except.map]

/-- Two steps have no result exactly when the first has none, or the second after it. -/
theorem noResult_bind (outcome : Except ε α) (next : α → Except ε β) :
    NoResult (outcome >>= next) ↔
      NoResult outcome ∨ ∃ result, outcome = .ok result ∧ NoResult (next result) := by
  cases outcome <;> simp [bind, Except.bind]

theorem of_map_eq_error {change : α → β} {outcome : Except ε α} {failure : ε}
    (failed : outcome.map change = .error failure) : outcome = .error failure := by
  cases outcome with
  | ok result => cases failed
  | error found => exact congrArg Except.error (Except.error.inj failed)

theorem exists_ok_iff (outcome : Except ε α) :
    (∃ result, outcome = .ok result) ↔ ¬ NoResult outcome := by
  cases outcome <;> simp

end Outcomes

/-! ### Numbers read as doubles -/

namespace Value

/-- A whole number is out of reach of doubles. -/
def IsOutOfReach (number : Int) : Prop := 2 ^ 1024 ≤ number.natAbs + 2 ^ 970

instance (number : Int) : Decidable (IsOutOfReach number) :=
  inferInstanceAs (Decidable (2 ^ 1024 ≤ number.natAbs + 2 ^ 970))

/-- The whole numbers that no double reaches. -/
theorem isFinite_ofInt_eq_false_iff (number : Int) :
    (Binary64.ofInt number).isFinite = false ↔ IsOutOfReach number := by
  rw [← Bool.not_eq_true, Binary64.isFinite_ofInt_iff, Nat.not_lt]
  rfl

/-- Only a whole number out of reach fails to become a double. -/
theorem toDouble_eq_error_iff (value : Value) (fault : Fault) :
    value.toDouble = .error fault ↔
      fault = .doubleOverflow ∧ ∃ number, value = .int number ∧ IsOutOfReach number := by
  cases value with
  | int number =>
    have reach := isFinite_ofInt_eq_false_iff number
    cases finite : (Binary64.ofInt number).isFinite with
    | true =>
      rw [finite, Bool.true_eq_false, false_iff] at reach
      simp [toDouble, finite, reach]
    | false =>
      have beyond := reach.1 finite
      simp [toDouble, finite, beyond, eq_comm]
  | _ => simp [toDouble]

/-- A value that stands for a double is a number or a text that spells one. -/
theorem of_toDouble_eq_ok_some {value : Value} {number : Binary64}
    (found : value.toDouble = .ok (some number)) :
    (∃ place, value.magnitude? = some place) ∨
      ∃ content, value = .text content ∧ Numeral.double? content = some number := by
  cases value with
  | bool truth => exact .inl ⟨_, rfl⟩
  | int whole => exact .inl ⟨_, rfl⟩
  | double double => exact .inl ⟨_, rfl⟩
  | decimal exact => exact .inl ⟨_, rfl⟩
  | text content => exact .inr ⟨content, rfl, Except.ok.inj found⟩
  | _ => cases found

/-- Two numbers are never unordered. -/
theorem not_unordered_of_numbers {a b : Value} {left right : Magnitude}
    (first : a.magnitude? = some left) (second : b.magnitude? = some right) : ¬ Unordered a b := by
  intro unordered
  cases unordered with
  | apart scales => exact scales (.numbers first second)
  | elements sequences => cases sequences <;> cases first

theorem not_orderFails_null_left (relation : Relation) (value : Value) :
    ¬ OrderFails relation .null value := by
  intro fails
  cases fails with
  | numbers first => cases first
  | equality sequences => cases sequences
  | order sequences => cases sequences

theorem not_orderFails_null_right (relation : Relation) (value : Value) :
    ¬ OrderFails relation value .null := by
  intro fails
  cases fails with
  | numbers _ second => cases second
  | equality sequences => cases sequences
  | order sequences => cases sequences

end Value

open Value

namespace Operator

/-! ### Comparisons -/

/-- A fact and a value without an order have to be compared as doubles, and a whole number among
them is out of reach: the fact beside what is no number and not nothing, or the value beside a
text that spells a number. -/
inductive ConversionFails : Value → Value → Prop
  | fact {number : Int} {value : Value} (beyond : IsOutOfReach number)
      (unlike : value.magnitude? = none) (present : value.isNull = false) :
      ConversionFails (.int number) value
  | value {content : String} {spelled : Binary64} {number : Int}
      (numeric : Numeral.double? content = some spelled) (beyond : IsOutOfReach number) :
      ConversionFails (.text content) (.int number)

/-- Where a conversion fails the values are unordered. -/
theorem ConversionFails.unordered {fact value : Value} (fails : ConversionFails fact value) :
    Unordered fact value := by
  refine .apart fun scale => ?_
  cases fails with
  | fact _ unlike =>
    cases scale with
    | numbers _ second => rw [unlike] at second; cases second
    | sequences elements => cases elements
  | value =>
    cases scale with
    | numbers first => cases first
    | sequences elements => cases elements

section Comparisons

variable {relation : Relation} {fact value : Value} {fault : Fault}

/-- Doubles fail to be compared at the first value that fails to become one. -/
theorem compareDoubles_eq_error_iff :
    compareDoubles relation fact value = .error fault ↔
      fact.toDouble = .error fault ∨
        (∃ number, fact.toDouble = .ok (some number)) ∧ value.toDouble = .error fault := by
  unfold compareDoubles
  cases fact.toDouble with
  | error found => simp [bind, Except.bind]
  | ok found =>
    cases found with
    | none => simp [bind, Except.bind, pure, Except.pure]
    | some left =>
      cases value.toDouble with
      | error found => simp [bind, Except.bind]
      | ok found => cases found <;> simp [bind, Except.bind, pure, Except.pure]

/-- Doubles stand in a relation exactly when both values become one and they do. -/
theorem compareDoubles_eq_ok_true_iff :
    compareDoubles relation fact value = .ok true ↔
      ∃ left right, fact.toDouble = .ok (some left) ∧ value.toDouble = .ok (some right) ∧
        relation.holdsOfMagnitudes (.ofDouble left) (.ofDouble right) = true := by
  unfold compareDoubles
  cases fact.toDouble with
  | error found => simp [bind, Except.bind]
  | ok found =>
    cases found with
    | none => simp [bind, Except.bind, pure, Except.pure]
    | some left =>
      cases value.toDouble with
      | error found => simp [bind, Except.bind]
      | ok found => cases found <;> simp [bind, Except.bind, pure, Except.pure]

/-- Unordered values are compared as doubles, which fails only where a conversion does. -/
theorem compareDoubles_of_unordered (unordered : Unordered fact value)
    (presentValue : value.isNull = false) :
    compareDoubles relation fact value = .error fault ↔
      fault = .doubleOverflow ∧ ConversionFails fact value := by
  rw [compareDoubles_eq_error_iff, toDouble_eq_error_iff, toDouble_eq_error_iff]
  constructor
  · rintro (⟨overflow, number, rfl, beyond⟩ | ⟨⟨left, found⟩, overflow, number, rfl, beyond⟩)
    · refine ⟨overflow, .fact beyond ?_ presentValue⟩
      cases second : value.magnitude? with
      | none => rfl
      | some place => exact absurd unordered (not_unordered_of_numbers rfl second)
    · rcases of_toDouble_eq_ok_some found with ⟨place, first⟩ | ⟨content, rfl, numeric⟩
      · exact absurd unordered (not_unordered_of_numbers first rfl)
      · exact ⟨overflow, .value numeric beyond⟩
  · rintro ⟨overflow, fails⟩
    cases fails with
    | fact beyond => exact .inl ⟨overflow, _, rfl, beyond⟩
    | value numeric beyond =>
      exact .inr ⟨⟨_, congrArg Except.ok numeric⟩, overflow, _, rfl, beyond⟩

/-- A comparison fails where an order fails, or a conversion. -/
theorem compareValues_eq_error_iff (presentValue : value.isNull = false) :
    compareValues relation fact value = .error fault ↔
      fault = .invalidOperation ∧ OrderFails relation fact value ∨
        fault = .doubleOverflow ∧ ConversionFails fact value := by
  -- the three ways a comparison ends exclude each other, and only the second leads to a conversion
  have ends := fun found => compare_eq_error_iff relation found fact value
  unfold compareValues
  cases outcome : Value.compare relation fact value with
  | ok held =>
    simp only [outcome, reduceCtorEq, false_iff] at ends
    have orders : ¬ OrderFails relation fact value := fun fails => ends _ (.inr ⟨rfl, fails⟩)
    have converts : ¬ ConversionFails fact value :=
      fun fails => ends _ (.inl ⟨rfl, fails.unordered⟩)
    simp [orders, converts]
  | error found =>
    rcases (ends found).1 outcome with ⟨rfl, unordered⟩ | ⟨rfl, fails⟩
    · have orders : ¬ OrderFails relation fact value := fun fails => by
        have invalid := (ends .invalidOperation).2 (.inr ⟨rfl, fails⟩)
        rw [outcome] at invalid
        cases invalid
      simpa [orders] using compareDoubles_of_unordered unordered presentValue
    · have converts : ¬ ConversionFails fact value := fun conversion => by
        have incomparable := (ends .incomparable).2 (.inl ⟨rfl, conversion.unordered⟩)
        rw [outcome] at incomparable
        cases incomparable
      simp [fails, converts, eq_comm]

theorem comparePresent_of_present (present : fact ≠ .null) :
    comparePresent relation (some fact) value =
      if value.isNull then .ok false else compareValues relation fact value := by
  cases fact <;> first | rfl | exact absurd rfl present

/-- **A comparison fails** on a not-a-number or in a conversion, and in no other way. -/
theorem comparePresent_eq_error_iff :
    comparePresent relation (some fact) value = .error fault ↔
      fault = .invalidOperation ∧ OrderFails relation fact value ∨
        fault = .doubleOverflow ∧ ConversionFails fact value := by
  by_cases presentFact : fact = .null
  · subst presentFact
    refine iff_of_false nofun ?_
    rintro (⟨-, fails⟩ | ⟨-, fails⟩)
    · exact not_orderFails_null_left relation value fails
    · cases fails
  · rw [comparePresent_of_present presentFact]
    by_cases missing : value.isNull = true
    · rw [if_pos missing]
      refine iff_of_false nofun ?_
      cases value with
      | null =>
        rintro (⟨-, fails⟩ | ⟨-, fails⟩)
        · exact not_orderFails_null_right relation fact fails
        · cases fails with
          | fact _ _ present => cases present
      | _ => cases missing
    · rw [if_neg missing]
      exact compareValues_eq_error_iff (Bool.eq_false_iff.2 missing)

end Comparisons

/-- A comparison fails: on a not-a-number or in a conversion. -/
def ComparisonFails (relation : Relation) (fact value : Value) : Prop :=
  OrderFails relation fact value ∨ ConversionFails fact value

/-- Only a fact that is present can fail to be compared. -/
theorem noResult_comparePresent_iff (relation : Relation) (fact : Option Value) (value : Value) :
    NoResult (comparePresent relation fact value) ↔
      ∃ present, fact = some present ∧ ComparisonFails relation present value := by
  cases fact with
  | none => simp [comparePresent]
  | some present => simp [NoResult, comparePresent_eq_error_iff, ComparisonFails, exists_or]

/-! ### Values without an order -/

/-- What has no double is compared with nothing, and nothing has none. -/
theorem comparePresent_eq_ok_true_iff_of_unordered {relation : Relation} {present value : Value}
    (unordered : Unordered present value) :
    comparePresent relation (some present) value = .ok true ↔
      compareDoubles relation present value = .ok true := by
  by_cases missing : present = .null
  · subst missing
    exact iff_of_false nofun nofun
  · rw [comparePresent_of_present missing]
    have incomparable : Value.compare relation present value = .error .incomparable :=
      (compare_eq_error_iff relation .incomparable present value).2 (.inl ⟨rfl, unordered⟩)
    cases value with
    | null =>
      -- here the two differ where the first value is out of reach, but neither holds
      rw [compareDoubles_eq_ok_true_iff]
      exact iff_of_false nofun fun ⟨_, _, _, found, _⟩ => nomatch found
    | _ => rw [if_neg (by simp [Value.isNull]), compareValues, incomparable]

/-- **A comparison of values without an order does not fail**, unless in a conversion: it is that of
the doubles the values stand for, and does not hold where one stands for none. -/
theorem compare_of_unordered {relation : Relation} {present value : Value}
    (unordered : Unordered present value) (converts : ¬ ConversionFails present value) :
    ∃ held, (Operator.compare relation).holds (some present) value = .ok held ∧
      (held = true ↔ ∃ left right, present.toDouble = .ok (some left) ∧
        value.toDouble = .ok (some right) ∧
        relation.holdsOfMagnitudes (.ofDouble left) (.ofDouble right) = true) := by
  have orders : ¬ OrderFails relation present value := fun fails => by
    have first := (compare_eq_error_iff relation .incomparable present value).2
      (.inl ⟨rfl, unordered⟩)
    have second := (compare_eq_error_iff relation .invalidOperation present value).2
      (.inr ⟨rfl, fails⟩)
    rw [first] at second
    cases second
  have completed : ¬ NoResult (comparePresent relation (some present) value) := by
    rw [noResult_comparePresent_iff]
    rintro ⟨_, same, fails⟩
    obtain rfl := Option.some.inj same
    exact fails.elim orders converts
  obtain ⟨held, found⟩ := (exists_ok_iff _).2 completed
  refine ⟨held, by simp only [holds, found, Except.mapError], ?_⟩
  rw [← compareDoubles_eq_ok_true_iff, ← comparePresent_eq_ok_true_iff_of_unordered unordered,
    found, Except.ok.injEq]

end Operator

end QueryDesk
