/-
**When the test of a built-in operator fails.**

* `Operator.MembershipFails` — a search that comes to a failing equality test, or a
  value that can be no member.
* `Operator.Fails`, `Operator.noResult_holds_iff` — the tests that fail, operator by
  operator; there are no others.
* `Failure.IsOfTest`, `Operator.isOfTest_of_holds` — what a test fails with.
-/

import QueryDesk.Proofs.RuleEngine.Comparisons
import QueryDesk.Proofs.Value.Keys

namespace QueryDesk

open Value

namespace Operator

/-! ### Membership -/

/-- A search for a value in a container fails: in a list or tuple it comes to an element whose
equality test with the value fails; in a set it fails at once for what can be no member. -/
inductive MembershipFails (item : Value) : Value → Prop
  | list {items : List Value} (broken : SearchFails item items) : MembershipFails item (.list items)
  | tuple {items : List Value} (broken : SearchFails item items) :
    MembershipFails item (.tuple items)
  | set {items : List Value} (plain : ∀ others, item ≠ .set others) (broken : item.Unkeyable) :
      MembershipFails item (.set items)

/-- A search has no result exactly when it reaches an element that cannot be compared. -/
theorem noResult_memberOf_iff (item : Value) (items : List Value) :
    NoResult (item.memberOf items) ↔ SearchFails item items := by
  unfold NoResult
  simp [memberOf_eq_error_iff]

theorem isInSet_of_plain {fact : Value} (plain : ∀ others, fact ≠ .set others)
    (items : List Value) :
    isInSet fact items = fact.checkKey.map fun _ => items.any (sameKey fact) := by
  unfold isInSet
  split
  · exact absurd rfl (plain _)
  · cases fact.checkKey <;> rfl

/-- Looking into a set has no result exactly when the value cannot be a key and is no set. -/
theorem noResult_isInSet_iff (fact : Value) (items : List Value) :
    NoResult (isInSet fact items) ↔ (∀ others, fact ≠ .set others) ∧ fact.Unkeyable := by
  by_cases isSet : ∃ others, fact = .set others
  · obtain ⟨others, rfl⟩ := isSet
    simp [isInSet]
  · have plain : ∀ others, fact ≠ .set others := fun others same => isSet ⟨others, same⟩
    rw [isInSet_of_plain plain, noResult_map, and_iff_right plain, ← not_iff_not,
      ← checkKey_eq_ok_iff]
    cases fact.checkKey <;> simp

theorem noResult_isElement_iff (item container : Value) :
    NoResult (isElement item container) ↔ MembershipFails item container := by
  cases container with
  | list items =>
    rw [isElement, noResult_memberOf_iff]
    refine ⟨.list, fun fails => ?_⟩
    cases fails with
    | list broken => exact broken
  | tuple items =>
    rw [isElement, noResult_memberOf_iff]
    refine ⟨.tuple, fun fails => ?_⟩
    cases fails with
    | tuple broken => exact broken
  | set items =>
    rw [isElement, noResult_isInSet_iff]
    refine ⟨fun fails => .set fails.1 fails.2, fun fails => ?_⟩
    cases fails with
    | set plain broken => exact ⟨plain, broken⟩
  | _ =>
    refine iff_of_false (not_noResult_ok false) fun fails => ?_
    cases fails

/-! ### All operators -/

/-- The test of an operator fails for a fact, which may be absent, and a value. -/
def Fails (operator : Operator) (fact : Option Value) (value : Value) : Prop :=
  match operator with
  | .equal => ∃ present, fact = some present ∧ EqualityFails present value
  | .notEqual => ∃ present, fact = some present ∧ EqualityFails present value
  | .compare relation => ∃ present, fact = some present ∧ ComparisonFails relation present value
  | .isIn => ∃ present, fact = some present ∧ MembershipFails present value
  | .isNotIn => ∃ present, fact = some present ∧ MembershipFails present value
  | .contains => ∃ present, fact = some present ∧ MembershipFails value present
  | .doesNotContain => ∃ present, fact = some present ∧ MembershipFails value present
  | .between => ∃ present low high, fact = some present ∧ value.elements? = some [low, high] ∧
      (ComparisonFails .greaterOrEqual present low ∨
        comparePresent .greaterOrEqual fact low = .ok true ∧
          ComparisonFails .lessOrEqual present high)
  | .isNull => False
  | .isNotNull => False
  | .isNil => False
  | .isNotNil => False
  | .startsWith => fact.all Value.hasText = false ∨ factText fact ≠ "" ∧ value.hasText = false
  | .endsWith => fact.all Value.hasText = false ∨ factText fact ≠ "" ∧ value.hasText = false

/-- Only a fact that is present can fail to be compared for equality. -/
theorem noResult_factEquals_iff (fact : Option Value) (value : Value) :
    NoResult (factEquals fact value) ↔ ∃ present, fact = some present ∧
      EqualityFails present value := by
  cases fact with
  | none => simp [factEquals]
  | some present => simp [NoResult, factEquals, equal_eq_error_iff present value]

/-- Only a fact that is present can fail to be looked for. -/
theorem noResult_factIsIn_iff (fact : Option Value) (container : Value) :
    NoResult (factIsIn fact container) ↔
      ∃ present, fact = some present ∧ MembershipFails present container := by
  cases fact with
  | none => simp [factIsIn]
  | some present => simp [factIsIn, noResult_isElement_iff]

/-- Only a fact that is present can fail to be searched. -/
theorem noResult_factContains_iff (fact : Option Value) (value : Value) :
    NoResult (factContains fact value) ↔
      ∃ present, fact = some present ∧ MembershipFails value present := by
  cases fact with
  | none => simp [factContains]
  | some present => simp [factContains, noResult_isElement_iff]

theorem liesBetween_eq {bounds low high : Value} (two : bounds.elements? = some [low, high])
    (fact : Option Value) :
    liesBetween fact bounds = (do
      if ← comparePresent .greaterOrEqual fact low then comparePresent .lessOrEqual fact high
      else pure false) := by
  unfold liesBetween
  rw [two]

/-- Nothing lies between anything else than two bounds. -/
theorem liesBetween_of_not_two {bounds : Value}
    (apart : ∀ low high, bounds.elements? ≠ some [low, high])
    (fact : Option Value) : liesBetween fact bounds = .ok false := by
  unfold liesBetween
  split
  · exact absurd ‹_› (apart _ _)
  · rfl

/-- A range has no result exactly when the lower bound fails, or the fact passes
it and the upper one fails. -/
theorem noResult_liesBetween_iff (fact : Option Value) (bounds : Value) :
    NoResult (liesBetween fact bounds) ↔
      ∃ present low high, fact = some present ∧ bounds.elements? = some [low, high] ∧
        (ComparisonFails .greaterOrEqual present low ∨
          comparePresent .greaterOrEqual fact low = .ok true ∧
            ComparisonFails .lessOrEqual present high) := by
  by_cases two : ∃ low high, bounds.elements? = some [low, high]
  · obtain ⟨low, high, two⟩ := two
    -- the upper bound is only looked at when the lower one holds
    have upper : (∃ held, comparePresent .greaterOrEqual fact low = .ok held ∧
        NoResult (if held then comparePresent .lessOrEqual fact high else pure false)) ↔
        comparePresent .greaterOrEqual fact low = .ok true ∧
          NoResult (comparePresent .lessOrEqual fact high) := by
      simp [pure, Except.pure]
    rw [liesBetween_eq two, noResult_bind, upper, noResult_comparePresent_iff,
      noResult_comparePresent_iff]
    constructor
    · rintro (⟨present, same, fails⟩ | ⟨held, present, same, fails⟩)
      · exact ⟨present, low, high, same, two, .inl fails⟩
      · exact ⟨present, low, high, same, two, .inr ⟨held, fails⟩⟩
    · rintro ⟨present, low', high', same, others, fails⟩
      obtain ⟨rfl, rfl⟩ : low = low' ∧ high = high' := by simpa [two] using others
      rcases fails with fails | ⟨held, fails⟩
      · exact .inl ⟨present, same, fails⟩
      · exact .inr ⟨held, present, same, fails⟩
  · have apart : ∀ low high, bounds.elements? ≠ some [low, high] :=
      fun low high same => two ⟨low, high, same⟩
    rw [liesBetween_of_not_two apart]
    refine iff_of_false (not_noResult_ok false) ?_
    rintro ⟨present, low, high, -, same, -⟩
    exact apart low high same

/-- Texts have no result exactly when the fact has no text, or has one and the value has none. -/
theorem noResult_textHolds_iff (relation : String → String → Bool) (fact : Option Value)
    (value : Value) :
    NoResult (textHolds relation fact value) ↔
      fact.all Value.hasText = false ∨ factText fact ≠ "" ∧ value.hasText = false := by
  unfold textHolds
  cases fact.all Value.hasText with
  | false => simp
  | true =>
    by_cases blank : factText fact = ""
    · simp [blank]
    · cases value.hasText <;> simp [blank]

/-- **When the test of a built-in operator fails.** -/
theorem noResult_holds_iff (operator : Operator) (fact : Option Value) (value : Value) :
    NoResult (operator.holds fact value) ↔ operator.Fails fact value := by
  cases operator with
  | equal => simp [holds, Fails, noResult_factEquals_iff]
  | notEqual => simp [holds, Fails, noResult_factEquals_iff]
  | compare relation => simp [holds, Fails, noResult_comparePresent_iff]
  | isIn => simp [holds, Fails, noResult_factIsIn_iff]
  | isNotIn => simp [holds, Fails, noResult_factIsIn_iff]
  | contains => simp [holds, Fails, noResult_factContains_iff]
  | doesNotContain => simp [holds, Fails, noResult_factContains_iff]
  | between => simp only [holds, Fails, noResult_mapError, noResult_liesBetween_iff]
  | isNull => simp [holds, Fails]
  | isNotNull => simp [holds, Fails]
  | isNil => simp [holds, Fails]
  | isNotNil => simp [holds, Fails]
  | startsWith => exact noResult_textHolds_iff _ fact value
  | endsWith => exact noResult_textHolds_iff _ fact value

/-- A fact lies between two bounds exactly when it passes both. -/
theorem between_eq_ok_true_iff (fact : Option Value) (bounds : Value) :
    Operator.between.holds fact bounds = .ok true ↔
      ∃ low high, bounds.elements? = some [low, high] ∧
        (Operator.compare .greaterOrEqual).holds fact low = .ok true ∧
        (Operator.compare .lessOrEqual).holds fact high = .ok true := by
  have plain {outcome : Except Fault Bool} :
      outcome.mapError Failure.value = .ok true ↔ outcome = .ok true := by
    cases outcome <;> simp [Except.mapError]
  simp only [holds, plain]
  constructor
  · intro lies
    by_cases two : ∃ low high, bounds.elements? = some [low, high]
    · obtain ⟨low, high, two⟩ := two
      refine ⟨low, high, two, ?_⟩
      rw [liesBetween_eq two] at lies
      cases first : comparePresent .greaterOrEqual fact low with
      | error fault => rw [first] at lies; cases lies
      | ok held =>
        rw [first] at lies
        cases held with
        | true => exact ⟨rfl, lies⟩
        | false => cases lies
    · rw [liesBetween_of_not_two fun low high same => two ⟨low, high, same⟩] at lies
      cases lies
  · rintro ⟨low, high, two, lower, upper⟩
    rw [liesBetween_eq two, lower]
    exact upper

end Operator

/-! ### What a test fails with -/

/-- The failures of the tests of built-in operators. That two values cannot be
put in order is none. -/
inductive Failure.IsOfTest : Failure → Prop
  | notANumber : IsOfTest (.value .invalidOperation)
  | outOfReach : IsOfTest (.value .doubleOverflow)
  | noMember (kind : String) : IsOfTest (.value (.unhashable kind))
  | signallingMember : IsOfTest (.value .signallingKey)
  | tooLong : IsOfTest (.tooManyDigits none)

namespace Operator

variable {fact : Option Value} {value : Value} {fault : Fault}

theorem isOfTest_of_factEquals (failed : factEquals fact value = .error fault) :
    Failure.IsOfTest (.value fault) := by
  cases fact with
  | none => cases failed
  | some present =>
    obtain ⟨rfl, -⟩ := (equal_eq_error_iff present value fault).1 failed
    exact .notANumber

theorem isOfTest_of_comparePresent {relation : Relation}
    (failed : comparePresent relation fact value = .error fault) :
    Failure.IsOfTest (.value fault) := by
  cases fact with
  | none => cases failed
  | some present =>
    rcases comparePresent_eq_error_iff.1 failed with ⟨rfl, -⟩ | ⟨rfl, -⟩
    · exact .notANumber
    · exact .outOfReach

theorem isOfTest_of_isElement {item container : Value}
    (failed : isElement item container = .error fault) :
    Failure.IsOfTest (.value fault) := by
  have search {items : List Value} (failed : item.memberOf items = .error fault) :
      Failure.IsOfTest (.value fault) := by
    obtain ⟨rfl, -⟩ := (memberOf_eq_error_iff item items fault).1 failed
    exact .notANumber
  cases container with
  | list items => exact search failed
  | tuple items => exact search failed
  | set items =>
    by_cases isSet : ∃ others, item = .set others
    · obtain ⟨others, rfl⟩ := isSet
      cases failed
    · have plain : ∀ others, item ≠ .set others := fun others same => isSet ⟨others, same⟩
      rw [isElement, isInSet_of_plain plain] at failed
      rcases fault_of_checkKey item (of_map_eq_error failed) with ⟨kind, rfl⟩ | rfl
      · exact .noMember kind
      · exact .signallingMember
  | _ => cases failed

theorem isOfTest_of_factIsIn (failed : factIsIn fact value = .error fault) :
    Failure.IsOfTest (.value fault) := by
  cases fact with
  | none => cases failed
  | some present => exact isOfTest_of_isElement failed

theorem isOfTest_of_factContains (failed : factContains fact value = .error fault) :
    Failure.IsOfTest (.value fault) := by
  cases fact with
  | none => cases failed
  | some present => exact isOfTest_of_isElement failed

theorem isOfTest_of_liesBetween (failed : liesBetween fact value = .error fault) :
    Failure.IsOfTest (.value fault) := by
  unfold liesBetween at failed
  split at failed
  · rename_i low high two
    cases first : comparePresent .greaterOrEqual fact low with
    | error found =>
      rw [first] at failed
      obtain rfl : found = fault := Except.error.inj failed
      exact isOfTest_of_comparePresent first
    | ok held =>
      rw [first] at failed
      cases held with
      | true => exact isOfTest_of_comparePresent failed
      | false => cases failed
  · cases failed

theorem isOfTest_of_textHolds {relation : String → String → Bool} {failure : Failure}
    (failed : textHolds relation fact value = .error failure) : failure.IsOfTest := by
  unfold textHolds at failed
  split at failed
  · cases failed
    exact .tooLong
  · split at failed
    · cases failed
    · split at failed
      · cases failed
        exact .tooLong
      · cases failed

theorem isOfTest_of_mapError {outcome : Except Fault Bool} {failure : Failure}
    (each : ∀ {fault}, outcome = .error fault → Failure.IsOfTest (.value fault))
    (failed : outcome.mapError .value = .error failure) : failure.IsOfTest := by
  cases outcome with
  | ok held => cases failed
  | error fault =>
    obtain rfl : Failure.value fault = failure := Except.error.inj failed
    exact each rfl

/-- **What the test of a built-in operator fails with.** -/
theorem isOfTest_of_holds {operator : Operator} {failure : Failure}
    (failed : operator.holds fact value = .error failure) : failure.IsOfTest := by
  cases operator with
  | equal => exact isOfTest_of_mapError isOfTest_of_factEquals failed
  | notEqual =>
    exact isOfTest_of_mapError (fun found => isOfTest_of_factEquals (of_map_eq_error found)) failed
  | compare relation => exact isOfTest_of_mapError isOfTest_of_comparePresent failed
  | isIn => exact isOfTest_of_mapError isOfTest_of_factIsIn failed
  | isNotIn =>
    exact isOfTest_of_mapError (fun found => isOfTest_of_factIsIn (of_map_eq_error found)) failed
  | contains => exact isOfTest_of_mapError isOfTest_of_factContains failed
  | doesNotContain =>
    exact isOfTest_of_mapError (fun found => isOfTest_of_factContains (of_map_eq_error found))
      failed
  | between => exact isOfTest_of_mapError isOfTest_of_liesBetween failed
  | isNull => cases failed
  | isNotNull => cases failed
  | isNil => cases failed
  | isNotNil => cases failed
  | startsWith => exact isOfTest_of_textHolds failed
  | endsWith => exact isOfTest_of_textHolds failed

end Operator

end QueryDesk
