/-
**When two values cannot be put in order.**

Two values can be compared when they are on one scale: both are numbers, texts, days, points in time
or times of day with or both without an offset, sets, or sequences of one kind. Sequences are
compared by their first different elements, so these decide whether they can be. A decimal cannot be
compared with what is not a number, which is no matter of scales but a fault.

* `Value.OneScale`, `Value.Unordered` — values on one scale; values without an order.
* `Value.OrderFails` — the pairs whose comparison comes to a fault: a decimal beside a not-a-number,
  or an equality test that fails on the way to the first difference.
* `Value.compare_eq_error_iff` — a comparison ends in one of these two ways or has a result.
-/

import Mathlib.Tactic.Tauto
import QueryDesk.Value.Order
import QueryDesk.Proofs.Value.Equality

namespace QueryDesk

/-! ### The two sides of a relation -/

namespace Relation

/-- Whether a relation excludes equality. -/
def isStrict : Relation → Bool
  | .less => true
  | .lessOrEqual => false
  | .greater => true
  | .greaterOrEqual => false

/-- The two sides of a relation, the one that is to be smaller first. -/
def upward {α : Type} (relation : Relation) (left right : α) : α × α :=
  match relation with
  | .less => (left, right)
  | .lessOrEqual => (left, right)
  | .greater => (right, left)
  | .greaterOrEqual => (right, left)

end Relation

namespace Value

variable {relation : Relation} {fault : Fault}

/-- Sets are related when the smaller is included in the larger, and is smaller
where it has to be. -/
theorem compareSets_eq (relation : Relation) (left right : List Value) :
    compareSets relation left right =
      if relation.isStrict = true →
          (relation.upward left right).1.length < (relation.upward left right).2.length then
        includedIn (relation.upward left right).1 (relation.upward left right).2
      else .ok false := by
  cases relation <;> simp [compareSets, Relation.isStrict, Relation.upward]

/-! ### Scales -/

/-- Two lists or two tuples, with their elements. -/
inductive Sequences : Value → Value → List Value → List Value → Prop
  | lists (left right : List Value) : Sequences (.list left) (.list right) left right
  | tuples (left right : List Value) : Sequences (.tuple left) (.tuple right) left right

/-- Two values are on one scale. -/
inductive OneScale : Value → Value → Prop
  | numbers {a b : Value} {left right : Magnitude} (first : a.magnitude? = some left)
      (second : b.magnitude? = some right) : OneScale a b
  | texts (left right : String) : OneScale (.text left) (.text right)
  | dates (left right : Date) : OneScale (.date left) (.date right)
  | datetimes {left right : Datetime}
      (offsets : left.time.offset.isSome = right.time.offset.isSome) :
      OneScale (.datetime left) (.datetime right)
  | times {left right : Time} (offsets : left.offset.isSome = right.offset.isSome) :
      OneScale (.time left) (.time right)
  | sequences {a b : Value} {left right : List Value} (elements : Sequences a b left right) :
      OneScale a b
  | sets (left right : List Value) : OneScale (.set left) (.set right)

/-- Two values cannot be put in order: they are on different scales, or are sequences whose first
different elements cannot be put in order. -/
inductive Unordered : Value → Value → Prop
  | apart {a b : Value} (scales : ¬ OneScale a b) : Unordered a b
  | elements {a b : Value} {left right : List Value} {before behind : List (Value × Value)}
      {c d : Value} (sequences : Sequences a b left right)
      (parts : left.zip right = before ++ (c, d) :: behind)
      (same : ∀ pair ∈ before, equal pair.1 pair.2 = .ok true) (differ : equal c d = .ok false)
      (broken : Unordered c d) : Unordered a b

/-- A comparison of two values fails: one is a decimal and one is not a number, or they are
containers and the comparison comes to elements for which an equality test or a comparison fails. -/
inductive OrderFails (relation : Relation) : Value → Value → Prop
  | numbers {a b : Value} {left right : Magnitude} (first : a.magnitude? = some left)
      (second : b.magnitude? = some right) (exact : a.isDecimal = true ∨ b.isDecimal = true)
      (undefined : left.isNaN = true ∨ right.isNaN = true) : OrderFails relation a b
  | equality {a b : Value} {left right : List Value} {before behind : List (Value × Value)}
      {c d : Value} (sequences : Sequences a b left right)
      (parts : left.zip right = before ++ (c, d) :: behind)
      (same : ∀ pair ∈ before, equal pair.1 pair.2 = .ok true) (broken : EqualityFails c d) :
      OrderFails relation a b
  | order {a b : Value} {left right : List Value} {before behind : List (Value × Value)}
      {c d : Value} (sequences : Sequences a b left right)
      (parts : left.zip right = before ++ (c, d) :: behind)
      (same : ∀ pair ∈ before, equal pair.1 pair.2 = .ok true) (differ : equal c d = .ok false)
      (broken : OrderFails relation c d) : OrderFails relation a b
  | inclusion {left right : List Value}
      (proper : relation.isStrict = true →
        (relation.upward left right).1.length < (relation.upward left right).2.length)
      (broken : InclusionFails (relation.upward left right).1 (relation.upward left right).2) :
      OrderFails relation (.set left) (.set right)

/-- How a comparison ends that has no result. -/
def EndsIn (relation : Relation) (a b : Value) (fault : Fault) : Prop :=
  fault = .incomparable ∧ Unordered a b ∨ fault = .invalidOperation ∧ OrderFails relation a b

/-! ### Values that hold no others -/

theorem compareAtoms_of_numbers {a b : Value} {left right : Magnitude}
    (first : a.magnitude? = some left) (second : b.magnitude? = some right) :
    compareAtoms relation a b = .error fault ↔
      fault = .invalidOperation ∧ (a.isDecimal = true ∨ b.isDecimal = true) ∧
        (left.isNaN = true ∨ right.isNaN = true) := by
  unfold compareAtoms
  simp only [first, second]
  by_cases undefined : (a.isDecimal = true ∨ b.isDecimal = true) ∧
      (left.isNaN = true ∨ right.isNaN = true)
  · have noted : ((a.isDecimal || b.isDecimal) && (left.isNaN || right.isNaN)) = true := by
      simpa using undefined
    simp only [noted, if_true]
    exact ⟨fun found => ⟨(Except.error.inj found).symm, undefined⟩,
      fun ⟨invalid, _⟩ => congrArg Except.error invalid.symm⟩
  · have noted : ¬ ((a.isDecimal || b.isDecimal) && (left.isNaN || right.isNaN)) = true := by
      simpa using undefined
    simp only [noted]
    exact iff_of_false nofun fun ⟨_, found⟩ => undefined found

theorem compareAtoms_of_no_numbers {a b : Value}
    (numbers : ∀ left right, a.magnitude? = some left → b.magnitude? = some right → False)
    (sequences : ∀ left right, ¬ Sequences a b left right)
    (sets : ∀ left right, a = .set left → b = .set right → False) :
    compareAtoms relation a b = .error fault ↔ fault = .incomparable ∧ ¬ OneScale a b := by
  unfold compareAtoms
  split
  · rename_i first second
    exact (numbers _ _ first second).elim
  · split
    · exact iff_of_false nofun fun ⟨_, apart⟩ => apart (.texts _ _)
    · exact iff_of_false nofun fun ⟨_, apart⟩ => apart (.dates _ _)
    · rename_i left right _
      by_cases offsets : left.time.offset.isSome = right.time.offset.isSome
      · rw [if_pos offsets]
        exact iff_of_false nofun fun ⟨_, apart⟩ => apart (.datetimes offsets)
      · rw [if_neg offsets, Except.error.injEq, eq_comm, iff_self_and]
        intro _ scale
        cases scale with
        | numbers first second => exact numbers _ _ first second
        | datetimes agree => exact offsets agree
        | sequences elements => exact sequences _ _ elements
    · rename_i left right _
      by_cases offsets : left.offset.isSome = right.offset.isSome
      · rw [if_pos offsets]
        exact iff_of_false nofun fun ⟨_, apart⟩ => apart (.times offsets)
      · rw [if_neg offsets, Except.error.injEq, eq_comm, iff_self_and]
        intro _ scale
        cases scale with
        | numbers first second => exact numbers _ _ first second
        | times agree => exact offsets agree
        | sequences elements => exact sequences _ _ elements
    · rename_i texts dates datetimes times
      rw [Except.error.injEq, eq_comm, iff_self_and]
      intro _ scale
      cases scale with
      | numbers first second => exact numbers _ _ first second
      | texts => exact texts _ _ rfl rfl
      | dates => exact dates _ _ rfl rfl
      | datetimes => exact datetimes _ _ rfl rfl
      | times => exact times _ _ rfl rfl
      | sequences elements => exact sequences _ _ elements
      | sets => exact sets _ _ rfl rfl

/-- Where two values that are neither sequences nor sets fail to be compared. -/
theorem compareAtoms_eq_error_iff {a b : Value}
    (sequences : ∀ left right, ¬ Sequences a b left right)
    (sets : ∀ left right, a = .set left → b = .set right → False) :
    compareAtoms relation a b = .error fault ↔ EndsIn relation a b fault := by
  have unordered : Unordered a b ↔ ¬ OneScale a b := by
    refine ⟨fun apart => ?_, .apart⟩
    cases apart with
    | apart scales => exact scales
    | elements elements => exact absurd elements (sequences _ _)
  have fails : OrderFails relation a b ↔ ∃ left right, a.magnitude? = some left ∧
      b.magnitude? = some right ∧ (a.isDecimal = true ∨ b.isDecimal = true) ∧
        (left.isNaN = true ∨ right.isNaN = true) := by
    constructor
    · intro fails
      cases fails with
      | numbers first second exact undefined => exact ⟨_, _, first, second, exact, undefined⟩
      | equality elements => exact absurd elements (sequences _ _)
      | order elements => exact absurd elements (sequences _ _)
      | inclusion => exact (sets _ _ rfl rfl).elim
    · rintro ⟨left, right, first, second, exact, undefined⟩
      exact .numbers first second exact undefined
  rw [EndsIn, unordered, fails]
  -- two numbers are never without an order, anything else never comes to a not-a-number
  by_cases numbers : ∃ left right, a.magnitude? = some left ∧ b.magnitude? = some right
  · obtain ⟨left, right, first, second⟩ := numbers
    rw [compareAtoms_of_numbers first second]
    have scale : OneScale a b := .numbers first second
    simp [first, second, scale]
  · have apart : ∀ left right, a.magnitude? = some left → b.magnitude? = some right → False :=
      fun left right first second => numbers ⟨left, right, first, second⟩
    rw [compareAtoms_of_no_numbers apart sequences sets]
    refine (or_iff_left ?_).symm
    rintro ⟨_, left, right, first, second, _⟩
    exact apart left right first second

/-! ### Sequences -/

/-- By induction on the elements: the first pair that differs decides, if no
pair before it fails. -/
theorem compareItems_eq_error_iff (left : List Value) :
    ∀ right : List Value, compareItems relation left right = .error fault ↔
      StopsAt (fun pair => equal pair.1 pair.2 = .ok true)
        (fun pair => fault = .invalidOperation ∧ EqualityFails pair.1 pair.2 ∨
          equal pair.1 pair.2 = .ok false ∧ compare relation pair.1 pair.2 = .error fault)
        (left.zip right) := by
  induction left with
  | nil => intro right; cases right <;> simp [compareItems]
  | cons a left ih =>
    intro right
    cases right with
    | nil => simp [compareItems]
    | cons b right =>
      rw [compareItems, List.zip_cons_cons, stopsAt_cons, ← ih right,
        ← equal_eq_error_iff a b fault]
      cases equal a b with
      | error found => simp [bind, Except.bind]
      | ok same => cases same <;> simp [bind, Except.bind]

theorem unordered_sequences_iff {a b : Value} {left right : List Value}
    (sequences : Sequences a b left right) :
    Unordered a b ↔ StopsAt (fun pair => equal pair.1 pair.2 = .ok true)
      (fun pair => equal pair.1 pair.2 = .ok false ∧ Unordered pair.1 pair.2) (left.zip right) := by
  constructor
  · intro unordered
    cases unordered with
    | apart scales => exact absurd (.sequences sequences) scales
    | elements others parts same differ broken =>
      cases sequences <;> cases others <;> exact ⟨_, _, _, parts, same, differ, broken⟩
  · rintro ⟨before, pair, behind, parts, same, differ, broken⟩
    exact .elements sequences parts same differ broken

theorem orderFails_sequences_iff {a b : Value} {left right : List Value}
    (sequences : Sequences a b left right) :
    OrderFails relation a b ↔ StopsAt (fun pair => equal pair.1 pair.2 = .ok true)
      (fun pair => EqualityFails pair.1 pair.2 ∨
        equal pair.1 pair.2 = .ok false ∧ OrderFails relation pair.1 pair.2) (left.zip right) := by
  constructor
  · intro fails
    cases fails with
    | numbers first => cases sequences <;> cases first
    | equality others parts same broken =>
      cases sequences <;> cases others <;> exact ⟨_, _, _, parts, same, .inl broken⟩
    | order others parts same differ broken =>
      cases sequences <;> cases others <;> exact ⟨_, _, _, parts, same, .inr ⟨differ, broken⟩⟩
    | inclusion => cases sequences
  · rintro ⟨before, pair, behind, parts, same, broken | ⟨differ, broken⟩⟩
    · exact .equality sequences parts same broken
    · exact .order sequences parts same differ broken

/-- Sequences end a comparison as their first different elements do. -/
theorem compareItems_endsIn {a b : Value} {left right : List Value}
    (sequences : Sequences a b left right)
    (elements : ∀ c ∈ left, ∀ d, compare relation c d = .error fault ↔ EndsIn relation c d fault) :
    compareItems relation left right = .error fault ↔ EndsIn relation a b fault := by
  rw [compareItems_eq_error_iff, EndsIn, unordered_sequences_iff sequences,
    orderFails_sequences_iff sequences, ← stopsAt_and_left, ← stopsAt_and_left, ← stopsAt_or]
  refine stopsAt_congr fun pair inside => ?_
  rw [elements pair.1 (List.of_mem_zip inside).1 pair.2, EndsIn]
  tauto

/-! ### All values -/

theorem orderFails_set_iff (left right : List Value) :
    OrderFails relation (.set left) (.set right) ↔
      (relation.isStrict = true →
        (relation.upward left right).1.length < (relation.upward left right).2.length) ∧
      InclusionFails (relation.upward left right).1 (relation.upward left right).2 := by
  constructor
  · intro fails
    cases fails with
    | numbers first => cases first
    | equality sequences => cases sequences
    | order sequences => cases sequences
    | inclusion proper broken => exact ⟨proper, broken⟩
  · exact fun ⟨proper, broken⟩ => .inclusion proper broken

theorem not_unordered_sets (left right : List Value) : ¬ Unordered (.set left) (.set right) := by
  intro unordered
  cases unordered with
  | apart scales => exact scales (.sets left right)
  | elements sequences => cases sequences

/-- **How a comparison ends that has no result**: the values cannot be put in order, or it comes to
a decimal and a not-a-number. The induction is on the first value. -/
theorem compare_eq_error_iff (relation : Relation) (fault : Fault) (a : Value) :
    ∀ b, compare relation a b = .error fault ↔ EndsIn relation a b fault := by
  induction a using induction_on_parts with
  | step a ih =>
    intro b
    unfold compare
    split
    · exact compareItems_endsIn (.lists _ _) ih
    · exact compareItems_endsIn (.tuples _ _) ih
    · rename_i left right
      rw [compareSets_eq, ite_ok_eq_error_iff (includedIn_eq_error_iff
        (fun a _ => equal_eq_error_iff a) _), EndsIn, orderFails_set_iff]
      simp [not_unordered_sets]
    · rename_i lists tuples sets
      refine compareAtoms_eq_error_iff (fun left right sequences => ?_) sets
      cases sequences with
      | lists => exact lists _ _ rfl rfl
      | tuples => exact tuples _ _ rfl rfl

end Value

end QueryDesk
