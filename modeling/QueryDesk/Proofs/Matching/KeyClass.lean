/-
**Values that may be keys fall into classes.**

* `KeyClass` — what the equality of values looks at: the place of a number, the content of a text,
  the instant of a moment and whether it has an offset, and for a tuple the classes of its parts.
* `Value.class?` — the class of a value; what is not a number has none, so that it equals nothing.
* `Value.equal_of_checkKey` — the equality of two values that may be keys is never a fault, and it
  holds when both are of one class.
* `RowKey.same_symm`, `RowKey.same_trans` — so the keys by which rows are matched are the same or
  not symmetrically and transitively; a key that is not a number is not even the same as itself.
-/

import QueryDesk.ResultSet.Diff
import QueryDesk.Proofs.Value.Keys

namespace QueryDesk

/-- What the equality of values looks at. -/
inductive KeyClass where
  | nothing
  | number (place : Magnitude)
  | text (content : String)
  | date (day : Date)
  | datetime (hasOffset : Bool) (instant : Int)
  | time (hasOffset : Bool) (instant : Int)
  | tuple (parts : List KeyClass)

namespace Magnitude

/-- Places are the same when they are equal, unless there is no number. -/
theorem same_iff (left right : Magnitude) :
    left.same right = true ↔ left = right ∧ left.isNaN = false := by
  cases left <;> cases right <;> simp [same, isNaN]

/-- Only decimals can be signalling. -/
theorem isSignalling_ofDecimal (number : Decimal) :
    (ofDecimal number).isSignalling = number.isSignalling := by
  cases number <;> rfl

theorem isSignalling_ofDouble (number : Binary64) : (ofDouble number).isSignalling = false := by
  cases number <;> rfl

end Magnitude

namespace Value

/-- The class of a number; what is not a number has none. -/
def numberClass? (place : Magnitude) : Option KeyClass :=
  if place.isNaN then none else some (.number place)

/-- The class of a value that holds no others. -/
def atomClass? (value : Value) : Option KeyClass :=
  match value.magnitude? with
  | some place => numberClass? place
  | none =>
    match value with
    | .null => some .nothing
    | .text content => some (.text content)
    | .date day => some (.date day)
    | .datetime moment => some (.datetime moment.time.offset.isSome moment.instant)
    | .time clock => some (.time clock.offset.isSome clock.instant)
    | _ => none

mutual

/-- The class of a value. -/
def class? : Value → Option KeyClass
  | .tuple items => (classes? items).map KeyClass.tuple
  | value => value.atomClass?

/-- The classes of several values. -/
def classes? : List Value → Option (List KeyClass)
  | [] => some []
  | item :: rest =>
    match class? item, classes? rest with
    | some first, some others => some (first :: others)
    | _, _ => none

end

/-! ### Values that hold no others -/

/-- A value that may be a key is not signalling. -/
theorem isSignalling_of_checkKey {value : Value} (may : value.checkKey = .ok ()) {place : Magnitude}
    (found : value.magnitude? = some place) : place.isSignalling = false := by
  cases value <;> simp only [magnitude?, Option.some.injEq, reduceCtorEq] at found <;> subst found
  case bool => rfl
  case int => rfl
  case double number => exact Magnitude.isSignalling_ofDouble number
  case decimal number =>
    rw [Magnitude.isSignalling_ofDecimal]
    refine Bool.eq_false_iff.2 fun signalling => ?_
    rw [checkKey, if_pos signalling] at may
    cases may

theorem atomClass?_of_number {value : Value} {place : Magnitude}
    (found : value.magnitude? = some place) : value.atomClass? = numberClass? place := by
  unfold atomClass?
  rw [found]

/-- Two numbers of one class stand at the same place. -/
theorem numberClass?_shared (left right : Magnitude) :
    (∃ kind, numberClass? left = some kind ∧ numberClass? right = some kind) ↔
      left = right ∧ left.isNaN = false := by
  unfold numberClass?
  constructor
  · rintro ⟨kind, here, there⟩
    split at here
    · cases here
    · split at there
      · cases there
      · cases here
        cases there
        exact ⟨rfl, Bool.eq_false_iff.2 ‹_›⟩
  · rintro ⟨rfl, number⟩
    rw [number]
    exact ⟨_, rfl, rfl⟩

theorem atomClass?_ne_number {value : Value} (none_found : value.magnitude? = none)
    (place : Magnitude) : value.atomClass? ≠ some (.number place) := by
  unfold atomClass?
  rw [none_found]
  cases value <;> nofun

/-- A number is of the class of no other value. -/
theorem not_shared_of_number {number other : Value} {place : Magnitude}
    (found : number.magnitude? = some place) (none_found : other.magnitude? = none) :
    ¬ ∃ kind, number.atomClass? = some kind ∧ other.atomClass? = some kind := by
  rintro ⟨kind, here, there⟩
  rw [atomClass?_of_number found, numberClass?] at here
  split at here
  · cases here
  · cases here
    exact atomClass?_ne_number none_found place there

/-- **Equality of values that hold no others** is that of their classes. -/
theorem equalAtoms_of_checkKey {a b : Value} (left : a.checkKey = .ok ())
    (right : b.checkKey = .ok ()) :
    ∃ same, equalAtoms a b = .ok same ∧
      (same = true ↔ ∃ kind, a.atomClass? = some kind ∧ b.atomClass? = some kind) := by
  cases numberA : a.magnitude? with
  | some placeA =>
    cases numberB : b.magnitude? with
    | some placeB =>
      refine ⟨placeA.same placeB, ?_, ?_⟩
      · have quietA := isSignalling_of_checkKey left numberA
        have quietB := isSignalling_of_checkKey right numberB
        simp [equalAtoms, numberA, numberB, quietA, quietB]
      · rw [atomClass?_of_number numberA, atomClass?_of_number numberB, numberClass?_shared]
        exact Magnitude.same_iff placeA placeB
    | none =>
      refine ⟨false, ?_, by simpa using not_shared_of_number numberA numberB⟩
      unfold equalAtoms
      rw [numberB]
      cases a <;> cases numberA <;> rfl
  | none =>
    cases numberB : b.magnitude? with
    | some placeB =>
      refine ⟨false, ?_, ?_⟩
      · cases b <;> cases numberB <;> cases a <;> cases numberA <;> rfl
      · have apart := not_shared_of_number numberB numberA
        refine ⟨nofun, ?_⟩
        rintro ⟨kind, here, there⟩
        exact absurd ⟨kind, there, here⟩ apart
    | none =>
      cases a <;> cases numberA <;> cases b <;> cases numberB <;>
        refine ⟨_, rfl, ?_⟩ <;> simp [atomClass?, magnitude?]
      case datetime.refl.datetime.refl => exact and_congr eq_comm eq_comm
      case time.refl.time.refl => exact and_congr eq_comm eq_comm
      case date.refl.date.refl => exact eq_comm
      case text.refl.text.refl => exact eq_comm

/-! ### All values -/

/-- Two values are of one class. -/
def SameClass (a b : Value) : Prop := ∃ kind, a.class? = some kind ∧ b.class? = some kind

theorem SameClass.symm {a b : Value} : SameClass a b → SameClass b a
  | ⟨kind, here, there⟩ => ⟨kind, there, here⟩

theorem SameClass.trans {a b c : Value} : SameClass a b → SameClass b c → SameClass a c := by
  rintro ⟨kind, here, there⟩ ⟨other, again, beyond⟩
  obtain rfl : kind = other := Option.some.inj (there.symm.trans again)
  exact ⟨kind, here, beyond⟩

/-- The classes of two lists agree when those of their first elements and of the others do. -/
theorem classes?_shared (a b : Value) (left right : List Value) :
    (∃ parts, classes? (a :: left) = some parts ∧ classes? (b :: right) = some parts) ↔
      SameClass a b ∧ ∃ parts, classes? left = some parts ∧ classes? right = some parts := by
  rw [classes?, classes?]
  constructor
  · rintro ⟨parts, here, there⟩
    split at here
    · split at there
      · rename_i first others foundA restA _ _ _ _ foundB restB
        cases here
        cases there
        exact ⟨⟨first, foundA, foundB⟩, others, restA, restB⟩
      · cases there
    · cases here
  · rintro ⟨⟨kind, foundA, foundB⟩, parts, restA, restB⟩
    rw [foundA, foundB, restA, restB]
    exact ⟨kind :: parts, rfl, rfl⟩

theorem classes?_cons_ne_nil (item : Value) (rest : List Value) :
    classes? (item :: rest) ≠ some [] := by
  rw [classes?]
  split <;> nofun

/-- Only a tuple is of the class of a tuple. -/
theorem atomClass?_ne_tuple (value : Value) (parts : List KeyClass) :
    value.atomClass? ≠ some (.tuple parts) := by
  unfold atomClass? numberClass?
  split
  · split <;> nofun
  · split <;> nofun

/-- Values that may be keys, not both of them tuples, are compared as values that hold no others. -/
theorem equal_of_not_tuples {a b : Value} (may : a.checkKey = .ok ())
    (apart : ∀ items others, a = .tuple items → b = .tuple others → False) :
    equal a b = equalAtoms a b := by
  rw [equal]
  · rintro items _ rfl _
    cases may
  · exact apart
  · rintro items _ rfl _
    cases may
  · rintro entries _ rfl _
    cases may

theorem class?_of_not_tuple {value : Value} (plain : ∀ items, value ≠ .tuple items) :
    value.class? = value.atomClass? := by
  rw [class?]
  exact plain

/-- A tuple equals nothing but tuples. -/
theorem not_sameClass_tuple {items : List Value} {other : Value}
    (plain : ∀ others, other ≠ .tuple others) : ¬ SameClass (.tuple items) other := by
  rintro ⟨kind, here, there⟩
  rw [class?] at here
  rw [class?_of_not_tuple plain] at there
  obtain ⟨parts, _, rfl⟩ := Option.map_eq_some_iff.1 here
  exact atomClass?_ne_tuple other parts there

theorem not_sameClass_of_one_tuple {a b : Value}
    (apart : ∀ items others, a = .tuple items → b = .tuple others → False)
    (one : (∃ items, a = .tuple items) ∨ ∃ items, b = .tuple items) : ¬ SameClass a b := by
  rcases one with ⟨items, rfl⟩ | ⟨items, rfl⟩
  · exact not_sameClass_tuple fun others tuple => apart items others rfl tuple
  · exact fun same => not_sameClass_tuple (fun others tuple => apart others items tuple rfl)
      same.symm

/-- Values that may be keys, not both of them tuples, are equal when they are of one class. -/
theorem equal_of_checkKey_of_not_tuples {a b : Value} (mayA : a.checkKey = .ok ())
    (mayB : b.checkKey = .ok ())
    (apart : ∀ items others, a = .tuple items → b = .tuple others → False) :
    ∃ same, equal a b = .ok same ∧ (same = true ↔ SameClass a b) := by
  obtain ⟨same, computed, holds⟩ := equalAtoms_of_checkKey mayA mayB
  refine ⟨same, (equal_of_not_tuples mayA apart).trans computed, holds.trans ?_⟩
  by_cases one : (∃ items, a = .tuple items) ∨ ∃ items, b = .tuple items
  · refine iff_of_false ?_ (not_sameClass_of_one_tuple apart one)
    rintro ⟨kind, here, there⟩
    rcases one with ⟨items, rfl⟩ | ⟨items, rfl⟩
    · cases here
    · cases there
  · obtain ⟨plainA, plainB⟩ := not_or.1 one
    unfold SameClass
    rw [class?_of_not_tuple fun items tuple => plainA ⟨items, tuple⟩,
      class?_of_not_tuple fun items tuple => plainB ⟨items, tuple⟩]

/-- Tuples are of one class when their elements are, one by one. -/
theorem sameClass_tuples (left right : List Value) :
    SameClass (.tuple left) (.tuple right) ↔
      ∃ parts, classes? left = some parts ∧ classes? right = some parts := by
  unfold SameClass
  rw [class?, class?]
  constructor
  · rintro ⟨kind, here, there⟩
    obtain ⟨parts, found, rfl⟩ := Option.map_eq_some_iff.1 here
    obtain ⟨others, again, same_parts⟩ := Option.map_eq_some_iff.1 there
    cases same_parts
    exact ⟨parts, found, again⟩
  · rintro ⟨parts, here, there⟩
    rw [here, there]
    exact ⟨_, rfl, rfl⟩

mutual

/-- **Equality of values that may be keys** is never a fault: it holds when both
are of one class. -/
theorem equal_of_checkKey (a b : Value) (mayA : a.checkKey = .ok ()) (mayB : b.checkKey = .ok ()) :
    ∃ same, equal a b = .ok same ∧ (same = true ↔ SameClass a b) := by
  by_cases tuples : ∃ left right, a = .tuple left ∧ b = .tuple right
  · obtain ⟨left, right, wholeA, wholeB⟩ := tuples
    have keysA : checkKeys left = .ok () := by
      rwa [wholeA, checkKey] at mayA
    have keysB : checkKeys right = .ok () := by
      rwa [wholeB, checkKey] at mayB
    obtain ⟨same, computed, holds⟩ := equalItems_of_checkKeys left right keysA keysB
    rw [wholeA, wholeB, equal, sameClass_tuples]
    exact ⟨same, computed, holds⟩
  · exact equal_of_checkKey_of_not_tuples mayA mayB
      fun items others tupleA tupleB => tuples ⟨items, others, tupleA, tupleB⟩
termination_by sizeOf a
decreasing_by
  rw [wholeA]
  decreasing_tactic

theorem equalItems_of_checkKeys (left right : List Value) (keysA : checkKeys left = .ok ())
    (keysB : checkKeys right = .ok ()) :
    ∃ same, equalItems left right = .ok same ∧
      (same = true ↔ ∃ parts, classes? left = some parts ∧ classes? right = some parts) := by
  match left, right with
  | [], [] => exact ⟨true, by rw [equalItems], by simp [classes?]⟩
  | [], b :: right =>
    refine ⟨false, by rw [equalItems] <;> nofun, nofun, ?_⟩
    rintro ⟨parts, here, there⟩
    cases here
    exact absurd there (classes?_cons_ne_nil b right)
  | a :: left, [] =>
    refine ⟨false, by rw [equalItems] <;> nofun, nofun, ?_⟩
    rintro ⟨parts, here, there⟩
    cases there
    exact absurd here (classes?_cons_ne_nil a left)
  | a :: left, b :: right =>
    obtain ⟨mayA, restA⟩ := checkKeys_cons keysA
    obtain ⟨mayB, restB⟩ := checkKeys_cons keysB
    obtain ⟨first, computed, holds⟩ := equal_of_checkKey a b mayA mayB
    obtain ⟨others, computedRest, holdsRest⟩ := equalItems_of_checkKeys left right restA restB
    rw [classes?_shared, ← holds, ← holdsRest, equalItems, computed]
    cases first with
    | true => exact ⟨others, computedRest, by simp⟩
    | false => exact ⟨false, rfl, by simp⟩
termination_by sizeOf left

end

/-- **Values that may be keys are the same key when they are of one class.** -/
theorem sameKey_iff {a b : Value} (mayA : a.checkKey = .ok ()) (mayB : b.checkKey = .ok ()) :
    sameKey a b = true ↔ SameClass a b := by
  obtain ⟨same, computed, holds⟩ := equal_of_checkKey a b mayA mayB
  unfold sameKey
  rw [computed]
  exact holds

end Value

/-! ### Keys of rows -/

namespace RowKey

/-- The sameness of keys that can be looked up is symmetric. -/
theorem same_symm {a b : RowKey} (mayA : a.check = .ok ()) (mayB : b.check = .ok ())
    (holds : a.same b = true) : b.same a = true := by
  cases a <;> cases b <;> simp only [same, Bool.and_eq_true, beq_iff_eq,
    Bool.false_eq_true] at holds ⊢
  case composite => exact holds.symm
  case unique =>
    obtain ⟨truth, keys⟩ := holds
    exact ⟨truth.symm, (Value.sameKey_iff mayB mayA).2 ((Value.sameKey_iff mayA mayB).1 keys).symm⟩

/-- The sameness of keys that can be looked up is transitive. -/
theorem same_trans {a b c : RowKey} (mayA : a.check = .ok ()) (mayB : b.check = .ok ())
    (mayC : c.check = .ok ()) (first : a.same b = true) (second : b.same c = true) :
    a.same c = true := by
  cases a <;> cases b <;> cases c <;> simp only [same, Bool.and_eq_true, beq_iff_eq,
    Bool.false_eq_true] at first second ⊢
  case composite => exact first.trans second
  case unique =>
    refine ⟨first.1.trans second.1, (Value.sameKey_iff mayA mayC).2 ?_⟩
    exact ((Value.sameKey_iff mayA mayB).1 first.2).trans ((Value.sameKey_iff mayB mayC).1 second.2)

end RowKey

end QueryDesk
