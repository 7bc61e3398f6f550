/-
**When an equality test of values fails.**

A signalling not-a-number cannot be compared with a number. A test of containers is made
element by element and ends at the first difference, so it fails when it comes to such a pair
behind elements that are equal.

* `Value.parts`, `Value.induction_on_parts` — the values a container holds, and
  the induction on them.
* `Value.EqualityFails` — the pairs of values whose equality test fails, with
  one case per container.
* `Value.equal_eq_error_iff` — there are no others, and no other fault: by
  induction on the first value.
* `Value.SearchFails`, `Value.memberOf_eq_error_iff` — a search among several values fails when it
  comes to such a pair behind values that differ.
-/

import QueryDesk.Value.Equality
import QueryDesk.Proofs.Search

namespace QueryDesk.Value

/-! ### Induction on the parts of a value -/

/-- The values a container holds, keys included. -/
def parts : Value → List Value
  | .list items => items
  | .tuple items => items
  | .set items => items
  | .dict entries => entries.flatMap fun entry => [entry.1, entry.2]
  | _ => []

theorem key_mem_parts {entries : List (Value × Value)} {entry : Value × Value}
    (inside : entry ∈ entries) : entry.1 ∈ (Value.dict entries).parts :=
  List.mem_flatMap.2 ⟨entry, inside, List.mem_cons_self⟩

theorem value_mem_parts {entries : List (Value × Value)} {entry : Value × Value}
    (inside : entry ∈ entries) : entry.2 ∈ (Value.dict entries).parts :=
  List.mem_flatMap.2 ⟨entry, inside, List.mem_cons_of_mem _ List.mem_cons_self⟩

/-- The parts of a value are smaller than it. -/
theorem sizeOf_lt_of_mem_parts {part value : Value} (inside : part ∈ value.parts) :
    sizeOf part < sizeOf value := by
  cases value with
  | list items =>
    have smaller : sizeOf part < sizeOf items := List.sizeOf_lt_of_mem inside
    rw [list.sizeOf_spec]
    omega
  | tuple items =>
    have smaller : sizeOf part < sizeOf items := List.sizeOf_lt_of_mem inside
    rw [tuple.sizeOf_spec]
    omega
  | set items =>
    have smaller : sizeOf part < sizeOf items := List.sizeOf_lt_of_mem inside
    rw [set.sizeOf_spec]
    omega
  | dict entries =>
    obtain ⟨⟨key, value⟩, member, either⟩ := List.mem_flatMap.1 inside
    have smaller := List.sizeOf_lt_of_mem member
    simp at either smaller ⊢
    rcases either with rfl | rfl <;> omega
  | _ => cases inside

/-- **Induction on values**: what holds of a value when it holds of its parts holds of all. -/
@[elab_as_elim]
theorem induction_on_parts {claim : Value → Prop}
    (step : ∀ value, (∀ part ∈ value.parts, claim part) → claim value) (value : Value) :
    claim value :=
  step value fun part _ => induction_on_parts step part
termination_by sizeOf value
decreasing_by
  rename_i inside
  exact sizeOf_lt_of_mem_parts inside

/-! ### Searches -/

/-- A search fails at the first value that fails, if none before it passes. -/
theorem anyOf_eq_error_iff (test : Value → Except Fault Bool) (fault : Fault) (items : List Value) :
    anyOf test items = .error fault ↔
      StopsAt (fun item => test item = .ok false) (fun item => test item = .error fault) items := by
  induction items with
  | nil => simp [anyOf]
  | cons first rest ih =>
    rw [anyOf, stopsAt_cons, ← ih]
    cases test first with
    | error found => simp [bind, Except.bind]
    | ok held => cases held <;> simp [bind, Except.bind, pure, Except.pure]

/-- A look-up fails at the first key that fails, if none before it passes. -/
theorem findEntry_eq_error_iff (test : Value → Except Fault Bool) (fault : Fault)
    (entries : List (Value × Value)) :
    findEntry test entries = .error fault ↔
      StopsAt (fun entry => test entry.1 = .ok false) (fun entry => test entry.1 = .error fault)
        entries := by
  induction entries with
  | nil => simp [findEntry]
  | cons first rest ih =>
    rw [findEntry, stopsAt_cons, ← ih]
    cases test first.1 with
    | error found => simp [bind, Except.bind]
    | ok held => cases held <;> simp [bind, Except.bind, pure, Except.pure]

/-! ### Equality tests that fail -/

/-- A dict has an entry equal to another: the one under its key. -/
def HasEntry (entries : List (Value × Value)) (entry : Value × Value) : Prop :=
  ∃ value, findEntry (equal entry.1) entries = .ok (some value) ∧ equal entry.2 value = .ok true

/-- An equality test fails: it comes to a signalling not-a-number and a number. The elements of
lists and tuples are tested one by one, those of sets against all of the other set, and the entries
of dicts by their keys first. -/
inductive EqualityFails : Value → Value → Prop
  | numbers {a b : Value} {left right : Magnitude} (first : a.magnitude? = some left)
      (second : b.magnitude? = some right)
      (signals : left.isSignalling = true ∨ right.isSignalling = true) : EqualityFails a b
  | list {left right : List Value} {before behind : List (Value × Value)} {a b : Value}
      (sizes : left.length = right.length) (parts : left.zip right = before ++ (a, b) :: behind)
      (same : ∀ pair ∈ before, equal pair.1 pair.2 = .ok true) (broken : EqualityFails a b) :
      EqualityFails (.list left) (.list right)
  | tuple {left right : List Value} {before behind : List (Value × Value)} {a b : Value}
      (parts : left.zip right = before ++ (a, b) :: behind)
      (same : ∀ pair ∈ before, equal pair.1 pair.2 = .ok true) (broken : EqualityFails a b) :
      EqualityFails (.tuple left) (.tuple right)
  | set {left right before behind passed others : List Value} {a b : Value}
      (sizes : left.length = right.length) (parts : left = before ++ a :: behind)
      (included : ∀ earlier ∈ before, anyOf (equal earlier) right = .ok true)
      (places : right = passed ++ b :: others)
        (differ : ∀ other ∈ passed, equal a other = .ok false)
      (broken : EqualityFails a b) : EqualityFails (.set left) (.set right)
  | dictKey {left right before behind passed others : List (Value × Value)} {a b : Value × Value}
      (sizes : left.length = right.length) (parts : left = before ++ a :: behind)
      (included : ∀ earlier ∈ before, HasEntry right earlier)
      (places : right = passed ++ b :: others)
      (differ : ∀ other ∈ passed, equal a.1 other.1 = .ok false) (broken : EqualityFails a.1 b.1) :
      EqualityFails (.dict left) (.dict right)
  | dictValue {left right before behind : List (Value × Value)} {a : Value × Value} {b : Value}
      (sizes : left.length = right.length) (parts : left = before ++ a :: behind)
      (included : ∀ earlier ∈ before, HasEntry right earlier)
      (found : findEntry (equal a.1) right = .ok (some b)) (broken : EqualityFails a.2 b) :
      EqualityFails (.dict left) (.dict right)

/-- A test of inclusion fails: the search for some element of the first list in the second fails,
and the elements before it were found. -/
def InclusionFails (left right : List Value) : Prop :=
  StopsAt (fun a => anyOf (equal a) right = .ok true)
    (fun a => StopsAt (fun b => equal a b = .ok false) (EqualityFails a) right) left

/-- The faults of the equality tests of a value are those that `EqualityFails` describes. -/
def FailsAsSaid (a : Value) : Prop :=
  ∀ b fault, equal a b = .error fault ↔ fault = .invalidOperation ∧ EqualityFails a b

/-! ### One kind of values at a time -/

/-- Only a signalling number fails to be compared with another number. -/
theorem equalAtoms_eq_error_iff (a b : Value) (fault : Fault) :
    equalAtoms a b = .error fault ↔ fault = .invalidOperation ∧ ∃ left right,
      a.magnitude? = some left ∧ b.magnitude? = some right ∧
        (left.isSignalling = true ∨ right.isSignalling = true) := by
  unfold equalAtoms
  cases first : a.magnitude? with
  | none => simp
  | some left =>
    cases second : b.magnitude? with
    | none => simp
    | some right =>
      by_cases signals : left.isSignalling = true ∨ right.isSignalling = true
      · have noted : (left.isSignalling || right.isSignalling) = true := by simpa using signals
        simp only [noted, if_true]
        exact ⟨fun found => ⟨(Except.error.inj found).symm, left, right, rfl, rfl, signals⟩,
          fun ⟨invalid, _⟩ => congrArg Except.error invalid.symm⟩
      · simp [signals]

section Containers

variable {fault : Fault}

/-- Lists fail at the first pair that fails, if all pairs before it are equal. -/
theorem equalItems_eq_error_iff {left : List Value} (elements : ∀ a ∈ left, FailsAsSaid a) :
    ∀ right : List Value, equalItems left right = .error fault ↔
      fault = .invalidOperation ∧ StopsAt (fun pair => equal pair.1 pair.2 = .ok true)
        (fun pair => EqualityFails pair.1 pair.2) (left.zip right) := by
  induction left with
  | nil => intro right; cases right <;> simp [equalItems]
  | cons a left ih =>
    intro right
    cases right with
    | nil => simp [equalItems]
    | cons b right =>
      obtain ⟨here, others⟩ := List.forall_mem_cons.1 elements
      rw [equalItems, List.zip_cons_cons, stopsAt_cons, and_or_left, and_left_comm,
        ← ih others right, ← here b fault]
      cases equal a b with
      | error found => simp [bind, Except.bind]
      | ok same => cases same <;> simp [bind, Except.bind, pure, Except.pure]

/-- An inclusion fails where it is said to, if this is so for the elements. -/
theorem includedIn_eq_error_iff {left : List Value} (elements : ∀ a ∈ left, FailsAsSaid a)
    (right : List Value) :
    includedIn left right = .error fault ↔ fault = .invalidOperation ∧
      InclusionFails left right := by
  unfold InclusionFails
  induction left with
  | nil => simp [includedIn]
  | cons a left ih =>
    obtain ⟨here, others⟩ := List.forall_mem_cons.1 elements
    have failed : anyOf (equal a) right = .error fault ↔ fault = .invalidOperation ∧
        StopsAt (fun b => equal a b = .ok false) (EqualityFails a) right := by
      rw [anyOf_eq_error_iff, ← stopsAt_and_left]
      simp only [here _ fault]
    rw [includedIn, stopsAt_cons, and_or_left, and_left_comm, ← ih others, ← failed]
    show (anyOf (equal a) right >>= _) = _ ↔ _
    cases anyOf (equal a) right with
    | error found => simp [bind, Except.bind]
    | ok same => cases same <;> simp [bind, Except.bind, pure, Except.pure]

/-- Entries fail where they are said to, if this is so for keys and values. -/
theorem equalEntries_eq_error_iff {left : List (Value × Value)}
    (elements : ∀ entry ∈ left, FailsAsSaid entry.1 ∧ FailsAsSaid entry.2)
    (right : List (Value × Value)) :
    equalEntries left right = .error fault ↔
      fault = .invalidOperation ∧ StopsAt (HasEntry right)
        (fun entry =>
          StopsAt (fun other => equal entry.1 other.1 = .ok false)
            (fun other => EqualityFails entry.1 other.1) right ∨
          ∃ value, findEntry (equal entry.1) right = .ok (some value) ∧
            EqualityFails entry.2 value) left := by
  induction left with
  | nil => simp [equalEntries]
  | cons entry left ih =>
    obtain ⟨⟨key, value⟩, others⟩ := List.forall_mem_cons.1 elements
    have lost : findEntry (equal entry.1) right = .error fault ↔ fault = .invalidOperation ∧
        StopsAt (fun other => equal entry.1 other.1 = .ok false)
          (fun other => EqualityFails entry.1 other.1) right := by
      rw [findEntry_eq_error_iff, ← stopsAt_and_left]
      simp only [key _ fault]
    rw [equalEntries, stopsAt_cons, and_or_left, and_or_left, and_left_comm, ← ih others, ← lost]
    unfold HasEntry
    show (findEntry (equal entry.1) right >>= _) = _ ↔ _
    cases findEntry (equal entry.1) right with
    | error found => simp [bind, Except.bind]
    | ok found =>
      cases found with
      | none => simp [bind, Except.bind, pure, Except.pure]
      | some counterpart =>
        simp only [reduceCtorEq, false_or, Except.ok.injEq, Option.some.injEq, exists_eq_left',
          ← value counterpart fault]
        show (equal entry.2 counterpart >>= _) = _ ↔ _
        cases equal entry.2 counterpart with
        | error found => simp [bind, Except.bind]
        | ok same => cases same <;> simp [bind, Except.bind, pure, Except.pure]

end Containers

/-! ### All values -/

/-- Where two lists fail to be compared. -/
theorem equalityFails_list_iff (left right : List Value) :
    EqualityFails (.list left) (.list right) ↔ left.length = right.length ∧
      StopsAt (fun pair => equal pair.1 pair.2 = .ok true) (fun pair => EqualityFails pair.1 pair.2)
        (left.zip right) := by
  constructor
  · intro fails
    cases fails with
    | numbers first => cases first
    | list sizes parts same broken => exact ⟨sizes, _, _, _, parts, same, broken⟩
  · rintro ⟨sizes, before, pair, behind, parts, same, broken⟩
    exact .list sizes parts same broken

theorem equalityFails_tuple_iff (left right : List Value) :
    EqualityFails (.tuple left) (.tuple right) ↔
      StopsAt (fun pair => equal pair.1 pair.2 = .ok true) (fun pair => EqualityFails pair.1 pair.2)
        (left.zip right) := by
  constructor
  · intro fails
    cases fails with
    | numbers first => cases first
    | tuple parts same broken => exact ⟨_, _, _, parts, same, broken⟩
  · rintro ⟨before, pair, behind, parts, same, broken⟩
    exact .tuple parts same broken

/-- Where two sets fail to be compared. -/
theorem equalityFails_set_iff (left right : List Value) :
    EqualityFails (.set left) (.set right) ↔
      left.length = right.length ∧ InclusionFails left right := by
  constructor
  · intro fails
    cases fails with
    | numbers first => cases first
    | set sizes parts included places differ broken =>
      exact ⟨sizes, _, _, _, parts, included, _, _, _, places, differ, broken⟩
  · rintro ⟨sizes, _, _, _, parts, included, _, _, _, places, differ, broken⟩
    exact .set sizes parts included places differ broken

/-- Where two dicts fail to be compared. -/
theorem equalityFails_dict_iff (left right : List (Value × Value)) :
    EqualityFails (.dict left) (.dict right) ↔ left.length = right.length ∧
      StopsAt (HasEntry right)
        (fun entry =>
          StopsAt (fun other => equal entry.1 other.1 = .ok false)
            (fun other => EqualityFails entry.1 other.1) right ∨
          ∃ value, findEntry (equal entry.1) right = .ok (some value) ∧
            EqualityFails entry.2 value) left := by
  constructor
  · intro fails
    cases fails with
    | numbers first => cases first
    | dictKey sizes parts included places differ broken =>
      exact ⟨sizes, _, _, _, parts, included, .inl ⟨_, _, _, places, differ, broken⟩⟩
    | dictValue sizes parts included found broken =>
      exact ⟨sizes, _, _, _, parts, included, .inr ⟨_, found, broken⟩⟩
  · rintro ⟨sizes, _, _, _, parts, included, ⟨_, _, _, places, differ, broken⟩ | ⟨_, found, broken⟩⟩
    · exact .dictKey sizes parts included places differ broken
    · exact .dictValue sizes parts included found broken

theorem ite_ok_eq_error_iff {condition : Prop} [Decidable condition] {held : Bool} {fault : Fault}
    {outcome : Except Fault Bool} {claim : Prop}
    (otherwise : outcome = .error fault ↔ fault = .invalidOperation ∧ claim) :
    (if condition then outcome else .ok held) = .error fault ↔
      fault = .invalidOperation ∧ condition ∧ claim := by
  by_cases holds : condition <;> simp [holds, otherwise]

/-- **When an equality test fails**: exactly when it comes to a signalling
not-a-number and a number, and always with the same fault. The induction is on the
first value, one case for each container. -/
theorem equal_eq_error_iff (a : Value) : FailsAsSaid a := by
  induction a using induction_on_parts with
  | step a ih =>
    intro b fault
    unfold equal
    split
    · rename_i left right
      rw [equalityFails_list_iff]
      exact ite_ok_eq_error_iff (equalItems_eq_error_iff ih right)
    · rename_i left right
      rw [equalityFails_tuple_iff]
      exact equalItems_eq_error_iff ih right
    · rename_i left right
      rw [equalityFails_set_iff]
      exact ite_ok_eq_error_iff (includedIn_eq_error_iff ih right)
    · rename_i left right
      rw [equalityFails_dict_iff]
      exact ite_ok_eq_error_iff (equalEntries_eq_error_iff
        (fun entry inside => ⟨ih _ (key_mem_parts inside), ih _ (value_mem_parts inside)⟩) right)
    · -- not two containers of one kind, so only numbers are left to fail
      rename_i lists tuples sets dicts
      rw [equalAtoms_eq_error_iff]
      refine and_congr_right fun _ => ⟨?_, fun fails => ?_⟩
      · rintro ⟨left, right, first, second, signals⟩
        exact .numbers first second signals
      · cases fails with
        | numbers first second signals => exact ⟨_, _, first, second, signals⟩
        | list => exact (lists _ _ rfl rfl).elim
        | tuple => exact (tuples _ _ rfl rfl).elim
        | set => exact (sets _ _ rfl rfl).elim
        | dictKey => exact (dicts _ _ rfl rfl).elim
        | dictValue => exact (dicts _ _ rfl rfl).elim

/-! ### Membership -/

/-- A search for a value among several fails: behind values that differ it comes to one whose
equality test with the value fails. -/
def SearchFails (value : Value) (items : List Value) : Prop :=
  StopsAt (fun item => equal item value = .ok false) (fun item => EqualityFails item value) items

/-- A search in a container fails exactly where it is said to. -/
theorem memberOf_eq_error_iff (value : Value) (items : List Value) (fault : Fault) :
    memberOf value items = .error fault ↔ fault = .invalidOperation ∧ SearchFails value items := by
  rw [memberOf, anyOf_eq_error_iff, SearchFails, ← stopsAt_and_left]
  simp only [equal_eq_error_iff _ value fault]

end QueryDesk.Value
