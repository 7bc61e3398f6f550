/-
**The values that can be no keys.**

Containers that can change and signalling not-a-numbers can be neither members of a set nor keys,
and neither can a tuple that holds one of them.

* `Value.Unkeyable` — the values that can be no keys.
* `Value.checkKey_eq_ok_iff` — `checkKey` finds them; `Value.fault_of_checkKey`
  — what it fails with.
-/

import QueryDesk.Proofs.Value.Equality

namespace QueryDesk.Value

/-- Values that can be neither members of a set nor keys. -/
inductive Unkeyable : Value → Prop
  | list (items : List Value) : Unkeyable (.list items)
  | set (items : List Value) : Unkeyable (.set items)
  | dict (entries : List (Value × Value)) : Unkeyable (.dict entries)
  | signalling {number : Decimal} (quiet : number.isSignalling = true) : Unkeyable (.decimal number)
  | tuple {items : List Value} {item : Value} (inside : item ∈ items) (broken : Unkeyable item) :
      Unkeyable (.tuple items)

theorem unkeyable_tuple_iff (items : List Value) :
    Unkeyable (.tuple items) ↔ ∃ item ∈ items, Unkeyable item := by
  constructor
  · intro broken
    cases broken with
    | tuple inside broken => exact ⟨_, inside, broken⟩
  · rintro ⟨item, inside, broken⟩
    exact .tuple inside broken

theorem unkeyable_decimal_iff (number : Decimal) :
    Unkeyable (.decimal number) ↔ number.isSignalling = true := by
  constructor
  · intro broken
    cases broken with
    | signalling quiet => exact quiet
  · exact .signalling

theorem checkKeys_cons {item : Value} {rest : List Value}
    (may : checkKeys (item :: rest) = .ok ()) :
    item.checkKey = .ok () ∧ checkKeys rest = .ok () := by
  rw [checkKeys] at may
  cases first : item.checkKey with
  | error fault => rw [first] at may; cases may
  | ok _ => rw [first] at may; exact ⟨rfl, may⟩

theorem checkKeys_cons_eq_ok_iff (item : Value) (rest : List Value) :
    checkKeys (item :: rest) = .ok () ↔ item.checkKey = .ok () ∧ checkKeys rest = .ok () := by
  refine ⟨checkKeys_cons, fun ⟨here, others⟩ => ?_⟩
  rw [checkKeys, here]
  exact others

mutual

/-- **The check of keys** finds the values that can be none, at any depth of tuples. -/
theorem checkKey_eq_ok_iff (value : Value) : value.checkKey = .ok () ↔ ¬ value.Unkeyable := by
  cases value with
  | tuple items => rw [checkKey, checkKeys_eq_ok_iff items, unkeyable_tuple_iff]; simp
  | list items => simp [checkKey, Unkeyable.list]
  | set items => simp [checkKey, Unkeyable.set]
  | dict entries => simp [checkKey, Unkeyable.dict]
  | decimal number =>
    rw [checkKey, unkeyable_decimal_iff]
    by_cases signalling : number.isSignalling = true
    · simp [signalling]
    · simp [signalling]
  | _ => exact iff_of_true rfl nofun

theorem checkKeys_eq_ok_iff (items : List Value) :
    checkKeys items = .ok () ↔ ∀ item ∈ items, ¬ item.Unkeyable := by
  cases items with
  | nil => simp [checkKeys]
  | cons item rest =>
    rw [checkKeys_cons_eq_ok_iff, checkKey_eq_ok_iff item, checkKeys_eq_ok_iff rest,
      List.forall_mem_cons]

end

/-! ### What the check of keys fails with -/

theorem fault_of_checkKeys {items : List Value} {fault : Fault}
    (each : ∀ item ∈ items, item.checkKey = .error fault →
      (∃ kind, fault = .unhashable kind) ∨ fault = .signallingKey)
    (failed : checkKeys items = .error fault) :
    (∃ kind, fault = .unhashable kind) ∨ fault = .signallingKey := by
  induction items with
  | nil => cases failed
  | cons item rest ih =>
    obtain ⟨here, others⟩ := List.forall_mem_cons.1 each
    rw [checkKeys] at failed
    cases first : item.checkKey with
    | error found =>
      rw [first] at failed
      obtain rfl : found = fault := Except.error.inj failed
      exact here first
    | ok _ =>
      rw [first] at failed
      exact ih others failed

theorem fault_of_checkKey {fault : Fault} (value : Value) :
    value.checkKey = .error fault → (∃ kind, fault = .unhashable kind) ∨
      fault = .signallingKey := by
  induction value using induction_on_parts with
  | step value ih =>
    intro failed
    cases value with
    | tuple items => exact fault_of_checkKeys ih (by rwa [checkKey] at failed)
    | list items => exact .inl ⟨"list", by simpa [checkKey, eq_comm] using failed⟩
    | set items => exact .inl ⟨"set", by simpa [checkKey, eq_comm] using failed⟩
    | dict entries => exact .inl ⟨"dict", by simpa [checkKey, eq_comm] using failed⟩
    | decimal number =>
      rw [checkKey] at failed
      split at failed
      · exact .inr (Except.error.inj failed).symm
      · cases failed
    | _ => simp [checkKey] at failed

end QueryDesk.Value
