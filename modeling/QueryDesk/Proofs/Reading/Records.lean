/-
**Reading records whose names are distinct.**

* `Value.BuiltFrom`, `Value.IsJson`, `Value.IsPlain` — values built from scalars by lists and by
  records, those that a JSON document can hold, and those that it gives back as they are.
* `Fields.lookup?_named`, `Fields.required_eq_good_iff`, `Fields.noOthers_eq_good_iff`, … — a field
  of a record is read at its name, whatever the order of the fields; `Fields.issues_noOthers` —
  every field that is not known is an issue.
* `Checked.eachFrom_eq_good_iff` — a list is read when each of its elements is.
-/

import Mathlib.Data.List.Forall2
import QueryDesk.Model.Reading
import QueryDesk.Number.Numeral

namespace QueryDesk

/-! ### Data -/

/-- The values that are built from scalars of some kind by lists and by records
with distinct names. -/
inductive Value.BuiltFrom (scalars : Value → Prop) : Value → Prop
  | scalar {value : Value} (allowed : scalars value) : BuiltFrom scalars value
  | list {items : List Value} (each : ∀ item ∈ items, BuiltFrom scalars item) :
      BuiltFrom scalars (.list items)
  | record {entries : List (String × Value)} (distinct : (entries.map Prod.fst).Nodup)
      (each : ∀ entry ∈ entries, BuiltFrom scalars entry.2) : BuiltFrom scalars (.record entries)

/-- The values of a JSON document that have no parts. -/
inductive Value.IsJsonScalar : Value → Prop
  | null : IsJsonScalar .null
  | bool (truth : Bool) : IsJsonScalar (.bool truth)
  | int (number : Int) : IsJsonScalar (.int number)
  | double (number : Binary64) : IsJsonScalar (.double number)
  | text (content : String) : IsJsonScalar (.text content)

/-- The values that a JSON document can hold. -/
abbrev Value.IsJson : Value → Prop := Value.BuiltFrom Value.IsJsonScalar

/-- The values without parts that a JSON document gives back as they are: nothing, truth values,
whole numbers that have a text, and texts. -/
inductive Value.IsPlainScalar : Value → Prop
  | null : IsPlainScalar .null
  | bool (truth : Bool) : IsPlainScalar (.bool truth)
  | int (number : Int) (writable : Numeral.isWritable number = true) : IsPlainScalar (.int number)
  | text (content : String) : IsPlainScalar (.text content)

/-- The values that a JSON document gives back as they are. -/
abbrev Value.IsPlain : Value → Prop := Value.BuiltFrom Value.IsPlainScalar

/-! ### Texts and lists -/

theorem Reading.text_eq_good_iff {value : Value} {content : String} :
    Reading.text value = .good content ↔ value = .text content := by
  cases value <;> simp [Reading.text]

/-- The elements of a list are read when each of them is. -/
theorem Checked.eachFrom_eq_good_iff {α : Type} {read : Reading α} {place : Nat}
    {items : List Value} {results : List α} :
    eachFrom read place items = .good results ↔
      List.Forall₂ (fun item result => read item = .good result) items results := by
  induction items generalizing place results with
  | nil => cases results <;> simp [eachFrom]
  | cons item rest ih =>
    rw [eachFrom, seq_eq_good_iff]
    constructor
    · rintro ⟨change, found, first, others, rfl⟩
      obtain ⟨result, here, rfl⟩ := map_eq_good_iff.1 first
      exact .cons (under_eq_good_iff.1 here) (ih.1 others)
    · rintro (_ | ⟨here, others⟩)
      exact ⟨_, _, map_eq_good_iff.2 ⟨_, under_eq_good_iff.2 here, rfl⟩, ih.2 others, rfl⟩

/-! ### Fields -/

namespace Fields

open Checked

/-- Fields with texts as names. -/
def named (entries : List (String × Value)) : Fields :=
  entries.map fun (name, value) => (.text name, value)

variable (entries : List (String × Value))

theorem record_eq : Value.record entries = .dict (named entries) := rfl

theorem named_injective : Function.Injective named := by
  refine List.map_injective_iff.2 fun entry other same => ?_
  obtain ⟨names, values⟩ := Prod.mk.inj same
  exact Prod.ext (Value.text.inj names) values

theorem record_inj {others : List (String × Value)} :
    Value.record entries = Value.record others ↔ entries = others := by
  rw [record_eq, record_eq, Value.dict.injEq]
  exact named_injective.eq_iff

@[simp] theorem lookup?_named (name : String) :
    Value.lookup? name (named entries) = entries.lookup name := by
  induction entries with
  | nil => rfl
  | cons entry rest ih =>
    obtain ⟨key, value⟩ := entry
    rw [named, List.map_cons, Value.lookup?, List.lookup_cons]
    by_cases same : key = name
    · simp [same]
    · rw [if_neg same, beq_false_of_ne (Ne.symm same)]
      exact ih

theorem find?_named (name : String) :
    (named entries).find? [name] = (entries.lookup name).map (name, ·) := by
  rw [find?, List.findSome?_cons, lookup?_named]
  cases entries.lookup name <;> rfl

section Reads

variable {α : Type} {read : Reading α} {entries}

theorem required_eq_good_iff {name : String} {result : α} :
    (named entries).required [name] read = .good result ↔
      ∃ value, entries.lookup name = some value ∧ read value = .good result := by
  rw [required, find?_named]
  cases entries.lookup name <;> simp

theorem defaulted_anything_eq_good_iff {name : String} {absent result : Value} :
    (named entries).defaulted [name] absent Reading.anything = .good result ↔
      (entries.lookup name).getD absent = result := by
  rw [defaulted, find?_named]
  cases entries.lookup name <;> simp [Reading.anything]

/-- A record has no other fields than the known ones. -/
theorem noOthers_eq_good_iff {known : List String} {result : Unit} :
    noOthers known (named entries) = .good result ↔ ∀ entry ∈ entries, entry.1 ∈ known := by
  induction entries with
  | nil => simp [named, noOthers]
  | cons entry rest ih =>
    obtain ⟨name, value⟩ := entry
    rw [named, List.map_cons, List.forall_mem_cons, noOthers, ← named]
    by_cases here : name ∈ known
    · rw [if_pos (List.contains_iff_mem.2 here), ih, and_iff_right here]
    · rw [if_neg fun found => here (List.contains_iff_mem.1 found)]
      simp [here]

/-- Every field under another name than the known ones is an issue of its own. -/
theorem issues_noOthers (known : List String) :
    (noOthers known (named entries)).issues =
      (entries.filter fun entry => !known.contains entry.1).map fun entry =>
        (Issue.here .extraForbidden).under entry.1 := by
  induction entries with
  | nil => rfl
  | cons entry rest ih =>
    obtain ⟨name, value⟩ := entry
    rw [named, List.map_cons, noOthers, ← named, List.filter_cons]
    cases known.contains name with
    | true => exact ih
    | false =>
      rw [if_neg Bool.false_ne_true, issues_seq, issues_map, issues_under, issues_refuse, ih]
      rfl

theorem issues_noOthers_ne_nil {known : List String} {entry : String × Value}
    (inside : entry ∈ entries)
    (unknown : entry.1 ∉ known) : (noOthers known (named entries)).issues ≠ [] := by
  rw [issues_noOthers, ne_eq, List.map_eq_nil_iff, List.filter_eq_nil_iff]
  exact fun all_known => all_known entry inside (by simpa using unknown)

end Reads

end Fields

end QueryDesk
