/-
**Values without halves of characters.**

* `Value.texts` — the texts that stand in a value, names of records included
  (`Value.mem_texts_list`, `Value.mem_texts_record`).
* `Value.IsWhole` — no half stands in any of them; `Value.isWhole_list_iff`,
  `Value.isWhole_record_iff` — part by part.
-/

import QueryDesk.Proofs.Reading.Records
import QueryDesk.Text.Half

namespace QueryDesk.Value

mutual

/-- The texts that stand in a value. -/
def texts : Value → List String
  | .text content => [content]
  | .list items => textsOfItems items
  | .tuple items => textsOfItems items
  | .set items => textsOfItems items
  | .dict entries => textsOfEntries entries
  | _ => []

/-- The texts that stand in several values. -/
def textsOfItems : List Value → List String
  | [] => []
  | item :: rest => texts item ++ textsOfItems rest

/-- The texts that stand in the keys and contents of a dict. -/
def textsOfEntries : List (Value × Value) → List String
  | [] => []
  | (key, value) :: rest => texts key ++ texts value ++ textsOfEntries rest

end

/-- No half of a character stands in a text of a value. -/
def IsWhole (value : Value) : Prop := ∀ text ∈ value.texts, Text.isWhole text = true

instance (value : Value) : Decidable value.IsWhole :=
  inferInstanceAs (Decidable (∀ text ∈ value.texts, Text.isWhole text = true))

theorem mem_texts_list {items : List Value} {text : String} :
    text ∈ (list items).texts ↔ ∃ item ∈ items, text ∈ item.texts := by
  rw [texts]
  induction items with
  | nil => simp [textsOfItems]
  | cons item rest ih => rw [textsOfItems, List.mem_append, ih, List.exists_mem_cons_iff]

theorem mem_texts_record {entries : List (String × Value)} {text : String} :
    text ∈ (record entries).texts ↔ ∃ entry ∈ entries, text = entry.1 ∨ text ∈ entry.2.texts := by
  rw [Fields.record_eq, texts]
  induction entries with
  | nil => simp [Fields.named, textsOfEntries]
  | cons entry rest ih =>
    rw [Fields.named, List.map_cons, ← Fields.named, textsOfEntries, List.mem_append,
      List.mem_append, ih, texts, List.mem_singleton, List.exists_mem_cons_iff]

theorem isWhole_list_iff {items : List Value} :
    (list items).IsWhole ↔ ∀ item ∈ items, item.IsWhole := by
  simp only [IsWhole, mem_texts_list]
  exact ⟨fun all item inside text member => all text ⟨item, inside, member⟩,
    fun all text ⟨item, inside, member⟩ => all item inside text member⟩

theorem isWhole_record_iff {entries : List (String × Value)} : (record entries).IsWhole ↔
    ∀ entry ∈ entries, Text.isWhole entry.1 = true ∧ entry.2.IsWhole := by
  simp only [IsWhole, mem_texts_record]
  constructor
  · intro all entry inside
    exact ⟨all _ ⟨entry, inside, .inl rfl⟩,
      fun text member => all text ⟨entry, inside, .inr member⟩⟩
  · rintro all text ⟨entry, inside, rfl | member⟩
    · exact (all entry inside).1
    · exact (all entry inside).2 text member

end QueryDesk.Value
