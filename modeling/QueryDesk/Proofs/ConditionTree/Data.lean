/-
**The values of a tree that is read from data.**

A document can have keys that are no texts, so the grammar of nodes does not speak of all documents.
What holds for all of them is that the values of a tree come from the document.

* `Condition.isData_leafOfFields` — the value of a leaf.
* `Condition.isData_of_readNode`, `ConditionTree.isData_of_read` — **the values of all leaves are
  data**, by induction on the parts of the document.
-/

import QueryDesk.Proofs.ConditionTree.Grammar
import QueryDesk.Proofs.Value.Data

namespace QueryDesk

/-! ### Nodes -/

namespace Condition

open Checked

/-- Conditions whose leaves compare with data. -/
def ComparesData (conditions : List Condition) : Prop :=
  ∀ leaf ∈ leavesOf conditions, leaf.value.IsData

theorem comparesData_cons {first : Condition} {rest : List Condition} :
    ComparesData (first :: rest) ↔ (∀ leaf ∈ first.leaves, leaf.value.IsData) ∧
      ComparesData rest := by
  unfold ComparesData
  rw [leavesOf]
  exact List.forall_mem_append

theorem mem_of_firstGood {readings : List (Checked Condition)} {node : Condition}
    (read : firstGood readings = .good node) : .good node ∈ readings := by
  induction readings with
  | nil => cases read
  | cons first rest ih =>
    cases first with
    | good found =>
      rw [firstGood] at read
      exact read ▸ List.mem_cons_self
    | bad issues =>
      rw [firstGood] at read
      cases later : firstGood rest with
      | good other =>
        rw [later] at read
        obtain rfl := Checked.good.inj read
        exact List.mem_cons_of_mem _ (ih later)
      | bad more =>
        rw [later] at read
        cases read

/-- The value of a leaf is data. -/
theorem isData_leafOfFields {fields : Fields} (data : (Value.dict fields).IsData)
    {comparison : Leaf}
    (read : leafOfFields fields = .good comparison) : comparison.value.IsData := by
  simp only [leafOfFields, fmap_eq, ap_eq, seq_eq_good_iff, map_eq_good_iff] at read
  obtain ⟨_, _, ⟨_, value, ⟨_, _, ⟨fact, -, rfl⟩, -, rfl⟩, given, rfl⟩, -, rfl⟩ := read
  rcases Fields.read_of_defaulted given with absent | ⟨entry, inside, found⟩
  · exact absent ▸ Value.isData_of_no_parts rfl rfl
  · obtain rfl := Checked.good.inj found
    exact (Value.isData_dict_iff.1 data entry inside).2

/-- The children under a key are read from a field. -/
theorem mem_of_childrenUnder {key : String} {fields : Fields} {reading : Checked (List Condition)}
    (there : childrenUnder key fields = some reading) :
    ∃ entry ∈ fields, reading = Reading.items readNode entry.2 := by
  induction fields with
  | nil =>
    rw [childrenUnder] at there
    cases there
  | cons entry rest ih =>
    have later (found : childrenUnder key rest = some reading) :
        ∃ other ∈ entry :: rest, reading = Reading.items readNode other.2 := by
      obtain ⟨other, inside, same⟩ := ih found
      exact ⟨other, List.mem_cons_of_mem entry inside, same⟩
    obtain ⟨name, value⟩ := entry
    cases name with
    | text name =>
      rw [childrenUnder] at there
      split_ifs at there
      · exact ⟨_, List.mem_cons_self, by rw [← readNodes_eq, Option.some.inj there]⟩
      · exact later there
    | _ =>
      rw [childrenUnder] at there
      · exact later there
      · intro _ _ impossible
        cases impossible

/-- The children of a group are read from a field. -/
theorem children_of_groupOfFields {connective : Connective} {key : String} {fields : Fields}
    {node : Condition}
    (read : groupOfFields connective (childrenUnder key fields) fields = .good node) :
    ∃ entry ∈ fields, ∃ children, Reading.items readNode entry.2 = .good children ∧
      node = .group connective children := by
  simp only [groupOfFields, fmap_eq, ap_eq, seq_eq_good_iff, map_eq_good_iff, under_eq_good_iff]
    at read
  obtain ⟨_, _, ⟨children, found, rfl⟩, -, rfl⟩ := read
  cases there : childrenUnder key fields with
  | none =>
    rw [there] at found
    cases found
  | some reading =>
    rw [there] at found
    obtain ⟨entry, inside, rfl⟩ := mem_of_childrenUnder there
    exact ⟨entry, inside, children, found, rfl⟩

/-- A group that is read has the children in one of the fields. -/
theorem children_of_groupReadings {fields : Fields} {node : Condition}
    (inside : .good node ∈ groupReadings fields) :
    ∃ entry ∈ fields, ∃ children connective, Reading.items readNode entry.2 = .good children ∧
      node = .group connective children := by
  rw [groupReadings] at inside
  rcases List.mem_pair.1 inside with all | any
  · obtain ⟨entry, member, children, found, rfl⟩ :=
      children_of_groupOfFields (under_eq_good_iff.1 all.symm)
    exact ⟨entry, member, children, .all, found, rfl⟩
  · obtain ⟨entry, member, children, found, rfl⟩ :=
      children_of_groupOfFields (under_eq_good_iff.1 any.symm)
    exact ⟨entry, member, children, .any, found, rfl⟩

/-- A node that is read is a group or a leaf. -/
theorem shape_of_readNode {document : Value} {node : Condition}
    (read : readNode document = .good node) :
    ∃ fields, document = .dict fields ∧
      ((∃ entry ∈ fields, ∃ children connective, Reading.items readNode entry.2 = .good children ∧
          node = .group connective children) ∨
        ∃ comparison, leafOfFields fields = .good comparison ∧ node = .leaf comparison) := by
  cases document with
  | dict fields =>
    refine ⟨fields, rfl, ?_⟩
    rw [readNode] at read
    rcases List.mem_append.1 (mem_of_firstGood read) with group | leaf
    · exact .inl (children_of_groupReadings group)
    · obtain ⟨comparison, found, same⟩ :=
        map_eq_good_iff.1 (under_eq_good_iff.1 (List.mem_singleton.1 leaf).symm)
      exact .inr ⟨comparison, found, same.symm⟩
  | _ =>
    rw [readNode] at read
    · cases read
    · intro _ impossible
      cases impossible

theorem comparesData_of_each {items : List Value} {children : List Condition}
    (read : List.Forall₂ (fun item node => readNode item = .good node) items children)
    (each : ∀ item ∈ items, ∀ node, readNode item = .good node → ∀ leaf ∈ node.leaves,
      leaf.value.IsData) :
    ComparesData children := by
  induction read with
  | nil => exact nofun
  | cons here _ ih =>
    obtain ⟨first, others⟩ := List.forall_mem_cons.1 each
    exact comparesData_cons.2 ⟨first _ here, ih others⟩

/-- **The values of all leaves are data**, of a node and of a list of nodes. The induction is on
the parts of the document. -/
theorem isData_of_readNode (document : Value) (data : document.IsData) :
    (∀ node, readNode document = .good node → ∀ leaf ∈ node.leaves, leaf.value.IsData) ∧
      ∀ children, Reading.items readNode document = .good children → ComparesData children := by
  induction document using Value.induction_on_parts with
  | step document ih =>
    have each := fun part inside => ih part inside (data.of_mem inside)
    refine ⟨fun node read => ?_, fun children read => ?_⟩
    · obtain ⟨fields, rfl, group | leaf⟩ := shape_of_readNode read
      · obtain ⟨entry, inside, children, connective, found, rfl⟩ := group
        exact (each _ (Value.value_mem_parts inside)).2 children found
      · obtain ⟨comparison, found, rfl⟩ := leaf
        exact List.forall_mem_singleton.2 (isData_leafOfFields data found)
    · exact comparesData_of_each (Reading.each_of_items read) fun item inside =>
        (each item inside).1

end Condition

/-- **A tree that is read from data compares with data.** -/
theorem ConditionTree.isData_of_read {document : Value} (data : document.IsData)
    {tree : ConditionTree}
    (found : read document = .ok tree) : ∀ leaf ∈ tree.leaves, leaf.value.IsData := by
  unfold read at found
  split at found
  · rename_i tree' good
    obtain rfl := Except.ok.inj found
    unfold reading at good
    split at good
    · obtain ⟨node, group, rfl⟩ := Checked.map_eq_good_iff.1 good
      obtain ⟨entry, inside, children, connective, read, rfl⟩ :=
        Condition.children_of_groupReadings (Condition.mem_of_firstGood group)
      exact (Condition.isData_of_readNode entry.2 (Value.isData_dict_iff.1 data entry inside).2).2
        children read
    · cases good
  · cases found

end QueryDesk
