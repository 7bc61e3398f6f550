/-
**The grammar of condition trees.**

A tree is a record with the single key `all` or `any` and a list of nodes under it; a node is such a
record or a leaf, with its fact, its operator and perhaps a value.

* `IsNode`, `IsTree` — the grammar, with the node or tree that data spells.
* `readNode_eq_good_iff` — the reading of a node is exact, by induction on the data: on the value of
  a key for groups, and on the elements of a list for children.
* `ConditionTree.issues_ne_nil` — data that is no tree has an issue: it lacks the
  key of a group, or has both.
* `ConditionTree.read_exact` — the reading of trees is exact, it counts at least one issue where it
  fails, and it takes back what trees are written as.
-/

import QueryDesk.Proofs.Reading.Records
import QueryDesk.Proofs.Search
import QueryDesk.Rule.ConditionReading

namespace QueryDesk

namespace Condition

open Checked

/-! ### The grammar -/

/-- The data of a node, and the node it spells. -/
inductive IsNode : Value → Condition → Prop
  | leaf {entries : List (String × Value)} {fact operator : String}
      (named : entries.lookup "fact" = some (.text fact))
      (compared : entries.lookup "operator" = some (.text operator))
      (known : ∀ entry ∈ entries, entry.1 ∈ ["fact", "operator", "value"]) :
      IsNode (.record entries) (.leaf ⟨fact, operator, (entries.lookup "value").getD .null⟩)
  | group {items : List Value} {children : List Condition} (connective : Connective)
      (nodes : List.Forall₂ IsNode items children) :
      IsNode (.record [(connective.key, .list items)]) (.group connective children)

/-! ### The parts of a node -/

theorem readNodesFrom_eq (place : Nat) (items : List Value) :
    readNodesFrom place items = eachFrom readNode place items := by
  induction items generalizing place with
  | nil => rw [readNodesFrom, eachFrom]
  | cons item rest ih => rw [readNodesFrom, eachFrom, ih]

theorem readNodes_eq (value : Value) : readNodes value = Reading.items readNode value := by
  cases value <;> simp only [readNodes, Reading.items, readNodesFrom_eq]

variable {entries : List (String × Value)}

theorem childrenUnder_named (key : String) :
    childrenUnder key (Fields.named entries) =
      (entries.lookup key).map (Reading.items readNode) := by
  induction entries with
  | nil => simp [Fields.named, childrenUnder]
  | cons entry rest ih =>
    obtain ⟨name, value⟩ := entry
    rw [Fields.named, List.map_cons, childrenUnder, List.lookup_cons]
    by_cases same : name = key
    · simp [same, readNodes_eq]
    · rw [if_neg same, beq_false_of_ne (Ne.symm same)]
      exact ih

/-- A leaf has its fact and its operator, perhaps a value, and nothing else. -/
theorem isNode_leaf_iff {comparison : Leaf} :
    IsNode (.record entries) (.leaf comparison) ↔
      entries.lookup "fact" = some (.text comparison.fact) ∧
      entries.lookup "operator" = some (.text comparison.operator) ∧
      (entries.lookup "value").getD .null = comparison.value ∧
      ∀ entry ∈ entries, entry.1 ∈ ["fact", "operator", "value"] := by
  constructor
  · intro spelled
    generalize same : Value.record entries = data at spelled
    cases spelled with
    | leaf named compared known =>
      obtain rfl := (Fields.record_inj entries).1 same
      exact ⟨named, compared, rfl, known⟩
  · obtain ⟨fact, operator, value⟩ := comparison
    rintro ⟨named, compared, rfl, known⟩
    exact .leaf named compared known

/-- Named entries are read as a leaf exactly when they spell one. -/
theorem leafOfFields_eq_good_iff {comparison : Leaf} :
    leafOfFields (Fields.named entries) = .good comparison ↔
      IsNode (.record entries) (.leaf comparison) := by
  simp only [isNode_leaf_iff, leafOfFields, fmap_eq, ap_eq, seq_eq_good_iff, map_eq_good_iff,
    Fields.required_eq_good_iff, Fields.defaulted_anything_eq_good_iff, Fields.noOthers_eq_good_iff,
    Reading.text_eq_good_iff, exists_eq_right]
  constructor
  · rintro ⟨_, _, ⟨_, _, ⟨_, _, ⟨fact, named, rfl⟩, compared, rfl⟩, rfl, rfl⟩, known, rfl⟩
    exact ⟨named, compared, rfl, known⟩
  · obtain ⟨fact, operator, value⟩ := comparison
    rintro ⟨named, compared, rfl, known⟩
    exact ⟨_, (), ⟨_, _, ⟨_, _, ⟨_, named, rfl⟩, compared, rfl⟩, rfl, rfl⟩, known, rfl⟩

/-- The reading of the shape of a leaf, with its issues under the name of the shape. -/
def leafNodeReading (entries : List (String × Value)) : Checked Condition :=
  under "ConditionLeaf" (map leaf (leafOfFields (Fields.named entries)))

/-- The reading of one shape of a group, with its issues under the name of the shape. -/
def groupReading (connective : Connective) (entries : List (String × Value)) : Checked Condition :=
  under (groupShape connective) (groupOfFields connective
    ((entries.lookup connective.key).map (Reading.items readNode)) (Fields.named entries))

theorem leafNodeReading_eq_good_iff {node : Condition} :
    leafNodeReading entries = .good node ↔
      ∃ comparison, node = .leaf comparison ∧ IsNode (.record entries) node := by
  rw [leafNodeReading, under_eq_good_iff, map_eq_good_iff]
  simp only [leafOfFields_eq_good_iff]
  constructor
  · rintro ⟨comparison, spelled, rfl⟩
    exact ⟨comparison, rfl, spelled⟩
  · rintro ⟨comparison, rfl, spelled⟩
    exact ⟨comparison, spelled, rfl⟩

/-- A group has the nodes under its key, and nothing else. -/
theorem groupReading_eq_good_iff {connective : Connective} {node : Condition} :
    groupReading connective entries = .good node ↔
      ∃ value children, entries.lookup connective.key = some value ∧
        Reading.items readNode value = .good children ∧ node = .group connective children ∧
        ∀ entry ∈ entries, entry.1 = connective.key := by
  have children_there (children : List Condition) :
      ((entries.lookup connective.key).map (Reading.items readNode)).getD (refuse .missing) =
        .good children ↔
      ∃ value, entries.lookup connective.key = some value ∧
        Reading.items readNode value = .good children := by
    cases entries.lookup connective.key <;> simp
  simp only [groupReading, groupOfFields, fmap_eq, ap_eq, seq_eq_good_iff, map_eq_good_iff,
    under_eq_good_iff, Fields.noOthers_eq_good_iff, List.mem_singleton, children_there]
  constructor
  · rintro ⟨_, _, ⟨children, ⟨value, there, found⟩, rfl⟩, alone, rfl⟩
    exact ⟨value, children, there, found, rfl, alone⟩
  · rintro ⟨value, children, there, found, rfl, alone⟩
    exact ⟨_, (), ⟨children, ⟨value, there, found⟩, rfl⟩, alone, rfl⟩

theorem groupReadings_named :
    groupReadings (Fields.named entries) =
      [groupReading .all entries, groupReading .any entries] := by
  rw [groupReadings, childrenUnder_named, childrenUnder_named]
  rfl

theorem readNode_record : readNode (.record entries) =
    firstGood [groupReading .all entries, groupReading .any entries, leafNodeReading entries] := by
  rw [Fields.record_eq, readNode, groupReadings_named]
  rfl

/-! ### One shape only -/

/-- Two readings of the same data of which at most one succeeds. -/
def Apart (first second : Checked Condition) : Prop :=
  ∀ one two, first = .good one → second ≠ .good two

/-- Of readings that are apart, the one that succeeds is found wherever it stands. -/
theorem firstGood_eq_good_iff {readings : List (Checked Condition)} {node : Condition}
    (apart : readings.Pairwise Apart) :
    firstGood readings = .good node ↔ .good node ∈ readings := by
  induction readings with
  | nil => simp [firstGood]
  | cons first rest ih =>
    obtain ⟨others, later⟩ := List.pairwise_cons.1 apart
    cases first with
    | good found =>
      have absent : .good node ∉ rest := fun inside => others _ inside found node rfl rfl
      simp [firstGood, absent, eq_comm]
    | bad issues =>
      rw [firstGood, List.mem_cons, ← ih later]
      cases firstGood rest <;> simp

/-- No entries are read as groups of both kinds. -/
theorem groupReadings_apart : Apart (groupReading .all entries) (groupReading .any entries) := by
  intro one two first second
  obtain ⟨_, _, -, -, -, alone⟩ := groupReading_eq_good_iff.1 first
  obtain ⟨_, _, there, -⟩ := groupReading_eq_good_iff.1 second
  have same : Connective.any.key = Connective.all.key := alone _ (mem_of_lookup there)
  exact absurd same (by decide)

/-- No entries are read as a group and as a leaf. -/
theorem groupReading_apart_leaf (connective : Connective) :
    Apart (groupReading connective entries) (leafNodeReading entries) := by
  intro one two first second
  obtain ⟨_, _, there, -⟩ := groupReading_eq_good_iff.1 first
  obtain ⟨_, rfl, leaf⟩ := leafNodeReading_eq_good_iff.1 second
  have known : connective.key ∈ ["fact", "operator", "value"] :=
    (isNode_leaf_iff.1 leaf).2.2.2 _ (mem_of_lookup there)
  cases connective <;> exact absurd known (by decide)

/-- A record is read in one of three shapes. -/
theorem readNode_record_eq_good_iff {node : Condition} :
    readNode (.record entries) = .good node ↔
      groupReading .all entries = .good node ∨ groupReading .any entries = .good node ∨
        leafNodeReading entries = .good node := by
  have apart : List.Pairwise Apart
      [groupReading .all entries, groupReading .any entries, leafNodeReading entries] := by
    simp [groupReadings_apart, groupReading_apart_leaf]
  rw [readNode_record, firstGood_eq_good_iff apart, List.mem_cons, List.mem_cons,
    List.mem_singleton, eq_comm, @eq_comm _ _ (groupReading .any entries),
    @eq_comm _ _ (leafNodeReading entries)]

/-! ### What is spelled is read -/

theorem groupReading_singleton {connective : Connective} {items : List Value}
    {children : List Condition}
    (nodes : List.Forall₂ (fun item node => readNode item = .good node) items children) :
    groupReading connective [(connective.key, .list items)] = .good (.group connective children) :=
  groupReading_eq_good_iff.2
    ⟨.list items, children, by simp, eachFrom_eq_good_iff.2 nodes, rfl, by simp⟩

mutual

/-- Data that spells a node is read as this node. -/
theorem readNode_of_isNode : ∀ (node : Condition) {data : Value}, IsNode data node →
    readNode data = .good node
  | .leaf comparison, data, spelled => by
    obtain ⟨entries, rfl⟩ : ∃ entries, data = .record entries := by
      cases spelled
      exact ⟨_, rfl⟩
    exact readNode_record_eq_good_iff.2
      (.inr (.inr (leafNodeReading_eq_good_iff.2 ⟨comparison, rfl, spelled⟩)))
  | .group .all children, _, .group _ nodes =>
    readNode_record_eq_good_iff.2 (.inl (groupReading_singleton (each_of_isNode children nodes)))
  | .group .any children, _, .group _ nodes =>
    readNode_record_eq_good_iff.2
      (.inr (.inl (groupReading_singleton (each_of_isNode children nodes))))

/-- By induction on conditions: each that is spelled is read. -/
theorem each_of_isNode : ∀ (children : List Condition) {items : List Value},
    List.Forall₂ IsNode items children →
      List.Forall₂ (fun item node => readNode item = .good node) items children
  | [], _, .nil => .nil
  | child :: rest, _, .cons first others =>
    .cons (readNode_of_isNode child first) (each_of_isNode rest others)

end

mutual

/-- A node is spelled by what it is written as. -/
theorem isNode_toValue : ∀ node : Condition, IsNode node.toValue node
  | .leaf ⟨fact, operator, value⟩ => by
    rw [toValue, Leaf.toValue]
    exact isNode_leaf_iff.2 ⟨rfl, rfl, rfl, by simp⟩
  | .group connective children => by
    rw [toValue]
    exact .group connective (each_isNode_toValue children)

/-- By induction on conditions: the data they are written as spells them. -/
theorem each_isNode_toValue : ∀ children : List Condition,
    List.Forall₂ IsNode (toValues children) children
  | [] => by
    rw [toValues]
    exact .nil
  | child :: rest => by
    rw [toValues]
    exact .cons (isNode_toValue child) (each_isNode_toValue rest)

end

/-! ### What is read is spelled -/

/-- A record in which all names are the same has one field only. -/
theorem eq_singleton_of_forall {key : String} {value : Value}
    (distinct : (entries.map Prod.fst).Nodup) (there : entries.lookup key = some value)
    (alone : ∀ entry ∈ entries, entry.1 = key) : entries = [(key, value)] := by
  cases entries with
  | nil => cases there
  | cons entry rest =>
    obtain ⟨first, others⟩ := List.forall_mem_cons.1 alone
    obtain rfl : rest = [] := by
      refine List.eq_nil_iff_forall_not_mem.2 fun other inside => ?_
      refine (List.nodup_cons.1 distinct).1 (List.mem_map.2 ⟨other, inside, ?_⟩)
      exact (others other inside).trans first.symm
    obtain ⟨name, here⟩ := entry
    obtain rfl : name = key := first
    simpa using there

/-- A value is read as no other nodes than a list spells. -/
def ReadsLists (data : Value) : Prop :=
  ∀ children, Reading.items readNode data = .good children →
    ∃ items, data = .list items ∧ List.Forall₂ IsNode items children

/-- Entries that are read as a group spell one, if what they hold does. -/
theorem isNode_of_groupReading (distinct : (entries.map Prod.fst).Nodup)
    (each : ∀ entry ∈ entries, ReadsLists entry.2) {connective : Connective} {node : Condition}
    (read : groupReading connective entries = .good node) : IsNode (.record entries) node := by
  obtain ⟨value, children, there, found, rfl, alone⟩ := groupReading_eq_good_iff.1 read
  obtain ⟨items, rfl, nodes⟩ := each _ (mem_of_lookup there) children found
  obtain rfl := eq_singleton_of_forall distinct there alone
  exact .group connective nodes

/-- By induction on the data: what it is read as is what it spells, as a node
and as a list of nodes. -/
theorem isNode_of_readNode {data : Value} (json : data.IsJson) :
    (∀ node, readNode data = .good node → IsNode data node) ∧ ReadsLists data := by
  induction json with
  | scalar allowed => cases allowed <;> simp [readNode, ReadsLists, Reading.items]
  | list each ih =>
    -- no node, but the children of a group when each element is a node
    refine ⟨by simp [readNode], fun children read => ⟨_, rfl, ?_⟩⟩
    have nodes := (List.forall₂_and_left _ _).2 ⟨ih, eachFrom_eq_good_iff.1 read⟩
    exact nodes.imp fun item node found => found.1.1 node found.2
  | record distinct each ih =>
    refine ⟨fun node read => ?_, fun children read => by cases read⟩
    have parts := fun entry inside => (ih entry inside).2
    rcases readNode_record_eq_good_iff.1 read with all | any | leaf
    · exact isNode_of_groupReading distinct parts all
    · exact isNode_of_groupReading distinct parts any
    · obtain ⟨_, -, spelled⟩ := leafNodeReading_eq_good_iff.1 leaf
      exact spelled

/-- **The reading of nodes is exact.** -/
theorem readNode_eq_good_iff {data : Value} (json : data.IsJson) {node : Condition} :
    readNode data = .good node ↔ IsNode data node :=
  ⟨(isNode_of_readNode json).1 node, readNode_of_isNode node⟩

end Condition

/-! ### Trees -/

namespace ConditionTree

open Checked Condition

/-- The data of a tree, and the tree it spells. -/
def IsTree (data : Value) (tree : ConditionTree) : Prop :=
  ∃ items, data = .record [(tree.connective.key, .list items)] ∧
    List.Forall₂ IsNode items tree.children

/-- A tree is spelled exactly when it is as a group. -/
theorem isTree_iff {data : Value} {tree : ConditionTree} :
    IsTree data tree ↔ IsNode data tree.toCondition := by
  obtain ⟨connective, children⟩ := tree
  constructor
  · rintro ⟨items, rfl, nodes⟩
    exact .group connective nodes
  · rintro (_ | ⟨_, nodes⟩)
    exact ⟨_, rfl, nodes⟩

variable {entries : List (String × Value)} {tree : ConditionTree}

theorem reading_record : reading (.record entries) =
    map ofCondition (firstGood [groupReading .all entries, groupReading .any entries]) := by
  rw [Fields.record_eq, reading, groupReadings_named]

/-- A record is read as a tree where it is read as the node of a group. -/
theorem reading_record_eq_good_iff :
    reading (.record entries) = .good tree ↔
      readNode (.record entries) = .good tree.toCondition := by
  have no_leaf : leafNodeReading entries ≠ .good tree.toCondition := fun read => by
    obtain ⟨_, leaf, -⟩ := leafNodeReading_eq_good_iff.1 read
    cases leaf
  have apart : List.Pairwise Apart [groupReading .all entries, groupReading .any entries] := by
    simp [groupReadings_apart]
  rw [readNode_record_eq_good_iff, or_iff_left no_leaf, reading_record, map_eq_good_iff]
  simp only [firstGood_eq_good_iff apart, List.mem_cons, List.not_mem_nil, or_false]
  constructor
  · rintro ⟨node, here, rfl⟩
    have group : ∃ connective, groupReading connective entries = .good node := by
      rcases here with all | any
      · exact ⟨_, all.symm⟩
      · exact ⟨_, any.symm⟩
    obtain ⟨connective, read⟩ := group
    obtain ⟨_, children, -, -, rfl, -⟩ := groupReading_eq_good_iff.1 read
    exact here.imp Eq.symm Eq.symm
  · exact fun here => ⟨tree.toCondition, here.imp Eq.symm Eq.symm, rfl⟩

/-- Data that spells a tree is read as this tree. -/
theorem reading_of_isTree {data : Value} (spelled : IsTree data tree) :
    reading data = .good tree := by
  have read := readNode_of_isNode tree.toCondition (isTree_iff.1 spelled)
  obtain ⟨items, rfl, -⟩ := spelled
  exact reading_record_eq_good_iff.2 read

/-- **The reading of trees is exact.** -/
theorem reading_eq_good_iff {data : Value} (json : data.IsJson) :
    reading data = .good tree ↔ IsTree data tree := by
  refine ⟨fun read => ?_, reading_of_isTree⟩
  cases json with
  | scalar allowed => cases allowed <;> cases read
  | list each => cases read
  | record distinct each =>
    exact isTree_iff.2 ((readNode_eq_good_iff (.record distinct each)).1
      (reading_record_eq_good_iff.1 read))

theorem reading_toValue (tree : ConditionTree) : reading tree.toValue = .good tree :=
  reading_of_isTree (isTree_iff.2 (isNode_toValue tree.toCondition))

/-! ### Issues -/

/-- Readings that all fail have all their issues. -/
theorem issues_firstGood {readings : List (Checked Condition)} {issues : List Issue}
    (failed : firstGood readings = .bad issues) : issues = readings.flatMap Checked.issues := by
  induction readings generalizing issues with
  | nil =>
    cases failed
    rfl
  | cons first rest ih =>
    cases first with
    | good node => cases failed
    | bad found =>
      rw [firstGood] at failed
      cases others : firstGood rest with
      | good node =>
        rw [others] at failed
        cases failed
      | bad more =>
        rw [others] at failed
        obtain rfl := Checked.bad.inj failed
        rw [List.flatMap_cons, ← ih others, Checked.issues]

/-- A record lacks the key of one sort of group, or it has another key than that of the other. -/
theorem issues_groupReading_ne_nil :
    (groupReading .all entries).issues ≠ [] ∨ (groupReading .any entries).issues ≠ [] := by
  cases there : entries.lookup Connective.any.key with
  | none =>
    right
    simp [groupReading, groupOfFields, fmap_eq, ap_eq, there]
  | some value =>
    left
    have unknown : Connective.any.key ∉ [Connective.all.key] := by decide
    have found := Fields.issues_noOthers_ne_nil (mem_of_lookup there) unknown
    simp [groupReading, groupOfFields, fmap_eq, ap_eq, found]

/-- Data that is no tree has an issue. -/
theorem issues_ne_nil {data : Value} (json : data.IsJson) {issues : List Issue}
    (failed : reading data = .bad issues) : issues ≠ [] := by
  cases json with
  | scalar allowed =>
    cases allowed <;>
    · cases failed
      exact List.cons_ne_nil _ _
  | list each =>
    cases failed
    exact List.cons_ne_nil _ _
  | record distinct each =>
    rw [reading_record] at failed
    cases outcome : firstGood [groupReading .all _, groupReading .any _] with
    | good node =>
      rw [outcome] at failed
      cases failed
    | bad found =>
      rw [outcome] at failed
      obtain rfl := Checked.bad.inj failed
      rw [issues_firstGood outcome]
      simpa [imp_iff_not_or] using issues_groupReading_ne_nil

/-- **The reading of trees is exact and inverse to writing.** Data is read as the tree that it
spells, data that spells no tree is refused with at least one issue, and a tree is read back
from what it is written as. -/
theorem read_exact :
    (∀ data : Value, data.IsJson →
      (∀ tree, read data = .ok tree ↔ IsTree data tree) ∧
      ((∀ tree, ¬ IsTree data tree) →
        ∃ count > 0, read data = .error (.malformedConditions count))) ∧
    ∀ tree : ConditionTree, read tree.toValue = .ok tree := by
  refine ⟨fun data json => ⟨fun tree => ?_, fun none_spelled => ?_⟩, fun tree => ?_⟩
  · rw [← reading_eq_good_iff json, read]
    cases reading data <;> simp
  · rw [read]
    cases outcome : reading data with
    | good tree => exact absurd ((reading_eq_good_iff json).1 outcome) (none_spelled tree)
    | bad issues => exact ⟨issues.length, List.length_pos_iff.2 (issues_ne_nil json outcome), rfl⟩
  · rw [read, reading_toValue]

/-- A group with an empty group and a leaf in it, whose fields stand in another order
than they are written in. -/
theorem read_nested_group :
    read (.record [("any", .list [.record [("all", .list [])],
      .record [("operator", .text "equal"), ("value", .int 1), ("fact", .text "amount")]])]) =
    .ok ⟨.any, [.group .all [], .leaf ⟨"amount", "equal", .int 1⟩]⟩ := by
  have leaf_json : (Value.record [("operator", .text "equal"), ("value", .int 1),
      ("fact", .text "amount")]).IsJson :=
    .record (by decide)
      (by simp [Value.BuiltFrom.scalar, Value.IsJsonScalar.text, Value.IsJsonScalar.int])
  have group_json : (Value.record [("all", .list [])]).IsJson :=
    .record (by decide) (by simpa using .list (by simp))
  have json : (Value.record [("any", .list [.record [("all", .list [])],
      .record [("operator", .text "equal"), ("value", .int 1),
        ("fact", .text "amount")]])]).IsJson :=
    .record (by decide) (by simpa using .list (by simp [leaf_json, group_json]))
  refine ((read_exact.1 _ json).1 _).2 ⟨_, rfl, .cons (.group .all .nil) (.cons ?_ .nil)⟩
  exact .leaf rfl rfl (by simp)

end ConditionTree

end QueryDesk
