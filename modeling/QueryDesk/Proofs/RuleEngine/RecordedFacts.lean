/-
**The facts that a verdict depends on.**

A verdict comes from the leaves of a tree, and a leaf looks up its fact and the fact that
its value may name. The values of these facts are recorded with every violation, gathered
group by group into one table.

* `Condition.Names` — a name occurs in a condition, at any depth.
* `Condition.holds_congr` — facts that agree on the names in a condition give it the same outcome.
* `Facts.mergeAll`, `Condition.Records` — tables put into one another, and what a condition records
  when the tables of its parts are put together in whichever order.
* `ConditionTree.holds_determined_by_factValues` — **what is recorded determines the
  verdict**, it names exactly the facts that occur in the tree, and it does not depend on
  the order of putting together.
-/

import QueryDesk.Rule.Engine
import Mathlib.Data.List.Induction
import Mathlib.Data.List.Nodup
import Mathlib.Data.List.Perm.Basic

namespace QueryDesk

/-! ### Names and outcomes -/

/-- A name occurs in a condition, as a fact or as the fact that a value names. -/
inductive Condition.Names : Condition → String → Prop
  | fact (comparison : Leaf) : Names (.leaf comparison) comparison.fact
  | reference {comparison : Leaf} {name : String} (refers : comparison.valueFact? = some name) :
      Names (.leaf comparison) name
  | inside {connective : Connective} {children : List Condition} {child : Condition} {name : String}
      (member : child ∈ children) (deeper : Names child name) :
        Names (.group connective children) name

theorem Condition.leavesOf_eq_flatMap (children : List Condition) :
    leavesOf children = children.flatMap leaves := by
  induction children with
  | nil => rfl
  | cons child rest ih => rw [leavesOf, ih, List.flatMap_cons]

theorem Leaf.mem_factNames {leaf : Leaf} {name : String} :
    name ∈ leaf.factNames ↔ (Condition.leaf leaf).Names name := by
  rw [factNames, List.mem_cons, Option.mem_toList]
  constructor
  · rintro (rfl | refers)
    · exact .fact leaf
    · exact .reference refers
  · intro named
    cases named with
    | fact => exact .inl rfl
    | reference refers => exact .inr refers

/-- A leaf looks at nothing but its fact and the fact that its value names. -/
theorem Leaf.holds_congr (operators : OperatorTable) {facts others : Facts} {leaf : Leaf}
    (agree : ∀ name ∈ leaf.factNames, facts.lookup name = others.lookup name) :
    leaf.holds operators facts = leaf.holds operators others := by
  have fact : facts.lookup leaf.fact = others.lookup leaf.fact := agree _ List.mem_cons_self
  have comparand : leaf.comparand facts = leaf.comparand others := by
    unfold Leaf.comparand
    cases refers : leaf.valueFact? with
    | none => rfl
    | some name =>
      have named : name ∈ leaf.factNames := Leaf.mem_factNames.2 (.reference refers)
      simp only [agree name named]
  unfold Leaf.holds
  rw [fact, comparand]

namespace Condition

/-- A name in a group is a name in one of its conditions. -/
theorem names_group {connective : Connective} {children : List Condition} {name : String} :
    (group connective children).Names name ↔ ∃ child ∈ children, child.Names name := by
  constructor
  · rintro ⟨⟩
    exact ⟨_, ‹_›, ‹_›⟩
  · rintro ⟨child, member, deeper⟩
    exact .inside member deeper

section Agreement

variable (operators : OperatorTable) {facts others : Facts}

mutual

/-- **Facts that agree on the names in a condition give it the same outcome**, a
verdict or a failure. -/
theorem holds_congr : ∀ condition : Condition,
    (∀ name, condition.Names name → facts.lookup name = others.lookup name) →
      condition.holds operators facts = condition.holds operators others
  | .leaf comparison, agree => by
    rw [holds, holds]
    exact comparison.holds_congr operators fun name named => agree name (Leaf.mem_factNames.1 named)
  | .group .all children, agree => by
    rw [holds, holds]
    exact (groups_congr children fun name child member deeper =>
      agree name (.inside member deeper)).1
  | .group .any children, agree => by
    rw [holds, holds]
    exact (groups_congr children fun name child member deeper =>
      agree name (.inside member deeper)).2

/-- Both sorts of groups go through the same conditions. -/
theorem groups_congr : ∀ children : List Condition,
    (∀ name, ∀ child ∈ children, child.Names name → facts.lookup name = others.lookup name) →
      allHold operators facts children = allHold operators others children ∧
        anyHolds operators facts children = anyHolds operators others children
  | [], _ => by
    rw [allHold, allHold, anyHolds, anyHolds]
    exact ⟨rfl, rfl⟩
  | child :: rest, agree => by
    have first := holds_congr child fun name => agree name child List.mem_cons_self
    obtain ⟨all, any⟩ := groups_congr rest fun name other member =>
      agree name other (List.mem_cons_of_mem child member)
    rw [allHold, allHold, anyHolds, anyHolds, first, all, any]
    exact ⟨rfl, rfl⟩

end

end Agreement

end Condition

/-! ### Tables put into one another -/

namespace Facts

/-- The value of a fact, nothing when it is absent. -/
def valueOf (facts : Facts) (name : String) : Value := (facts.lookup name).getD .null

/-- The table with a value under a name; a name that is there keeps its place. -/
def put (name : String) (value : Value) : Facts → Facts
  | [] => [(name, value)]
  | (other, old) :: rest =>
    if other = name then (other, value) :: rest else (other, old) :: put name value rest

/-- The table with the entries of another one. -/
def merge (known more : Facts) : Facts :=
  more.foldl (fun gathered entry => gathered.put entry.1 entry.2) known

/-- Tables put into one another, from the first to the last. -/
def mergeAll (parts : List Facts) : Facts := parts.foldl merge []

/-- The values of facts under their names. -/
def copyOf (facts : Facts) (names : List String) : Facts :=
  names.map fun name => (name, facts.valueOf name)

/-- A table has distinct names, each with the value that it has among the facts. -/
structure IsCopy (facts found : Facts) : Prop where
  distinct : (found.map Prod.fst).Nodup
  copied : ∀ entry ∈ found, entry.2 = facts.valueOf entry.1

variable {facts found more : Facts}

theorem mem_names_put {name other : String} {value : Value} :
    other ∈ (found.put name value).map Prod.fst ↔ other = name ∨ other ∈ found.map Prod.fst := by
  induction found with
  | nil => simp [put]
  | cons entry rest ih =>
    by_cases here : entry.1 = name
    · simp [put, here]
    · rw [put, if_neg here, List.map_cons, List.map_cons, List.mem_cons, List.mem_cons, ih]
      exact or_left_comm

theorem mem_names_merge {name : String} : name ∈ (found.merge more).map Prod.fst ↔
    name ∈ found.map Prod.fst ∨ name ∈ more.map Prod.fst := by
  unfold merge
  induction more generalizing found with
  | nil => simp
  | cons entry rest ih =>
    rw [List.foldl_cons, ih, mem_names_put, List.map_cons, List.mem_cons, or_assoc, or_left_comm]

theorem mem_names_foldl_merge {name : String} (parts : List Facts) :
    name ∈ (parts.foldl merge found).map Prod.fst ↔
      name ∈ found.map Prod.fst ∨ ∃ part ∈ parts, name ∈ part.map Prod.fst := by
  induction parts generalizing found with
  | nil => simp
  | cons part rest ih =>
    rw [List.foldl_cons, ih, mem_names_merge, List.exists_mem_cons_iff, or_assoc]

/-- The names of tables put into one another are the names of all of them. -/
theorem mem_names_mergeAll {name : String} {parts : List Facts} :
    name ∈ (mergeAll parts).map Prod.fst ↔ ∃ part ∈ parts, name ∈ part.map Prod.fst := by
  rw [mergeAll, mem_names_foldl_merge]
  simp

namespace IsCopy

theorem nil : IsCopy facts [] := ⟨List.nodup_nil, nofun⟩

/-- The value of a fact may be put again: it is the one that is there. -/
theorem put (copy : IsCopy facts found) (name : String) :
    IsCopy facts (found.put name (facts.valueOf name)) := by
  induction found with
  | nil => exact ⟨List.nodup_singleton name, List.forall_mem_singleton.2 rfl⟩
  | cons entry rest ih =>
    obtain ⟨once, distinct⟩ := List.nodup_cons.1 copy.distinct
    obtain ⟨here, copied⟩ := List.forall_mem_cons.1 copy.copied
    by_cases same : entry.1 = name
    · rw [Facts.put, if_pos same]
      exact ⟨copy.distinct, List.forall_mem_cons.2 ⟨congrArg facts.valueOf same.symm, copied⟩⟩
    · rw [Facts.put, if_neg same]
      obtain ⟨distinctRest, copiedRest⟩ := ih ⟨distinct, copied⟩
      refine ⟨List.nodup_cons.2 ⟨fun again => ?_, distinctRest⟩,
        List.forall_mem_cons.2 ⟨here, copiedRest⟩⟩
      exact (mem_names_put.1 again).elim same once

theorem merge (copy : IsCopy facts found) (other : IsCopy facts more) :
    IsCopy facts (found.merge more) := by
  have copied := other.copied
  clear other
  unfold Facts.merge
  induction more generalizing found with
  | nil => exact copy
  | cons entry rest ih =>
    obtain ⟨here, later⟩ := List.forall_mem_cons.1 copied
    rw [List.foldl_cons, here]
    exact ih (copy.put entry.1) later

theorem mergeAll {parts : List Facts} (copies : ∀ part ∈ parts, IsCopy facts part) :
    IsCopy facts (mergeAll parts) := by
  have fold : ∀ parts : List Facts, (∀ part ∈ parts, IsCopy facts part) →
      ∀ {found : Facts}, IsCopy facts found → IsCopy facts (parts.foldl Facts.merge found) := by
    intro parts
    induction parts with
    | nil => exact fun _ _ copy => copy
    | cons part rest ih =>
      intro copies found copy
      obtain ⟨here, later⟩ := List.forall_mem_cons.1 copies
      exact ih later (copy.merge here)
  exact fold parts copies nil

/-- Copies of the same facts with the same names have the same entries. -/
theorem perm (copy : IsCopy facts found) (other : IsCopy facts more)
    (names : ∀ name, name ∈ found.map Prod.fst ↔ name ∈ more.map Prod.fst) : found.Perm more := by
  have inside : ∀ {one another : Facts}, IsCopy facts one → IsCopy facts another →
      (∀ name ∈ one.map Prod.fst, name ∈ another.map Prod.fst) → ∀ entry ∈ one,
        entry ∈ another := by
    intro one another first second names entry member
    obtain ⟨again, there, same⟩ := List.mem_map.1 (names entry.1 (List.mem_map_of_mem member))
    have equal : again = entry := Prod.ext same (by
      rw [second.copied again there, first.copied entry member, same])
    exact equal ▸ there
  exact (List.perm_ext_iff_of_nodup copy.distinct.of_map other.distinct.of_map).2 fun entry =>
    ⟨inside copy other (fun name => (names name).1) entry,
      inside other copy (fun name => (names name).2) entry⟩

end IsCopy

end Facts

/-! ### Names listed once -/

section Names

variable (names more : List String) (name : String)

/-- A name behind others is listed where it is not among them. -/
theorem eraseDups_concat : (names ++ [name]).eraseDups =
    if name ∈ names then names.eraseDups else names.eraseDups ++ [name] := by
  rw [List.eraseDups_append]
  by_cases listed : name ∈ names
  · simp [List.removeAll, listed]
  · simp [List.removeAll, listed, List.eraseDups_cons]

/-- Names that are listed once already are listed alike behind others. -/
theorem eraseDups_append_eraseDups :
    (names ++ more.eraseDups).eraseDups = (names ++ more).eraseDups := by
  induction more using List.reverseRecOn with
  | nil => rw [List.eraseDups_nil]
  | append_singleton more name ih =>
    rw [← List.append_assoc, eraseDups_concat (names ++ more), eraseDups_concat more]
    by_cases listed : name ∈ more
    · rw [if_pos listed, if_pos (List.mem_append_right names listed), ih]
    · rw [if_neg listed, ← List.append_assoc, eraseDups_concat, ih]
      simp only [List.mem_append, List.mem_eraseDups]

end Names

namespace Facts

variable (facts : Facts)

theorem put_copyOf (names : List String) (name : String) :
    (facts.copyOf names).put name (facts.valueOf name) =
      if name ∈ names then facts.copyOf names else facts.copyOf (names ++ [name]) := by
  induction names with
  | nil => rfl
  | cons first rest ih =>
    by_cases here : first = name
    · subst here
      simp [copyOf, put]
    · have there : name ≠ first := fun same => here same.symm
      have tail : (facts.copyOf (first :: rest)).put name (facts.valueOf name) =
          (first, facts.valueOf first) :: (facts.copyOf rest).put name (facts.valueOf name) := by
        rw [copyOf, List.map_cons, put, if_neg here]
        rfl
      rw [tail, ih]
      by_cases later : name ∈ rest
      · rw [if_pos later, if_pos (List.mem_cons_of_mem first later)]
        rfl
      · rw [if_neg later, if_neg (List.mem_cons.not.2 (not_or.2 ⟨there, later⟩))]
        rfl

/-- Copies put into one another list every name where it comes first. -/
theorem merge_copyOf (names more : List String) :
    (facts.copyOf names.eraseDups).merge (facts.copyOf more) =
      facts.copyOf (names ++ more).eraseDups := by
  induction more generalizing names with
  | nil => rw [List.append_nil]; rfl
  | cons name rest ih =>
    have first : (facts.copyOf names.eraseDups).put name (facts.valueOf name) =
        facts.copyOf (names ++ [name]).eraseDups := by
      rw [put_copyOf, eraseDups_concat]
      by_cases listed : name ∈ names
      · rw [if_pos listed, if_pos (List.mem_eraseDups.2 listed)]
      · rw [if_neg listed, if_neg (List.mem_eraseDups.not.2 listed)]
    have step : (facts.copyOf names.eraseDups).merge (facts.copyOf (name :: rest)) =
        ((facts.copyOf names.eraseDups).put name (facts.valueOf name)).merge
          (facts.copyOf rest) := rfl
    rw [step, first, ih, List.append_assoc, List.singleton_append]

/-- By induction on lists of names: copies put together are the copy of all of them. -/
theorem mergeAll_copyOf (lists : List (List String)) :
    mergeAll (lists.map fun names => facts.copyOf names.eraseDups) =
      facts.copyOf lists.flatten.eraseDups := by
  have fold : ∀ (lists : List (List String)) (names : List String),
      (lists.map fun names => facts.copyOf names.eraseDups).foldl merge
        (facts.copyOf names.eraseDups) =
        facts.copyOf (names ++ lists.flatten).eraseDups := by
    intro lists
    induction lists with
    | nil => exact fun names => by rw [List.flatten_nil, List.append_nil]; rfl
    | cons first rest ih =>
      intro names
      rw [List.map_cons, List.foldl_cons, merge_copyOf, eraseDups_append_eraseDups, ih,
        List.flatten_cons, List.append_assoc]
  exact fold lists []

end Facts

/-! ### What a condition records -/

namespace Condition

section Recording

open Facts

variable (facts : Facts)

mutual

/-- What a condition records: a leaf the facts that it looks at, a group what its conditions do, the
tables of which are put into one another in any order. -/
inductive Records : Condition → Facts → Prop
  | leaf {comparison : Leaf} {order : List String} (shuffled : order.Perm comparison.factNames) :
      Records (.leaf comparison) (mergeAll (order.map fun name => [(name, facts.valueOf name)]))
  | group {connective : Connective} {children : List Condition} {parts order : List Facts}
      (each : RecordsEach children parts) (shuffled : order.Perm parts) :
      Records (.group connective children) (mergeAll order)

/-- What several conditions record, one table for each. -/
inductive RecordsEach : List Condition → List Facts → Prop
  | nil : RecordsEach [] []
  | cons {child : Condition} {found : Facts} {rest : List Condition} {others : List Facts}
      (here : Records child found) (later : RecordsEach rest others) :
      RecordsEach (child :: rest) (found :: others)

end

variable {facts}

mutual

/-- **What a condition records are its names with their values**, in whichever
order it is put together. -/
theorem isCopy_of_records : ∀ {condition : Condition} {found : Facts},
    Records facts condition found →
    IsCopy facts found ∧ ∀ name, name ∈ found.map Prod.fst ↔ condition.Names name
  | .leaf comparison, _, @Records.leaf _ _ order shuffled => by
    refine ⟨IsCopy.mergeAll (List.forall_mem_map.2 fun name _ => IsCopy.nil.put name),
      fun name => ?_⟩
    rw [mem_names_mergeAll, ← Leaf.mem_factNames, ← shuffled.mem_iff]
    simp
  | .group connective children, _, .group each shuffled => by
    obtain ⟨copies, names⟩ := isCopies_of_recordsEach each
    refine ⟨IsCopy.mergeAll fun part inside => copies part (shuffled.mem_iff.1 inside),
      fun name => ?_⟩
    rw [mem_names_mergeAll, names_group, ← names]
    exact exists_congr fun part => and_congr_left fun _ => shuffled.mem_iff

theorem isCopies_of_recordsEach : ∀ {children : List Condition} {parts : List Facts},
    RecordsEach facts children parts →
      (∀ part ∈ parts, IsCopy facts part) ∧
        ∀ name, (∃ part ∈ parts, name ∈ part.map Prod.fst) ↔ ∃ child ∈ children, child.Names name
  | [], _, .nil => by simp
  | child :: rest, _, .cons here later => by
    obtain ⟨copy, names⟩ := isCopy_of_records here
    obtain ⟨copies, others⟩ := isCopies_of_recordsEach later
    refine ⟨List.forall_mem_cons.2 ⟨copy, copies⟩, fun name => ?_⟩
    rw [List.exists_mem_cons_iff, List.exists_mem_cons_iff, names, others]

end

variable (facts)

mutual

/-- Put together in document order, the names are listed in the order in which they occur. -/
theorem records_copyOf : ∀ condition : Condition,
    Records facts condition (facts.copyOf (condition.leaves.flatMap Leaf.factNames).eraseDups)
  | .leaf comparison => by
    have table := mergeAll_copyOf facts (comparison.factNames.map fun name => [name])
    rw [List.map_map, ← List.flatMap_def, List.flatMap_singleton'] at table
    rw [leaves, List.flatMap_singleton, ← table]
    exact .leaf (.refl _)
  | .group connective children => by
    have table :=
      mergeAll_copyOf facts (children.map fun child => child.leaves.flatMap Leaf.factNames)
    rw [List.map_map, ← List.flatMap_def, ← List.flatMap_assoc, ← leavesOf_eq_flatMap] at table
    rw [leaves, ← table]
    exact .group (recordsEach_copyOf children) (.refl _)

/-- By induction on conditions: each can record a copy of the facts that it names. -/
theorem recordsEach_copyOf : ∀ children : List Condition,
    RecordsEach facts children
      (children.map fun child => facts.copyOf (child.leaves.flatMap Leaf.factNames).eraseDups)
  | [] => .nil
  | child :: rest => .cons (records_copyOf child) (recordsEach_copyOf rest)

end

end Recording

end Condition

/-! ### The values recorded with a violation -/

namespace ConditionTree

/-- **What is recorded determines the verdict.** Facts that agree with the recorded ones on every
name that is recorded, by being absent as well or by having the same value, have the same
verdict, or fail alike, whatever the tests are. The names that are recorded are those that occur
in the tree, at any depth, each once and with the value of its fact, nothing where it is absent.
They are recorded by going through the tree, and in whichever order what its parts record is put
together, the same entries come out.

Values are the same when they are equal as terms; they have no identity besides. Where a test asks
whether two values are one object, which only tells for a not-a-number that a container holds, facts
agree when they are the same objects. -/
theorem holds_determined_by_factValues (tree : ConditionTree) (facts : Facts) :
    (∀ (operators : OperatorTable) (others : Facts),
      (∀ name ∈ (tree.factValues facts).map Prod.fst, facts.lookup name = others.lookup name) →
        tree.holds operators facts = tree.holds operators others) ∧
    ((tree.factValues facts).map Prod.fst).Nodup ∧
    (∀ name value, (name, value) ∈ tree.factValues facts ↔
      tree.toCondition.Names name ∧ value = (facts.lookup name).getD .null) ∧
    Condition.Records facts tree.toCondition (tree.factValues facts) ∧
    ∀ found, Condition.Records facts tree.toCondition found →
      found.Perm (tree.factValues facts) := by
  have records : Condition.Records facts tree.toCondition (tree.factValues facts) :=
    Condition.records_copyOf facts tree.toCondition
  obtain ⟨copy, names⟩ := Condition.isCopy_of_records records
  refine ⟨fun operators others agree => ?_, copy.distinct, fun name value => ?_, records,
    fun found again => ?_⟩
  · exact Condition.holds_congr operators tree.toCondition fun name named =>
      agree name ((names name).2 named)
  · rw [← names, List.mem_map]
    constructor
    · exact fun member => ⟨⟨(name, value), member, rfl⟩, copy.copied _ member⟩
    · rintro ⟨⟨entry, member, rfl⟩, rfl⟩
      have same : entry = (entry.1, facts.valueOf entry.1) :=
        Prod.ext rfl (copy.copied entry member)
      exact same ▸ member
  · obtain ⟨copyAgain, namesAgain⟩ := Condition.isCopy_of_records again
    exact copyAgain.perm copy fun name => (namesAgain name).trans (names name).symm

/-- A nested tree with a fact that is compared with another one and one that is absent: facts that
differ in other names only have the same verdict. -/
theorem holds_determined_by_factValues_of_nested :
    let tree : ConditionTree :=
  ⟨.all, [.leaf ⟨"size", "lessThan", .record [("fact", .text "limit")]⟩,
      .group .any [.leaf ⟨"color", "isNil", .null⟩, .leaf ⟨"size", "equal", .int 3⟩]]⟩
    let facts : Facts := [("size", .int 3), ("limit", .int 4)]
    let others : Facts := [("weight", .int 9), ("limit", .int 4), ("size", .int 3)]
    tree.factValues facts = [("size", .int 3), ("limit", .int 4), ("color", .null)] ∧
      (∀ name ∈ (tree.factValues facts).map Prod.fst, facts.lookup name = others.lookup name) ∧
      tree.holds Operator.builtIn facts = tree.holds Operator.builtIn others ∧
      (∀ name value, (name, value) ∈ tree.factValues facts ↔
        tree.toCondition.Names name ∧ value = (facts.lookup name).getD .null) ∧
      ∀ found, Condition.Records facts tree.toCondition found →
        found.Perm (tree.factValues facts) := by
  intro tree facts others
  have recorded : tree.factValues facts =
    [("size", .int 3), ("limit", .int 4), ("color", .null)] := rfl
  have agree : ∀ name ∈ (tree.factValues facts).map Prod.fst,
    facts.lookup name = others.lookup name := by
    rw [recorded]
    simp only [List.map_cons, List.map_nil, List.forall_mem_cons]
    exact ⟨rfl, rfl, rfl, nofun⟩
  obtain ⟨determined, -, entries, -, orders⟩ := holds_determined_by_factValues tree facts
  exact ⟨recorded, agree, determined Operator.builtIn others agree, entries, orders⟩

end ConditionTree

end QueryDesk
