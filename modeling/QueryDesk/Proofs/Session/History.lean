/-
**What a session leaves behind: marks, and nothing else.**

* `Workspace.IsSound` — names occur once, and sets of one origin have one list of compare keys.
* `fresh_step`, `fresh_after` — one step, and by induction any number of them, changes nothing but
  marks and what is known of the rules: each set is, built anew, what it was.
* `Workspace.runs_forget_history` — so a comparison or a check after any session ends as it would on
  sets built anew, and the check leaves all other marks alone.

Sets of one origin learn from each other: a check of one gives its rules to all. This is why
soundness is asked of the workspace and not of each set.
-/

import Mathlib.Data.List.Nodup
import QueryDesk.Proofs.RuleCheck.Verdict
import QueryDesk.Proofs.Session.Fresh
import QueryDesk.ResultSet.Session

namespace QueryDesk

namespace Workspace

/-- Every set built anew, under its name. -/
def fresh (workspace : Workspace) : Workspace :=
  workspace.map fun entry => { entry with set := entry.set.fresh }

/-- Names occur once, and sets of one origin have one list of compare keys. -/
def IsSound (workspace : Workspace) : Prop :=
  (workspace.map NamedSet.name).Nodup ∧ ∀ one ∈ workspace, ∀ other ∈ workspace,
    one.origin = other.origin → one.set.origin.compareKeys = other.set.origin.compareKeys

theorem isSound_fresh (workspace : Workspace) : workspace.fresh.IsSound ↔ workspace.IsSound := by
  unfold IsSound fresh
  rw [List.map_map]
  simp only [List.forall_mem_map]
  rfl

/-- Soundness is not about marks. -/
theorem isSound_congr {workspace reached : Workspace} (same : reached.fresh = workspace.fresh)
    (sound : workspace.IsSound) : reached.IsSound := by
  rw [← isSound_fresh] at sound ⊢
  rw [same]
  exact sound

theorem isSound_ofSets {sets : List (String × ResultSet)} (once : (sets.map Prod.fst).Nodup) :
    (ofSets sets).IsSound := by
  unfold ofSets
  constructor
  · rw [List.map_map]
    have names : sets.zipIdx.map (Prod.fst ∘ Prod.fst) = sets.map Prod.fst := by
      rw [← List.map_map, List.zipIdx_map_fst]
    exact names ▸ once
  · simp only [List.forall_mem_map]
    rintro ⟨one, place⟩ here ⟨other, placeOther⟩ there same
    obtain rfl : place = placeOther := same
    rw [List.mem_zipIdx_iff_getElem?] at here there
    obtain rfl : one = other := Option.some.inj (here.symm.trans there)
    rfl

theorem mem_of_entry? {workspace : Workspace} {name : String} {entry : NamedSet}
    (found : workspace.entry? name = some entry) : entry ∈ workspace ∧ entry.name = name := by
  unfold entry? at found
  have named := List.find?_some found
  exact ⟨List.mem_of_find?_eq_some found, beq_iff_eq.1 named⟩

theorem set?_fresh (workspace : Workspace) (name : String) :
    workspace.fresh.set? name = (workspace.set? name).map ResultSet.fresh := by
  unfold set? entry? fresh
  rw [List.find?_map, Option.map_map, Option.map_map]
  rfl

/-- A set is found again, the same but for its marks. -/
theorem set?_of_fresh {workspace reached : Workspace} (same : reached.fresh = workspace.fresh)
    {name : String} {set : ResultSet} (found : workspace.set? name = some set) :
    ∃ again, reached.set? name = some again ∧ again.fresh = set.fresh := by
  have both := set?_fresh reached name
  rw [same, set?_fresh, found] at both
  cases there : reached.set? name with
  | none => rw [there] at both; cases both
  | some again =>
    rw [there] at both
    exact ⟨again, rfl, (Option.some.inj both).symm⟩

/-! ### One step -/

variable {workspace : Workspace}

/-- Sets of the same origin learn what the new set knows; compare keys are no news to them. -/
theorem fresh_replace (sound : workspace.IsSound) {name : String} {set previous : ResultSet}
    (found : workspace.set? name = some previous) (same : set.fresh = previous.fresh) :
    (workspace.replace name set).fresh = workspace.fresh := by
  obtain ⟨once, alike⟩ := sound
  obtain ⟨changed, first, rfl⟩ := Option.map_eq_some_iff.1 found
  obtain ⟨inside, named⟩ := mem_of_entry? first
  unfold replace
  rw [first]
  unfold fresh
  rw [List.map_map]
  refine List.map_congr_left fun entry member => ?_
  by_cases isNamed : entry.name = name
  · obtain rfl : entry = changed :=
      List.inj_on_of_nodup_map once member inside (isNamed.trans named.symm)
    simp [isNamed, same]
  · by_cases shares : entry.origin = changed.origin
    · have keys := alike entry member changed inside shares
      have kept := ((ResultSet.fresh_eq_iff set changed.set).1 same).2.2
      have learned : ({ entry.set with origin := set.origin } : ResultSet).fresh =
        entry.set.fresh :=
        (ResultSet.fresh_eq_iff _ _).2 ⟨rfl, rfl, kept.trans keys.symm⟩
      simp [isNamed, shares, learned]
    · simp [isNamed, shares]

theorem fresh_update (sound : workspace.IsSound) (name : String) {change : ResultSet → ResultSet}
    (keeps : ∀ set, (change set).fresh = set.fresh) :
    (workspace.update name change).fresh = workspace.fresh := by
  unfold update
  cases found : workspace.set? name with
  | none => rfl
  | some set => exact fresh_replace sound found (keeps set)

theorem fresh_compare (sound : workspace.IsSound) (old new : String) :
    (workspace.compare old new).fresh = workspace.fresh := by
  unfold compare
  by_cases itself : old = new
  · rw [if_pos itself]
    exact fresh_update sound old ResultSet.fresh_diffWithItself
  · rw [if_neg itself]
    cases foundOld : workspace.set? old with
    | none => rfl
    | some oldSet =>
      cases foundNew : workspace.set? new with
      | none => rfl
      | some newSet =>
        obtain ⟨oldKept, newKept⟩ := ResultSet.fresh_diff oldSet newSet
        have first := fresh_replace sound foundOld oldKept
        obtain ⟨again, foundAgain, sameAgain⟩ := set?_of_fresh first foundNew
        have second := fresh_replace (isSound_congr first sound) foundAgain
          (newKept.trans sameAgain.symm)
        exact second.trans first

/-- One step leaves all sets as they are anew. -/
theorem fresh_step (sound : workspace.IsSound) (one : MarkingStep) :
    (workspace.step one).fresh = workspace.fresh := by
  cases one with
  | push name place column mark =>
    exact fresh_update sound name fun set => set.fresh_modify place fun _ => rfl
  | clearRow name place kind =>
    exact fresh_update sound name fun set => set.fresh_modify place fun _ => rfl
  | clear name kind => exact fresh_update sound name fun set => set.fresh_clear kind
  | compare old new => exact fresh_compare sound old new
  | check name table => exact fresh_update sound name fun set => set.fresh_validate table

/-! ### All steps -/

/-- By induction on the steps: a session leaves all sets as they are anew. -/
theorem fresh_after (steps : List MarkingStep) : ∀ {workspace : Workspace}, workspace.IsSound →
    (workspace.after steps).fresh = workspace.fresh := by
  induction steps with
  | nil => exact fun _ => rfl
  | cons one rest ih =>
    intro workspace sound
    have here := fresh_step sound one
    exact (ih (isSound_congr here sound)).trans here

end Workspace

/-! ### Runs after a session -/

namespace ResultSet

/-- A set with the columns, the values and the number of rows of another. -/
structure HasDataOf (reached set : ResultSet) : Prop where
  keys : reached.keys = set.keys
  values : reached.rows.map Row.values = set.rows.map Row.values
  count : reached.rows.length = set.rows.length

/-- A comparison is reported as it would be on sets built anew, and if it is
made leaves the same marks. -/
structure ComparesAsAnew (reachedOld reachedNew old new : ResultSet) : Prop where
  report : (diff reachedOld reachedNew).report = (diff old.fresh new.fresh).report
  marks : (∃ report, (diff reachedOld reachedNew).report = .ok report ∧ report.ok = true) →
    (diff reachedOld reachedNew).old.rows = (diff old.fresh new.fresh).old.rows ∧
      (diff reachedOld reachedNew).new.rows = (diff old.fresh new.fresh).new.rows

/-- A check ends as it would on a set built anew, with the same rules noted and the same marks of
its own, and leaves the marks of other kinds as they are, in order, on every cell. -/
structure ChecksAsAnew (reached set : ResultSet) (table : TableRule) : Prop where
  verdict : (reached.validate table).2 = (set.fresh.validate table).2
  noted : (reached.validate table).1.origin.tableRule = some table ∧
    (set.fresh.validate table).1.origin.tableRule = some table
  own : List.Forall₂ (Row.SameMarks Row.isOwn) (reached.validate table).1.rows
    (set.fresh.validate table).1.rows
  others : List.Forall₂ (Row.SameMarks Row.isForeign) reached.rows (reached.validate table).1.rows

theorem hasDataOf_of_fresh {reached set : ResultSet} (same : reached.fresh = set.fresh) :
    reached.HasDataOf set := by
  obtain ⟨keys, values, -⟩ := (fresh_eq_iff reached set).1 same
  have count := congrArg List.length values
  rw [List.length_map, List.length_map] at count
  exact ⟨keys, values, count⟩

theorem comparesAsAnew_of_fresh {reachedOld reachedNew old new : ResultSet}
    (sameOld : reachedOld.fresh = old.fresh) (sameNew : reachedNew.fresh = new.fresh) :
    ComparesAsAnew reachedOld reachedNew old new := by
  obtain ⟨report, rows⟩ := diff_congr (sameOld.trans old.fresh_fresh.symm)
    (sameNew.trans new.fresh_fresh.symm)
  refine ⟨report, ?_⟩
  rintro ⟨_, completed, compared⟩
  obtain ⟨key, chosen, -⟩ := diff_completed completed compared
  exact rows ⟨key, chosen⟩

theorem checksAsAnew_of_fresh {reached set : ResultSet} (same : reached.fresh = set.fresh)
    (table : TableRule) : reached.ChecksAsAnew set table := by
  have again := same.trans set.fresh_fresh.symm
  obtain ⟨verdict, own⟩ :=
    validate_congr (names_of_fresh again) ((fresh_eq_iff _ _).1 again).2.1 table
  obtain ⟨-, others, origin⟩ := reached.validate_keeps table
  obtain ⟨-, -, originAnew⟩ := set.fresh.validate_keeps table
  exact ⟨verdict, ⟨congrArg Provenance.tableRule origin, congrArg Provenance.tableRule originAnew⟩,
    own, others⟩

end ResultSet

/-- **Comparisons and checks have no history.** After any session every set has the
columns, values and rows it started with; a comparison and a check of what is there then
end as on sets built anew. -/
theorem Workspace.runs_forget_history {start : Workspace} (sound : start.IsSound)
    (steps : List MarkingStep) {oldName newName : String} {old new : ResultSet}
    (hasOld : start.set? oldName = some old) (hasNew : start.set? newName = some new) :
    ∃ reachedOld reachedNew, (start.after steps).set? oldName = some reachedOld ∧
      (start.after steps).set? newName = some reachedNew ∧
      reachedOld.HasDataOf old ∧ reachedNew.HasDataOf new ∧
      ResultSet.ComparesAsAnew reachedOld reachedNew old new ∧
      ∀ table, reachedOld.ChecksAsAnew old table ∧ reachedNew.ChecksAsAnew new table := by
  have same := fresh_after steps sound
  obtain ⟨reachedOld, foundOld, sameOld⟩ := set?_of_fresh same hasOld
  obtain ⟨reachedNew, foundNew, sameNew⟩ := set?_of_fresh same hasNew
  exact ⟨reachedOld, reachedNew, foundOld, foundNew, ResultSet.hasDataOf_of_fresh sameOld,
    ResultSet.hasDataOf_of_fresh sameNew, ResultSet.comparesAsAnew_of_fresh sameOld sameNew,
    fun table => ⟨ResultSet.checksAsAnew_of_fresh sameOld table,
      ResultSet.checksAsAnew_of_fresh sameNew table⟩⟩

/-- Two sets marked by hand, compared both ways and each with itself, checked and partly cleared:
they still compare and check as at the start. -/
theorem Workspace.runs_forget_history_of_marked_sets :
    let old : ResultSet := .keyedBy (.unique "id") ["id", "name"]
      [[("id", .int 1), ("name", .text "a")], [("id", .int 2)]]
    let new : ResultSet := .keyedBy (.unique "id") ["id", "name"]
      [[("id", .int 1), ("name", .text "b")], [("id", .int 3), ("name", .null)]]
    let start := ofSets [("old", old), ("new", new)]
    let steps : List MarkingStep := [.push "old" 0 "name" (.plain .added), .compare "new" "old",
      .check "new" (TableRule.requires "name" 5), .push "new" 1 "id" (.plain .violated),
      .compare "old" "old", .clearRow "new" 0 (some .updated), .clear "old" none]
    start.IsSound ∧ start.set? "old" = some old ∧ start.set? "new" = some new ∧
      ∃ reachedOld reachedNew, (start.after steps).set? "old" = some reachedOld ∧
        (start.after steps).set? "new" = some reachedNew ∧
        (diff reachedOld reachedNew).report =
          .ok ⟨true, 1, 1, 1, "Inserted:1, Deleted:1, Updated:1"⟩ ∧
        (diff reachedOld reachedNew).old.rows = (diff old.fresh new.fresh).old.rows ∧
        (diff reachedOld reachedNew).new.rows = (diff old.fresh new.fresh).new.rows ∧
        (reachedNew.validate (TableRule.requires "name" 5)).2 = .ok false := by
  intro old new start steps
  have sound : start.IsSound := isSound_ofSets (by decide)
  have hasOld : start.set? "old" = some old := rfl
  have hasNew : start.set? "new" = some new := rfl
  obtain ⟨reachedOld, reachedNew, foundOld, foundNew, -, -, compares, checks⟩ :=
    runs_forget_history sound steps hasOld hasNew
  have anew : (diff old.fresh new.fresh).report =
      .ok ⟨true, 1, 1, 1, "Inserted:1, Deleted:1, Updated:1"⟩ :=
        eq_ok_of_toOption (by decide +kernel)
  have completed := compares.report.trans anew
  obtain ⟨oldRows, newRows⟩ := compares.marks ⟨_, completed, rfl⟩
  have verdict : (new.fresh.validate (TableRule.requires "name" 5)).2 = .ok false := by
    rw [ResultSet.validate_eq _ (TableRule.usesBuiltIns_requires "name" 5)]
    rfl
  exact ⟨sound, hasOld, hasNew, reachedOld, reachedNew, foundOld, foundNew, completed, oldRows,
    newRows,
    (checks (TableRule.requires "name" 5)).2.verdict.trans verdict⟩

end QueryDesk
