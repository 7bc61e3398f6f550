/-
**Placeholders of names that are all different.**

When every name occurs once and has a value, the two styles bind the same list: the values in the
order of the names, lists and tuples spread out in place.

* `spread` — values with lists and tuples spread out.
* `placesFrom` — the positions of values, one after another (`flatten_placesFrom`).
* `blocksFrom` — the blocks of names with values; `scanNames_blocksFrom` finds them in the
  scan in the positioned style.
* `Template.bind_distinct` — both results, as a whole.
-/

import QueryDesk.Proofs.Placeholder.Layout
import QueryDesk.Proofs.Placeholder.Numbered
import QueryDesk.Proofs.Search

namespace QueryDesk.Sql

/-! ### Values and their positions -/

/-- Values with lists and tuples spread out in place. -/
def spread (values : List Value) : List Value :=
  values.flatMap fun value => (Binding.ofValue value).values

/-- The positions of values behind a position: as many neighbouring ones as each binds values. -/
def placesFrom : Nat → List Value → List (List Nat)
  | _, [] => []
  | position, value :: rest =>
    (List.range (Binding.ofValue value).width).map (position + 1 + ·) ::
      placesFrom (position + (Binding.ofValue value).width) rest

theorem length_placesFrom (values : List Value) :
    ∀ position : Nat, (placesFrom position values).length = values.length := by
  induction values with
  | nil => exact fun _ => rfl
  | cons value rest ih =>
    intro position
    rw [placesFrom, List.length_cons, List.length_cons, ih]

/-- **The positions of values are the numbers behind the first position, one after another.** -/
theorem flatten_placesFrom (values : List Value) : ∀ position : Nat,
    (placesFrom position values).flatten =
      (List.range (spread values).length).map (position + 1 + ·) := by
  induction values with
  | nil => exact fun _ => rfl
  | cons value rest ih =>
    intro position
    show (List.range (Binding.ofValue value).width).map (position + 1 + ·) ++
        (placesFrom (position + (Binding.ofValue value).width) rest).flatten =
      (List.range ((Binding.ofValue value).values ++ spread rest).length).map (position + 1 + ·)
    rw [ih, List.length_append, List.range_add, List.map_append, List.map_map]
    refine congrArg (_ ++ ·) (List.map_congr_left fun place _ => ?_)
    show position + (Binding.ofValue value).width + 1 + place =
      position + 1 + ((Binding.ofValue value).width + place)
    omega

/-! ### Values by distinct names -/

theorem bindingOf_of_lookup {given : Binds} {name : String} {value : Value}
    (found : given.lookup name = some value) : bindingOf (some given) name = .ofValue value := by
  unfold bindingOf
  rw [show (some given).bind (·.lookup name) = some value from found]

/-- The blocks of names with values, one after another behind a position. -/
def blocksFrom : Nat → Binds → List (String × Block)
  | _, [] => []
  | position, (name, value) :: rest =>
    (name, Block.behind position (.ofValue value)) ::
      blocksFrom (position + (Binding.ofValue value).width) rest

theorem layoutValues_blocksFrom (entries : Binds) :
    ∀ position : Nat, layoutValues (blocksFrom position entries) =
      spread (entries.map Prod.snd) := by
  induction entries with
  | nil => exact fun _ => rfl
  | cons entry rest ih =>
    intro position
    show (Binding.ofValue entry.2).values ++ layoutValues (blocksFrom _ rest) =
      (Binding.ofValue entry.2).values ++ spread (rest.map Prod.snd)
    rw [ih]

theorem positions_blocksFrom (entries : Binds) : ∀ position : Nat,
    (blocksFrom position entries).map (fun entry => entry.2.positions) =
      placesFrom position (entries.map Prod.snd) := by
  induction entries with
  | nil => exact fun _ => rfl
  | cons entry rest ih =>
    intro position
    rw [blocksFrom, List.map_cons, List.map_cons, placesFrom, ih, positions_behind]

/-- **The scan in the positioned style gives distinct names blocks one after another.** The
induction is on the names still to come, none of which the scan has met. -/
theorem scanNames_blocksFrom {given : Binds} (entries : Binds)
    (distinct : (entries.map Prod.fst).Nodup)
    (found : ∀ entry ∈ entries, given.lookup entry.1 = some entry.2) : ∀ scan : PositionedScan,
      (∀ entry ∈ entries, scan.layout.lookup entry.1 = none) →
        scanNames (PositionedScan.visit (some given)) scan (entries.map Prod.fst) =
          ((blocksFrom scan.position entries).map fun entry => entry.2.text,
            ⟨scan.position + (spread (entries.map Prod.snd)).length,
              scan.layout ++ blocksFrom scan.position entries, scan.missing⟩) := by
  induction entries with
  | nil => intro scan _; simp [scanNames, blocksFrom, spread]
  | cons entry rest ih =>
    intro scan fresh
    rw [List.map_cons, List.nodup_cons] at distinct
    obtain ⟨here, others⟩ := List.forall_mem_cons.1 found
    obtain ⟨unmet, later⟩ := List.forall_mem_cons.1 fresh
    have visited : PositionedScan.visit (some given) scan entry.1 =
        ((Block.behind scan.position (.ofValue entry.2)).text,
          ⟨scan.position + (Binding.ofValue entry.2).width,
            scan.layout ++ [(entry.1, Block.behind scan.position (.ofValue entry.2))],
            scan.missing⟩) := by
      unfold PositionedScan.visit
      rw [unmet, bindingOf_of_lookup here, noteMissing_of_found]
      · rfl
      · show (given.lookup entry.1).isNone = false
        rw [here]
        rfl
    have next := ih distinct.2 others
      ⟨scan.position + (Binding.ofValue entry.2).width,
        scan.layout ++ [(entry.1, Block.behind scan.position (.ofValue entry.2))], scan.missing⟩ (by
        intro other member
        have different : (other.1 == entry.1) = false := beq_eq_false_iff_ne.2 fun same =>
          distinct.1 (same ▸ List.mem_map_of_mem member)
        rw [List.lookup_append, later other member, Option.none_or, List.lookup_cons, different]
        rfl)
    rw [List.map_cons, scanNames, visited]
    simp only [next]
    simp only [blocksFrom, List.map_cons, List.append_assoc, List.singleton_append, spread,
      List.flatMap_cons, List.length_append, Nat.add_assoc]
    rfl

/-! ### Both styles -/

/-- **Both styles bind the values of distinct names in order**, lists and tuples spread out in
place. The positioned style shows the next positions at every name, the simple style as many
question marks, and both the text of an empty array where there is no value. -/
theorem Template.bind_distinct (template : Template) (given : Binds)
    (distinct : (given.map Prod.fst).Nodup) (names : template.names = given.map Prod.fst) :
    template.bind .positioned (some given) =
        .ok ⟨String.ofList (template.fillNumbered (placesFrom 0 (given.map Prod.snd))),
          spread (given.map Prod.snd)⟩ ∧
      template.bind .simple (some given) =
        .ok ⟨String.ofList (template.fill ((given.map Prod.snd).map fun value =>
            (SimpleScan.text (.ofValue value)).toList)),
          spread (given.map Prod.snd)⟩ := by
  have found : ∀ entry ∈ given, given.lookup entry.1 = some entry.2 := fun entry member =>
    lookup_of_distinct distinct member
  constructor
  · have packed := (scanNames_positioned (some given) template.names PositionedScan.start rfl).1
    have scan := scanNames_blocksFrom given distinct found PositionedScan.start fun _ _ => rfl
    rw [names, scan] at packed
    show template.answer _ _ _ = _
    rw [names, scan, PositionedScan.values_eq (some given) packed rfl]
    show Except.ok (BoundQuery.mk _ (layoutValues (blocksFrom 0 given))) = _
    rw [layoutValues_blocksFrom, List.map_map, Template.fillNumbered, ← positions_blocksFrom,
      List.map_map]
    rfl
  · have complete : ∀ name ∈ given.map Prod.fst, (given.lookup name).isSome := by
      intro name member
      obtain ⟨entry, inside, rfl⟩ := List.mem_map.1 member
      rw [found entry inside]
      rfl
    have bindings : ∀ entry ∈ given, bindingOf (some given) entry.1 = .ofValue entry.2 :=
      fun entry member => bindingOf_of_lookup (found entry member)
    show template.answer _ _ _ = _
    rw [names, scanNames_simple given _ complete SimpleScan.start]
    show Except.ok (BoundQuery.mk _ ((given.map Prod.fst).flatMap _)) = _
    rw [List.map_map, List.map_map, List.flatMap_map, List.map_map, spread, List.flatMap_map]
    refine congrArg Except.ok (congr (congrArg BoundQuery.mk ?_) ?_)
    · refine congrArg (fun texts => String.ofList (template.fill texts)) ?_
      exact List.map_congr_left fun entry member => by
        show (SimpleScan.text (bindingOf (some given) entry.1)).toList = _
        rw [bindings entry member]
        rfl
    · rw [List.flatMap_def, List.flatMap_def]
      exact congrArg List.flatten (List.map_congr_left fun entry member => by
        rw [bindings entry member])

example : (normalize .positioned (some [("val1", .list []), ("val2", .list [.int 7, .int 8])])
    "a IN (:val1)\nAND b IN (:val2)").toOption.map BoundQuery.query =
      some "a IN ( null )\nAND b IN ($1,$2)" := by decide +kernel

end QueryDesk.Sql
