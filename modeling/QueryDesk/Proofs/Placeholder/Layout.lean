/-
**What the two scans gather.**

The scan in the positioned style gives every new name the block behind the position given
away last, so its blocks follow one another (`Follows`), and what a name has got it
keeps. That carries the values:

* `foldl_fill` — blocks that follow one another fill the list of values from left to right.
* `lookups_of_follows` — the positions of a block, looked up in this list, give
  the values of its name.
* `scanNames_positioned`, `scanNames_simple` — the texts and the state behind a
  list of names in the two styles.
-/

import QueryDesk.Proofs.Placeholder.Missing

namespace QueryDesk.Sql

/-! ### Blocks that follow one another -/

section Layout

variable (given : Option Binds)

/-- Blocks of names that follow one another behind a position, up to a last one. -/
def Follows : Nat → List (String × Block) → Nat → Prop
  | position, [], last => position = last
  | position, (name, block) :: rest, last =>
    block = Block.behind position (bindingOf given name) ∧
      Follows (position + block.binding.width) rest last

theorem follows_append {name : String} {last : Nat} :
    ∀ {position : Nat} {layout : List (String × Block)}, Follows given position layout last →
      Follows given position (layout ++ [(name, Block.behind last (bindingOf given name))])
        (last + (bindingOf given name).width)
  | _, [], start => by
    obtain rfl : _ = last := start
    exact ⟨rfl, rfl⟩
  | _, (_, _) :: _, ⟨here, rest⟩ => ⟨here, follows_append rest⟩

/-- The values of a layout, block after block. -/
def layoutValues (layout : List (String × Block)) : List Value :=
  layout.flatMap fun entry => entry.2.binding.values

theorem length_of_follows :
    ∀ {position last : Nat} {layout : List (String × Block)}, Follows given position layout last →
      position + (layoutValues layout).length = last
  | _, _, [], same => same
  | position, last, (_, block) :: rest, ⟨_, follows⟩ => by
    have tail := length_of_follows follows
    show position + (block.binding.values ++ layoutValues rest).length = last
    rw [List.length_append, ← Nat.add_assoc]
    exact tail

/-! ### The list of values -/

theorem putFrom_blank (values : List Value) :
    ∀ (done : List Value) (blanks : Nat), values.length ≤ blanks →
      Block.putFrom done.length values (done ++ List.replicate blanks .null) =
        done ++ values ++ List.replicate (blanks - values.length) .null := by
  induction values with
  | nil => intro done blanks _; simp [Block.putFrom]
  | cons value rest ih =>
    intro done blanks room
    obtain ⟨left, rfl⟩ : ∃ left, blanks = left + 1 := Nat.exists_eq_succ_of_ne_zero (by
      rw [List.length_cons] at room
      omega)
    have room' : rest.length ≤ left := by
      rw [List.length_cons] at room
      omega
    have put : (done ++ List.replicate (left + 1) Value.null).set done.length value =
        (done ++ [value]) ++ List.replicate left .null := by
      rw [List.set_append_right _ _ (Nat.le_refl _), Nat.sub_self, List.replicate_succ,
        List.set_cons_zero, List.append_assoc, List.singleton_append]
    have next := ih (done ++ [value]) left room'
    rw [List.length_append, List.length_singleton] at next
    rw [Block.putFrom, put, next, List.length_cons, Nat.add_sub_add_right]
    simp

theorem fill_behind (done : List Value) (binding : Binding) (blanks : Nat)
    (room : binding.width ≤ blanks) :
    Block.fill (done ++ List.replicate blanks .null) (Block.behind done.length binding) =
      done ++ binding.values ++ List.replicate (blanks - binding.width) .null := by
  unfold Block.fill Block.behind
  by_cases empty : binding.width = 0
  · have none_there : binding.values = [] := List.length_eq_zero_iff.1 empty
    rw [empty, none_there]
    simp [Block.putFrom]
  · rw [if_neg empty]
    exact putFrom_blank binding.values done blanks room

/-- **Blocks that follow one another fill the list of values from left to right.** -/
theorem foldl_fill :
    ∀ {last : Nat} {layout : List (String × Block)} (done : List Value),
      Follows given done.length layout last →
      (layout.map Prod.snd).foldl Block.fill
        (done ++ List.replicate (last - done.length) .null) = done ++ layoutValues layout
  | _, [], done, same => by
    obtain rfl : done.length = _ := same
    simp [layoutValues]
  | last, (name, block) :: rest, done, ⟨here, follows⟩ => by
    subst here
    have width : (Block.behind done.length (bindingOf given name)).binding =
      bindingOf given name := rfl
    rw [width] at follows
    have total := length_of_follows given follows
    have step := fill_behind done (bindingOf given name) (last - done.length) (by omega)
    have next := foldl_fill (done ++ (bindingOf given name).values) (by
      rw [List.length_append]
      exact follows)
    rw [List.length_append, Nat.sub_add_eq] at next
    rw [List.map_cons, List.foldl_cons, step]
    show ((rest.map Prod.snd).foldl Block.fill _) =
      done ++ ((bindingOf given name).values ++ layoutValues rest)
    rw [← List.append_assoc]
    exact next

/-- A block starts at the position behind the last one. -/
theorem positions_behind (position : Nat) (binding : Binding) :
    (Block.behind position binding).positions =
      (List.range binding.width).map (position + 1 + ·) := by
  show (List.range binding.width).map
    ((if binding.width = 0 then position else position + 1) + ·) = _
  by_cases empty : binding.width = 0
  · rw [empty]
    rfl
  · rw [if_neg empty]

theorem positions_behind_pos (position : Nat) (binding : Binding) :
    ∀ place ∈ (Block.behind position binding).positions, 1 ≤ place := by
  rw [positions_behind]
  intro place member
  obtain ⟨offset, _, rfl⟩ := List.mem_map.1 member
  omega

/-- The places of a block in the list of values hold the values of its name. -/
theorem lookups_behind (done rest : List Value) (binding : Binding) :
    (Block.behind done.length binding).positions.map
        (fun place => (done ++ binding.values ++ rest)[place - 1]?) =
      binding.values.map some := by
  rw [positions_behind, List.map_map]
  refine List.ext_getElem? fun place => ?_
  rw [List.getElem?_map, List.getElem?_map]
  by_cases inside : place < binding.values.length
  · rw [List.getElem?_range (show place < binding.width from inside),
      List.getElem?_eq_getElem inside, Option.map_some, Option.map_some, Function.comp_apply,
      show done.length + 1 + place - 1 = done.length + place by omega, List.append_assoc,
      List.getElem?_append_right (Nat.le_add_right _ _), Nat.add_sub_cancel_left,
      List.getElem?_append_left inside, List.getElem?_eq_getElem inside]
  · have outside : binding.values.length ≤ place := Nat.le_of_not_lt inside
    rw [List.getElem?_eq_none (by simpa [Binding.width] using outside),
      List.getElem?_eq_none outside]
    rfl

/-- **The positions of a block, looked up in the list of values, give the values of its name.** -/
theorem lookups_of_follows :
    ∀ {last : Nat} {layout : List (String × Block)} (done : List Value),
      Follows given done.length layout last → ∀ entry ∈ layout,
        (∀ place ∈ entry.2.positions, 1 ≤ place) ∧
          entry.2.positions.map (fun place => (done ++ layoutValues layout)[place - 1]?) =
            (bindingOf given entry.1).values.map some
  | _, [], _, _ => fun entry member => by cases member
  | last, (name, block) :: rest, done, ⟨here, follows⟩ => by
    subst here
    have width : (Block.behind done.length (bindingOf given name)).binding =
      bindingOf given name := rfl
    rw [width] at follows
    have whole : done ++
      layoutValues ((name, Block.behind done.length (bindingOf given name)) :: rest)
        = done ++ (bindingOf given name).values ++ layoutValues rest :=
      (List.append_assoc _ _ _).symm
    rw [whole]
    intro entry member
    rcases List.mem_cons.1 member with rfl | inRest
    · exact ⟨positions_behind_pos _ _, lookups_behind done _ _⟩
    · exact lookups_of_follows (done ++ (bindingOf given name).values)
        (by rw [List.length_append]; exact follows) entry inRest

/-! ### The scan in the positioned style -/

namespace PositionedScan

/-- The blocks of a scan follow one another up to the position given away last. -/
def IsPacked (scan : PositionedScan) : Prop := Follows given 0 scan.layout scan.position

/-- What has a block in a scan has the same block in a later one. -/
def Keeps (scan later : PositionedScan) : Prop :=
  ∀ name block, scan.layout.lookup name = some block → later.layout.lookup name = some block

/-- The positions a name owns in a scan. -/
def positionsOf (scan : PositionedScan) (name : String) : List Nat :=
  ((scan.layout.lookup name).map Block.positions).getD []

/-- **One visit**: the blocks stay packed, nothing is lost, and the text is that
of the name's block. -/
theorem visit_spec {scan : PositionedScan} (packed : scan.IsPacked given) (name : String) :
    (visit given scan name).2.IsPacked given ∧ scan.Keeps (visit given scan name).2 ∧
      ∃ block, (visit given scan name).2.layout.lookup name = some block ∧
        (visit given scan name).1 = block.text := by
  unfold visit
  cases owned : scan.layout.lookup name with
  | some block => exact ⟨packed, fun _ _ found => found, block, owned, rfl⟩
  | none =>
    refine ⟨follows_append given packed, fun other block found => ?_, _, ?_, rfl⟩
    · show (scan.layout ++ [(name, _)]).lookup other = some block
      rw [List.lookup_append, found, Option.some_or]
    · show (scan.layout ++ [(name, _)]).lookup name = some _
      rw [List.lookup_append, owned, Option.none_or, List.lookup_cons_self]

end PositionedScan

/-- **The scan of names in the positioned style.** Every occurrence shows the positions that its
name owns in the end. The induction is on the names, for every packed scan to start from. -/
theorem scanNames_positioned (names : List String) :
    ∀ scan : PositionedScan, scan.IsPacked given →
      let done := scanNames (PositionedScan.visit given) scan names
      done.2.IsPacked given ∧ scan.Keeps done.2 ∧
        (∀ name ∈ names, (done.2.layout.lookup name).isSome) ∧
        done.1 = names.map fun name => Block.numbered (done.2.positionsOf name) := by
  induction names with
  | nil => exact fun scan packed => ⟨packed, fun _ _ found => found, by simp, rfl⟩
  | cons name rest ih =>
    intro scan packed
    obtain ⟨packedNext, keepsNext, block, owned, text⟩ :=
      PositionedScan.visit_spec given packed name
    obtain ⟨packedLast, keepsLast, ownedRest, texts⟩ := ih _ packedNext
    have ownedLast := keepsLast name block owned
    refine ⟨packedLast, fun other kept found => keepsLast _ _ (keepsNext _ _ found), ?_, ?_⟩
    · intro other member
      rcases List.mem_cons.1 member with rfl | inRest
      · exact Option.isSome_iff_exists.2 ⟨block, ownedLast⟩
      · exact ownedRest other inRest
    · have here : (PositionedScan.visit given scan name).1 = Block.numbered
          ((scanNames (PositionedScan.visit given) (PositionedScan.visit given scan name).2
            rest).2.positionsOf name) := by
        rw [text, PositionedScan.positionsOf, ownedLast]
        rfl
      exact congr (congrArg List.cons here) texts

/-- The positions of a name with a block, looked up in the values of the scan, give
what the name stands for. -/
theorem PositionedScan.lookups_positionsOf {scan : PositionedScan} (packed : scan.IsPacked given)
    {name : String} (owned : (scan.layout.lookup name).isSome) :
    (∀ place ∈ scan.positionsOf name, 1 ≤ place) ∧
      (scan.positionsOf name).map (fun place => (layoutValues scan.layout)[place - 1]?) =
        (bindingOf given name).values.map some := by
  obtain ⟨block, found⟩ := Option.isSome_iff_exists.1 owned
  have member : (name, block) ∈ scan.layout := by
    obtain ⟨before, behind, layout, _⟩ := List.lookup_eq_some_iff.1 found
    rw [layout]
    exact List.mem_append_right before List.mem_cons_self
  obtain ⟨positive, lookups⟩ := lookups_of_follows given [] packed (name, block) member
  unfold positionsOf
  rw [found]
  exact ⟨positive, lookups⟩

/-- The values of a packed scan stand block after block. -/
theorem PositionedScan.values_eq {scan : PositionedScan} (packed : scan.IsPacked given)
    (some_given : given.isSome) : scan.values given = layoutValues scan.layout := by
  have filled := foldl_fill given [] packed
  obtain ⟨entries, rfl⟩ := Option.isSome_iff_exists.1 some_given
  exact filled

/-! ### Names that all have values -/

/-- **The scan of names in the simple style**, when all of them have values. -/
theorem scanNames_simple (entries : Binds) (names : List String)
    (found : ∀ name ∈ names, (entries.lookup name).isSome) :
    ∀ scan : SimpleScan, scanNames (SimpleScan.visit (some entries)) scan names =
      (names.map fun name => SimpleScan.text (bindingOf (some entries) name),
        ⟨scan.binds ++ names.flatMap fun name => (bindingOf (some entries) name).values,
          scan.missing⟩) := by
  induction names with
  | nil => intro scan; simp [scanNames]
  | cons name rest ih =>
    intro scan
    obtain ⟨value, here⟩ := Option.isSome_iff_exists.1 (found name List.mem_cons_self)
    have visited : SimpleScan.visit (some entries) scan name =
        (SimpleScan.text (bindingOf (some entries) name),
          ⟨scan.binds ++ (bindingOf (some entries) name).values, scan.missing⟩) := by
      simp [SimpleScan.visit, bindingOf, noteMissing, isMissing, here]
    rw [scanNames, visited]
    simp only [ih fun other member => found other (List.mem_cons_of_mem name member),
      List.map_cons, List.flatMap_cons, List.append_assoc]

end Layout

end QueryDesk.Sql
