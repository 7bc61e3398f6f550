/-
**The positions that names own in the positioned style.**

* `PositionedScan.HasMet` — the names with a block in a scan are those it has met, each
  once, in the order they first appear; one visit keeps this (`HasMet.visit`), and so does a
  whole scan (`HasMet.scanNames`).
* `positions_of_follows` — blocks that follow one another own all positions behind the first one.
* `OwnsPositions` — what the placeholders of a query show and what the list of values holds there.
* `normalize_positions_dense` — **the positions of a query are dense and each belongs to one name.**
-/

import QueryDesk.Proofs.Placeholder.Distinct
import QueryDesk.Proofs.Placeholder.Lines

namespace QueryDesk.Sql

section Positions

variable (given : Option Binds)

/-! ### Names in the order they first appear -/

/-- The names with a block are those met so far, each once, in the order they first appear. -/
structure PositionedScan.HasMet (scan : PositionedScan) (names : List String) : Prop where
  in_order : scan.layout.map Prod.fst = names.eraseDups
  distinct : (scan.layout.map Prod.fst).Nodup

theorem PositionedScan.HasMet.lookup_isSome_iff {scan : PositionedScan} {names : List String}
    (met : scan.HasMet names) (name : String) :
    (scan.layout.lookup name).isSome ↔ name ∈ names := by
  rw [← List.mem_eraseDups, ← met.in_order, List.mem_map, Option.isSome_iff_exists]
  constructor
  · rintro ⟨block, found⟩
    obtain ⟨before, behind, layout, _⟩ := List.lookup_eq_some_iff.1 found
    exact ⟨(name, block), by
      rw [layout]; exact List.mem_append_right before List.mem_cons_self, rfl⟩
  · rintro ⟨⟨_, block⟩, inside, rfl⟩
    exact ⟨block, lookup_of_distinct met.distinct inside⟩

/-- **One visit**: the name is met. -/
theorem PositionedScan.HasMet.visit {scan : PositionedScan} {names : List String}
    (met : scan.HasMet names) (name : String) :
    (PositionedScan.visit given scan name).2.HasMet (names ++ [name]) := by
  have known := met.lookup_isSome_iff name
  unfold PositionedScan.visit
  cases owned : scan.layout.lookup name with
  | some block =>
    rw [owned] at known
    have again : [name].removeAll names = [] := by simp [List.removeAll, known.1 rfl]
    refine ⟨?_, met.distinct⟩
    rw [List.eraseDups_append, again, List.eraseDups_nil, List.append_nil]
    exact met.in_order
  | none =>
    rw [owned] at known
    have fresh : name ∉ names := fun inside => by cases known.2 inside
    have first : [name].removeAll names = [name] := by simp [List.removeAll, fresh]
    refine ⟨?_, ?_⟩
    · show (scan.layout ++ [(name, _)]).map Prod.fst = _
      rw [List.map_append, met.in_order, List.eraseDups_append, first]
      rfl
    · show ((scan.layout ++ [(name, _)]).map Prod.fst).Nodup
      rw [List.map_append, List.nodup_append]
      refine ⟨met.distinct, List.pairwise_singleton _ name, ?_⟩
      rintro other inside _ (member : _ ∈ [name]) rfl
      rw [List.mem_singleton.1 member, met.in_order, List.mem_eraseDups] at inside
      exact fresh inside

/-- **The whole scan**: all names are met. The induction is on the names still to come. -/
theorem PositionedScan.HasMet.scanNames {scan : PositionedScan} {before : List String}
    (met : scan.HasMet before) (names : List String) :
    (scanNames (PositionedScan.visit given) scan names).2.HasMet (before ++ names) := by
  induction names generalizing scan before with
  | nil => rwa [List.append_nil]
  | cons name rest ih =>
    have tail := ih (met.visit given name)
    rwa [List.append_assoc] at tail

/-! ### Blocks that follow one another -/

/-- The positions of a block are neighbours. -/
theorem positions_behind_eq_range' (position : Nat) (binding : Binding) :
    (Block.behind position binding).positions = List.range' (position + 1) binding.width := by
  rw [positions_behind, List.range'_eq_map_range]

/-- **Blocks that follow one another own all positions behind the first one.** -/
theorem positions_of_follows :
    ∀ {position last : Nat} {layout : List (String × Block)}, Follows given position layout last →
      layout.flatMap (fun entry => entry.2.positions) =
        List.range' (position + 1) (layoutValues layout).length
  | _, _, [], _ => rfl
  | position, last, (name, block) :: rest, ⟨here, follows⟩ => by
    subst here
    show (Block.behind position (bindingOf given name)).positions ++
        rest.flatMap (fun entry => entry.2.positions) =
      List.range' (position + 1) ((bindingOf given name).values ++ layoutValues rest).length
    rw [positions_of_follows follows, positions_behind_eq_range', List.length_append,
      ← List.range'_append_1, Nat.add_right_comm]
    rfl

/-- The block of a name is made from what the name stands for. -/
theorem block_of_follows :
    ∀ {position last : Nat} {layout : List (String × Block)}, Follows given position layout last →
      ∀ entry ∈ layout, ∃ place, entry.2 = Block.behind place (bindingOf given entry.1)
  | _, _, [], _ => fun entry member => by cases member
  | position, _, _ :: _, ⟨here, follows⟩ =>
    List.forall_mem_cons.2 ⟨⟨position, here⟩, block_of_follows follows⟩

/-- Without values every block is one empty place. -/
theorem layoutValues_of_none : ∀ {position last : Nat} {layout : List (String × Block)},
    Follows none position layout last → layoutValues layout = List.replicate layout.length .null
  | _, _, [], _ => rfl
  | position, _, (_, _) :: rest, ⟨here, follows⟩ => by
    subst here
    show [Value.null] ++ layoutValues rest = _
    rw [layoutValues_of_none follows]
    rfl

/-- The values of a packed scan stand block after block, whether values are given or not. -/
theorem PositionedScan.values_eq_layoutValues {scan : PositionedScan}
    (packed : scan.IsPacked given) :
    scan.values given = layoutValues scan.layout := by
  cases given with
  | some entries => exact values_eq (some entries) packed rfl
  | none =>
    have total := length_of_follows none packed
    have blank := layoutValues_of_none packed
    rw [blank, List.length_replicate, Nat.zero_add] at total
    rw [blank, total]
    rfl

/-! ### Queries -/

/-- The places of a query's parameters in the positioned style, where `positions` are those a name
owns. Every occurrence of a name shows them, and those of the values are shown and no others. They
are neighbours, the name that appears first owns the smaller ones, and the values of the name stand
there in order. Without values there is one empty place for each name. -/
structure OwnsPositions (template : Template) (bound : BoundQuery) (positions : String → List Nat) :
    Prop where
  shown : bound.query = String.ofList
    (template.fill (template.names.map fun name => (Block.numbered (positions name)).toList))
  dense : ∀ place, (∃ name ∈ template.names, place ∈ positions name) ↔
    1 ≤ place ∧ place ≤ bound.binds.length
  neighbours : ∀ name ∈ template.names,
    ∃ first, positions name = List.range' first (bindingOf given name).width
  ordered : template.names.eraseDups.Pairwise fun earlier later =>
    ∀ place ∈ positions earlier, ∀ other ∈ positions later, place < other
  held : ∀ name ∈ template.names, (positions name).map (fun place => bound.binds[place - 1]?) =
    (bindingOf given name).values.map some
  empty_places : given = none →
    bound.binds = List.replicate template.names.eraseDups.length .null

/-- The positions of the names, in the order they first appear, are all
positions of a packed scan. -/
theorem PositionedScan.HasMet.positions_tile {scan : PositionedScan} {names : List String}
    (met : scan.HasMet names) (packed : scan.IsPacked given) :
    names.eraseDups.flatMap scan.positionsOf = List.range' 1 (layoutValues scan.layout).length := by
  rw [← met.in_order, List.flatMap_map]
  have blocks : ∀ entry ∈ scan.layout, scan.positionsOf entry.1 = entry.2.positions := by
    intro entry inside
    rw [positionsOf, lookup_of_distinct met.distinct inside]
    rfl
  rw [List.flatMap_def, List.map_congr_left blocks, ← List.flatMap_def]
  exact positions_of_follows given packed

/-- **The positions of a template are dense**, and each belongs to one name. -/
theorem Template.bind_positions_dense (template : Template)
    (complete : ∀ name ∈ template.names, isMissing given name = false) :
    ∃ bound positions, template.bind .positioned given = .ok bound ∧
      OwnsPositions given template bound positions := by
  obtain ⟨packed, -, owned, texts⟩ :=
    scanNames_positioned given template.names PositionedScan.start rfl
  have none_missing := missing_scanNames_positioned complete
  have nothing_met : PositionedScan.start.HasMet [] := ⟨rfl, List.nodup_nil⟩
  have met := nothing_met.scanNames given template.names
  rw [List.nil_append] at met
  generalize scan :
    scanNames (PositionedScan.visit given) PositionedScan.start template.names = done
    at packed owned texts none_missing met
  obtain ⟨texts_shown, last⟩ := done
  have values := last.values_eq_layoutValues given packed
  have tiled := met.positions_tile given packed
  refine ⟨⟨String.ofList (template.fill (texts_shown.map String.toList)), last.values given⟩,
    last.positionsOf, ?_, ?_⟩
  · show template.answer _ _ _ = _
    rw [scan]
    show template.answer texts_shown last.missing _ = _
    rw [none_missing]
    rfl
  · constructor
    case shown =>
      show String.ofList (template.fill (texts_shown.map String.toList)) = _
      rw [show texts_shown = _ from texts, List.map_map]
      rfl
    case dense =>
      intro place
      have member : place ∈ template.names.eraseDups.flatMap last.positionsOf ↔
          1 ≤ place ∧ place < 1 + (layoutValues last.layout).length := by
        rw [tiled, List.mem_range'_1]
      simp only [List.mem_flatMap, List.mem_eraseDups] at member
      show _ ↔ 1 ≤ place ∧ place ≤ (last.values given).length
      rw [member, values, Nat.lt_one_add_iff]
    case neighbours =>
      intro name named
      obtain ⟨block, found⟩ := Option.isSome_iff_exists.1 (owned name named)
      obtain ⟨before, behind, layout, _⟩ := List.lookup_eq_some_iff.1 found
      have inside : (name, block) ∈ last.layout := by
        rw [layout]
        exact List.mem_append_right before List.mem_cons_self
      obtain ⟨place, made⟩ := block_of_follows given packed (name, block) inside
      refine ⟨place + 1, ?_⟩
      rw [PositionedScan.positionsOf, found, ← positions_behind_eq_range', ← made]
      rfl
    case ordered =>
      have increasing := List.pairwise_lt_range' (s := 1) (n := (layoutValues last.layout).length) 1
      rw [← tiled, List.pairwise_flatMap] at increasing
      exact increasing.2
    case held =>
      intro name named
      show (last.positionsOf name).map (fun place => (last.values given)[place - 1]?) = _
      rw [values]
      exact (PositionedScan.lookups_positionsOf given packed (owned name named)).2
    case empty_places =>
      rintro rfl
      show last.values none = _
      rw [values, layoutValues_of_none packed, ← met.in_order, List.length_map]

/-- **The positions of a query are dense and each belongs to one name.** A query whose names all
have values, or for which no values are given at all, is normalized in the positioned style. The
positions it shows are those of its list of values, every occurrence of a name shows the same ones,
and names own blocks of neighbours in the order they first appear. -/
theorem normalize_positions_dense (query : String)
    (complete : ∀ entries, given = some entries →
      ∀ name ∈ (Template.ofLines (lines (stripComments query))).names,
        (entries.lookup name).isSome) :
    ∃ bound positions, normalize .positioned given query = .ok bound ∧
      OwnsPositions given (Template.ofLines (lines (stripComments query))) bound positions := by
  unfold normalize
  rw [Template.ofQuery_eq_ofLines]
  refine Template.bind_positions_dense given _ fun name named => ?_
  cases given with
  | none => rfl
  | some entries =>
    show (entries.lookup name).isNone = false
    rw [Option.isNone_eq_false_iff]
    exact complete entries rfl name named

end Positions

/-- A value between an array and an empty tuple, two of them shown a second time on another line. -/
theorem normalize_positions_dense_of_repeated_arrays :
    let query := "a in (:y) and b = :x -- :no\nor c in (:z) or d = :x::int or e in (:y)"
    let given : Binds := [("x", .int 1), ("y", .list [.int 2, .int 3]), ("z", .tuple [])]
    (∀ entries, some given = some entries →
      ∀ name ∈ (Template.ofLines (lines (stripComments query))).names,
        (entries.lookup name).isSome) ∧
    ∃ bound positions, normalize .positioned (some given) query = .ok bound ∧
      OwnsPositions (some given) (Template.ofLines (lines (stripComments query))) bound
        positions := by
  have names : (Template.ofLines (lines (stripComments
      "a in (:y) and b = :x -- :no\nor c in (:z) or d = :x::int or e in (:y)"))).names =
      ["y", "x", "z", "x", "y"] := by
    decide +kernel
  intro query given
  have complete : ∀ entries, some given = some entries →
      ∀ name ∈ (Template.ofLines (lines (stripComments query))).names,
        (entries.lookup name).isSome := by
    intro entries same
    obtain rfl := Option.some.inj same
    rw [names]
    decide
  exact ⟨complete, normalize_positions_dense (some given) query complete⟩

end QueryDesk.Sql
