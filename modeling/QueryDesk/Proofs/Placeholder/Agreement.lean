/-
**The two placeholder styles bind the same values.**

* `StylesAgree` — what two bound queries share when they come from one template: the pieces
  of text, the number of placeholders at every occurrence of a name, and the values that
  these placeholders stand for.
* `normalize_styles_agree` — a query whose names all have values is normalized in both
  styles, and the two results agree.
-/

import QueryDesk.Proofs.Placeholder.Lines
import QueryDesk.Proofs.Placeholder.Layout

namespace QueryDesk.Sql

/-- Two bound queries agree at the places of a template's names: `places` holds, for one occurrence
after the other, the positions that the first query shows there, and the second shows as many
question marks. Positions are counted from one. Those at an occurrence lead to what its name stands
for, and read from left to right they lead to the values of the second query. -/
structure StylesAgree (given : Binds) (template : Template) (positioned simple : BoundQuery)
    (places : List (List Nat)) : Prop where
  positioned_text : positioned.query =
    String.ofList (template.fill (places.map fun block => (Block.numbered block).toList))
  simple_text : simple.query = String.ofList (template.fill
    (places.map fun block => (placeholderList (List.replicate block.length "?")).toList))
  positive : ∀ block ∈ places, ∀ place ∈ block, 1 ≤ place
  looked_up : places.map (fun block => block.map fun place => positioned.binds[place - 1]?) =
    template.names.map fun name => (bindingOf (some given) name).values.map some
  same_values : places.flatten.map (fun place => positioned.binds[place - 1]?) =
    simple.binds.map some
  in_order : simple.binds =
    template.names.flatMap fun name => (bindingOf (some given) name).values

/-- A name with a value is not missing. -/
theorem isMissing_of_found {given : Binds} {name : String} (found : (given.lookup name).isSome) :
    isMissing (some given) name = false := by
  show (given.lookup name).isNone = false
  rw [Option.isNone_eq_false_iff]
  exact found

/-- **The two bindings of a template** whose names all have values. -/
theorem Template.bind_styles_agree (given : Binds) (template : Template)
    (complete : ∀ name ∈ template.names, (given.lookup name).isSome) :
    ∃ positioned simple places, template.bind .positioned (some given) = .ok positioned ∧
      template.bind .simple (some given) = .ok simple ∧
      StylesAgree given template positioned simple places := by
  obtain ⟨packed, -, owned, texts⟩ := scanNames_positioned (some given) template.names
    PositionedScan.start rfl
  have found : ∀ name ∈ template.names, isMissing (some given) name = false :=
    fun name member => isMissing_of_found (complete name member)
  have none_missing := missing_scanNames_positioned found
  generalize scan : scanNames (PositionedScan.visit (some given)) PositionedScan.start
    template.names = done at packed owned texts none_missing
  obtain ⟨shown, last⟩ := done
  have values := PositionedScan.values_eq (some given) packed rfl
  -- the positions of every occurrence, each looked up in the values block after block
  have lookups : ∀ name ∈ template.names,
      (last.positionsOf name).map (fun place => (last.values (some given))[place - 1]?) =
        (bindingOf (some given) name).values.map some := by
    intro name member
    rw [values]
    exact (PositionedScan.lookups_positionsOf (some given) packed (owned name member)).2
  have widths : ∀ name ∈ template.names,
      (last.positionsOf name).length = (bindingOf (some given) name).width := by
    intro name member
    have lengths := congrArg List.length (lookups name member)
    rwa [List.length_map, List.length_map] at lengths
  refine ⟨⟨String.ofList (template.fill (shown.map String.toList)), last.values (some given)⟩,
    ⟨String.ofList (template.fill ((template.names.map fun name =>
      SimpleScan.text (bindingOf (some given) name)).map String.toList)),
      template.names.flatMap fun name => (bindingOf (some given) name).values⟩,
    template.names.map last.positionsOf, ?_, ?_, ?_⟩
  · show template.answer _ _ _ = _
    rw [scan]
    show template.answer shown last.missing _ = _
    rw [none_missing]
    rfl
  · show template.answer _ _ _ = _
    rw [scanNames_simple given template.names complete SimpleScan.start]
    rfl
  · constructor
    case positioned_text =>
      show String.ofList (template.fill (shown.map String.toList)) = _
      rw [show shown = _ from texts, List.map_map, List.map_map]
      rfl
    case simple_text =>
      rw [List.map_map, List.map_map]
      refine congrArg (fun texts => String.ofList (template.fill texts)) ?_
      refine List.map_congr_left fun name member => ?_
      show (SimpleScan.text _).toList = (placeholderList (List.replicate _ "?")).toList
      rw [widths name member]
      rfl
    case positive =>
      intro block inside place member
      obtain ⟨name, named, rfl⟩ := List.mem_map.1 inside
      exact (PositionedScan.lookups_positionsOf (some given) packed (owned name named)).1 place
        member
    case looked_up =>
      rw [List.map_map]
      exact List.map_congr_left lookups
    case same_values =>
      show _ = (template.names.flatMap fun name => (bindingOf (some given) name).values).map some
      rw [List.map_flatten, List.map_map, List.map_flatMap, List.flatMap_def]
      exact congrArg List.flatten (List.map_congr_left lookups)
    case in_order => rfl

/-- **Both styles bind the same values at the same places.** A query whose names all have values is
normalized in either style; between the same pieces of text both show, at every occurrence of a
name, one placeholder for each of its values or the text of an empty array. -/
theorem normalize_styles_agree (query : String) (given : Binds)
    (complete : ∀ name ∈ (Template.ofLines (lines (stripComments query))).names,
      (given.lookup name).isSome) :
    ∃ positioned simple places,
      normalize .positioned (some given) query = .ok positioned ∧
      normalize .simple (some given) query = .ok simple ∧
      StylesAgree given (Template.ofLines (lines (stripComments query))) positioned simple
        places := by
  unfold normalize
  rw [Template.ofQuery_eq_ofLines]
  exact Template.bind_styles_agree given _ complete

/-- A name that occurs twice, an array and an empty one, over two lines with a comment. -/
theorem normalize_styles_agree_of_repeated_names :
    let query := "x = :a -- :no\nor y in (:b) or z in (:c, :a)"
    let given : Binds := [("a", .int 1), ("b", .list [.int 2, .int 3]), ("c", .list [])]
    (∀ name ∈ (Template.ofLines (lines (stripComments query))).names, (given.lookup name).isSome) ∧
      ∃ positioned simple places,
        normalize .positioned (some given) query = .ok positioned ∧
        normalize .simple (some given) query = .ok simple ∧
        StylesAgree given (Template.ofLines (lines (stripComments query)))
          positioned simple places := by
  have names : (Template.ofLines (lines (stripComments
      "x = :a -- :no\nor y in (:b) or z in (:c, :a)"))).names = ["a", "b", "c", "a"] := by
    decide +kernel
  intro query given
  have complete : ∀ name ∈ (Template.ofLines (lines (stripComments query))).names,
      (given.lookup name).isSome := by
    rw [names]
    decide
  exact ⟨complete, normalize_styles_agree query given complete⟩

end QueryDesk.Sql
