/-
**The names of the columns of a text are distinct.**

A name that comes up again gets the first number behind it that makes a name the header
does not have. Names that were given have taken their place in the header, so the header
alone tells which names are free.

* `Csv.freshName_or` — the numbers that are tried: up to a free name, or as many as there are tries.
* `Csv.freshName_not_mem` — there are enough tries, by counting: all names tried
  would stand in the header.
* `Csv.Fits`, `Csv.distinctNames_nodup` — what holds while names are given, and that they are
  distinct, by induction on the places.
* `Csv.columnNames_nodup` — **the columns of a text have distinct names**; `Csv.length_columnNames`
  — each column of the header has one.
-/

import Mathlib.Data.List.Nodup
import Mathlib.Data.List.Perm.Subperm
import QueryDesk.Load.Csv
import QueryDesk.Proofs.Search

namespace QueryDesk.Csv

/-- How often a name has been given. -/
def countOf (counts : List (String × Nat)) (name : String) : Nat := (counts.lookup name).getD 0

theorem countOf_setCount (counts : List (String × Nat)) (name other : String) (count : Nat) :
    countOf (setCount counts name count) other = if other = name then count
      else countOf counts other := by
  by_cases same : other = name
  · simp [countOf, setCount, same]
  · rw [if_neg same, countOf, setCount, List.lookup_cons, beq_false_of_ne same, countOf]
    refine congrArg (Option.getD · 0) ?_
    -- the entries that are left out have another name
    induction counts with
    | nil => rfl
    | cons entry rest ih =>
      rw [List.filter_cons, List.lookup_cons]
      by_cases here : entry.1 = name
      · rw [here, bne_self_eq_false, if_neg Bool.false_ne_true, beq_false_of_ne same]
        exact ih
      · rw [if_pos (bne_iff_ne.2 here), List.lookup_cons]
        cases other == entry.1 with
        | true => rfl
        | false => exact ih

/-! ### A name that is free -/

/-- A name with a number behind it. -/
def numbered (name : String) (number : Nat) : String := name ++ "." ++ toString number

theorem numbered_injective (name : String) : Function.Injective (numbered name) := by
  intro first second same
  have spelled : (name ++ "." ++ Nat.repr first).toList = (name ++ "." ++ Nat.repr second).toList :=
    congrArg String.toList same
  rw [String.toList_append (s := name ++ "."), String.toList_append (s := name ++ "."),
    List.append_cancel_left_eq, Nat.toList_repr, Nat.toList_repr, Text.toDigits_inj] at spelled
  exact spelled

theorem numbered_ne (name : String) (number : Nat) : numbered name number ≠ name := by
  intro same
  have lengths := congrArg String.length same
  rw [numbered, String.length_append, String.length_append] at lengths
  have point : ".".length = 1 := rfl
  omega

section Fresh

variable {header : List String} {given : List (String × Nat)}

/-- The number that is found is positive, and the name is free or all tries came
to names of the header. -/
theorem freshName_or (known : ∀ name, 0 < countOf given name → name ∈ header) (name : String)
    (tries : Nat) :
    ∀ count, 0 < (freshName header given name tries count).2 ∧
      ((freshName header given name tries count).1 ∉ header ∨
        ∀ step < tries, numbered name (count + step) ∈ header) := by
  induction tries with
  | zero => exact fun count => ⟨Nat.succ_pos count, .inr nofun⟩
  | succ tries ih =>
    intro count
    rw [freshName, ← numbered]
    obtain ⟨positive, found⟩ := ih (count + 1)
    by_cases taken : numbered name count ∈ header
    · rw [if_pos (List.contains_iff_mem.2 taken)]
      refine ⟨positive, found.imp_right fun all step below => ?_⟩
      cases step with
      | zero => exact taken
      | succ step =>
        have there := all step (Nat.lt_of_succ_lt_succ below)
        rwa [Nat.add_right_comm] at there
    · rw [if_neg fun inside => taken (List.contains_iff_mem.1 inside)]
      -- a name that was given stands in the header, so this one was not
      have unknown : countOf given (numbered name count) = 0 :=
        Nat.eq_zero_of_not_pos fun before => taken (known _ before)
      split
      · rename_i found
        rw [countOf, found] at unknown
        cases unknown
      · exact ⟨Nat.succ_pos count, .inl taken⟩

/-- **There are enough tries.** -/
theorem freshName_not_mem (known : ∀ name, 0 < countOf given name → name ∈ header) {name : String}
    (taken : name ∈ header) {tries : Nat} (enough : header.length ≤ tries) (count : Nat) :
    (freshName header given name tries count).1 ∉ header := by
  refine (freshName_or known name tries count).2.resolve_right fun all => ?_
  -- the name itself and those tried are more names than the header has
  have distinct :
    (name :: (List.range tries).map fun step => numbered name (count + step)).Nodup := by
    refine List.nodup_cons.2 ⟨fun inside => ?_, ?_⟩
    · obtain ⟨step, -, same⟩ := List.mem_map.1 inside
      exact numbered_ne name _ same
    · refine List.Nodup.map (fun first second same => ?_) List.nodup_range
      exact Nat.add_left_cancel (numbered_injective name same)
  have inside : (name :: (List.range tries).map fun step => numbered name (count + step)) ⊆
    header := by
    refine List.cons_subset.2 ⟨taken, fun other member => ?_⟩
    obtain ⟨step, below, rfl⟩ := List.mem_map.1 member
    exact all step (List.mem_range.1 below)
  have few := (List.subperm_of_subset distinct inside).length_le
  rw [List.length_cons, List.length_map, List.length_range] at few
  omega

end Fresh

/-! ### Distinct names -/

/-- What holds while names are given: the places that are left have the names they had, and every
name that was given stands at another place. -/
structure Fits (counts : List (String × Nat)) (header : List String) (rest : List (Nat × String)) :
    Prop where
  written : ∀ entry ∈ rest, header[entry.1]? = some entry.2
  places : (rest.map Prod.fst).Nodup
  given : ∀ name, 0 < countOf counts name → ∃ place, header[place]? = some name ∧
    place ∉ rest.map Prod.fst

section Fits

variable {counts : List (String × Nat)} {header : List String} {rest : List (Nat × String)}
    {place : Nat}
  {name : String}

theorem Fits.known (fits : Fits counts header rest) {name : String}
    (before : 0 < countOf counts name) :
    name ∈ header := by
  obtain ⟨place, there, -⟩ := fits.given name before
  exact List.mem_of_getElem? there

/-- A name that is new keeps its place. -/
theorem Fits.keep (fits : Fits counts header ((place, name) :: rest)) :
    Fits (setCount counts name 1) header rest := by
  obtain ⟨here, others⟩ := List.forall_mem_cons.1 fits.written
  obtain ⟨apart, places⟩ := List.nodup_cons.1 fits.places
  refine ⟨others, places, fun other before => ?_⟩
  by_cases same : other = name
  · exact ⟨place, same ▸ here, apart⟩
  · rw [countOf_setCount, if_neg same] at before
    obtain ⟨place, there, outside⟩ := fits.given other before
    exact ⟨place, there, fun inside => outside (List.mem_cons_of_mem _ inside)⟩

/-- A name that is made for a place takes it. -/
theorem Fits.replace (fits : Fits counts header ((place, name) :: rest))
    (before : 0 < countOf counts name) (fresh : String) (next : Nat) :
    Fits (setCount (setCount counts name next) fresh 1) (header.set place fresh) rest := by
  obtain ⟨here, others⟩ := List.forall_mem_cons.1 fits.written
  obtain ⟨apart, places⟩ := List.nodup_cons.1 fits.places
  refine ⟨fun entry inside => ?_, places, fun other counted => ?_⟩
  · have elsewhere : place ≠ entry.1 := fun same =>
      apart (List.mem_map.2 ⟨entry, inside, same.symm⟩)
    rw [List.getElem?_set_ne elsewhere]
    exact others entry inside
  · by_cases same : other = fresh
    · refine ⟨place, ?_, apart⟩
      obtain ⟨within, -⟩ := List.getElem?_eq_some_iff.1 here
      rw [same, List.getElem?_set_self within]
    · have earlier : 0 < countOf counts other := by
        rw [countOf_setCount, if_neg same, countOf_setCount] at counted
        split_ifs at counted with again
        · exact again ▸ before
        · exact counted
      obtain ⟨spot, there, outside⟩ := fits.given other earlier
      rw [List.map_cons, List.mem_cons, not_or] at outside
      exact ⟨spot, by rw [List.getElem?_set_ne (Ne.symm outside.1), there], outside.2⟩

end Fits

/-- A name in front of others that were given after it. -/
theorem nodup_cons_of_counted {name : String} {counts : List (String × Nat)}
    {others : List (Nat × HeaderName)} (counted : 0 < countOf counts name)
    (later : (others.map fun entry => entry.2.name).Nodup ∧
      ∀ entry ∈ others, countOf counts entry.2.name = 0) :
    (name :: others.map fun entry => entry.2.name).Nodup := by
  refine List.nodup_cons.2 ⟨fun inside => ?_, later.1⟩
  obtain ⟨entry, member, rfl⟩ := List.mem_map.1 inside
  exact Nat.ne_of_gt counted (later.2 entry member)

/-- **The names that are given are distinct**, and none was given before. -/
theorem distinctNames_nodup (rest : List (Nat × String)) : ∀ {counts : List (String × Nat)}
    {header : List String}, Fits counts header rest →
      ((distinctNames counts header rest).map fun entry => entry.2.name).Nodup ∧
        ∀ entry ∈ distinctNames counts header rest, countOf counts entry.2.name = 0 := by
  induction rest with
  | nil => exact fun _ => ⟨List.nodup_nil, nofun⟩
  | cons first rest ih =>
    intro counts header fits
    obtain ⟨place, name⟩ := first
    rw [distinctNames]
    dsimp only
    rw [← countOf]
    split
    · rename_i unknown
      have later := ih fits.keep
      refine ⟨nodup_cons_of_counted (by simp [countOf_setCount]) later,
        List.forall_mem_cons.2 ⟨unknown, fun entry inside => ?_⟩⟩
      have uncounted := later.2 entry inside
      rw [countOf_setCount] at uncounted
      split_ifs at uncounted
      exact uncounted
    · rename_i taken
      have before : 0 < countOf counts name := Nat.pos_of_ne_zero taken
      obtain ⟨positive, -⟩ :=
        freshName_or (fun _ => fits.known) name (header.length + counts.length)
        (countOf counts name)
      have free := freshName_not_mem (fun _ => fits.known) (fits.known before)
        (Nat.le_add_right header.length counts.length) (countOf counts name)
      generalize freshName header counts name (header.length + counts.length)
        (countOf counts name) =
        found at positive free
      have later := ih (fits.replace before found.1 found.2)
      refine ⟨nodup_cons_of_counted (by simp [countOf_setCount]) later,
        List.forall_mem_cons.2 ⟨?_, fun entry inside => ?_⟩⟩
      · exact Nat.eq_zero_of_not_pos fun counted => free (fits.known counted)
      · have uncounted := later.2 entry inside
        rw [countOf_setCount, countOf_setCount] at uncounted
        split_ifs at uncounted
        · exact absurd uncounted (Nat.ne_of_gt positive)
        · exact uncounted

/-! ### Columns -/

/-- Places that are numbered one after another can be named in any order. -/
theorem fits_of_numbered {named ordered : List (Nat × String)}
    (places : named.map Prod.fst = List.range named.length) (same : ordered.Perm named) :
    Fits [] (named.map Prod.snd) ordered := by
  refine ⟨fun entry inside => ?_, ?_, nofun⟩
  · obtain ⟨place, there⟩ := List.mem_iff_getElem?.1 (same.mem_iff.1 inside)
    have numbered := congrArg (·[place]?) places
    obtain ⟨within, -⟩ := List.getElem?_eq_some_iff.1 there
    simp only [List.getElem?_map, there, Option.map_some, List.getElem?_range within] at numbered
    rw [Option.some.inj numbered, List.getElem?_map, there]
    rfl
  · rw [(same.map Prod.fst).nodup_iff, places]
    exact List.nodup_range

/-- **The columns of a text have distinct names.** -/
theorem columnNames_nodup (header : List String) :
    ((columnNames header).map HeaderName.name).Nodup := by
  unfold columnNames
  extract_lets places named unnamed ordered distinct
  have numbered : named.map Prod.fst = List.range named.length := by
    simp [named, places, List.map_map, Function.comp_def, List.range_eq_range']
  have same : ordered.Perm named :=
    List.perm_append_comm.trans (List.filter_append_perm unnamed named)
  have apart := (distinctNames_nodup ordered (fits_of_numbered numbered same)).1
  rw [List.map_filterMap]
  refine List.Nodup.filterMap (fun first second name one two => ?_) List.nodup_range
  obtain ⟨one, first_found, rfl⟩ := Option.map_eq_some_iff.1 one
  obtain ⟨two, second_found, same_name⟩ := Option.map_eq_some_iff.1 two
  have entries := List.inj_on_of_nodup_map apart (mem_of_lookup second_found)
    (mem_of_lookup first_found)
    same_name
  exact congrArg Prod.fst entries.symm

/-- Every place is given a name. -/
theorem map_fst_distinctNames (rest : List (Nat × String)) :
    ∀ (counts : List (String × Nat)) (header : List String),
    (distinctNames counts header rest).map Prod.fst = rest.map Prod.fst := by
  induction rest with
  | nil => exact fun _ _ => rfl
  | cons first rest ih =>
    intro counts header
    rw [distinctNames]
    dsimp only
    split
    · rw [List.map_cons, List.map_cons, ih]
    · rw [List.map_cons, List.map_cons, ih]

/-- There are as many names as the header has. -/
theorem length_columnNames (header : List String) :
    (columnNames header).length = header.length := by
  unfold columnNames
  extract_lets places named unnamed ordered distinct
  rw [List.filterMap_length_eq_length.2, List.length_range]
  intro place inside
  have numbered : named.map Prod.fst = List.range header.length := by
    simp [named, places, List.map_map, Function.comp_def, List.range_eq_range']
  have same : ordered.Perm named :=
    List.perm_append_comm.trans (List.filter_append_perm unnamed named)
  have named_place : place ∈ distinct.map Prod.fst := by
    rw [map_fst_distinctNames, (same.map Prod.fst).mem_iff, numbered]
    exact inside
  rw [Option.isSome_iff_ne_none, ne_eq, List.lookup_eq_none_iff]
  intro none_found
  obtain ⟨entry, member, rfl⟩ := List.mem_map.1 named_place
  exact absurd (none_found entry member) (by simp)

end QueryDesk.Csv
