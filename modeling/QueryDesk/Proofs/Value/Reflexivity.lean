/-
**Values that equal themselves.**

A not-a-number equals nothing, itself included, and a signalling one cannot even be compared.
Everything else equals itself. So where no container holds a not-a-number, a search that also asks
whether an element is the very object that is sought finds what a search by equality finds.

* `Value.isNaN`, `Value.Within`, `Value.HoldsNaN` — a value is a not-a-number; a container holds a
  value, and holds a not-a-number, at any depth.
* `Value.HasSingleKeys` — no dict has two entries under equal keys.
* `Value.not_equalityFails_of_hereditary` — no equality test fails among values
  without signalling numbers.
* `Value.equal_self` — **a value that neither is nor holds a not-a-number equals
  itself**, by induction on its parts.
-/

import QueryDesk.Proofs.Outcomes
import QueryDesk.Proofs.Value.Equality

namespace QueryDesk.Value

/-! ### Values without a not-a-number -/

/-- Whether a value is a double or a decimal that is not a number. -/
def isNaN (value : Value) : Bool := value.magnitude?.any Magnitude.isNaN

/-- A value is held by a container, as one of its parts or inside one of them. -/
inductive Within : Value → Value → Prop
  | part {part value : Value} (inside : part ∈ value.parts) : Within part value
  | deeper {inner part value : Value} (held : Within inner part) (inside : part ∈ value.parts) :
      Within inner value

/-- A container holds a not-a-number, at any depth. -/
def HoldsNaN (value : Value) : Prop := ∃ inner, Within inner value ∧ inner.isNaN = true

/-- No dict, the value itself or one inside it, has two entries under equal keys. -/
inductive HasSingleKeys : Value → Prop
  | intro {value : Value}
      (own : ∀ entries, value = .dict entries →
        entries.Pairwise fun earlier later => equal later.1 earlier.1 = .ok false)
      (inside : ∀ part ∈ value.parts, HasSingleKeys part) : HasSingleKeys value

theorem HasSingleKeys.of_mem {value part : Value} (single : value.HasSingleKeys)
    (inside : part ∈ value.parts) : part.HasSingleKeys := by
  cases single with
  | intro _ all => exact all part inside

theorem HasSingleKeys.pairwise {entries : List (Value × Value)}
    (single : (dict entries).HasSingleKeys) :
    entries.Pairwise fun earlier later => equal later.1 earlier.1 = .ok false := by
  cases single with
  | intro own _ => exact own entries rfl

/-- A value without parts holds nothing. -/
theorem not_holdsNaN_of_no_parts {value : Value} (bare : value.parts = []) : ¬ value.HoldsNaN := by
  rintro ⟨inner, held, -⟩
  cases held with
  | part inside => exact List.not_mem_nil (bare ▸ inside)
  | deeper _ inside => exact List.not_mem_nil (bare ▸ inside)

/-- A container of proper numbers, texts and the like holds no not-a-number. -/
theorem not_holdsNaN_of_bare_parts {value : Value}
    (bare : ∀ part ∈ value.parts, part.parts = [] ∧ part.isNaN = false) : ¬ value.HoldsNaN := by
  rintro ⟨inner, held, nan⟩
  cases held with
  | part inside => exact Bool.false_ne_true ((bare _ inside).2.symm.trans nan)
  | deeper held inside => exact not_holdsNaN_of_no_parts (bare _ inside).1 ⟨inner, held, nan⟩

/-- The value neither is a not-a-number nor holds one. -/
def IsNaNFree (value : Value) : Prop := value.isNaN = false ∧ ¬ value.HoldsNaN

/-- What a container without a not-a-number holds is none and holds none. -/
theorem isNaNFree_of_within {inner value : Value} (held : Within inner value) :
    ¬ value.HoldsNaN → inner.IsNaNFree := by
  induction held with
  | part inside =>
    intro free
    exact ⟨Bool.eq_false_iff.2 fun nan => free ⟨_, .part inside, nan⟩,
      fun ⟨deep, held, nan⟩ => free ⟨deep, .deeper held inside, nan⟩⟩
  | deeper _ inside ih =>
    exact fun free => ih fun ⟨deep, held, nan⟩ => free ⟨deep, .deeper held inside, nan⟩

theorem IsNaNFree.of_mem {value part : Value} (free : value.IsNaNFree)
    (inside : part ∈ value.parts) :
    part.IsNaNFree :=
  isNaNFree_of_within (.part inside) free.2

theorem IsNaNFree.not_isNaN_place {value : Value} (free : value.IsNaNFree) {place : Magnitude}
    (found : value.magnitude? = some place) : place.isNaN = false := by
  have own := free.1
  rwa [isNaN, found] at own

/-! ### Equality tests that cannot fail -/

/-- A value that is found in a dict is that of an entry. -/
theorem mem_of_findEntry {test : Value → Except Fault Bool} {found : Value}
    {entries : List (Value × Value)} (there : findEntry test entries = .ok (some found)) :
    ∃ entry ∈ entries, entry.2 = found := by
  induction entries with
  | nil => cases there
  | cons first rest ih =>
    simp only [findEntry, bind_eq_ok_iff] at there
    obtain ⟨holds, -, there⟩ := there
    split at there
    · exact ⟨first, List.mem_cons_self, Option.some.inj (Except.ok.inj there)⟩
    · obtain ⟨entry, inside, same⟩ := ih there
      exact ⟨entry, List.mem_cons_of_mem first inside, same⟩

/-- **No equality test fails** among values with a property that their parts inherit and that
no signalling number has. -/
theorem not_equalityFails_of_hereditary {good : Value → Prop}
    (inherited : ∀ value part, good value → part ∈ value.parts → good part)
    (quiet : ∀ value place, good value → value.magnitude? = some place → place.isSignalling = false)
    {a b : Value} (fails : EqualityFails a b) : good a → ¬ good b := by
  induction fails with
  | numbers first second signals =>
    intro left right
    rw [quiet _ _ left first, quiet _ _ right second] at signals
    simp at signals
  | list _ parts _ _ ih =>
    intro left right
    obtain ⟨inLeft, inRight⟩ := List.of_mem_zip (parts ▸ List.mem_append_right _ List.mem_cons_self)
    exact ih (inherited _ _ left inLeft) (inherited _ _ right inRight)
  | tuple parts _ _ ih =>
    intro left right
    obtain ⟨inLeft, inRight⟩ := List.of_mem_zip (parts ▸ List.mem_append_right _ List.mem_cons_self)
    exact ih (inherited _ _ left inLeft) (inherited _ _ right inRight)
  | set _ parts _ places _ _ ih =>
    intro left right
    refine ih (inherited _ _ left ?_) (inherited _ _ right ?_)
    · exact parts ▸ List.mem_append_right _ List.mem_cons_self
    · exact places ▸ List.mem_append_right _ List.mem_cons_self
  | dictKey _ parts _ places _ _ ih =>
    intro left right
    refine ih (inherited _ _ left (key_mem_parts ?_)) (inherited _ _ right (key_mem_parts ?_))
    · exact parts ▸ List.mem_append_right _ List.mem_cons_self
    · exact places ▸ List.mem_append_right _ List.mem_cons_self
  | dictValue _ parts _ found _ ih =>
    intro left right
    obtain ⟨entry, inside, rfl⟩ := mem_of_findEntry found
    refine ih (inherited _ _ left (value_mem_parts ?_))
      (inherited _ _ right (value_mem_parts inside))
    exact parts ▸ List.mem_append_right _ List.mem_cons_self

/-- Values without a not-a-number can be compared. -/
theorem exists_equal_of_isNaNFree {a b : Value} (left : a.IsNaNFree) (right : b.IsNaNFree) :
    ∃ same, equal a b = .ok same := by
  cases tested : equal a b with
  | ok same => exact ⟨same, rfl⟩
  | error fault =>
    have quiet (value : Value) (place : Magnitude) (free : value.IsNaNFree)
        (found : value.magnitude? = some place) : place.isSignalling = false := by
      have proper := free.not_isNaN_place found
      cases place with
      | nan signalling => cases proper
      | exact number => rfl
      | infinite negative => rfl
    have fails := ((equal_eq_error_iff a b fault).1 tested).2
    exact absurd right (not_equalityFails_of_hereditary (fun _ _ free inside => free.of_mem inside)
      quiet fails left)

/-! ### Equality with oneself -/

theorem same_self_of_not_isNaN {place : Magnitude} (proper : place.isNaN = false) :
    place.same place = true := by
  cases place with
  | nan signalling => cases proper
  | exact number => exact beq_self_eq_true number
  | infinite negative => exact beq_self_eq_true negative

theorem equalAtoms_self_of_number {value : Value} {place : Magnitude}
    (found : value.magnitude? = some place) (proper : place.isNaN = false) :
    equalAtoms value value = .ok true := by
  have same := same_self_of_not_isNaN proper
  unfold equalAtoms
  rw [found]
  cases place with
  | nan signalling => cases proper
  | exact number => exact congrArg Except.ok same
  | infinite negative => exact congrArg Except.ok same

/-- By induction on elements that equal themselves: lists of them do. -/
theorem equalItems_self {items : List Value} (each : ∀ item ∈ items, equal item item = .ok true) :
    equalItems items items = .ok true := by
  induction items with
  | nil => rw [equalItems]
  | cons item rest ih =>
    obtain ⟨here, others⟩ := List.forall_mem_cons.1 each
    rw [equalItems, here]
    exact ih others

/-- A search comes to the element that is sought when nothing before it fails. -/
theorem anyOf_eq_true {test : Value → Except Fault Bool} {items : List Value} {item : Value}
    (inside : item ∈ items) (held : test item = .ok true)
    (total : ∀ other ∈ items, ∃ holds, test other = .ok holds) : anyOf test items = .ok true := by
  induction items with
  | nil => cases inside
  | cons first rest ih =>
    obtain ⟨here, others⟩ := List.forall_mem_cons.1 total
    obtain ⟨holds, tested⟩ := here
    rw [anyOf, tested]
    cases holds with
    | true => rfl
    | false =>
      rcases List.mem_cons.1 inside with rfl | later
      · rw [held] at tested
        cases tested
      · exact ih later others

/-- Elements that equal themselves are included wherever they are. -/
theorem includedIn_of_subset {left right : List Value} (subset : ∀ item ∈ left, item ∈ right)
    (self : ∀ item ∈ left, equal item item = .ok true)
    (total : ∀ item ∈ left, ∀ other ∈ right, ∃ same, equal item other = .ok same) :
    includedIn left right = .ok true := by
  induction left with
  | nil => rw [includedIn]
  | cons item rest ih =>
    obtain ⟨there, others⟩ := List.forall_mem_cons.1 subset
    obtain ⟨same, sames⟩ := List.forall_mem_cons.1 self
    obtain ⟨tested, tests⟩ := List.forall_mem_cons.1 total
    rw [includedIn, anyOf_eq_true there same tested]
    exact ih others sames tests

/-- An entry is found by its own key, if no other key equals it. -/
theorem findEntry_of_pairwise {entries : List (Value × Value)} {entry : Value × Value}
    (inside : entry ∈ entries) (self : equal entry.1 entry.1 = .ok true)
    (single : entries.Pairwise fun earlier later => equal later.1 earlier.1 = .ok false) :
    findEntry (equal entry.1) entries = .ok (some entry.2) := by
  induction entries with
  | nil => cases inside
  | cons first rest ih =>
    obtain ⟨apart, others⟩ := List.pairwise_cons.1 single
    rw [findEntry]
    rcases List.mem_cons.1 inside with rfl | later
    · rw [self]
      rfl
    · rw [apart entry later]
      exact ih later others

theorem equalEntries_of_subset {left right : List (Value × Value)}
    (subset : ∀ entry ∈ left, findEntry (equal entry.1) right = .ok (some entry.2))
    (self : ∀ entry ∈ left, equal entry.2 entry.2 = .ok true) :
    equalEntries left right = .ok true := by
  induction left with
  | nil => rw [equalEntries]
  | cons entry rest ih =>
    obtain ⟨there, others⟩ := List.forall_mem_cons.1 subset
    obtain ⟨same, sames⟩ := List.forall_mem_cons.1 self
    rw [equalEntries, there]
    show (do if ← equal entry.2 entry.2 then equalEntries rest right else pure false) = _
    rw [same]
    exact ih others sames

/-- **A value that neither is nor holds a not-a-number equals itself.** -/
theorem equal_self (value : Value) : value.IsNaNFree → value.HasSingleKeys →
    equal value value = .ok true := by
  induction value using induction_on_parts with
  | step value ih =>
    intro free single
    have each (part : Value) (inside : part ∈ value.parts) : equal part part = .ok true :=
      ih part inside (free.of_mem inside) (single.of_mem inside)
    cases value with
    | list items =>
      rw [equal, if_pos rfl]
      exact equalItems_self each
    | tuple items =>
      rw [equal]
      exact equalItems_self each
    | set items =>
      rw [equal, if_pos rfl]
      exact includedIn_of_subset (fun _ => id) each fun a left b right =>
        exists_equal_of_isNaNFree (free.of_mem left) (free.of_mem right)
    | dict entries =>
      rw [equal, if_pos rfl]
      refine equalEntries_of_subset (fun entry inside => ?_) fun entry inside =>
        each entry.2 (value_mem_parts inside)
      exact findEntry_of_pairwise inside (each entry.1 (key_mem_parts inside)) single.pairwise
    | bool _ | int _ | double _ | decimal _ =>
      simp only [equal]
      exact equalAtoms_self_of_number rfl (free.not_isNaN_place rfl)
    | _ => simp [equal, equalAtoms, magnitude?]

end QueryDesk.Value
