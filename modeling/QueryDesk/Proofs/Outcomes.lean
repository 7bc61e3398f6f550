/-
**Computations that can fail.**

* `bind_eq_ok_iff`, `bind_eq_error_iff` — two steps succeed when both do, and fail with the
  failure of the first, or of the second behind a first one that succeeds;
  `check_bind_eq_ok_iff` — the first a check.
* `map_eq_ok_iff`, `map_eq_error_iff`, `mapError_eq_ok_iff` — changing the result, or the
  failure, does not change success.
* `mapM_eq_ok_iff`, `exists_of_mapM_eq_ok`, `succeeds_of_mapM`, `exists_of_mapM_eq_error` —
  steps on all elements of a list.
* `exists_of_forall₂`, `getElem?_of_forall₂` — what goes with an element of a
  list, by membership and by place.
* `eq_ok_of_toOption` — a computation has succeeded when it has a result.
-/

import Mathlib.Data.List.Forall2

namespace QueryDesk

variable {ε α β : Type}

theorem bind_eq_ok_iff {first : Except ε α} {next : α → Except ε β} {result : β} :
    (first >>= next) = .ok result ↔ ∃ found, first = .ok found ∧ next found = .ok result := by
  cases first <;> simp [bind, Except.bind]

theorem bind_eq_error_iff {first : Except ε α} {next : α → Except ε β} {failure : ε} :
    (first >>= next) = .error failure ↔
      first = .error failure ∨ ∃ found, first = .ok found ∧ next found = .error failure := by
  cases first <;> simp [bind, Except.bind]

theorem check_bind_eq_ok_iff {check : Except ε Unit} {next : Unit → Except ε β} {result : β} :
    (check >>= next) = .ok result ↔ check = .ok () ∧ next () = .ok result := by
  cases check <;> simp [bind, Except.bind]

theorem map_eq_ok_iff {change : α → β} {outcome : Except ε α} {result : β} :
    outcome.map change = .ok result ↔ ∃ found, outcome = .ok found ∧ change found = result := by
  cases outcome <;> simp [Except.map]

theorem map_eq_error_iff {change : α → β} {outcome : Except ε α} {failure : ε} :
    outcome.map change = .error failure ↔ outcome = .error failure := by
  cases outcome <;> simp [Except.map]

theorem mapError_eq_ok_iff {δ : Type} {change : ε → δ} {outcome : Except ε α} {result : α} :
    outcome.mapError change = .ok result ↔ outcome = .ok result := by
  cases outcome <;> simp [Except.mapError]

/-- Every element of a list goes with one of the other. -/
theorem exists_of_forall₂ {relation : α → β → Prop} {items : List α} {results : List β}
    (related : List.Forall₂ relation items results) {result : β} (inside : result ∈ results) :
    ∃ item ∈ items, relation item result := by
  induction related with
  | nil => cases inside
  | cons here _ ih =>
    rcases List.mem_cons.1 inside with rfl | later
    · exact ⟨_, List.mem_cons_self, here⟩
    · obtain ⟨item, member, found⟩ := ih later
      exact ⟨item, List.mem_cons_of_mem _ member, found⟩

/-- What goes with an element of one list stands at its place in the other. -/
theorem getElem?_of_forall₂ {relation : α → β → Prop} {items : List α} {results : List β}
    (related : List.Forall₂ relation items results) {place : Nat} {item : α}
    (there : items[place]? = some item) :
    ∃ result, results[place]? = some result ∧ relation item result := by
  induction related generalizing place with
  | nil => cases there
  | cons here _ ih =>
    cases place with
    | zero =>
      cases there
      exact ⟨_, rfl, here⟩
    | succ place => exact ih there

/-- Steps on all elements of a list succeed when each does. -/
theorem mapM_eq_ok_iff {step : α → Except ε β} {items : List α} : ∀ {results : List β},
    items.mapM step = .ok results ↔
      List.Forall₂ (fun item result => step item = .ok result) items results := by
  induction items with
  | nil =>
    intro results
    rw [List.mapM_nil, List.forall₂_nil_left_iff]
    exact ⟨fun same => (Except.ok.inj same).symm, fun same => same ▸ rfl⟩
  | cons item rest ih =>
    intro results
    simp only [List.mapM_cons, bind_eq_ok_iff, ih, List.forall₂_cons_left_iff]
    constructor
    · rintro ⟨first, here, others, later, same⟩
      exact ⟨first, others, here, later, (Except.ok.inj same).symm⟩
    · rintro ⟨first, others, here, later, rfl⟩
      exact ⟨first, here, others, later, rfl⟩

/-- What steps on all elements of a list have made, they have made of one of them. -/
theorem exists_of_mapM_eq_ok {step : α → Except ε β} {items : List α} {results : List β}
    (done : items.mapM step = .ok results) {result : β} (inside : result ∈ results) :
    ∃ item ∈ items, step item = .ok result :=
  exists_of_forall₂ (mapM_eq_ok_iff.1 done) inside

/-- Steps on all elements of a list that succeed do so on each. -/
theorem succeeds_of_mapM {step : α → Except ε β} {items : List α} {results : List β}
    (done : items.mapM step = .ok results) {item : α} (inside : item ∈ items) :
    ∃ result ∈ results, step item = .ok result :=
  exists_of_forall₂ (mapM_eq_ok_iff.1 done).flip inside

/-- Steps on all elements of a list fail with what one of them fails with. -/
theorem exists_of_mapM_eq_error {step : α → Except ε β} {items : List α} {failure : ε}
    (failed : items.mapM step = .error failure) : ∃ item ∈ items, step item = .error failure := by
  induction items with
  | nil => cases failed
  | cons item rest ih =>
    simp only [List.mapM_cons, bind_eq_error_iff] at failed
    obtain here | ⟨_, -, later | ⟨_, -, impossible⟩⟩ := failed
    · exact ⟨item, List.mem_cons_self, here⟩
    · obtain ⟨other, inside, broken⟩ := ih later
      exact ⟨other, List.mem_cons_of_mem item inside, broken⟩
    · cases impossible

/-- What is read from all elements of a list is as long as the list. -/
theorem length_of_mapM {read : α → Option β} {items : List α} {found : List β}
    (made : items.mapM read = some found) : found.length = items.length := by
  induction items generalizing found with
  | nil =>
    cases made
    rfl
  | cons item rest ih =>
    rw [List.mapM_cons] at made
    obtain ⟨first, -, made⟩ := Option.bind_eq_some_iff.1 made
    obtain ⟨others, later, made⟩ := Option.bind_eq_some_iff.1 made
    obtain rfl := Option.some.inj made
    rw [List.length_cons, List.length_cons, ih later]

theorem eq_ok_of_toOption {outcome : Except ε α} {result : α}
    (found : outcome.toOption = some result) :
    outcome = .ok result := by
  cases outcome with
  | error failure => cases found
  | ok given => exact congrArg Except.ok (Option.some.inj found)

end QueryDesk
