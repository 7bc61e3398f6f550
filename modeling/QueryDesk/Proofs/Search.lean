/-
**Where a search through a list stops.**

* `StopsAt` — some element stops the search, and the search passes all elements before it.
* `stopsAt_cons` — it stops at the first element, or passes it and stops at one of the
  others; `stopsAt_append`, `stopsAt_and_left`, `stopsAt_or`, `stopsAt_congr` — what
  stops it can be taken apart.
* `takeWhile_append_of_stop`, `dropWhile_append_of_stop` — a list is cut where a test fails.
* `mem_of_lookup`, `lookup_of_distinct` — what is found is an entry; under
  distinct names every entry is found.
-/

namespace QueryDesk

variable {α : Type} {passes stops : α → Prop}

/-- A search stops at some element of a list, having passed all elements before. -/
def StopsAt (passes stops : α → Prop) (items : List α) : Prop :=
  ∃ before item behind, items = before ++ item :: behind ∧ (∀ earlier ∈ before, passes earlier) ∧
    stops item

@[simp] theorem stopsAt_nil : ¬ StopsAt passes stops [] := by
  rintro ⟨before, item, behind, parts, -⟩
  exact List.append_ne_nil_of_right_ne_nil before (List.cons_ne_nil item behind) parts.symm

/-- A search that stops is stopped by an element. -/
theorem exists_of_stopsAt {items : List α} (stopped : StopsAt passes stops items) :
    ∃ item ∈ items, stops item := by
  obtain ⟨before, item, behind, rfl, -, here⟩ := stopped
  exact ⟨item, List.mem_append_right before List.mem_cons_self, here⟩

theorem stopsAt_cons (first : α) (rest : List α) :
    StopsAt passes stops (first :: rest) ↔
      stops first ∨ passes first ∧ StopsAt passes stops rest := by
  constructor
  · rintro ⟨before, item, behind, parts, passed, stopped⟩
    cases before with
    | nil =>
      obtain ⟨rfl, -⟩ := List.cons_eq_cons.1 parts
      exact .inl stopped
    | cons earlier before =>
      obtain ⟨rfl, rfl⟩ := List.cons_eq_cons.1 parts
      obtain ⟨here, others⟩ := List.forall_mem_cons.1 passed
      exact .inr ⟨here, before, item, behind, rfl, others, stopped⟩
  · rintro (stopped | ⟨here, before, item, behind, rfl, others, stopped⟩)
    · exact ⟨[], first, rest, rfl, nofun, stopped⟩
    · exact ⟨first :: before, item, behind, rfl, List.forall_mem_cons.2 ⟨here, others⟩, stopped⟩

theorem stopsAt_append (first second : List α) :
    StopsAt passes stops (first ++ second) ↔
      StopsAt passes stops first ∨ (∀ item ∈ first, passes item) ∧ StopsAt passes stops second := by
  induction first with
  | nil => simp
  | cons item rest ih =>
    rw [List.cons_append, stopsAt_cons, stopsAt_cons, ih, List.forall_mem_cons, and_or_left,
      ← or_assoc, and_assoc]

theorem stopsAt_and_left {claim : Prop} (items : List α) :
    StopsAt passes (fun item => claim ∧ stops item) items ↔ claim ∧ StopsAt passes stops items := by
  constructor
  · rintro ⟨before, item, behind, parts, passed, holds, stopped⟩
    exact ⟨holds, before, item, behind, parts, passed, stopped⟩
  · rintro ⟨holds, before, item, behind, parts, passed, stopped⟩
    exact ⟨before, item, behind, parts, passed, holds, stopped⟩

theorem stopsAt_or {others : α → Prop} (items : List α) :
    StopsAt passes (fun item => stops item ∨ others item) items ↔
      StopsAt passes stops items ∨ StopsAt passes others items := by
  constructor
  · rintro ⟨before, item, behind, parts, passed, stopped | stopped⟩
    · exact .inl ⟨before, item, behind, parts, passed, stopped⟩
    · exact .inr ⟨before, item, behind, parts, passed, stopped⟩
  · rintro (⟨before, item, behind, parts, passed, stopped⟩ |
      ⟨before, item, behind, parts, passed, stopped⟩)
    · exact ⟨before, item, behind, parts, passed, .inl stopped⟩
    · exact ⟨before, item, behind, parts, passed, .inr stopped⟩

theorem stopsAt_congr {others : α → Prop} {items : List α}
    (same : ∀ item ∈ items, (stops item ↔ others item)) :
    StopsAt passes stops items ↔ StopsAt passes others items := by
  refine exists_congr fun before => exists_congr fun item => exists_congr fun behind => ?_
  refine and_congr_right fun parts => and_congr_right fun _ => same item ?_
  rw [parts]
  exact List.mem_append_right before List.mem_cons_self

/-! ### Taking while a test holds -/

section Span

variable {test : α → Bool} {word rest : List α}

/-- What is taken from a text ends where the test fails. -/
theorem takeWhile_append_of_stop (good : ∀ c ∈ word, test c = true)
    (stop : ∀ c ∈ rest.head?, test c = false) : (word ++ rest).takeWhile test = word := by
  rw [List.takeWhile_append_of_pos good]
  cases rest with
  | nil => rw [List.takeWhile_nil, List.append_nil]
  | cons c rest => rw [List.takeWhile_cons_of_neg (by simp [stop c rfl]), List.append_nil]

theorem dropWhile_append_of_stop (good : ∀ c ∈ word, test c = true)
    (stop : ∀ c ∈ rest.head?, test c = false) : (word ++ rest).dropWhile test = rest := by
  rw [List.dropWhile_append_of_pos good]
  cases rest with
  | nil => rfl
  | cons c rest => rw [List.dropWhile_cons_of_neg (by simp [stop c rfl])]

end Span

theorem mem_of_lookup {κ β : Type} [BEq κ] [LawfulBEq κ] {key : κ} {value : β}
    {entries : List (κ × β)}
    (found : entries.lookup key = some value) : (key, value) ∈ entries := by
  obtain ⟨before, behind, rfl, -⟩ := List.lookup_eq_some_iff.1 found
  exact List.mem_append_right before List.mem_cons_self

/-- Under distinct names every entry is found. -/
theorem lookup_of_distinct {α : Type} {entries : List (String × α)}
    (distinct : (entries.map Prod.fst).Nodup) {name : String} {value : α}
    (member : (name, value) ∈ entries) :
    entries.lookup name = some value := by
  induction entries with
  | nil => cases member
  | cons entry rest ih =>
    rw [List.map_cons, List.nodup_cons] at distinct
    rcases List.mem_cons.1 member with rfl | inRest
    · exact List.lookup_cons_self
    · have different : (name == entry.1) = false := beq_eq_false_iff_ne.2 fun same =>
        distinct.1 (same ▸ List.mem_map_of_mem inRest)
      rw [List.lookup_cons, different]
      exact ih distinct.2 inRest

end QueryDesk
