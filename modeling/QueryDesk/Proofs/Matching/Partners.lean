/-
**Rows that pair off.**

A test pairs the elements of two lists. When no element of either list has a partner in common with
another one, the partners found for the left elements are the right elements that have a partner.

* `partners_perm`, `countP_partnered` — the two sides of such a pairing, as lists and counted.
* `CompareKey.Separates` — rows no two of which have the same value under a key; two such lists pair
  off by the sameness of their keys (`CompareKey.Separates.pairsOnce`).
-/

import Mathlib.Data.List.Pairwise
import QueryDesk.Proofs.Comparison.Run

namespace QueryDesk

/-! ### Pairings -/

section Pairing

variable {α β : Type}

/-- No two elements of the left list have a partner in common on the right. -/
def PairsOnce (pairs : α → β → Bool) (left : List α) (right : List β) : Prop :=
  left.Pairwise fun a other => ∀ b ∈ right, pairs a b = true → pairs other b = false

/-- A narrower test pairs once what a wider one does. -/
theorem PairsOnce.narrowed {wide narrow : α → β → Bool} {left : List α} {right : List β}
    (once : PairsOnce wide left right) (inside : ∀ a b, narrow a b = true → wide a b = true) :
    PairsOnce narrow left right := by
  refine List.Pairwise.imp ?_ once
  intro a other apart b member paired
  rw [Bool.eq_false_iff]
  intro again
  exact Bool.eq_false_iff.1 (apart b member (inside a b paired)) (inside other b again)

/-- Elements with a partner in common are one element. -/
theorem PairsOnce.eq_of_shared {pairs : α → β → Bool} {left : List α} {right : List β}
    (once : PairsOnce pairs left right) {a other : α} (here : a ∈ left) (there : other ∈ left)
    {b : β} (member : b ∈ right) (first : pairs a b = true) (second : pairs other b = true) :
    a = other := by
  by_contra differ
  have symmetric : Std.Symm fun a other => ∀ b ∈ right, pairs a b = true →
    pairs other b = false := by
    constructor
    intro a other apart b member paired
    rw [Bool.eq_false_iff]
    intro again
    exact Bool.eq_false_iff.1 (apart b member again) paired
  have apart := List.Pairwise.forall once here there differ b member first
  rw [second] at apart
  cases apart

variable {pairs : α → β → Bool} {left : List α} {right : List β}
  (onceLeft : PairsOnce pairs left right)
  (onceRight : PairsOnce (fun b a => pairs a b) right left)

include onceRight in
/-- What is found for an element is its only partner. -/
theorem find?_partner {a : α} (here : a ∈ left) {b : β} :
    right.find? (pairs a) = some b ↔ b ∈ right ∧ pairs a b = true := by
  constructor
  · intro found
    exact ⟨List.mem_of_find?_eq_some found, List.find?_some found⟩
  · rintro ⟨member, paired⟩
    obtain ⟨first, found⟩ := Option.isSome_iff_exists.1 (List.find?_isSome.2 ⟨b, member, paired⟩)
    rw [found]
    have same := onceRight.eq_of_shared (List.mem_of_find?_eq_some found) member here
      (List.find?_some found) paired
    rw [same]

/-- The elements that an element is paired with are its partner, if it has one. -/
theorem filter_partner {a : α} : ∀ {right : List β}, PairsOnce (fun b a => pairs a b) right left →
    a ∈ left → right.filter (pairs a) = (right.find? (pairs a)).toList
  | [], _, _ => rfl
  | b :: rest, once, here => by
    obtain ⟨apart, onceRest⟩ := List.pairwise_cons.1 once
    by_cases paired : pairs a b = true
    · have others : rest.filter (pairs a) = [] :=
        List.filter_eq_nil_iff.2 fun other member =>
          Bool.eq_false_iff.1 (apart other member a here paired)
      rw [List.filter_cons_of_pos paired, List.find?_cons_of_pos paired, others]
      rfl
    · rw [List.filter_cons_of_neg paired, List.find?_cons_of_neg paired]
      exact filter_partner onceRest here

include onceLeft in
theorem nodup_partners : (left.filterMap fun a => right.find? (pairs a)).Nodup := by
  rw [List.Nodup, List.pairwise_filterMap]
  refine List.Pairwise.imp ?_ onceLeft
  rintro a other apart b found _ again rfl
  have apart := apart b (List.mem_of_find?_eq_some found) (List.find?_some found)
  have paired := List.find?_some again
  rw [apart] at paired
  cases paired

include onceRight in
theorem nodup_partnered : (right.filter fun b => left.any (pairs · b)).Nodup := by
  refine List.Pairwise.imp_of_mem ?_ (List.Pairwise.filter _ onceRight)
  rintro b other member _ apart rfl
  obtain ⟨a, here, paired⟩ := List.any_eq_true.1 (List.mem_filter.1 member).2
  have unpaired : pairs a b = false := apart a here paired
  rw [paired] at unpaired
  cases unpaired

include onceLeft onceRight in
/-- **The partners of the left elements are the right elements that have a partner.** -/
theorem partners_perm :
    (left.filterMap fun a => right.find? (pairs a)).Perm
      (right.filter fun b => left.any (pairs · b)) := by
  refine (List.perm_ext_iff_of_nodup (nodup_partners onceLeft) (nodup_partnered onceRight)).2
    fun b => ?_
  rw [List.mem_filterMap, List.mem_filter, List.any_eq_true]
  constructor
  · rintro ⟨a, here, found⟩
    obtain ⟨member, paired⟩ := (find?_partner onceRight here).1 found
    exact ⟨member, a, here, paired⟩
  · rintro ⟨member, a, here, paired⟩
    exact ⟨a, here, (find?_partner onceRight here).2 ⟨member, paired⟩⟩

include onceLeft onceRight in
/-- As many elements have a partner on the left as on the right. -/
theorem countP_partnered :
    left.countP (fun a => right.any (pairs a)) = right.countP fun b => left.any (pairs · b) := by
  have lengths := (partners_perm onceLeft onceRight).length_eq
  rw [List.length_filterMap_eq_countP, ← List.countP_eq_length_filter] at lengths
  rw [← lengths]
  exact congrArg (List.countP · left) (funext fun a => List.isSome_find?.symm)

end Pairing

/-! ### Rows without a key in common -/

/-- No two of the rows have the same value under a key. -/
def CompareKey.Separates (key : CompareKey) (rows : List Row) : Prop :=
  rows.Pairwise fun row other => key.agree row other = false

namespace CompareKey.Separates

variable {key : CompareKey} {rows others : List Row}

/-- Separated rows pair off with any rows by the sameness of their keys. -/
theorem pairsOnce (separated : key.Separates rows) (reads : ∀ row ∈ rows, key.reads row)
    (readsOthers : ∀ row ∈ others, key.reads row) : PairsOnce key.agree rows others := by
  refine List.Pairwise.imp_of_mem ?_ separated
  intro row other here there apart partner member paired
  rw [Bool.eq_false_iff] at apart ⊢
  intro again
  have readsPartner := readsOthers partner member
  have back := key.agree_symm (reads other there) readsPartner again
  exact apart (key.agree_trans (reads row here) readsPartner (reads other there) paired back)

/-- The same pairing, seen from the other side. -/
theorem pairsOnce_swapped (separated : key.Separates rows) (reads : ∀ row ∈ rows, key.reads row)
    (readsOthers : ∀ row ∈ others, key.reads row) :
    PairsOnce (fun row other => key.agree other row) rows others := by
  refine List.Pairwise.imp_of_mem ?_ separated
  intro row other here there apart partner member paired
  rw [Bool.eq_false_iff] at apart ⊢
  intro again
  have readsPartner := readsOthers partner member
  have back := key.agree_symm readsPartner (reads row here) paired
  exact apart (key.agree_trans (reads row here) readsPartner (reads other there) back again)

end CompareKey.Separates

end QueryDesk
