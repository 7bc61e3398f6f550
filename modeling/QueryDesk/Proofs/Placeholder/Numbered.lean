/-
**Numbered placeholders, read from a text.**

* `placeholders` — the numbered placeholders of a text from left to right.
* `Template.fillNumbered` — a template with blocks of positions in the places of its names.
* `placeholders_fillNumbered` — the placeholders of a tidy template that is filled so
  are the positions, one block after another: no piece of text has a dollar sign or goes
  on with the digits before it.
-/

import QueryDesk.Proofs.Placeholder.Tidy
import QueryDesk.Sql.Placeholder

namespace QueryDesk.Sql

open Text

/-! ### The placeholders of a text -/

/-- The numbered placeholders of a text from left to right: dollar signs with
the digits behind them. -/
def placeholders : List Char → List String
  | [] => []
  | c :: rest =>
    if c = '$' then String.ofList (c :: rest.takeWhile Char.isDigit) :: placeholders rest
    else placeholders rest

/-- The placeholder of a position. -/
def placeholder (place : Nat) : String := "$" ++ toString place

theorem placeholders_append_of_ne {text : List Char} (plain : ∀ c ∈ text, c ≠ '$')
    (rest : List Char) :
    placeholders (text ++ rest) = placeholders rest := by
  induction text with
  | nil => rfl
  | cons c text ih =>
    obtain ⟨here, behind⟩ := List.forall_mem_cons.1 plain
    rw [List.cons_append, placeholders, if_neg here, ih behind]

theorem placeholders_append_of_inert {text : List Char} (inert : ∀ c ∈ text, isInert c = true)
    (rest : List Char) : placeholders (text ++ rest) = placeholders rest :=
  placeholders_append_of_ne (fun c member => ne_dollar_of_isInert (inert c member)) rest

theorem toList_placeholder (place : Nat) :
    (placeholder place).toList = '$' :: Nat.toDigits 10 place := by
  show ("$" ++ Nat.repr place).toList = _
  rw [String.toList_append, Nat.toList_repr]
  rfl

theorem placeholders_append_placeholder (place : Nat) {rest : List Char}
    (ends : ∀ c ∈ rest.head?, c.isDigit = false) :
    placeholders ((placeholder place).toList ++ rest) = placeholder place :: placeholders rest := by
  have digits : ∀ c ∈ Nat.toDigits 10 place, c.isDigit = true := fun c member =>
    Nat.isDigit_of_mem_toDigits (by decide) (Nat.le_refl 10) member
  have plain : ∀ c ∈ Nat.toDigits 10 place, c ≠ '$' := fun c member => by
    rintro rfl
    exact absurd (digits '$' member) (by decide)
  rw [toList_placeholder, List.cons_append, placeholders, if_pos rfl,
    takeWhile_append_of_stop digits ends, placeholders_append_of_ne plain, ← toList_placeholder,
    String.ofList_toList]

/-- The text of a position and others behind it. -/
theorem numbered_cons (place : Nat) (others : List Nat) :
    Block.numbered (place :: others) =
      ",".intercalate (placeholder place :: others.map placeholder) := rfl

theorem placeholders_append_numbered (positions : List Nat) {rest : List Char}
    (ends : ∀ c ∈ rest.head?, c.isDigit = false) :
    placeholders ((Block.numbered positions).toList ++ rest) =
      positions.map placeholder ++ placeholders rest := by
  cases positions with
  | nil =>
    have inert : ∀ c ∈ emptyArrayText.toList, isInert c = true := List.all_eq_true.1 (by decide)
    exact placeholders_append_of_inert inert rest
  | cons place others =>
    rw [numbered_cons]
    induction others generalizing place with
    | nil =>
      rw [List.map_nil, String.intercalate_singleton]
      exact placeholders_append_placeholder place ends
    | cons next others ih =>
      have comma : ∀ text : List Char, placeholders (",".toList ++ text) = placeholders text :=
        placeholders_append_of_inert (List.all_eq_true.1 (by decide))
      rw [List.map_cons, String.intercalate_cons_cons, String.toList_append, String.toList_append,
        List.append_assoc, List.append_assoc,
        placeholders_append_placeholder place (by rintro _ ⟨⟩; decide), comma, ih next]
      rfl

/-- The text of positions begins with a dollar sign or a blank. -/
theorem head_numbered (positions : List Nat) (rest : List Char) :
    ∀ c ∈ ((Block.numbered positions).toList ++ rest).head?, c.isDigit = false := by
  match positions with
  | [] =>
    rintro _ ⟨⟩
    decide
  | [place] =>
    rw [numbered_cons, List.map_nil, String.intercalate_singleton, toList_placeholder]
    rintro _ ⟨⟩
    decide
  | place :: next :: others =>
    rw [numbered_cons, List.map_cons, String.intercalate_cons_cons, String.toList_append,
      String.toList_append, toList_placeholder]
    rintro _ ⟨⟩
    decide

/-! ### Filled templates -/

/-- A template with blocks of positions in the places of its names. -/
def Template.fillNumbered (template : Template) (places : List (List Nat)) : List Char :=
  template.fill (places.map fun block => (Block.numbered block).toList)

theorem fillNumbered_slot (lead name after : List Char) (more : List (List Char × List Char))
    (block : List Nat) (places : List (List Nat)) :
    (⟨lead, (name, after) :: more⟩ : Template).fillNumbered (block :: places) =
      lead ++ ((Block.numbered block).toList ++ (⟨after, more⟩ : Template).fillNumbered places) :=
  Template.fill_slot lead name after more (Block.numbered block).toList _

theorem head_fillNumbered {lead : List Char} (ends : ∀ c ∈ lead.head?, isWord c = false)
    (slots : List (List Char × List Char)) (places : List (List Nat)) :
    ∀ c ∈ ((⟨lead, slots⟩ : Template).fillNumbered places).head?, c.isDigit = false := by
  have others {c : Char} (unword : isWord c = false) : c.isDigit = false :=
    Bool.eq_false_iff.2 fun digit => by
      rw [isWord_of_isDigit digit] at unword
      cases unword
  cases lead with
  | cons d lead => exact fun c member => others (ends c member)
  | nil =>
    match slots, places with
    | [], _ => simp [Template.fillNumbered, Template.fill]
    | _ :: _, [] => simp [Template.fillNumbered, Template.fill]
    | (name, after) :: more, block :: places =>
      rw [fillNumbered_slot]
      exact head_numbered block _

/-- **The placeholders of a tidy template** that is filled with blocks of
positions are these positions. -/
theorem placeholders_fillNumbered (slots : List (List Char × List Char)) :
    ∀ (lead : List Char) (places : List (List Nat)), (⟨lead, slots⟩ : Template).Tidy →
      places.length = slots.length →
        placeholders ((⟨lead, slots⟩ : Template).fillNumbered places) =
          places.flatten.map placeholder := by
  induction slots with
  | nil =>
    intro lead places tidy lengths
    obtain rfl := List.length_eq_zero_iff.1 lengths
    exact placeholders_append_of_inert tidy.lead []
  | cons slot more ih =>
    intro lead places tidy lengths
    obtain ⟨name, after⟩ := slot
    obtain ⟨-, ends, behind⟩ := tidy.of_slot
    obtain ⟨block, places, rfl⟩ := List.exists_cons_of_length_eq_add_one lengths
    rw [fillNumbered_slot, placeholders_append_of_inert tidy.lead,
      placeholders_append_numbered block (head_fillNumbered ends more places),
      ih after places behind (Nat.succ.inj lengths), List.flatten_cons, List.map_append]

end QueryDesk.Sql
