/-
**Texts cut into parts, and parts without the blanks around them.**

* `splitOnChar_intercalate`, `intercalate_splitOnChar` — parts without the separator that are put
  together are cut again, and a text that is cut is put together again.
* `stripChars_blanks_append`, `stripChars_append_blanks`, `stripChars_of_ends` — blanks around a
  text go, and nothing goes from a text that neither begins nor ends with one.
* `map_stripChars_splitOnChar` — the parts of a text do not depend on the blanks
  around the whole text.
-/

import Mathlib.Data.List.TakeWhile
import QueryDesk.Proofs.Search
import QueryDesk.Text.Basic

namespace QueryDesk.Text

/-! ### Parts -/

section Parts

variable {separator : Char}

theorem splitOnChar_ne_nil (separator : Char) (text : List Char) :
    splitOnChar separator text ≠ [] := fun no_part => by
  have parts := length_splitOnChar separator text
  rw [no_part] at parts
  cases parts

theorem splitOnChar_of_not_mem {part : List Char} (apart : separator ∉ part) :
    splitOnChar separator part = [part] := by
  induction part with
  | nil => rfl
  | cons c part ih =>
    rw [List.mem_cons, not_or] at apart
    obtain ⟨here, behind⟩ := apart
    rw [splitOnChar, if_neg (Ne.symm here), ih behind]

theorem splitOnChar_append {part : List Char} (apart : separator ∉ part) (rest : List Char) :
    splitOnChar separator (part ++ separator :: rest) = part :: splitOnChar separator rest := by
  induction part with
  | nil => rw [List.nil_append, splitOnChar, if_pos rfl]
  | cons c part ih =>
    rw [List.mem_cons, not_or] at apart
    obtain ⟨here, behind⟩ := apart
    rw [List.cons_append, splitOnChar, if_neg (Ne.symm here), ih behind]

/-- **Parts that are put together are cut again**, when none has the separator. -/
theorem splitOnChar_intercalate {parts : List (List Char)} (some_part : parts ≠ [])
    (apart : ∀ part ∈ parts, separator ∉ part) :
    splitOnChar separator ([separator].intercalate parts) = parts := by
  induction parts with
  | nil => exact absurd rfl some_part
  | cons part rest ih =>
    obtain ⟨here, others⟩ := List.forall_mem_cons.1 apart
    cases rest with
    | nil => rw [List.intercalate_singleton, splitOnChar_of_not_mem here]
    | cons next rest =>
      rw [List.intercalate_cons_cons, List.append_assoc, List.singleton_append,
        splitOnChar_append here, ih (List.cons_ne_nil _ _) others]

/-- The parts between the occurrences of a character, with this character
between them, are the text. -/
theorem intercalate_splitOnChar (separator : Char) (text : List Char) :
    [separator].intercalate (splitOnChar separator text) = text := by
  induction text with
  | nil => rfl
  | cons c rest ih =>
    obtain ⟨part, parts, split_rest⟩ :=
      List.exists_cons_of_ne_nil (splitOnChar_ne_nil separator rest)
    rw [split_rest] at ih
    by_cases same : c = separator
    · subst same
      rw [splitOnChar, if_pos rfl, split_rest, List.intercalate_cons_cons, ih]
      rfl
    · rw [splitOnChar, if_neg same, split_rest]
      cases parts with
      | nil =>
        rw [List.intercalate_singleton] at ih ⊢
        rw [ih]
      | cons next others =>
        rw [List.intercalate_cons_cons] at ih ⊢
        rw [← ih]
        rfl

/-- A text behind one without the separator goes on with its only part. -/
theorem exists_splitOnChar_append_left {front : List Char} (apart : separator ∉ front)
    (text : List Char) :
    ∃ first rest, splitOnChar separator text = first :: rest ∧
      splitOnChar separator (front ++ text) = (front ++ first) :: rest := by
  induction front with
  | nil =>
    obtain ⟨first, rest, parts⟩ := List.exists_cons_of_ne_nil (splitOnChar_ne_nil separator text)
    exact ⟨first, rest, parts, parts⟩
  | cons c front ih =>
    rw [List.mem_cons, not_or] at apart
    obtain ⟨here, behind⟩ := apart
    obtain ⟨first, rest, parts, joined⟩ := ih behind
    refine ⟨first, rest, parts, ?_⟩
    rw [List.cons_append, splitOnChar, if_neg (Ne.symm here), joined, List.cons_append]

/-- The last part of a text goes on with what stands behind the text. -/
theorem exists_splitOnChar_append_right {back : List Char} (apart : separator ∉ back)
    (text : List Char) :
    ∃ before last, splitOnChar separator text = before ++ [last] ∧
      splitOnChar separator (text ++ back) = before ++ [last ++ back] := by
  induction text with
  | nil => exact ⟨[], [], rfl, splitOnChar_of_not_mem apart⟩
  | cons c text ih =>
    obtain ⟨before, last, parts, joined⟩ := ih
    rw [List.cons_append, splitOnChar, splitOnChar, parts, joined]
    by_cases same : c = separator
    · rw [if_pos same, if_pos same]
      exact ⟨[] :: before, last, rfl, rfl⟩
    · rw [if_neg same, if_neg same]
      cases before with
      | nil => exact ⟨[], c :: last, rfl, rfl⟩
      | cons part before => exact ⟨(c :: part) :: before, last, rfl, rfl⟩

end Parts

/-! ### Blanks around a text -/

section Blanks

variable {front text back : List Char}

theorem stripChars_blanks_append (blank : ∀ c ∈ front, isBlank c = true) (text : List Char) :
    stripChars (front ++ text) = stripChars text := by
  rw [stripChars, List.dropWhile_append_of_pos blank, stripChars]

theorem stripChars_append_blanks (blank : ∀ c ∈ back, isBlank c = true) (text : List Char) :
    stripChars (text ++ back) = stripChars text := by
  have reversed : ∀ c ∈ back.reverse, isBlank c = true :=
    fun c inside => blank c (List.mem_reverse.1 inside)
  unfold stripChars
  rw [List.dropWhile_append]
  cases kept : text.dropWhile isBlank with
  | nil =>
    have nothing : back.dropWhile isBlank = [] := List.dropWhile_eq_nil_iff.2 blank
    rw [nothing]
    rfl
  | cons c rest =>
    show ((c :: rest ++ back).reverse.dropWhile isBlank).reverse = _
    rw [List.reverse_append, List.dropWhile_append_of_pos reversed]

/-- Nothing goes from a text that neither begins nor ends with a blank. -/
theorem stripChars_of_ends (first : ∀ c ∈ text.head?, isBlank c = false)
    (last : ∀ c ∈ text.getLast?, isBlank c = false) : stripChars text = text := by
  have begins : text.dropWhile isBlank = text :=
    dropWhile_append_of_stop (List.forall_mem_nil _) first
  rw [← List.head?_reverse] at last
  have ends : text.reverse.dropWhile isBlank = text.reverse :=
    dropWhile_append_of_stop (List.forall_mem_nil _) last
  rw [stripChars, begins, ends, List.reverse_reverse]

/-- A text is what is left of it between blanks. -/
theorem exists_blanks (text : List Char) : ∃ front back, text = front ++ (stripChars text ++ back) ∧
    (∀ c ∈ front, isBlank c = true) ∧ ∀ c ∈ back, isBlank c = true := by
  refine ⟨text.takeWhile isBlank, ((text.dropWhile isBlank).reverse.takeWhile isBlank).reverse, ?_,
    fun c inside => List.mem_takeWhile_imp inside, fun c inside =>
      List.mem_takeWhile_imp (List.mem_reverse.1 inside)⟩
  rw [stripChars, ← List.reverse_append, List.takeWhile_append_dropWhile, List.reverse_reverse,
    List.takeWhile_append_dropWhile]

/-- **The parts of a text without blanks** are the same whether or not there are
blanks around the text. -/
theorem map_stripChars_splitOnChar {separator : Char} (solid : isBlank separator = false)
    (text : List Char) :
    (splitOnChar separator (stripChars text)).map stripChars =
      (splitOnChar separator text).map stripChars := by
  obtain ⟨front, back, parts, blankFront, blankBack⟩ := exists_blanks text
  have apart {blanks : List Char} (blank : ∀ c ∈ blanks, isBlank c = true) : separator ∉ blanks :=
    fun inside => by
    rw [blank separator inside] at solid
    cases solid
  -- the blanks in front go to the first part and those behind to the last one, where they are
  -- stripped
  obtain ⟨before, last, cut, cutBehind⟩ :=
    exists_splitOnChar_append_right (apart blankBack) (stripChars text)
  obtain ⟨first, rest, cutBack, cutFront⟩ :=
    exists_splitOnChar_append_left (apart blankFront) (stripChars text ++ back)
  calc (splitOnChar separator (stripChars text)).map stripChars
      = (splitOnChar separator (stripChars text ++ back)).map stripChars := by
        rw [cut, cutBehind, List.map_append, List.map_append, List.map_singleton,
          List.map_singleton, stripChars_append_blanks blankBack]
    _ = (splitOnChar separator (front ++ (stripChars text ++ back))).map stripChars := by
        rw [cutBack, cutFront, List.map_cons, List.map_cons, stripChars_blanks_append blankFront]
    _ = (splitOnChar separator text).map stripChars := by rw [← parts]

end Blanks

end QueryDesk.Text
