/-
**No parameter is left in a bound query.**

What stands in the place of a parameter has no colon and does not begin with a word (`IsSealed`). So
it goes on with no name in front of it, and it begins none:

* `Template.slots_scan_fill` — a template that is filled with such texts has no parameter, whatever
  pieces of text stand next to them.
* `ShowsPlaceholders.isSealed` — placeholders and the text of an empty array are such texts.
* `normalize_leaves_no_parameter` — **no parameter is left in a bound query**,
  nor in one of its lines.
-/

import QueryDesk.Proofs.Placeholder.Parameter
import QueryDesk.Proofs.Placeholder.Tally

namespace QueryDesk.Sql

open Text

/-- A text without colons that begins with a character outside of words. -/
structure IsSealed (text : List Char) : Prop where
  no_colon : ∀ c ∈ text, c ≠ ':'
  opens : ∃ c ∈ text.head?, isWord c = false

theorem IsSealed.ne_nil {text : List Char} (sealed : IsSealed text) : text ≠ [] := by
  rintro rfl
  obtain ⟨c, first, -⟩ := sealed.opens
  cases first

namespace Template

variable {texts : List (List Char)}

/-! ### Filled templates -/

theorem fill_ofText (lead : List Char) (texts : List (List Char)) :
    (ofText lead).fill texts = lead := by
  simp [fill, ofText]

theorem fill_push (c : Char) (template : Template) (texts : List (List Char)) :
    (template.push c).fill texts = c :: template.fill texts := rfl

theorem fill_pushName_cons (name text : List Char) (template : Template)
    (texts : List (List Char)) :
    (template.pushName name).fill (text :: texts) = text ++ template.fill texts :=
  fill_slot [] name template.lead template.slots text texts

theorem fill_pushName_nil (name : List Char) (template : Template) :
    (template.pushName name).fill [] = [] := rfl

/-- The scan passes over text without colons. -/
theorem slots_scan_append {text : List Char} (no_colon : ∀ c ∈ text, c ≠ ':')
    (some_there : text ≠ []) (colon : Bool) (rest : List Char) :
    (scan colon (text ++ rest)).slots = (scan false rest).slots := by
  induction text generalizing colon with
  | nil => exact absurd rfl some_there
  | cons c text ih =>
    obtain ⟨here, behind⟩ := List.forall_mem_cons.1 no_colon
    rw [List.cons_append, scan_cons_of_ne here]
    cases text with
    | nil => rfl
    | cons d text => exact ih behind (List.cons_ne_nil d text) false

/-- No word begins in a filled template where none began in its text. -/
theorem any_head_fill (sealed : ∀ text ∈ texts, IsSealed text) {colon : Bool} {rest : List Char}
    (ends : rest.head?.any isWord = false) :
    ((scan colon rest).fill texts).head?.any isWord = false := by
  fun_cases scan colon rest with
  | case1 => rw [fill_ofText]; rfl
  | case2 name more rest found =>
    cases texts with
    | nil => rfl
    | cons text texts =>
      obtain ⟨c, first, unword⟩ := (sealed text List.mem_cons_self).opens
      rw [fill_pushName_cons, List.head?_append, first, Option.some_or]
      exact unword
  | case3 => rfl
  | case4 => exact ends

/-- **No name is found in a filled template where none was found in its text**: the second character
of a name that would be found is that of a text which begins with no word. -/
theorem name?_fill_of_none (sealed : ∀ text ∈ texts, IsSealed text) {rest : List Char}
    (unnamed : name? rest = none) : name? ((scan true rest).fill texts) = none := by
  cases rest with
  | nil => rw [scan, fill_ofText, name?]
  | cons c rest =>
    by_cases same : c = ':'
    · subst same
      rw [scan_colon_of_none rfl, fill_push, name?_cons_eq_none_iff]
      exact .inl (by decide)
    · rw [scan_cons_of_ne same, fill_push]
      rw [name?_cons_eq_none_iff] at unnamed ⊢
      rcases unnamed with none_starts | ⟨dollar, ends⟩
      · exact .inl none_starts
      · exact .inr ⟨dollar, any_head_fill sealed ends⟩

/-- **A template that is filled with sealed texts has no parameter.** The induction follows the scan
of its text: a colon that began no parameter begins none, and one that did is gone. -/
theorem slots_scan_fill (colon : Bool) (text : List Char) :
    ∀ {texts : List (List Char)}, (∀ text ∈ texts, IsSealed text) →
      (scan colon ((scan colon text).fill texts)).slots = [] := by
  fun_induction scan colon text with
  | case1 colon =>
    intro texts _
    rw [fill_ofText, scan]
    rfl
  | case2 colon rest name more found ih =>
    intro texts sealed
    cases texts with
    | nil =>
      rw [fill_pushName_nil, scan]
      rfl
    | cons text texts =>
      obtain ⟨here, others⟩ := List.forall_mem_cons.1 sealed
      rw [fill_pushName_cons, slots_scan_append here.no_colon here.ne_nil]
      exact ih others
  | case3 colon rest found ih =>
    intro texts sealed
    have unnamed : (if colon then none else name? ((scan true rest).fill texts)) = none := by
      cases colon with
      | true => rfl
      | false => exact name?_fill_of_none sealed found
    rw [fill_push, scan_colon_of_none unnamed]
    exact ih sealed
  | case4 colon c rest other ih =>
    intro texts sealed
    rw [fill_push, scan_cons_of_ne other]
    exact ih sealed

end Template

/-! ### Placeholders -/

theorem IsPlaceholder.opens {text : String} (one : IsPlaceholder text) :
    ∃ c ∈ text.toList.head?, isWord c = false := by
  rcases one with rfl | ⟨place, rfl⟩
  · exact ⟨'?', rfl, by decide⟩
  · rw [toList_placeholder]
    exact ⟨'$', rfl, by decide⟩

namespace ShowsPlaceholders

variable {text : String}

theorem opens (shows : ShowsPlaceholders text) : ∃ c ∈ text.toList.head?, isWord c = false := by
  obtain ⟨list, rfl, placeholders⟩ := shows
  match list with
  | [] => exact ⟨' ', rfl, by decide⟩
  | [one] =>
    show ∃ c ∈ (",".intercalate [one]).toList.head?, isWord c = false
    rw [String.intercalate_singleton]
    exact (placeholders one List.mem_cons_self).opens
  | one :: next :: list =>
    obtain ⟨c, first, unword⟩ := (placeholders one List.mem_cons_self).opens
    show ∃ c ∈ (",".intercalate (one :: next :: list)).toList.head?, isWord c = false
    rw [String.intercalate_cons_cons, String.toList_append, String.toList_append, List.append_assoc,
      List.head?_append, first, Option.some_or]
    exact ⟨c, rfl, unword⟩

theorem isSealed (shows : ShowsPlaceholders text) : IsSealed text.toList :=
  ⟨fun c member => ne_of_test (shows.chars c member) (by decide), shows.opens⟩

end ShowsPlaceholders

/-- A template that was cut from a text and is bound has no parameter. -/
theorem Template.names_scan_of_bind {colon : Bool} {text : List Char} {style : PlaceholderStyle}
    {given : Option Binds} {bound : BoundQuery}
    (found : (scan colon text).bind style given = .ok bound) :
    (scan colon bound.query.toList).names = [] := by
  obtain ⟨texts, -, shown, filled⟩ := bind_eq_fill found
  have sealed : ∀ text ∈ texts.map String.toList, IsSealed text :=
    List.forall_mem_map.2 fun text member => (shown text member).isSealed
  rw [names, filled, slots_scan_fill colon text sealed]
  rfl

/-- **No parameter is left in a bound query**, nor in one of its lines. -/
theorem normalize_leaves_no_parameter {style : PlaceholderStyle} {given : Option Binds}
    {query : String} {bound : BoundQuery} (found : normalize style given query = .ok bound) :
    ¬ Template.HasParameter bound.query.toList ∧
      ∀ line ∈ lines bound.query, ¬ Template.HasParameter line.toList := by
  unfold normalize Template.ofQuery at found
  have unnamed := Template.names_scan_of_bind found
  have line_names := Template.names_scan_eq_flatMap_lines bound.query
  rw [unnamed, eq_comm, List.flatMap_eq_nil_iff] at line_names
  exact ⟨(Template.names_scan_eq_nil_iff _).1 unnamed,
    fun line member => (Template.names_scan_eq_nil_iff _).1 (line_names line member)⟩

/-- Neighbours of every kind: parameters side by side, casts, dollar signs,
colons and the end of a line. -/
theorem normalize_leaves_no_parameter_among_neighbours :
    let query := "select :a:b, :a::int, ':$':$x:$, :::c :\n:d$ -- :no"
    let given : Binds :=
      [("a", .int 1), ("b", .list []), ("$x", .list [.int 2, .int 3]), ("d", .int 4)]
    ∃ bound, normalize .positioned (some given) query = .ok bound ∧
      bound.query = "select $1 null , $1::int, ':$'$2,$3:$, :::c :\n$4$ " ∧
      ¬ Template.HasParameter bound.query.toList ∧
      ∀ line ∈ lines bound.query, ¬ Template.HasParameter line.toList := by
  intro query given
  have shown : (normalize .positioned (some given) query).toOption.map BoundQuery.query =
      some "select $1 null , $1::int, ':$'$2,$3:$, :::c :\n$4$ " := by decide +kernel
  cases outcome : normalize .positioned (some given) query with
  | error failure =>
    rw [outcome] at shown
    cases shown
  | ok bound =>
    rw [outcome] at shown
    exact ⟨bound, rfl, Option.some.inj shown, normalize_leaves_no_parameter outcome⟩

end QueryDesk.Sql
