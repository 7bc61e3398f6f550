/-
**What a named parameter is, apart from how it is searched for.**

* `IsName` — a name with what stands behind it: an ASCII letter, underscore or dollar
  sign and word characters up to an edge of a word. `name?_eq_none_iff`: the search finds
  a name wherever there is one.
* `HasParameter` — somewhere in a text a colon that follows no other colon is followed by a name.
  `names_scan_eq_nil_iff`: **the scan of a text finds no name exactly when it has no parameter.**
* `names_scan_eq_flatMap_lines` — the names of a text are those of its lines, in order.
-/

import Mathlib.Data.List.TakeWhile
import QueryDesk.Proofs.Placeholder.Quoting

namespace QueryDesk.Sql.Template

open Text

/-! ### Names -/

/-- A parameter's name and what stands behind it. The name begins with an ASCII letter, an
underscore or a dollar sign, goes on with characters of words, and ends at the edge of a word. -/
structure IsName (name behind : List Char) : Prop where
  spelled : ∃ c word, name = c :: word ∧ startsName c = true ∧ ∀ d ∈ word, isWord d = true
  edge : name.getLast?.any isWord ≠ behind.head?.any isWord

variable {name behind text rest : List Char}

theorem isWord_of_isAlpha {c : Char} (letter : c.isAlpha = true) : isWord c = true := by
  have letters : ∀ code < 123, 65 ≤ code ∧ code ≤ 90 ∨ 97 ≤ code →
      Edges.holds wordEdges code = true := by decide
  change (decide ('A'.val ≤ c.val ∧ c.val ≤ 'Z'.val) ||
    (decide ('a'.val ≤ c.val) && decide (c.val ≤ 'z'.val))) = true at letter
  simp only [Bool.or_eq_true, Bool.and_eq_true, decide_eq_true_eq, UInt32.le_iff_toNat_le] at letter
  change 65 ≤ c.toNat ∧ c.toNat ≤ 90 ∨ 97 ≤ c.toNat ∧ c.toNat ≤ 122 at letter
  exact letters c.toNat (by omega) (by omega)

theorem isWord_of_startsName {c : Char} (starts : startsName c = true) (other : c ≠ '$') :
    isWord c = true := by
  simp only [startsName, Bool.or_eq_true, beq_iff_eq] at starts
  rcases starts with (letter | rfl) | dollar
  · exact isWord_of_isAlpha letter
  · decide
  · exact absurd dollar other

/-- No name is found where none starts, or behind a dollar sign that no word follows. -/
theorem name?_cons_eq_none_iff (c : Char) (rest : List Char) :
    name? (c :: rest) = none ↔ startsName c = false ∨ c = '$' ∧ rest.head?.any isWord = false := by
  have begins : (rest.takeWhile isWord).isEmpty = !rest.head?.any isWord := by
    cases rest with
    | nil => rfl
    | cons d rest => cases word : isWord d <;> simp [word]
  simp only [name?, begins]
  cases startsName c <;> simp

/-- **What the search finds is a name**, and its word ends there. -/
theorem isName_of_name? (found : name? text = some (name, behind)) :
    IsName name behind ∧ behind.head?.any isWord = false := by
  cases text with
  | nil => cases found
  | cons c rest =>
    have there : ¬ (startsName c = false ∨ c = '$' ∧ rest.head?.any isWord = false) := by
      rw [← name?_cons_eq_none_iff, found]
      exact Option.some_ne_none _
    rw [not_or, Bool.not_eq_false, not_and, Bool.not_eq_false] at there
    obtain ⟨starts, followed⟩ := there
    obtain ⟨rfl, rfl⟩ : c :: rest.takeWhile isWord = name ∧ rest.dropWhile isWord = behind := by
      simp only [name?] at found
      split at found
      · exact Prod.mk.inj (Option.some.inj found)
      · cases found
    have words : ∀ d ∈ rest.takeWhile isWord, isWord d = true := fun d => List.mem_takeWhile_imp
    have ends : (rest.dropWhile isWord).head?.any isWord = false := by
      have stop := List.head?_dropWhile_not isWord rest
      cases head : (rest.dropWhile isWord).head? with
      | none => rfl
      | some d => rwa [head] at stop
    refine ⟨⟨⟨c, _, rfl, starts, words⟩, ?_⟩, ends⟩
    rw [ends, List.getLast?_cons]
    cases last : (rest.takeWhile isWord).getLast? with
    | some d => simp [words d (List.mem_of_getLast? last)]
    | none =>
      -- a name of one character is no dollar sign, since no word follows
      have none_taken := List.getLast?_eq_none_iff.1 last
      have other : c ≠ '$' := fun dollar => by
        have word := followed dollar
        cases rest with
        | nil => cases word
        | cons d rest => simp_all
      simp [isWord_of_startsName starts other]

/-- **Where there is a name, the search finds one.** -/
theorem name?_ne_none_of_isName (named : IsName name behind) : name? (name ++ behind) ≠ none := by
  obtain ⟨⟨c, word, rfl, starts, words⟩, edge⟩ := named
  rw [List.cons_append, Ne, name?_cons_eq_none_iff, starts]
  rintro (none_starts | ⟨rfl, ends⟩)
  · cases none_starts
  · cases word with
    | nil =>
      -- no word ends behind a lone dollar sign, so one would have to begin
      rw [List.nil_append] at ends
      exact edge (ends ▸ rfl)
    | cons e word =>
      have none_follows : isWord e = false := ends
      rw [words e List.mem_cons_self] at none_follows
      cases none_follows

namespace IsName

/-- Of what stands behind a name only the first character counts, and whether it is one of words. -/
theorem of_head (named : IsName name behind)
    (same : rest.head?.any isWord = behind.head?.any isWord) :
    IsName name rest :=
  ⟨named.spelled, same ▸ named.edge⟩

theorem no_return (named : IsName name behind) : ∀ c ∈ name, c ≠ '\r' := by
  obtain ⟨⟨c, word, rfl, starts, words⟩, -⟩ := named
  exact List.forall_mem_cons.2 ⟨ne_of_test starts (by decide), fun d member =>
    ne_of_test (words d member) (by decide)⟩

end IsName

/-- **A name whose word ends behind it is found as a whole.** -/
theorem name?_append_of_isName (named : IsName name behind)
    (ends : behind.head?.any isWord = false) :
    name? (name ++ behind) = some (name, behind) := by
  obtain ⟨⟨c, word, rfl, starts, words⟩, edge⟩ := named
  have stops := (Option.any_eq_false _ _).1 ends
  have not_lone : ¬ (c = '$' ∧ word = []) := by
    rintro ⟨rfl, rfl⟩
    exact edge ends.symm
  rw [List.cons_append, name?, takeWhile_append_of_stop words stops,
    dropWhile_append_of_stop words stops, starts]
  simpa using not_lone

/-! ### Parameters -/

/-- Whether a text has a parameter: a colon that follows no other one, and a name behind it. -/
def HasParameter (text : List Char) : Prop :=
  ∃ before name behind, text = before ++ ':' :: (name ++ behind) ∧
    before.getLast? ≠ some ':' ∧ IsName name behind

/-- Whether a colon stands at the end of a text, or before an empty one. -/
def colonBehind (colon : Bool) (text : List Char) : Bool := text.foldl (fun _ c => c == ':') colon

theorem colonBehind_eq_false_iff (text : List Char) :
    colonBehind false text = false ↔ text.getLast? ≠ some ':' := by
  rcases List.eq_nil_or_concat text with rfl | ⟨init, c, rfl⟩
  · simp [colonBehind]
  · simp [colonBehind]

theorem slots_scan_ne_nil {before : List Char} (named : IsName name behind) :
    ∀ colon : Bool, colonBehind colon before = false →
      (scan colon (before ++ ':' :: (name ++ behind))).slots ≠ [] := by
  induction before with
  | nil =>
    rintro colon (rfl : colon = false)
    obtain ⟨⟨longest, more⟩, found⟩ := Option.ne_none_iff_exists'.1 (name?_ne_none_of_isName named)
    rw [List.nil_append, @scan_colon_of_some false _ _ _ found]
    exact List.cons_ne_nil _ _
  | cons c before ih =>
    intro colon apart
    have later := ih (c == ':') apart
    rw [List.cons_append]
    by_cases same : c = ':'
    · subst same
      cases found : (if colon then none else name? (before ++ ':' :: (name ++ behind))) with
      | none => rwa [scan_colon_of_none found]
      | some taken =>
        rw [scan_colon_of_some found]
        exact List.cons_ne_nil _ _
    · rw [scan_cons_of_ne same]
      rwa [beq_eq_false_iff_ne.2 same] at later

theorem exists_of_slots_scan (colon : Bool) (text : List Char)
    (some_there : (scan colon text).slots ≠ []) :
    ∃ before name behind, text = before ++ ':' :: (name ++ behind) ∧
      colonBehind colon before = false ∧ IsName name behind := by
  fun_induction scan colon text with
  | case1 => exact absurd rfl some_there
  | case2 colon rest name more found ih =>
    cases colon with
    | true => cases found
    | false =>
      exact ⟨[], name, more, by rw [name?_append found]; rfl, rfl, (isName_of_name? found).1⟩
  | case3 colon rest found ih =>
    obtain ⟨before, name, behind, rfl, apart, named⟩ := ih some_there
    exact ⟨':' :: before, name, behind, rfl, apart, named⟩
  | case4 colon c rest other ih =>
    obtain ⟨before, name, behind, rfl, apart, named⟩ := ih some_there
    refine ⟨c :: before, name, behind, rfl, ?_, named⟩
    show colonBehind (c == ':') before = false
    rwa [beq_eq_false_iff_ne.2 other]

/-- **The scan of a text finds no name exactly when it has no parameter.** -/
theorem names_scan_eq_nil_iff (text : List Char) :
    (scan false text).names = [] ↔ ¬ HasParameter text := by
  rw [names, List.map_eq_nil_iff]
  constructor
  · rintro none_there ⟨before, name, behind, rfl, apart, named⟩
    exact slots_scan_ne_nil named false ((colonBehind_eq_false_iff before).2 apart) none_there
  · intro without
    refine Decidable.byContradiction fun some_there => ?_
    obtain ⟨before, name, behind, same, apart, named⟩ := exists_of_slots_scan false text some_there
    exact without ⟨before, name, behind, same, (colonBehind_eq_false_iff before).1 apart, named⟩

/-! ### The names of lines -/

theorem names_push (c : Char) (template : Template) :
    (template.push c).names = template.names := rfl

theorem names_pushName (name : List Char) (template : Template) :
    (template.pushName name).names = String.ofList name :: template.names := rfl

/-- Line breaks are made equal one character after another, but for a carriage
return with its line feed. -/
theorem unifyLineBreaks_cons (c : Char) (rest : List Char) :
    (c = '\r' ∧ ∃ more, rest = '\n' :: more) ∨
      unifyLineBreaks (c :: rest) = c :: unifyLineBreaks rest := by
  by_cases broken : c = '\r' ∧ ∃ more, rest = '\n' :: more
  · exact .inl broken
  · refine .inr ?_
    rw [unifyLineBreaks]
    exact fun more return_ feed => broken ⟨return_, more, feed⟩

theorem any_head_unifyLineBreaks (ends : text.head?.any isWord = false) :
    (unifyLineBreaks text).head?.any isWord = false :=
  (Option.any_eq_false _ _).2 (head_unifyLineBreaks ((Option.any_eq_false _ _).1 ends))

/-- Where no name is found, none is found either when line breaks are made equal. -/
theorem name?_unifyLineBreaks_of_none (unnamed : name? text = none) :
    name? (unifyLineBreaks text) = none := by
  fun_cases unifyLineBreaks text with
  | case1 rest => exact (name?_cons_eq_none_iff _ _).2 (.inl (by decide))
  | case2 c rest other =>
    rw [name?_cons_eq_none_iff] at unnamed ⊢
    rcases unnamed with none_starts | ⟨dollar, ends⟩
    · exact .inl none_starts
    · exact .inr ⟨dollar, any_head_unifyLineBreaks ends⟩
  | case3 => exact unnamed

theorem name?_unifyLineBreaks_of_some (found : name? text = some (name, behind)) :
    name? (unifyLineBreaks text) = some (name, unifyLineBreaks behind) := by
  obtain ⟨named, ends⟩ := isName_of_name? found
  have same := any_head_unifyLineBreaks ends
  rw [← name?_append found, unifyLineBreaks_append_of_plain name behind named.no_return]
  exact name?_append_of_isName (named.of_head (same.trans ends.symm)) same

/-- **The names of a text do not hang on its line breaks.** -/
theorem names_scan_unifyLineBreaks (colon : Bool) (text : List Char) :
    (scan colon (unifyLineBreaks text)).names = (scan colon text).names := by
  fun_induction scan colon text with
  | case1 => rw [unifyLineBreaks, scan]
  | case2 colon rest name more found ih =>
    cases colon with
    | true => cases found
    | false =>
      rw [unifyLineBreaks_cons_of_ne (by decide),
        @scan_colon_of_some false _ _ _ (name?_unifyLineBreaks_of_some found), names_pushName,
          names_pushName, ih]
  | case3 colon rest found ih =>
    have unnamed : (if colon then none else name? (unifyLineBreaks rest)) = none := by
      cases colon with
      | true => rfl
      | false => exact name?_unifyLineBreaks_of_none found
    rw [unifyLineBreaks_cons_of_ne (by decide), scan_colon_of_none unnamed, names_push,
      names_push, ih]
  | case4 colon c rest other ih =>
    rcases unifyLineBreaks_cons c rest with ⟨rfl, more, rfl⟩ | same
    · -- the line feed is scanned in both texts, the carriage return in one of them
      rw [unifyLineBreaks_cons_of_ne (by decide), scan_cons_of_ne (by decide), names_push] at ih
      rw [unifyLineBreaks, scan_cons_of_ne (by decide), names_push, names_push, ih]
    · rw [same, scan_cons_of_ne other, names_push, names_push, ih]

theorem names_ofLines (texts : List String) :
    (ofLines texts).names = texts.flatMap fun line => (scan false line.toList).names := by
  fun_induction ofLines texts with
  | case1 => rfl
  | case2 line => simp
  | case3 line next rest ih => rw [names_append, names_push, ih, List.flatMap_cons (x := line)]

/-- **The names of a text are those of its lines**, in order. -/
theorem names_scan_eq_flatMap_lines (text : String) :
    (scan false text.toList).names = (lines text).flatMap fun line =>
      (scan false line.toList).names := by
  rw [← names_ofLines, lines, ← scan_intercalate, intercalate_splitOnChar,
    names_scan_unifyLineBreaks]

end QueryDesk.Sql.Template
