/-
**Balanced parentheses in SQL text without the constructs of other dialects.**

The rules do not look at literals or parentheses, so what a rule uses up may end in the midst
of them. A call is cut at the first closing parenthesis, which is not its own when another
call stands among its arguments.

* `isNeutral_of_interval`, `isNeutral_of_limit`, `isNeutral_of_lock`, `isNeutral_of_call` — when a
  change leaves the nesting behind it as it was.
* `surplus_call_nonneg` — a call leaves no fewer parentheses open than were open before, so two
  calls cannot make up for each other; `isBalanced_replaceCalls_iff` — all of them have to be whole.
* `OthersKeepBalance`, `isBalanced_assignedQuery` — what the other rules have to leave alone.
* `simplify_balanced_iff` — **a balanced query stays balanced exactly when each call is replaced as
  a whole.** A call among the arguments of another one is enough to break it:
  `simplify_unbalances_nested_call`.
-/

import Mathlib.Algebra.Order.BigOperators.Group.List
import QueryDesk.Proofs.Simplify.Rules

namespace QueryDesk.Sql

/-! ### Neutral changes -/

variable {text front : List Char} {change : Change}

/-- A limit is neutral wherever it stands. -/
theorem isNeutral_of_limit (inside : change ∈ changes splitLimit none [] text) :
    change.IsNeutral := by
  obtain ⟨before, rest, applied, -⟩ := mem_changes splitLimit_consumes inside
  obtain ⟨source, parts, plain, written⟩ := splitLimit_spec applied
  obtain rfl := List.append_cancel_right parts
  refine Change.isNeutral_of_forall fun place => ?_
  rw [Nesting.read_of_unmarked plain, Nesting.read_of_unmarked written]

/-- A lock is neutral when it is whole. -/
theorem isNeutral_of_lock (inside : change ∈ changes dropLock none [] text)
    (whole : change.IsWhole) :
    change.IsNeutral := by
  obtain ⟨before, rest, applied, -⟩ := mem_changes dropLock_consumes inside
  refine whole.isNeutral ?_
  rw [(dropLock_spec applied).2]
  decide

/-- A call is changed into text without quotes and parentheses. -/
theorem unmarked_of_call (inside : change ∈ changes replaceCall none [] text) :
    IsUnmarked change.written := by
  obtain ⟨before, rest, applied, -⟩ := mem_changes replaceCall_consumes inside
  obtain ⟨name, arguments, -, -, -, written⟩ := replaceCall_spec applied
  rw [written]
  decide

/-- Text without quotes whose parentheses are balanced does not change the
nesting, in a literal or outside. -/
theorem read_of_balanced (balanced : IsBalanced text)
    (unquoted : ∀ quote : Quote, quote.char ∉ text)
    (place : Nesting) : place.read text = some place := by
  obtain ⟨literal, depth⟩ := place
  cases literal with
  | none =>
    have deeper := Nesting.read_raised balanced depth
    simpa [Nesting.raised, Nesting.start] using deeper
  | some quote =>
    exact Nesting.read_inside (fun c inside same => unquoted quote (same ▸ inside)) depth

theorem isBalanced_append_iff {lead : List Char} (plain : IsUnmarked lead) :
    IsBalanced (lead ++ text) ↔ IsBalanced text := by
  unfold IsBalanced
  rw [Nesting.read_append, Nesting.read_of_unmarked plain, Option.bind_some]

/-- An interval is neutral when it has no quotes and its parentheses are balanced. -/
theorem isNeutral_of_interval (inside : change ∈ changes castInterval none [] text)
    (balanced : IsBalanced change.source) (unquoted : ∀ quote : Quote, quote.char ∉ change.source) :
    change.IsNeutral := by
  obtain ⟨before, rest, applied, -⟩ := mem_changes castInterval_consumes inside
  obtain ⟨lead, unit, count, parts, plain, digits, written⟩ := castInterval_spec applied
  have source := List.append_cancel_right parts
  rw [source] at balanced unquoted
  have unit_kept : ∀ place : Nesting, place.read unit = some place :=
    read_of_balanced ((isBalanced_append_iff plain).1 balanced) fun quote inside =>
      unquoted quote (List.mem_append_right lead inside)
  have shown (place : Nesting) : place.read (count ++ ' ' :: unit) = some place := by
    rw [Nesting.read_append, Nesting.read_of_unmarked digits, Option.bind_some, Nesting.read_cons,
      Nesting.next_of_unmarked rfl, Option.bind_some, unit_kept]
  refine Change.isNeutral_of_forall fun place => ?_
  rw [source, Nesting.read_append, Nesting.read_of_unmarked plain, Option.bind_some, unit_kept,
    written, Nesting.read_append, Nesting.read_append]
  -- what is written closes each literal that it opens, and opens again the one that it closes
  obtain ⟨_ | quote, depth⟩ := place
  · show some _ = ((Nesting.read ⟨some .single, depth + 1⟩ _).bind _)
    rw [shown]
    rfl
  · cases quote with
    | single =>
      show some _ = ((Nesting.read ⟨none, depth⟩ _).bind _)
      rw [shown]
      rfl
    | double =>
      show some _ = ((Nesting.read ⟨some .double, depth⟩ _).bind _)
      rw [shown]
      rfl

/-! ### Calls -/

section Calls

variable {place behind other : Nesting} {c : Char}

/-- A call that ends in the literal where it begins, or outside of all where it begins so, leads no
less deep: of the parentheses that count, only its own is closed. -/
theorem depth_le_of_call {name arguments : List Char} (plain : IsUnmarked name)
    (open_ : ∀ c ∈ arguments, c ≠ ')')
    (reached : place.read (name ++ '(' :: (arguments ++ [')'])) = some behind)
    (same : behind.literal = place.literal) : place.depth ≤ behind.depth := by
  rw [Nesting.read_append, Nesting.read_of_unmarked plain, Option.bind_some, Nesting.read_cons]
    at reached
  obtain ⟨opened, opening, reached⟩ := Option.bind_eq_some_iff.1 reached
  rw [Nesting.read_append] at reached
  obtain ⟨⟨literal, depth⟩, inside, closing⟩ := Option.bind_eq_some_iff.1 reached
  have deeper := Nesting.depth_le_of_read open_ inside
  rw [Nesting.read_cons] at closing
  obtain ⟨closed, closing, last⟩ := Option.bind_eq_some_iff.1 closing
  obtain rfl := Option.some.inj last
  obtain ⟨_ | quote, outer⟩ := place
  · cases opening
    cases literal with
    | none =>
      cases depth with
      | zero => cases closing
      | succ depth =>
        cases closing
        exact Nat.le_of_succ_le_succ deeper
    | some quote =>
      rw [Nesting.next_inside (by cases quote <;> decide)] at closing
      cases closing
      cases same
  · rw [Nesting.next_inside (by cases quote <;> decide)] at opening
    cases opening
    cases literal with
    | none =>
      cases depth with
      | zero => cases closing
      | succ depth =>
        cases closing
        cases same
    | some inner =>
      rw [Nesting.next_inside (by cases inner <;> decide)] at closing
      cases closing
      exact deeper

/-- A call that keeps literals leaves no fewer parentheses open than were open before. -/
theorem surplus_call_nonneg (balanced : IsBalanced text)
    (inside : change ∈ changes replaceCall none [] text)
    (keeps : change.KeepsLiteral) : 0 ≤ change.surplus := by
  obtain ⟨place, behind, placed, passed⟩ :=
    exists_read_of_mem_changes replaceCall_consumes balanced inside
  obtain ⟨before, rest, applied, -⟩ := mem_changes replaceCall_consumes inside
  obtain ⟨name, arguments, parts, plain, open_, -⟩ := replaceCall_spec applied
  have deeper := depth_le_of_call plain open_ (List.append_cancel_right parts ▸ passed)
    (keeps.literal_eq placed passed)
  rw [Change.surplus_eq placed passed]
  omega

/-- **Calls leave a balanced text balanced** and its literals as they are exactly when each of them
is whole: what one call leaves open no other makes up for. -/
theorem isBalanced_replaceCalls_iff (balanced : IsBalanced text) :
    (IsBalanced (replaceAll replaceCall none text) ∧
        ∀ change ∈ changes replaceCall none [] text, change.KeepsLiteral) ↔
      ∀ change ∈ changes replaceCall none [] text, change.IsWhole := by
  constructor
  · rintro ⟨replaced, keeps⟩ change inside
    have silent (change : Change) (inside : change ∈ changes replaceCall none [] text) :
        change.KeepsLiteral ∧ change.IsSilent :=
      ⟨keeps change inside, Change.isSilent_of_unmarked (unmarked_of_call inside)⟩
    have none_left : change.surplus = 0 := List.all_zero_of_le_zero_le_of_sum_eq_zero
      (List.forall_mem_map.2 fun change inside =>
        surplus_call_nonneg balanced inside (keeps change inside))
      (sum_surplus_eq_zero replaceCall_consumes balanced silent replaced)
        (List.mem_map_of_mem inside)
    obtain ⟨place, behind, placed, passed⟩ :=
      exists_read_of_mem_changes replaceCall_consumes balanced inside
    exact (keeps change inside).isWhole placed passed none_left
  · intro whole
    have neutral := read_replaceAll replaceCall_consumes fun change inside =>
      (whole change inside).isNeutral (unmarked_of_call inside)
    exact ⟨neutral.trans balanced, fun change inside => (whole change inside).keepsLiteral⟩

end Calls

/-! ### The whole simplification -/

section Stages

variable (query : List Char)

/-- A query without comments and unnamed placeholders. -/
def numberedQuery : List Char := numberPlaceholders (stripCommentChars query)

/-- Behind that, a `SHOW` is shortened. -/
def shownQuery : List Char := shortenShow (numberedQuery query)

/-- Behind that, intervals are casts. -/
def castQuery : List Char := replaceAll castInterval none (shownQuery query)

/-- Behind that, limits have an offset. -/
def limitedQuery : List Char := replaceAll splitLimit none (castQuery query)

/-- Behind that, locks are gone. -/
def unlockedQuery : List Char := replaceAll dropLock none (limitedQuery query)

/-- Behind that, an assignment has the standard form, and only the calls are left. -/
def assignedQuery : List Char := standardizeSet (unlockedQuery query)

/-- The calls that are replaced in a query. -/
def calls : List Change := changes replaceCall none [] (assignedQuery query)

theorem simplifyChars_eq : simplifyChars query =
    replaceAll replaceCall none (assignedQuery query) := rfl

/-- The rules in front of the one for calls change no parentheses and no literals: what is
shown and the variable that is set are balanced, intervals are balanced and have no
quotes, and locks are whole. -/
structure OthersKeepBalance : Prop where
  shown : ∀ kept ∈ shown? (numberedQuery query), IsBalanced kept.subject
  intervals : ∀ change ∈ changes castInterval none [] (shownQuery query),
    IsBalanced change.source ∧ '\'' ∉ change.source ∧ '"' ∉ change.source
  locks : ∀ change ∈ changes dropLock none [] (limitedQuery query), change.IsWhole
  assigned : ∀ kept ∈ assigned? (unlockedQuery query), IsBalanced kept.subject

variable {query}

theorem isBalanced_enclosed_iff {lead tail : List Char} (before : IsUnmarked lead)
    (behind : IsUnmarked tail) : IsBalanced (lead ++ text ++ tail) ↔ IsBalanced text := by
  rw [List.append_assoc, isBalanced_append_iff before]
  unfold IsBalanced
  rw [Nesting.read_append]
  cases Nesting.start.read text with
  | none => rfl
  | some place => rw [Option.bind_some, Nesting.read_of_unmarked behind]

theorem isBalanced_shortenShow (balanced : IsBalanced text)
    (shown : ∀ kept ∈ shown? text, IsBalanced kept.subject) :
    IsBalanced (shortenShow text) := by
  rw [shortenShow_eq]
  cases found : shown? text with
  | none => exact balanced
  | some kept =>
    obtain ⟨verb, rest⟩ := shown?_spec found
    have lead : IsUnmarked (kept.verb ++ [' ']) := isUnmarked_append.2 ⟨verb, by decide⟩
    have whole := (isBalanced_enclosed_iff lead rest).2 (shown kept found)
    rwa [List.append_assoc kept.verb] at whole

theorem isBalanced_standardizeSet (balanced : IsBalanced text)
    (assigned : ∀ kept ∈ assigned? text, IsBalanced kept.subject) :
    IsBalanced (standardizeSet text) := by
  rw [standardizeSet_eq]
  cases found : assigned? text with
  | none => exact balanced
  | some kept =>
    obtain ⟨verb, rest⟩ := assigned?_spec found
    have lead : IsUnmarked (kept.verb ++ [' ']) := isUnmarked_append.2 ⟨verb, by decide⟩
    have tail : IsUnmarked (" TO dummy".toList ++ kept.rest) :=
      isUnmarked_append.2 ⟨by decide, rest⟩
    have whole := (isBalanced_enclosed_iff lead tail).2 (assigned kept found)
    rwa [List.append_assoc kept.verb, ← List.append_assoc _ " TO dummy".toList] at whole

/-- Up to the calls a query stays balanced. -/
theorem isBalanced_assignedQuery (nested : IsWellNested query) (others : OthersKeepBalance query) :
    IsBalanced (assignedQuery query) := by
  have numbered : IsBalanced (numberedQuery query) :=
    (read_numberPlaceholders _ _).trans (isBalanced_strip_iff.2 nested)
  have shown : IsBalanced (shownQuery query) := isBalanced_shortenShow numbered others.shown
  have cast : IsBalanced (castQuery query) := by
    refine (read_replaceAll castInterval_consumes fun change inside => ?_).trans shown
    obtain ⟨whole, single, double⟩ := others.intervals change inside
    refine isNeutral_of_interval inside whole fun quote => ?_
    cases quote with
    | single => exact single
    | double => exact double
  have limited : IsBalanced (limitedQuery query) :=
    (read_replaceAll splitLimit_consumes fun _ inside => isNeutral_of_limit inside).trans cast
  have unlocked : IsBalanced (unlockedQuery query) :=
    (read_replaceAll dropLock_consumes fun change inside =>
      isNeutral_of_lock inside (others.locks change inside)).trans limited
  exact isBalanced_standardizeSet unlocked others.assigned

end Stages

/-- **A balanced query stays balanced, and its literals closed where they were**, exactly when every
call that is replaced is replaced as a whole. -/
theorem simplify_balanced_iff {query : String} (nested : IsWellNested query.toList)
    (others : OthersKeepBalance query.toList) :
    (IsBalanced (simplify query).toList ∧ ∀ call ∈ calls query.toList, call.KeepsLiteral) ↔
      ∀ call ∈ calls query.toList, call.IsWhole := by
  unfold simplify
  rw [String.toList_ofList, simplifyChars_eq]
  exact isBalanced_replaceCalls_iff (isBalanced_assignedQuery nested others)

/-- A query with an interval, a limit and a call without parentheses among its arguments. -/
def flatCall : String := "SELECT IFNULL(a, 0) FROM t WHERE d > now() - INTERVAL 1 DAY LIMIT 10, 20"

/-- The same call with another one as an argument. -/
def nestedCall : String := "SELECT IFNULL(a, f(b)) FROM t"

theorem othersKeepBalance_flatCall : OthersKeepBalance flatCall.toList where
  shown := by decide +kernel
  intervals := by decide +kernel
  locks := by decide +kernel
  assigned := by decide +kernel

/-- A call without parentheses among its arguments is replaced as a whole. -/
theorem simplify_balanced_iff_of_flat_call :
    IsWellNested flatCall.toList ∧ OthersKeepBalance flatCall.toList ∧
      IsBalanced (simplify flatCall).toList := by
  have nested : IsWellNested flatCall.toList := isBalanced_strip_iff.1 (by decide +kernel)
  have whole : ∀ call ∈ calls flatCall.toList, call.IsWhole := by decide +kernel
  exact ⟨nested, othersKeepBalance_flatCall,
    ((simplify_balanced_iff nested othersKeepBalance_flatCall).2 whole).1⟩

/-- **A call with another one among its arguments** is cut at the closing
parenthesis of that one. -/
theorem simplify_unbalances_nested_call :
    IsWellNested nestedCall.toList ∧ simplify nestedCall = "SELECT 1) FROM t" ∧
      ¬ IsBalanced (simplify nestedCall).toList :=
  ⟨isBalanced_strip_iff.1 (by decide +kernel), by decide +kernel, by decide +kernel⟩

end QueryDesk.Sql
