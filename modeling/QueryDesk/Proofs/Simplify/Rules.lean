/-
**What each rule of the simplification changes.**

* `shown?`, `assigned?` — what `SHOW` and `SET` keep of a statement.
* `castInterval_spec`, `splitLimit_spec`, `dropLock_spec`, `replaceCall_spec` — the
  stretch that a rule uses up, and what is written instead; each leaves the end of the
  text (`Replacement.Consumes`).
-/

import QueryDesk.Proofs.Simplify.Changes

namespace QueryDesk.Sql

open Text

/-! ### The stages -/

variable {before : Option Char} {text written rest : List Char} {place behind : Nesting}

/-- Numbers in place of question marks change no nesting. -/
theorem read_numberPlaceholders (place : Nesting) (text : List Char) :
    place.read (numberPlaceholders text) = place.read text := by
  induction text generalizing place with
  | nil => rfl
  | cons c text ih =>
    unfold numberPlaceholders at ih ⊢
    rw [List.flatMap_cons, Nesting.read_append, Nesting.read_cons]
    split
    · rename_i sign
      rw [Nesting.read_of_unmarked (by decide) place, Nesting.next_of_unmarked (sign ▸ rfl) place]
      exact ih place
    · rw [Nesting.read_cons]
      cases place.next c with
      | none => rfl
      | some behind => exact ih behind

/-- What is kept of a statement that is shortened or gets the standard form: its first word, what is
shown or the variable that is set, and the end of the text. -/
structure Kept where
  verb : List Char
  subject : List Char
  rest : List Char
deriving DecidableEq, Repr

/-- What is kept of a `SHOW`. -/
def shown? (text : List Char) : Option Kept := do
  let (verb, afterShow) ← word? "show".toList (skipBlanks text)
  let (subject, rest) ← solid? (← skipBlanks? afterShow)
  let after := rest.dropWhile (· != '\n')
  if atEnd after then some ⟨verb, subject, after⟩ else none

theorem shortenShow_eq (text : List Char) :
    shortenShow text =
      ((shown? text).map fun kept => kept.verb ++ ' ' :: kept.subject ++ kept.rest).getD text := by
  unfold shortenShow shown?
  simp only [Option.bind_eq_bind, Option.map_bind, Function.comp_def, apply_ite, Option.map_some,
    Option.map_none]

/-- What is kept of an assignment. -/
def assigned? (text : List Char) : Option Kept := do
  let (verb, afterSet) ← word? "set".toList (skipBlanks text)
  let global : Option (List Char × List Char) := do
    let (_, rest) ← word? "global".toList (← skipBlanks? afterSet)
    assignment? rest
  let (target, rest) ← global.orElse fun _ => assignment? afterSet
  some ⟨verb, target, rest⟩

theorem standardizeSet_eq (text : List Char) :
    standardizeSet text = ((assigned? text).map fun kept =>
      kept.verb ++ ' ' :: kept.subject ++ " TO dummy".toList ++ kept.rest).getD text := by
  unfold standardizeSet assigned?
  simp only [Option.bind_eq_bind, Option.map_bind, Function.comp_def, Option.map_some]

theorem unmarked_of_atEnd {text : List Char} (ended : atEnd text = true) :
    IsUnmarked text := by
  unfold atEnd at ended
  split at ended
  · exact isUnmarked_nil
  · decide
  · cases ended

/-- What is kept besides the subject has no meaning for nesting. -/
theorem shown?_spec {kept : Kept} (found : shown? text = some kept) :
    IsUnmarked kept.verb ∧ IsUnmarked kept.rest := by
  simp only [shown?, Option.bind_eq_bind, Option.bind_eq_some_iff] at found
  obtain ⟨⟨verb, afterShow⟩, word, atSubject, -, ⟨subject, rest⟩, -, ended⟩ := found
  split_ifs at ended with at_end
  cases ended
  exact ⟨(word?_spec word).2 (by decide), unmarked_of_atEnd at_end⟩

theorem unmarked_of_assignment? {target : List Char}
    (found : assignment? text = some (target, rest)) :
    IsUnmarked rest := by
  simp only [assignment?, Option.bind_eq_bind, Option.bind_eq_some_iff] at found
  obtain ⟨_, -, _, -, _, -, _, -, _, -, _, -, ended⟩ := found
  split_ifs at ended with at_end
  cases ended
  exact unmarked_of_atEnd at_end

/-- What is kept besides the variable has no meaning for nesting. -/
theorem assigned?_spec {kept : Kept} (found : assigned? text = some kept) :
    IsUnmarked kept.verb ∧ IsUnmarked kept.rest := by
  simp only [assigned?, Option.bind_eq_bind, Option.bind_eq_some_iff] at found
  obtain ⟨⟨verb, afterSet⟩, word, ⟨target, rest⟩, assignment, same⟩ := found
  cases same
  refine ⟨(word?_spec word).2 (by decide), ?_⟩
  dsimp only at assignment
  cases long : (skipBlanks? afterSet).bind fun atGlobal =>
      (word? "global".toList atGlobal).bind fun cut => assignment? cut.2 with
  | none =>
    rw [long] at assignment
    exact unmarked_of_assignment? assignment
  | some found =>
    rw [long] at assignment
    cases assignment
    obtain ⟨_, -, long⟩ := Option.bind_eq_some_iff.1 long
    obtain ⟨_, -, found⟩ := Option.bind_eq_some_iff.1 long
    exact unmarked_of_assignment? found

/-! ### The rules -/

theorem isUnmarked_of_digits {digits : List Char} (all : ∀ c ∈ digits, isDecimalDigit c = true) :
    IsUnmarked digits :=
  fun c inside => not_isNestingMark_of_isDecimalDigit (all c inside)

/-- An interval with its unit, which is written into a literal. -/
theorem castInterval_spec (applied : castInterval before text = some (written, rest)) :
    ∃ lead unit count, text = lead ++ unit ++ rest ∧ IsUnmarked lead ∧
      IsUnmarked count ∧
      written = " cast('".toList ++ (count ++ ' ' :: unit) ++ "' as INTERVAL)".toList := by
  obtain ⟨blanks, parts, blank⟩ := skipBlanks_spec text
  simp only [castInterval, Option.bind_eq_bind, Option.bind_eq_some_iff, Option.some.injEq]
    at applied
  obtain ⟨⟨word, afterWord⟩, found, atCount, gap, ⟨count, afterCount⟩, counted, atUnit, space,
    ⟨unit, rest⟩, measured,
    same⟩ := applied
  obtain ⟨wordParts, letters⟩ := word?_spec found
  obtain ⟨gapText, gapParts, gapBlank⟩ := skipBlanks?_spec gap
  obtain ⟨countParts, digits⟩ := run?_spec counted
  obtain ⟨spaceText, spaceParts, spaceBlank⟩ := skipBlanks?_spec space
  obtain ⟨unitParts, -⟩ := run?_spec measured
  obtain ⟨rfl, rfl⟩ := Prod.mk.inj same
  have plainCount := isUnmarked_of_digits digits
  refine ⟨blanks ++ word ++ gapText ++ count ++ spaceText, unit, count, ?_, ?_, plainCount, by simp⟩
  · simp only at wordParts gapParts countParts spaceParts unitParts
    rw [parts, wordParts, gapParts, countParts, spaceParts, unitParts]
    simp only [List.append_assoc]
  · simp only [isUnmarked_append]
    exact ⟨⟨⟨⟨blank, letters (by decide)⟩, gapBlank⟩, plainCount⟩, spaceBlank⟩

/-- A limit is changed into another without quotes and parentheses, and has none. -/
theorem splitLimit_spec (applied : splitLimit before text = some (written, rest)) :
    ∃ source, text = source ++ rest ∧ IsUnmarked source ∧
      IsUnmarked written := by
  unfold splitLimit at applied
  split at applied
  · cases applied
  simp only [Option.bind_eq_bind, Option.bind_eq_some_iff, Option.some.injEq] at applied
  obtain ⟨⟨word, afterWord⟩, found, atSkipped, gap, ⟨skipped, afterSkipped⟩, first, afterComma,
    comma, ⟨count, rest⟩, second, same⟩ := applied
  obtain ⟨wordParts, letters⟩ := word?_spec found
  obtain ⟨gapText, gapParts, gapBlank⟩ := skipBlanks?_spec gap
  obtain ⟨skippedParts, skippedDigits⟩ := run?_spec first
  obtain ⟨leadText, leadParts, leadBlank⟩ := skipBlanks_spec afterSkipped
  have commaParts := skipChar?_spec comma
  obtain ⟨tailText, tailParts, tailBlank⟩ := skipBlanks_spec afterComma
  obtain ⟨countParts, countDigits⟩ := run?_spec second
  obtain ⟨rfl, rfl⟩ := Prod.mk.inj same
  have plainSkipped := isUnmarked_of_digits skippedDigits
  have plainCount := isUnmarked_of_digits countDigits
  refine ⟨word ++ gapText ++ skipped ++ leadText ++ [','] ++ tailText ++ count, ?_, ?_, ?_⟩
  · simp only at wordParts gapParts skippedParts leadParts tailParts countParts
    rw [wordParts, gapParts, skippedParts, leadParts, commaParts, tailParts, countParts]
    simp only [List.append_assoc, List.cons_append, List.nil_append]
  · simp only [isUnmarked_append]
    exact ⟨⟨⟨⟨⟨⟨letters (by decide), gapBlank⟩, plainSkipped⟩, leadBlank⟩, by decide⟩, tailBlank⟩,
      plainCount⟩
  · simp only [isUnmarked_append]
    exact ⟨⟨⟨by decide, plainCount⟩, by decide⟩, plainSkipped⟩

/-- A lock is changed into a blank. -/
theorem dropLock_spec (applied : dropLock before text = some (written, rest)) :
    (∃ source, text = source ++ rest) ∧ written = [' '] := by
  unfold dropLock at applied
  split at applied
  · cases applied
  simp only [Option.bind_eq_bind, Option.bind_eq_some_iff, Option.some.injEq] at applied
  obtain ⟨⟨lock, afterLock⟩, lockFound, atIn, lockGap, ⟨word, afterIn⟩, inFound, atKind, inGap,
    ⟨kind, afterKind⟩,
    kindFound, atMode, kindGap, ⟨mode, rest⟩, modeFound, same⟩ := applied
  obtain ⟨lockParts, -⟩ := word?_spec lockFound
  obtain ⟨lockText, lockGapParts, -⟩ := skipBlanks?_spec lockGap
  obtain ⟨wordParts, -⟩ := word?_spec inFound
  obtain ⟨inText, inGapParts, -⟩ := skipBlanks?_spec inGap
  obtain ⟨kindParts, -⟩ := run?_spec kindFound
  obtain ⟨kindText, kindGapParts, -⟩ := skipBlanks?_spec kindGap
  obtain ⟨modeParts, -⟩ := word?_spec modeFound
  obtain ⟨rfl, rfl⟩ := Prod.mk.inj same
  refine ⟨⟨lock ++ lockText ++ word ++ inText ++ kind ++ kindText ++ mode, ?_⟩, rfl⟩
  simp only at lockParts lockGapParts wordParts inGapParts kindParts kindGapParts modeParts
  rw [lockParts, lockGapParts, wordParts, inGapParts, kindParts, kindGapParts, modeParts]
  simp only [List.append_assoc]

/-- A call reaches from the name of a function to the first closing parenthesis, and
is changed into a number. -/
theorem replaceCall_spec (applied : replaceCall before text = some (written, rest)) :
    ∃ name arguments, text = (name ++ '(' :: (arguments ++ [')'])) ++ rest ∧
      IsUnmarked name ∧ (∀ c ∈ arguments, c ≠ ')') ∧ written = ['1'] := by
  unfold replaceCall at applied
  split at applied
  · obtain ⟨behind, called, same⟩ := Option.map_eq_some_iff.1 applied
    obtain ⟨rfl, rfl⟩ := Prod.mk.inj same
    obtain ⟨function, listed, call⟩ := List.exists_of_findSome?_eq_some called
    simp only [callOf?, Option.bind_eq_bind, Option.bind_eq_some_iff] at call
    obtain ⟨⟨name, afterName⟩, found, atArguments, opening, ⟨arguments, afterArguments⟩, run,
      closing⟩ := call
    obtain ⟨nameParts, letters⟩ := word?_spec found
    have openingParts := skipChar?_spec opening
    obtain ⟨argumentParts, inside⟩ := run?_spec run
    have closingParts := skipChar?_spec closing
    have plain : ∀ function ∈ foreignFunctions, IsUnmarked function.toList := by
      decide +kernel
    refine ⟨name, arguments, ?_, letters (plain function listed), fun c member => ?_, rfl⟩
    · simp only at nameParts openingParts argumentParts closingParts
      rw [nameParts, openingParts, argumentParts, closingParts]
      simp
    · simpa using inside c member
  · cases applied

theorem castInterval_consumes : Replacement.Consumes castInterval := by
  intro before text written rest applied
  obtain ⟨lead, unit, count, parts, -⟩ := castInterval_spec applied
  exact ⟨lead ++ unit, parts⟩

theorem splitLimit_consumes : Replacement.Consumes splitLimit := by
  intro before text written rest applied
  obtain ⟨source, parts, -⟩ := splitLimit_spec applied
  exact ⟨source, parts⟩

theorem dropLock_consumes : Replacement.Consumes dropLock :=
  fun _ _ _ _ applied => (dropLock_spec applied).1

theorem replaceCall_consumes : Replacement.Consumes replaceCall := by
  intro before text written rest applied
  obtain ⟨name, arguments, parts, -⟩ := replaceCall_spec applied
  exact ⟨_, parts⟩

end QueryDesk.Sql
