/-
**What a replacement changes in a text, and how that nests it.**

* `word?_spec`, `run?_spec`, `skipBlanks?_spec`, `skipChar?_spec` — what
  scanning a text passes over.
* `Change`, `changes` — the places where a replacement applies: the text in front, the
  stretch that is used up, and what is written instead; `replaceAll_induction` — the
  induction along a text that is replaced.
* `Change.IsNeutral`, `read_replaceAll` — **changes that leave the nesting behind them as it was
  leave that of the whole text.**
* `Change.IsWhole` — a stretch behind which a text is nested as in front of it; `Change.surplus` —
  how many parentheses it leaves open.
* `depth_replaceAll_behind`, `sum_surplus_eq_zero` — what is open behind a text that is replaced,
  and that changes of a balanced text into a balanced one make up for each other.
-/

import Mathlib.Algebra.Order.Ring.Int
import Mathlib.Data.List.TakeWhile
import Mathlib.Tactic.SplitIfs
import QueryDesk.Proofs.Simplify.Nesting
import QueryDesk.Sql.Simplify

namespace QueryDesk.Sql

open Text

/-! ### Scanning -/

section Scanning

variable {word text found rest : List Char} {c : Char} {test : Char → Bool}

/-- The characters of a class without quotes and parentheses do not change the nesting. -/
theorem not_isNestingMark_of_test (apart : ['\'', '"', '(', ')'].any test = false)
    (passes : test c = true) :
    isNestingMark c = false := by
  rw [Bool.eq_false_iff]
  intro mark
  have member : c ∈ ['\'', '"', '(', ')'] := by simpa [isNestingMark, or_assoc] using mark
  rw [List.any_eq_false] at apart
  exact apart c member passes

theorem not_isNestingMark_of_isBlank (blank : isBlank c = true) : isNestingMark c = false :=
  not_isNestingMark_of_test (by decide) blank

theorem not_isNestingMark_of_isDecimalDigit (digit : isDecimalDigit c = true) :
    isNestingMark c = false :=
  not_isNestingMark_of_test (by decide) digit

theorem not_isNestingMark_of_sameLetter {letter : Char} (same : sameLetter letter c = true)
    (plain : isNestingMark letter = false) : isNestingMark c = false := by
  obtain ⟨single, double, opening, closing⟩ := not_isNestingMark_iff.1 plain
  have apart : ['\'', '"', '(', ')'].any (sameLetter letter) = false := by
    simp [sameLetter, single.symm, double.symm, opening.symm, closing.symm]
  exact not_isNestingMark_of_test apart same

/-- A word that is found is spelled by the same letters. -/
theorem word?_spec (seen : word? word text = some (found, rest)) :
    text = found ++ rest ∧ (IsUnmarked word → IsUnmarked found) := by
  induction word generalizing text found with
  | nil =>
    cases seen
    exact ⟨rfl, fun _ => isUnmarked_nil⟩
  | cons letter word ih =>
    cases text with
    | nil => cases seen
    | cons c text =>
      rw [word?] at seen
      split_ifs at seen with same
      obtain ⟨⟨others, rest⟩, later, cut⟩ := Option.map_eq_some_iff.1 seen
      cases cut
      obtain ⟨parts, plain⟩ := ih later
      refine ⟨congrArg (c :: ·) parts, fun letters => ?_⟩
      obtain ⟨here, behind⟩ := isUnmarked_cons.1 letters
      exact isUnmarked_cons.2 ⟨not_isNestingMark_of_sameLetter same here, plain behind⟩

/-- A run is a stretch of characters that pass the test. -/
theorem run?_spec (seen : run? test text = some (found, rest)) :
    text = found ++ rest ∧ ∀ c ∈ found, test c = true := by
  unfold run? at seen
  split at seen
  · cases seen
  · cases seen
    exact ⟨List.takeWhile_append_dropWhile.symm, fun c inside => List.mem_takeWhile_imp inside⟩

/-- Blanks have no meaning for nesting. -/
theorem skipBlanks_spec (text : List Char) :
    ∃ blanks, text = blanks ++ skipBlanks text ∧ IsUnmarked blanks :=
  ⟨text.takeWhile isBlank, List.takeWhile_append_dropWhile.symm, fun _ inside =>
    not_isNestingMark_of_isBlank (List.mem_takeWhile_imp inside)⟩

theorem skipBlanks?_spec (seen : skipBlanks? text = some rest) :
    ∃ blanks, text = blanks ++ rest ∧ IsUnmarked blanks := by
  obtain ⟨⟨blanks, rest⟩, cut, rfl⟩ := Option.map_eq_some_iff.1 seen
  obtain ⟨parts, blank⟩ := run?_spec cut
  exact ⟨blanks, parts, fun c inside => not_isNestingMark_of_isBlank (blank c inside)⟩

theorem skipChar?_spec (seen : skipChar? c text = some rest) : text = c :: rest := by
  cases text with
  | nil => cases seen
  | cons first others =>
    rw [skipChar?] at seen
    split_ifs at seen with same
    cases seen
    rw [same]

end Scanning

/-! ### Changes -/

/-- A place where a replacement applies: the text in front of it, the stretch that is used up, and
what is written instead. -/
structure Change where
  front : List Char
  source : List Char
  written : List Char
deriving DecidableEq, Repr

/-- The places of a text where a replacement applies, behind some text in front. -/
def changes (rule : Replacement) (before : Option Char) (front text : List Char) : List Change :=
  match text with
  | [] => []
  | c :: tail =>
    match rule before (c :: tail) with
    | some (written, rest) =>
      if rest.length < (c :: tail).length then
        let source := (c :: tail).take ((c :: tail).length - rest.length)
        ⟨front, source, written⟩ :: changes rule (lastUsed (c :: tail) rest) (front ++ source) rest
      else changes rule (some c) (front ++ [c]) tail
    | none => changes rule (some c) (front ++ [c]) tail
termination_by text.length
decreasing_by
  · assumption
  · exact Nat.lt_succ_self tail.length
  · exact Nat.lt_succ_self tail.length

/-- A replacement that leaves the end of the text that it is given. -/
def Replacement.Consumes (rule : Replacement) : Prop :=
  ∀ before text written rest, rule before text = some (written, rest) → ∃ source,
    text = source ++ rest

variable {rule : Replacement}

theorem take_sub_of_append {source rest : List Char} :
    (source ++ rest).take ((source ++ rest).length - rest.length) = source := by
  simp

/-- **Induction along a text that is replaced**: past a stretch that is used up,
or past a character. -/
theorem replaceAll_induction (consumes : rule.Consumes) {motive : Option Char → List Char → Prop}
    (nil : ∀ before, motive before [])
    (changed : ∀ before source written rest, rule before (source ++ rest) = some (written, rest) →
      replaceAll rule before (source ++ rest) =
        written ++ replaceAll rule (lastUsed (source ++ rest) rest) rest →
      (∀ front, changes rule before front (source ++ rest) =
        ⟨front, source, written⟩ ::
          changes rule (lastUsed (source ++ rest) rest) (front ++ source) rest) →
      motive (lastUsed (source ++ rest) rest) rest → motive before (source ++ rest))
    (kept : ∀ before c rest,
      replaceAll rule before (c :: rest) = c :: replaceAll rule (some c) rest →
      (∀ front, changes rule before front (c :: rest) = changes rule (some c) (front ++ [c]) rest) →
      motive (some c) rest → motive before (c :: rest))
    (before : Option Char) (text : List Char) : motive before text := by
  induction size : text.length using Nat.strongRecOn generalizing before text with
  | _ size ih =>
    cases text with
    | nil => exact nil before
    | cons c tail =>
      have later := ih tail.length (size ▸ Nat.lt_succ_self _) (some c) tail rfl
      have past (same : replaceAll rule before (c :: tail) = c :: replaceAll rule (some c) tail)
          (places : ∀ front, changes rule before front (c :: tail) =
            changes rule (some c) (front ++ [c]) tail) :
          motive before (c :: tail) := kept before c tail same places later
      cases applied : rule before (c :: tail) with
      | none =>
        refine past ?_ fun front => ?_
        · rw [replaceAll, applied]
        · rw [changes, applied]
      | some cut =>
        obtain ⟨written, rest⟩ := cut
        by_cases shorter : rest.length < (c :: tail).length
        · obtain ⟨source, parts⟩ := consumes _ _ _ _ applied
          have behind := ih rest.length (size ▸ shorter) (lastUsed (c :: tail) rest) rest rfl
          have step := changed before source written rest
          rw [← parts] at step
          refine step applied ?_ (fun front => ?_) behind
          · rw [replaceAll, applied]
            exact if_pos shorter
          · rw [changes, applied]
            dsimp only
            rw [if_pos shorter, parts, take_sub_of_append]
        · refine past ?_ fun front => ?_
          · rw [replaceAll, applied]
            exact if_neg shorter
          · rw [changes, applied]
            exact if_neg shorter

/-- What a change is made of: the rule applied there, and the text it stands in. -/
theorem mem_changes (consumes : rule.Consumes) {before : Option Char} {front text : List Char}
    {change : Change} (inside : change ∈ changes rule before front text) :
    ∃ earlier rest, rule earlier (change.source ++ rest) = some (change.written, rest) ∧
      front ++ text = change.front ++ change.source ++ rest := by
  induction before, text using replaceAll_induction consumes generalizing front with
  | nil before =>
    rw [changes] at inside
    cases inside
  | changed before source written rest applied replaced places ih =>
    rw [places] at inside
    rcases List.mem_cons.1 inside with rfl | later
    · exact ⟨before, rest, applied, (List.append_assoc _ _ _).symm⟩
    · rw [← List.append_assoc]
      exact ih later
  | kept before c rest replaced places ih =>
    rw [places] at inside
    rw [List.append_cons]
    exact ih inside

namespace Change

/-- A change behind which the text is nested as behind the stretch that was there. -/
def IsNeutral (change : Change) : Prop :=
  Nesting.start.read (change.front ++ change.source) =
    Nesting.start.read (change.front ++ change.written)

/-- A change of a stretch behind which the text is nested as in front of it. -/
def IsWhole (change : Change) : Prop :=
  Nesting.start.read (change.front ++ change.source) = Nesting.start.read change.front

/-- A change of a stretch behind which the text is in the same literal as in
front of it, or again in none. -/
def KeepsLiteral (change : Change) : Prop :=
  (Nesting.start.read (change.front ++ change.source)).map Nesting.literal =
    (Nesting.start.read change.front).map Nesting.literal

instance (change : Change) : Decidable change.IsWhole :=
  inferInstanceAs (Decidable (Nesting.start.read _ = Nesting.start.read _))

theorem IsWhole.keepsLiteral {change : Change} (whole : change.IsWhole) : change.KeepsLiteral :=
  congrArg (Option.map Nesting.literal) whole

/-- A whole stretch is changed into text without quotes and parentheses. -/
theorem IsWhole.isNeutral {change : Change} (whole : change.IsWhole)
    (plain : IsUnmarked change.written) : change.IsNeutral := by
  unfold IsNeutral
  rw [whole, Nesting.read_append]
  cases Nesting.start.read change.front with
  | none => rfl
  | some place => exact (Nesting.read_of_unmarked plain place).symm

/-- A change after which every place is nested as it was is neutral. -/
theorem isNeutral_of_forall {change : Change}
    (same : ∀ place : Nesting, place.read change.source = place.read change.written) :
    change.IsNeutral := by
  unfold IsNeutral
  rw [Nesting.read_append, Nesting.read_append]
  exact congrArg _ (funext same)

end Change

/-- Neutral changes leave the nesting behind a text as it was. -/
theorem read_replaceAll_behind (consumes : rule.Consumes) {before : Option Char}
    {front text : List Char}
    (neutral : ∀ change ∈ changes rule before front text, change.IsNeutral) :
    ((Nesting.start.read front).bind fun place => place.read (replaceAll rule before text)) =
      Nesting.start.read (front ++ text) := by
  induction before, text using replaceAll_induction consumes generalizing front with
  | nil before =>
    rw [replaceAll, List.append_nil]
    cases Nesting.start.read front <;> rfl
  | changed before source written rest applied replaced places ih =>
    rw [places] at neutral
    obtain ⟨here, others⟩ := List.forall_mem_cons.1 neutral
    have here : Nesting.start.read (front ++ source) = Nesting.start.read (front ++ written) := here
    rw [replaced, ← List.append_assoc, ← ih others, here, ← Nesting.read_append,
      ← Nesting.read_append, List.append_assoc]
  | kept before c rest replaced places ih =>
    rw [places] at neutral
    rw [replaced, List.append_cons, ← ih neutral, ← Nesting.read_append, ← Nesting.read_append,
      ← List.append_cons]

/-- **Neutral changes leave the nesting of a text as it was.** -/
theorem read_replaceAll (consumes : rule.Consumes) {text : List Char}
    (neutral : ∀ change ∈ changes rule none [] text, change.IsNeutral) :
    Nesting.start.read (replaceAll rule none text) = Nesting.start.read text :=
  read_replaceAll_behind consumes neutral

/-! ### What changes lose -/

/-- How many parentheses are open behind a text. -/
def openBehind (text : List Char) : Int :=
  ((Nesting.start.read text).map fun place => (place.depth : Int)).getD 0

namespace Change

/-- How many more parentheses are open behind a stretch than in front of it. -/
def surplus (change : Change) : Int :=
  openBehind (change.front ++ change.source) - openBehind change.front

/-- A change into text that does not change the nesting, in the literal where it
stands or outside of all. -/
def IsSilent (change : Change) : Prop :=
  ∀ place : Nesting, (Nesting.start.read change.front).map Nesting.literal = some place.literal →
    place.read change.written = some place

variable {change : Change} {place behind : Nesting}

theorem isSilent_of_unmarked (plain : IsUnmarked change.written) : change.IsSilent :=
  fun place _ => Nesting.read_of_unmarked plain place

/-- The place behind a change is the one that its stretch leads to. -/
theorem read_behind (placed : Nesting.start.read change.front = some place)
    (passed : place.read change.source = some behind) :
    Nesting.start.read (change.front ++ change.source) = some behind := by
  rw [Nesting.read_append, placed, Option.bind_some, passed]

/-- The surplus of a change is the difference of two depths. -/
theorem surplus_eq (placed : Nesting.start.read change.front = some place)
    (passed : place.read change.source = some behind) :
    change.surplus = behind.depth - place.depth := by
  unfold surplus openBehind
  rw [read_behind placed passed, placed]
  rfl

/-- A change that keeps literals is inside of one behind it exactly when it is in front. -/
theorem KeepsLiteral.literal_eq (keeps : change.KeepsLiteral)
    (placed : Nesting.start.read change.front = some place)
    (passed : place.read change.source = some behind) : behind.literal = place.literal := by
  unfold KeepsLiteral at keeps
  rw [read_behind placed passed, placed] at keeps
  exact Option.some.inj keeps

/-- A stretch that stays in its literal and leaves no more parentheses open than
were open before is whole. -/
theorem KeepsLiteral.isWhole (keeps : change.KeepsLiteral)
    (placed : Nesting.start.read change.front = some place)
    (passed : place.read change.source = some behind) (none_left : change.surplus = 0) :
    change.IsWhole := by
  have literal := keeps.literal_eq placed passed
  rw [surplus_eq placed passed] at none_left
  have back : behind = place := by
    obtain ⟨_, depth⟩ := behind
    obtain ⟨_, outer⟩ := place
    cases literal
    congr 1
    dsimp only at none_left
    omega
  unfold IsWhole
  rw [read_behind placed passed, placed, back]

end Change

/-- The nesting in front of a stretch and behind it. -/
theorem exists_read_of_mem_changes (consumes : rule.Consumes) {text : List Char}
    (balanced : IsBalanced text) {change : Change} (inside : change ∈ changes rule none [] text) :
    ∃ place behind, Nesting.start.read change.front = some place ∧
      place.read change.source = some behind := by
  obtain ⟨-, rest, -, parts⟩ := mem_changes consumes inside
  have balanced : Nesting.start.read text = some .start := balanced
  rw [← List.nil_append text, parts, Nesting.read_append, Nesting.read_append] at balanced
  obtain ⟨behind, passed, -⟩ := Option.bind_eq_some_iff.1 balanced
  obtain ⟨place, placed, passed⟩ := Option.bind_eq_some_iff.1 passed
  exact ⟨place, behind, placed, passed⟩

/-- **What is open behind a text that is replaced** is what was open, less what
the changes leave open. -/
theorem depth_replaceAll_behind (consumes : rule.Consumes) {before : Option Char}
    {front text : List Char}
    {place last other done : Nesting} (placed : Nesting.start.read front = some place)
    (ends : place.read text = some last)
    (keeps : ∀ change ∈ changes rule before front text, change.KeepsLiteral ∧ change.IsSilent)
    (same : other.literal = place.literal)
    (reached : other.read (replaceAll rule before text) = some done) :
    (done.depth : Int) + place.depth + ((changes rule before front text).map Change.surplus).sum =
      last.depth + other.depth := by
  induction before, text using replaceAll_induction consumes generalizing front place other with
  | nil before =>
    rw [replaceAll] at reached
    cases ends
    cases reached
    rw [changes, List.map_nil, List.sum_nil]
    omega
  | changed before source written rest applied replaced places ih =>
    rw [Nesting.read_append] at ends
    obtain ⟨behind, passed, ends⟩ := Option.bind_eq_some_iff.1 ends
    rw [places] at keeps ⊢
    obtain ⟨⟨kept, silent⟩, others⟩ := List.forall_mem_cons.1 keeps
    have literal : behind.literal = place.literal := kept.literal_eq placed passed
    have placed_behind : Nesting.start.read (front ++ source) = some behind := by
      rw [Nesting.read_append, placed, Option.bind_some, passed]
    have here : Change.surplus ⟨front, source, written⟩ = behind.depth - place.depth :=
      Change.surplus_eq placed passed
    have skipped : other.read written = some other := silent other (by rw [placed, same]; rfl)
    rw [replaced, Nesting.read_append, skipped, Option.bind_some] at reached
    have later := ih placed_behind ends others (same.trans literal.symm) reached
    rw [List.map_cons, List.sum_cons, here]
    omega
  | kept before c rest replaced places ih =>
    rw [replaced, Nesting.read_cons] at reached
    rw [Nesting.read_cons] at ends
    obtain ⟨after, one, ends⟩ := Option.bind_eq_some_iff.1 ends
    obtain ⟨otherAfter, two, reached⟩ := Option.bind_eq_some_iff.1 reached
    obtain ⟨literal, depth⟩ := Nesting.next_alike same one two
    have placed_after : Nesting.start.read (front ++ [c]) = some after := by
      rw [Nesting.read_append, placed, Option.bind_some, Nesting.read_cons, one, Option.bind_some]
      rfl
    rw [places] at keeps ⊢
    have later := ih placed_after ends keeps literal reached
    omega

/-- Changes of a balanced text into a balanced one leave nothing open, all taken together. -/
theorem sum_surplus_eq_zero (consumes : rule.Consumes) {text : List Char}
    (balanced : IsBalanced text)
    (keeps : ∀ change ∈ changes rule none [] text, change.KeepsLiteral ∧ change.IsSilent)
    (replaced : IsBalanced (replaceAll rule none text)) :
    ((changes rule none [] text).map Change.surplus).sum = 0 := by
  have whole := depth_replaceAll_behind consumes rfl balanced keeps rfl replaced
  omega

end QueryDesk.Sql
