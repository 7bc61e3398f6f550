/-
**Names between backticks.**

* `backtickNames`, `textsAround` — a text read back: what stands between pairs
  of backticks, and around them.
* `Outside` — a text that lays out parameters and has no backtick of its own; `Framed` — such texts
  around names between backticks, put together with `Framed.append`.
* `Framed.quoting` — so a framed text is cut at its names, and `parts_fill_cut` reads it back when
  texts stand in the places of its parameters.
-/

import Mathlib.Data.List.Forall2
import QueryDesk.Proofs.Placeholder.Quoting
import QueryDesk.Proofs.Placeholder.Tally
import QueryDesk.Proofs.Text.Parts

namespace QueryDesk.Sql

open Text

/-! ### Reading back -/

/-- The second of the parts, the fourth, and so on. -/
def oddParts : List (List Char) → List (List Char)
  | _ :: part :: rest => part :: oddParts rest
  | _ => []

/-- The first of the parts, the third, and so on. -/
def evenParts : List (List Char) → List (List Char)
  | [] => []
  | [part] => [part]
  | part :: _ :: rest => part :: evenParts rest

/-- What stands between the first two backticks, the next two, and so on. -/
def backtickNames (text : String) : List String :=
  (oddParts (splitOnChar '`' text.toList)).map String.ofList

/-- What stands before the first two backticks, behind them, behind the next two, and so on. -/
def textsAround (text : String) : List (List Char) := evenParts (splitOnChar '`' text.toList)

theorem flatten_oddParts_sublist : ∀ parts : List (List Char),
    (oddParts parts).flatten.Sublist parts.flatten
  | [] => .slnil
  | [_] => List.nil_sublist _
  | part :: next :: rest => by
    rw [oddParts, List.flatten_cons, List.flatten_cons, List.flatten_cons]
    exact ((flatten_oddParts_sublist rest).append_left next).trans
      (List.sublist_append_right part _)

theorem flatten_splitOnChar_sublist (separator : Char) (text : List Char) :
    (splitOnChar separator text).flatten.Sublist text := by
  induction text with
  | nil => exact .slnil
  | cons c rest ih =>
    by_cases same : c = separator
    · rw [splitOnChar, if_pos same]
      exact ih.cons c
    · rw [splitOnChar, if_neg same]
      cases parts : splitOnChar separator rest with
      | nil => exact (List.nil_sublist rest).cons_cons c
      | cons part more =>
        rw [parts] at ih
        exact ih.cons_cons c

/-- Names that are read back were in the text. -/
theorem countP_le_of_backtickNames {text : String} {names : List String}
    (read : backtickNames text = names) (test : Char → Bool) :
    (names.flatMap String.toList).countP test ≤ text.toList.countP test := by
  have spelled : names.flatMap String.toList =
    (oddParts (splitOnChar '`' text.toList)).flatten := by
    rw [← read, backtickNames, List.flatMap_map, ← List.flatMap_id]
    exact congrArg (List.flatMap · _) (funext fun _ => String.toList_ofList)
  rw [spelled]
  exact ((flatten_oddParts_sublist _).trans (flatten_splitOnChar_sublist _ _)).countP_le

/-! ### Text around names -/

/-- Whether a character may stand around names: it is no backtick, question mark
or carriage return. -/
def isClean (c : Char) : Bool := !(['`', '?', '\r'].contains c)

/-- Text that may stand around names and in which nothing begins. -/
def IsPlain (text : List Char) : Prop := ∀ c ∈ text, isInert c = true ∧ isClean c = true

instance (text : List Char) : Decidable (IsPlain text) :=
  List.decidableBAll (fun c => isInert c = true ∧ isClean c = true) text

theorem IsPlain.append {text rest : List Char} (first : IsPlain text) (second : IsPlain rest) :
    IsPlain (text ++ rest) :=
  List.forall_mem_append.2 ⟨first, second⟩

/-- Text around names: it lays out parameters, and its characters may stand there. -/
structure Outside (text : List Char) (names : List String) : Prop where
  lays : Lays text names
  clean : ∀ c ∈ text, isClean c = true

namespace Outside

variable {text rest : List Char} {names others : List String}

/-- Text without parameters. -/
theorem ofText (plain : IsPlain text) : Outside text [] :=
  ⟨.ofText fun c member => (plain c member).1, fun c member => (plain c member).2⟩

theorem prepend (plain : IsPlain text) (outside : Outside rest names) :
    Outside (text ++ rest) names :=
  ⟨outside.lays.prepend fun c member => (plain c member).1,
    List.forall_mem_append.2 ⟨fun c member => (plain c member).2, outside.clean⟩⟩

theorem append (first : Outside text names) (second : Outside rest others)
    (ends : ∀ c ∈ rest.head?, isWord c = false) : Outside (text ++ rest) (names ++ others) :=
  ⟨first.lays.append second.lays ends, List.forall_mem_append.2 ⟨first.clean, second.clean⟩⟩

/-- The template of the text, as a whole. -/
theorem scanned (outside : Outside text names) :
    (Template.scan false text).Tidy ∧ (Template.scan false text).names = names := by
  obtain ⟨template, tidy, rfl, rfl⟩ := outside.lays
  rw [Template.scan_source_of_tidy template.slots template.lead tidy]
  exact ⟨tidy, rfl⟩

theorem length_slots (outside : Outside text names) :
    (Template.scan false text).slots.length = names.length := by
  have count := congrArg List.length outside.scanned.2
  rwa [Template.names, List.length_map] at count

theorem not_mem_backtick (outside : Outside text names) : '`' ∉ text :=
  fun member => absurd (outside.clean '`' member) (by decide)

theorem countP_sign (outside : Outside text names) : text.countP isCommentSign = 0 := by
  obtain ⟨template, tidy, rfl, -⟩ := outside.lays
  refine List.countP_eq_zero.2 fun c member sign => ?_
  have calm := Template.isCalm_source template.slots template.lead tidy c member
  unfold isCalm at calm
  unfold isCommentSign at sign
  simp at calm sign
  rcases sign with rfl | rfl | rfl <;> simp at calm

theorem countP_colon (outside : Outside text names) : text.countP (· == ':') = names.length := by
  obtain ⟨⟨lead, slots⟩, tidy, rfl, rfl⟩ := outside.lays
  rw [Template.names, List.length_map]
  have inert : ∀ {text : List Char}, (∀ c ∈ text, isInert c = true) →
    text.countP (· == ':') = 0 := by
    intro text plain
    refine List.countP_eq_zero.2 fun c member same => ?_
    exact ne_colon_of_isInert (plain c member) (beq_iff_eq.1 same)
  clear outside
  induction slots generalizing lead with
  | nil =>
    rw [Template.source_ofText]
    exact inert tidy.lead
  | cons slot more ih =>
    obtain ⟨name, after⟩ := slot
    obtain ⟨good, -, behind⟩ := tidy.of_slot
    have words := inert fun c member =>
      isInert_of_isWord (Template.isWord_of_mem_parameterName good c member)
    rw [Template.source_slot, List.countP_append, List.countP_cons, List.countP_append,
      inert tidy.lead, words, ih after behind]
    simp

end Outside

/-! ### Names in their places -/

/-- A name between backticks. -/
def backticked (name : List Char) : List Char := '`' :: (name ++ ['`'])

theorem isQuoted_backticked (name : List Char) : IsQuoted (backticked name) :=
  ⟨'`', name, by decide, rfl⟩

/-- Text around names between backticks: the parameters before the first name, and each name with
the parameters behind it. -/
inductive Framed : List Char → List String → List (String × List String) → Prop
  | outside {text : List Char} {names : List String} (here : Outside text names) :
      Framed text names []
  | name {text rest : List Char} {names inner : List String} {name : String}
      {slots : List (String × List String)} (here : Outside text names)
      (behind : Framed rest inner slots) :
      Framed (text ++ (backticked name.toList ++ rest)) names ((name, inner) :: slots)

/-- Literals that are names between backticks, and the parameters in the texts behind them. -/
abbrev Frames : List (List Char × List Char) → List (String × List String) → Prop :=
  List.Forall₂ fun entry slot => entry.1 = backticked slot.1.toList ∧ Outside entry.2 slot.2

namespace Framed

variable {text rest : List Char} {names inner : List String}
    {slots more : List (String × List String)}

theorem prepend (plain : IsPlain text)
    (framed : Framed rest names slots) : Framed (text ++ rest) names slots := by
  cases framed with
  | outside here => exact .outside (here.prepend plain)
  | name here behind =>
    rw [← List.append_assoc]
    exact .name (here.prepend plain) behind

/-- **Framed texts behind one another**, where the second begins with no parameter and no word. -/
theorem append (first : Framed text names slots) (second : Framed rest [] more)
    (ends : ∀ c ∈ rest.head?, isWord c = false) : Framed (text ++ rest) names (slots ++ more) := by
  induction first with
  | @outside text names here =>
    cases second with
    | outside there =>
      have joined := here.append there ends
      rw [List.append_nil] at joined
      exact .outside joined
    | @name start rest _ inner name slots there behind =>
      have joined := here.append there fun c member => by
        cases start with
        | nil => cases member
        | cons d start => exact ends c member
      rw [List.append_nil] at joined
      rw [← List.append_assoc]
      exact .name joined behind
  | name here behind ih =>
    rw [List.append_assoc, List.append_assoc]
    exact .name here ih

/-- Characters that stand in names, and in parameters as often as in a colon. -/
theorem countP_eq {test : Char → Bool} (apart : test '`' = false)
    (each : ∀ {text : List Char} {names : List String}, Outside text names →
      text.countP test = names.length * [':'].countP test) (framed : Framed text names slots) :
    text.countP test = (slots.flatMap fun slot => slot.1.toList).countP test +
      (names ++ slots.flatMap Prod.snd).length * [':'].countP test := by
  induction framed with
  | outside here =>
    rw [each here, List.flatMap_nil, List.flatMap_nil, List.append_nil, List.countP_nil,
      Nat.zero_add]
  | @name text rest names inner name slots here behind ih =>
    have quotes : (backticked name.toList).countP test = name.toList.countP test := by
      simp [backticked, apart]
    rw [List.countP_append, List.countP_append, each here, ih, quotes, List.flatMap_cons,
      List.flatMap_cons, List.countP_append]
    simp only [List.length_append, Nat.add_mul]
    omega

/-- A framed text is cut at its names. -/
theorem quoting (framed : Framed text names slots) : ∃ lead literals,
    Quoting.text ⟨lead, literals⟩ = text ∧ Outside lead names ∧ Frames literals slots := by
  induction framed with
  | @outside text names here => exact ⟨text, [], List.append_nil text, here, .nil⟩
  | @name text rest names inner name slots here behind ih =>
    obtain ⟨lead, literals, rfl, outside, frames⟩ := ih
    refine ⟨text, (backticked name.toList, lead) :: literals, ?_, here, .cons ⟨rfl, outside⟩ frames⟩
    simp [Quoting.text]

end Framed

/-! ### Templates of framed texts -/

section Cut

variable {lead : List Char} {literals : List (List Char × List Char)} {names : List String}
  {slots : List (String × List String)}

theorem Frames.isSound (frames : Frames literals slots) : Quoting.IsSound literals := by
  induction frames with
  | nil => exact List.forall_mem_nil _
  | cons here _ ih => exact List.forall_mem_cons.2 ⟨here.1 ▸ isQuoted_backticked _, ih⟩

/-- A text that is filled with placeholders has no backticks. -/
theorem Outside.not_mem_fill (outside : Outside lead names) {texts : List (List Char)}
    (count : texts.length = names.length) (shown : ArePlaceholders texts) :
    '`' ∉ (Template.scan false lead).fill texts := by
  have apart : ∀ c : Char, isPlaceholderChar c = true → (c == '`') = false := fun c one =>
    beq_eq_false_iff_ne.2 (ne_of_test one (by decide))
  have total := (Template.scan false lead).countP_fill_add_le
    (count.trans outside.length_slots.symm) (countP_eq_zero_of_placeholders shown apart)
  have whole : (Template.scan false lead).source.countP (· == '`') = 0 := by
    rw [Template.source_scan]
    exact List.count_eq_zero.2 outside.not_mem_backtick
  refine List.count_eq_zero.1 ?_
  show ((Template.scan false lead).fill texts).countP (· == '`') = 0
  omega

/-- The names of the parameters around names that stay closed. -/
theorem Frames.names_cut (frames : Frames literals slots) :
    ∀ {lead : List Char} {names : List String},
    Outside lead names →
      (Quoting.cut Template.ofText ⟨lead, literals⟩).names = names ++ slots.flatMap Prod.snd := by
  induction frames with
  | nil =>
    intro lead names outside
    rw [List.flatMap_nil, List.append_nil]
    exact outside.scanned.2
  | cons here _ ih =>
    intro lead names outside
    have behind := ih here.2
    unfold Quoting.cut at behind ⊢
    rw [Quoting.cutFrom, Template.names_append, Template.names_append, outside.scanned.2, behind]
    rfl

/-- **A framed text is read back** when texts of placeholders stand in the places of its
parameters: the names are between the backticks, and around them are the texts they were framed by,
each filled with its own. -/
theorem Frames.parts_fill_cut (frames : Frames literals slots) :
    (∀ slot ∈ slots, '`' ∉ slot.1.toList) → ∀ {groups : List (List (List Char))},
      List.Forall₂ (fun group slot => group.length = slot.2.length) groups slots →
      (∀ group ∈ groups, ArePlaceholders group) →
      ∀ {lead : List Char} {names : List String} {first : List (List Char)}, Outside lead names →
        first.length = names.length → ArePlaceholders first →
          let parts := splitOnChar '`' ((Quoting.cut Template.ofText ⟨lead, literals⟩).fill
            (first ++ groups.flatten))
          oddParts parts = slots.map (fun slot => slot.1.toList) ∧
            evenParts parts = (Template.scan false lead).fill first ::
              List.zipWith (fun entry group => (Template.scan false entry.2).fill group)
                literals groups := by
  -- on the names: the text behind the first one is the lead of the rest, filled with its own group
  induction frames with
  | nil =>
    intro _ groups sizes _ lead names first outside count shown
    cases sizes
    have apart := outside.not_mem_fill count shown
    intro parts
    have single : parts = [(Template.scan false lead).fill first] := by
      show splitOnChar '`' ((Template.scan false lead).fill (first ++ [])) = _
      rw [List.append_nil, splitOnChar_of_not_mem apart]
    rw [single]
    exact ⟨rfl, rfl⟩
  | @cons entry slot literals slots here frames ih =>
    intro closed groups sizes filled lead names first outside count shown
    obtain ⟨closedHere, closedMore⟩ := List.forall_mem_cons.1 closed
    cases sizes with
    | @cons group _ groups _ size sizes =>
      obtain ⟨filledHere, filledMore⟩ := List.forall_mem_cons.1 filled
      obtain ⟨literal, behind⟩ := entry
      obtain ⟨rfl, outsideBehind⟩ := here
      obtain ⟨odd, even⟩ := ih closedMore sizes filledMore outsideBehind size filledHere
      have apart := outside.not_mem_fill count shown
      intro parts
      have split : parts = (Template.scan false lead).fill first :: slot.1.toList ::
          splitOnChar '`' ((Quoting.cut Template.ofText ⟨behind, literals⟩).fill
            (group ++ groups.flatten)) := by
        show splitOnChar '`' (((Template.scan false lead).append
          ((Template.ofText (backticked slot.1.toList)).append
            (Quoting.cutFrom Template.ofText behind literals))).fill
              (first ++ ([] ++ (group ++ groups.flatten)))) = _
        have opened := Template.fill_append (Template.scan false lead).slots
          ((Template.ofText (backticked slot.1.toList)).append
            (Quoting.cutFrom Template.ofText behind literals)) ([] ++ (group ++ groups.flatten))
          (Template.scan false lead).lead first (count.trans outside.length_slots.symm)
        have named := Template.fill_append [] (Quoting.cutFrom Template.ofText behind literals)
          (group ++ groups.flatten) (backticked slot.1.toList) [] rfl
        have closedText : (⟨backticked slot.1.toList, []⟩ : Template).fill [] ++
            (Quoting.cutFrom Template.ofText behind literals).fill (group ++ groups.flatten) =
              '`' :: (slot.1.toList ++ '`' :: (Quoting.cutFrom Template.ofText behind literals).fill
                (group ++ groups.flatten)) := by
          simp [Template.fill, backticked]
        rw [opened, Template.ofText, named, closedText, splitOnChar_append apart,
          splitOnChar_append closedHere]
        rfl
      rw [split, oddParts, evenParts, odd, even]
      exact ⟨rfl, rfl⟩

end Cut

end QueryDesk.Sql
