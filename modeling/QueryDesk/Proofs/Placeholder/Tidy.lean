/-
**Text that is cut at its parameters and nowhere else.**

* `isInert` — characters outside names that open no literal, comment, parameter or placeholder.
* `Template.Tidy` — templates of inert pieces of text around names that end where they should.
  `scan_source_of_tidy` cuts the source of such a template at its names again, and `ofQuery_of_tidy`
  says the same of a query, where only line breaks change.
* `Template.unifyLineBreaks_fill`, `Template.fill_append` — line breaks are made equal
  between the texts that are put into a template, and two templates behind one another
  are filled one after another.
* `Lays` — a text is the source of a tidy template with given names; texts are put together with
  `Lays.append`, and a query that is laid out so is cut at these names (`Lays.ofQuery`).
-/

import QueryDesk.Proofs.Clause.Names
import QueryDesk.Proofs.Comment.Reading
import QueryDesk.Proofs.Placeholder.Lines

namespace QueryDesk.Sql

open Text

/-! ### Inert characters -/

/-- Whether no literal and no comment begins with the character. -/
def isCalm (c : Char) : Bool := !(['\'', '"', '/', '#', '-'].contains c)

/-- Whether a calm character begins neither a parameter nor a placeholder. -/
def isInert (c : Char) : Bool := isCalm c && c != ':' && c != '$'

theorem isCalm_of_isInert {c : Char} (inert : isInert c = true) : isCalm c = true := by
  simp only [isInert, Bool.and_eq_true] at inert
  exact inert.1.1

theorem ne_colon_of_isInert {c : Char} (inert : isInert c = true) : c ≠ ':' := by
  simp only [isInert, Bool.and_eq_true, bne_iff_ne] at inert
  exact inert.1.2

theorem ne_dollar_of_isInert {c : Char} (inert : isInert c = true) : c ≠ '$' := by
  simp only [isInert, Bool.and_eq_true, bne_iff_ne] at inert
  exact inert.2

/-- The characters that are not inert. -/
theorem isInert_iff (c : Char) :
    isInert c = true ↔ c ∉ ['\'', '"', '/', '#', '-', ':', '$'] := by
  simp [isInert, isCalm, and_assoc]

/-- A class of characters is inert when none of the others is in it. -/
theorem isInert_of_test {test : Char → Bool} {c : Char} (passes : test c = true)
    (others : ['\'', '"', '/', '#', '-', ':', '$'].all (fun d => !test d) = true) :
    isInert c = true := by
  refine (isInert_iff c).2 fun member => ?_
  have fails := List.all_eq_true.1 others c member
  rw [passes] at fails
  cases fails

theorem isInert_of_isWord {c : Char} (word : isWord c = true) : isInert c = true :=
  isInert_of_test word (by decide)

theorem isInert_of_isBlank {c : Char} (blank : isBlank c = true) : isInert c = true :=
  isInert_of_test blank (by decide)

/-! ### Nothing is taken out -/

/-- Calm characters open neither literals nor comments. -/
theorem opensNothing_of_calm {c : Char} (calm : isCalm c = true) (rest : List Char) :
    OpensNothing c rest where
  no_literal quote := by rcases quote with rfl | rfl <;> exact absurd calm (by decide)
  no_block _ slash _ := by
    subst slash
    exact absurd calm (by decide)
  no_line := by
    refine Option.eq_none_iff_forall_ne_some.2 fun cut found => ?_
    rcases lineComment?_head found with rfl | rfl <;> exact absurd calm (by decide)

/-- **Text without quotes and comment signs keeps all its characters.** -/
theorem stripCommentChars_of_calm (text : List Char) (calm : ∀ c ∈ text, isCalm c = true) :
    stripCommentChars text = text := by
  induction text with
  | nil => exact stripCommentChars_nil
  | cons c rest ih =>
    obtain ⟨here, behind⟩ := List.forall_mem_cons.1 calm
    rw [stripCommentChars_cons (opensNothing_of_calm here rest), ih behind]

/-! ### Line breaks -/

theorem unifyLineBreaks_cons_of_ne {c : Char} (plain : c ≠ '\r') (rest : List Char) :
    unifyLineBreaks (c :: rest) = c :: unifyLineBreaks rest := by
  rw [unifyLineBreaks]
  exact fun _ same => absurd same plain

/-- Text without carriage returns keeps its characters, whatever stands behind it. -/
theorem unifyLineBreaks_append_of_plain (text rest : List Char) (plain : ∀ c ∈ text, c ≠ '\r') :
    unifyLineBreaks (text ++ rest) = text ++ unifyLineBreaks rest := by
  induction text with
  | nil => rfl
  | cons c text ih =>
    obtain ⟨here, behind⟩ := List.forall_mem_cons.1 plain
    rw [List.cons_append, unifyLineBreaks_cons_of_ne here, ih behind, List.cons_append]

/-- The line breaks of a text are its own when no line feed stands behind it. -/
theorem unifyLineBreaks_append (text rest : List Char) (unbroken : ∀ c ∈ rest.head?, c ≠ '\n') :
    unifyLineBreaks (text ++ rest) = unifyLineBreaks text ++ unifyLineBreaks rest := by
  fun_induction unifyLineBreaks text with
  | case1 text ih =>
    rw [List.cons_append, List.cons_append, unifyLineBreaks, ih, List.cons_append]
  | case2 c text other ih =>
    rw [List.cons_append, List.cons_append, ← ih, unifyLineBreaks]
    intro more return_ feed
    cases text with
    | nil =>
      rw [List.nil_append] at feed
      exact unbroken '\n' (by rw [feed]; rfl) rfl
    | cons d text =>
      obtain ⟨rfl, -⟩ := List.cons.inj feed
      exact other text return_ rfl
  | case3 => rfl

theorem mem_of_mem_unifyLineBreaks {text : List Char} : ∀ c ∈ unifyLineBreaks text, c ∈ text := by
  fun_induction unifyLineBreaks text with
  | case1 text ih =>
    refine List.forall_mem_cons.2 ⟨?_, fun c member => ?_⟩
    · exact List.mem_cons_of_mem _ List.mem_cons_self
    · exact List.mem_cons_of_mem _ (List.mem_cons_of_mem _ (ih c member))
  | case2 c text other ih =>
    exact List.forall_mem_cons.2 ⟨List.mem_cons_self, fun d member =>
      List.mem_cons_of_mem _ (ih d member)⟩
  | case3 => exact fun _ member => member

/-- A text that goes on with no word does so after its line breaks are unified. -/
theorem head_unifyLineBreaks {text : List Char} (ends : ∀ c ∈ text.head?, isWord c = false) :
    ∀ c ∈ (unifyLineBreaks text).head?, isWord c = false := by
  fun_cases unifyLineBreaks text with
  | case1 text =>
    rintro _ ⟨⟩
    decide
  | case2 c text other =>
    rintro _ ⟨⟩
    exact ends c rfl
  | case3 => exact ends

/-! ### Tidy templates -/

namespace Template

/-- A parameter's name that ends only where word characters end. -/
def isParameterName : List Char → Bool
  | [] => false
  | c :: rest => startsName c && (c :: rest).all isWord

theorem isWord_of_mem_parameterName {name : List Char} (good : isParameterName name) :
    ∀ c ∈ name, isWord c = true := by
  cases name with
  | nil => cases good
  | cons c rest => exact List.all_eq_true.1 ((Bool.and_eq_true _ _).mp good).2

/-- A name is found in front of a text that goes on with no word. -/
theorem name?_append_of_ends {name rest : List Char} (good : isParameterName name)
    (ends : ∀ c ∈ rest.head?, isWord c = false) : name? (name ++ rest) = some (name, rest) := by
  have words := isWord_of_mem_parameterName good
  cases name with
  | nil => cases good
  | cons c tail =>
    obtain ⟨here, behind⟩ := List.forall_mem_cons.1 words
    have starts : startsName c = true := ((Bool.and_eq_true _ _).mp good).1
    have no_dollar : (c == '$') = false := beq_eq_false_iff_ne.2 (ne_of_test here (by decide))
    rw [List.cons_append, name?, takeWhile_append_of_stop behind ends,
      dropWhile_append_of_stop behind ends, starts, no_dollar]
    rfl

/-- Inert pieces of text around names of parameters, none of which goes on with
the name before it. -/
structure Tidy (template : Template) : Prop where
  lead : ∀ c ∈ template.lead, isInert c = true
  names : ∀ slot ∈ template.slots, isParameterName slot.1 = true
  texts : ∀ slot ∈ template.slots, ∀ c ∈ slot.2, isInert c = true
  ends : ∀ slot ∈ template.slots, ∀ c ∈ slot.2.head?, isWord c = false

theorem source_ofText (lead : List Char) : (⟨lead, []⟩ : Template).source = lead :=
  List.append_nil lead

theorem fill_slot (lead name after : List Char) (more : List (List Char × List Char))
    (text : List Char) (texts : List (List Char)) :
    (⟨lead, (name, after) :: more⟩ : Template).fill (text :: texts) =
      lead ++ (text ++ (⟨after, more⟩ : Template).fill texts) := by
  simp [fill]

/-- The text of a template up to the first name, the name, and the text behind it. -/
theorem source_slot (lead name after : List Char) (more : List (List Char × List Char)) :
    (⟨lead, (name, after) :: more⟩ : Template).source =
      lead ++ ':' :: (name ++ (⟨after, more⟩ : Template).source) :=
  fill_slot lead name after more (':' :: name) _

namespace Tidy

variable {lead name after : List Char} {more : List (List Char × List Char)}

theorem ofText (inert : ∀ c ∈ lead, isInert c = true) : (⟨lead, []⟩ : Template).Tidy :=
  ⟨inert, by simp, by simp, by simp⟩

theorem slot (inert : ∀ c ∈ lead, isInert c = true) (good : isParameterName name = true)
    (ends : ∀ c ∈ after.head?, isWord c = false) (tidy : (⟨after, more⟩ : Template).Tidy) :
    (⟨lead, (name, after) :: more⟩ : Template).Tidy :=
  ⟨inert, List.forall_mem_cons.2 ⟨good, tidy.names⟩,
    List.forall_mem_cons.2 ⟨tidy.lead, tidy.texts⟩, List.forall_mem_cons.2 ⟨ends, tidy.ends⟩⟩

theorem of_slot (tidy : (⟨lead, (name, after) :: more⟩ : Template).Tidy) :
    isParameterName name = true ∧ (∀ c ∈ after.head?, isWord c = false) ∧
      (⟨after, more⟩ : Template).Tidy := by
  obtain ⟨-, names, texts, ends⟩ := tidy
  obtain ⟨good, names⟩ := List.forall_mem_cons.1 names
  obtain ⟨inert, texts⟩ := List.forall_mem_cons.1 texts
  obtain ⟨stops, ends⟩ := List.forall_mem_cons.1 ends
  exact ⟨good, stops, inert, names, texts, ends⟩

end Tidy

/-- The first character of a source is that of the first piece of text, or a colon. -/
theorem head_source {lead : List Char} (ends : ∀ c ∈ lead.head?, isWord c = false)
    (slots : List (List Char × List Char)) :
    ∀ c ∈ (⟨lead, slots⟩ : Template).source.head?, isWord c = false := by
  cases lead with
  | cons d lead => exact ends
  | nil =>
    cases slots with
    | nil => exact fun _ member => by cases member
    | cons slot more =>
      rw [source_slot]
      rintro _ ⟨⟩
      decide

/-- Inert characters are passed over. -/
theorem scan_append_of_inert (text rest : List Char) (inert : ∀ c ∈ text, isInert c = true) :
    scan false (text ++ rest) = ⟨text ++ (scan false rest).lead, (scan false rest).slots⟩ := by
  induction text with
  | nil => rfl
  | cons c text ih =>
    obtain ⟨here, behind⟩ := List.forall_mem_cons.1 inert
    rw [List.cons_append, scan_cons_of_ne (ne_colon_of_isInert here), ih behind]
    rfl

/-- **A tidy template is cut from its source.** -/
theorem scan_source_of_tidy (slots : List (List Char × List Char)) : ∀ lead : List Char,
    (⟨lead, slots⟩ : Template).Tidy →
      scan false (⟨lead, slots⟩ : Template).source = ⟨lead, slots⟩ := by
  induction slots with
  | nil =>
    intro lead tidy
    rw [source_ofText, ← List.append_nil lead, scan_append_of_inert lead [] tidy.lead, scan]
    rfl
  | cons slot more ih =>
    intro lead tidy
    obtain ⟨name, after⟩ := slot
    obtain ⟨good, ends, behind⟩ := tidy.of_slot
    -- the name is taken whole, since no text behind it goes on with it
    have named := name?_append_of_ends good (head_source ends more)
    rw [source_slot, scan_append_of_inert lead _ tidy.lead,
      @scan_colon_of_some false _ _ _ named, ih after behind]
    show (⟨lead ++ [], (name, after) :: more⟩ : Template) = _
    rw [List.append_nil]

/-- By induction on the slots: a tidy template consists of calm characters. -/
theorem isCalm_source (slots : List (List Char × List Char)) : ∀ lead : List Char,
    (⟨lead, slots⟩ : Template).Tidy → ∀ c ∈ (⟨lead, slots⟩ : Template).source, isCalm c = true := by
  induction slots with
  | nil =>
    intro lead tidy
    rw [source_ofText]
    exact fun c member => isCalm_of_isInert (tidy.lead c member)
  | cons slot more ih =>
    intro lead tidy
    obtain ⟨name, after⟩ := slot
    obtain ⟨good, -, behind⟩ := tidy.of_slot
    have words : ∀ c ∈ name, isCalm c = true := fun c member =>
      isCalm_of_isInert (isInert_of_isWord (isWord_of_mem_parameterName good c member))
    rw [source_slot]
    exact List.forall_mem_append.2 ⟨fun c member => isCalm_of_isInert (tidy.lead c member),
      List.forall_mem_cons.2 ⟨by decide, List.forall_mem_append.2 ⟨words, ih after behind⟩⟩⟩

/-- A template with the line breaks of its texts made equal. -/
def unified (template : Template) : Template :=
  ⟨unifyLineBreaks template.lead, template.slots.map fun slot => (slot.1, unifyLineBreaks slot.2)⟩

theorem names_unified (template : Template) : template.unified.names = template.names := by
  unfold names unified
  rw [List.map_map]
  rfl

/-- A tidy template stays tidy when its line breaks are unified. -/
theorem Tidy.unified {template : Template} (tidy : template.Tidy) : template.unified.Tidy := by
  constructor
  case lead => exact fun c member => tidy.lead c (mem_of_mem_unifyLineBreaks c member)
  case names =>
    intro slot member
    obtain ⟨old, inside, rfl⟩ := List.mem_map.1 member
    exact tidy.names old inside
  case texts =>
    intro slot member
    obtain ⟨old, inside, rfl⟩ := List.mem_map.1 member
    exact fun c here => tidy.texts old inside c (mem_of_mem_unifyLineBreaks c here)
  case ends =>
    intro slot member
    obtain ⟨old, inside, rfl⟩ := List.mem_map.1 member
    exact head_unifyLineBreaks (tidy.ends old inside)

/-- Making line breaks equal does not reach over texts that are put into a template, when these
begin with something else than a line feed and have no carriage return. -/
theorem unifyLineBreaks_fill (slots : List (List Char × List Char)) :
    ∀ (lead : List Char) {texts : List (List Char)}, texts.length = slots.length →
      (∀ text ∈ texts, text ≠ [] ∧ ∀ c ∈ text, c ≠ '\r' ∧ c ≠ '\n') →
        unifyLineBreaks ((⟨lead, slots⟩ : Template).fill texts) =
          (⟨lead, slots⟩ : Template).unified.fill texts := by
  induction slots with
  | nil =>
    intro lead texts count _
    obtain rfl := List.length_eq_zero_iff.1 count
    show unifyLineBreaks (lead ++ []) = unifyLineBreaks lead ++ []
    rw [List.append_nil, List.append_nil]
  | cons slot more ih =>
    intro lead texts count plain
    obtain ⟨name, after⟩ := slot
    obtain ⟨text, texts, rfl⟩ := List.exists_cons_of_length_eq_add_one count
    obtain ⟨⟨some_char, here⟩, others⟩ := List.forall_mem_cons.1 plain
    have unbroken : ∀ c ∈ (text ++ (⟨after, more⟩ : Template).fill texts).head?, c ≠ '\n' := by
      obtain ⟨d, rest, rfl⟩ := List.exists_cons_of_ne_nil some_char
      rintro _ ⟨⟩
      exact (here d List.mem_cons_self).2
    rw [fill_slot, unifyLineBreaks_append lead _ unbroken,
      unifyLineBreaks_append_of_plain text _ fun c member => (here c member).1,
      ih after (Nat.succ.inj count) others]
    exact (fill_slot _ _ _ _ _ _).symm

/-- The line breaks of a tidy template can be unified piece by piece. -/
theorem unifyLineBreaks_source {template : Template} (tidy : template.Tidy) :
    unifyLineBreaks template.source = template.unified.source := by
  have plain : ∀ text ∈ template.slots.map fun slot => ':' :: slot.1,
      text ≠ [] ∧ ∀ c ∈ text, c ≠ '\r' ∧ c ≠ '\n' := by
    refine List.forall_mem_map.2 fun slot member => ⟨List.cons_ne_nil _ _, ?_⟩
    refine List.forall_mem_cons.2 ⟨by decide, fun c inside => ?_⟩
    have word := isWord_of_mem_parameterName (tidy.names slot member) c inside
    exact ⟨ne_of_test word (by decide), ne_of_test word (by decide)⟩
  refine (unifyLineBreaks_fill template.slots template.lead (List.length_map _) plain).trans ?_
  unfold source unified
  rw [List.map_map]
  rfl

/-- **The template of a query that is the source of a tidy one** has the same names between the same
texts, except for line breaks. -/
theorem ofQuery_of_tidy {template : Template} (tidy : template.Tidy) {query : String}
    (source : query.toList = template.source) : ofQuery query = template.unified := by
  unfold ofQuery
  rw [source, stripCommentChars_of_calm _ (isCalm_source template.slots template.lead tidy),
    unifyLineBreaks_source tidy]
  exact scan_source_of_tidy _ _ tidy.unified

/-! ### Tidy templates behind one another -/

theorem names_behind (rest : Template) (slots : List (List Char × List Char)) : ∀ lead : List Char,
    (behind rest lead slots).names = (⟨lead, slots⟩ : Template).names ++ rest.names := by
  induction slots with
  | nil => exact fun _ => rfl
  | cons slot more ih =>
    intro lead
    exact congrArg (String.ofList slot.1 :: ·) (ih slot.2)

theorem source_behind (rest : Template) (slots : List (List Char × List Char)) : ∀ lead : List Char,
    (behind rest lead slots).source = (⟨lead, slots⟩ : Template).source ++ rest.source := by
  induction slots with
  | nil =>
    intro lead
    rw [source_ofText]
    exact List.append_assoc _ _ _
  | cons slot more ih =>
    intro lead
    have next := ih slot.2
    rw [source_slot, List.append_assoc, List.cons_append, List.append_assoc, ← next]
    exact source_slot _ _ _ _

/-- Two templates that are put together are filled one after the other. -/
theorem fill_append (slots : List (List Char × List Char)) (rest : Template)
    (others : List (List Char)) : ∀ (lead : List Char) (texts : List (List Char)),
      texts.length = slots.length →
        ((⟨lead, slots⟩ : Template).append rest).fill (texts ++ others) =
          (⟨lead, slots⟩ : Template).fill texts ++ rest.fill others := by
  induction slots with
  | nil =>
    intro lead texts lengths
    obtain rfl := List.length_eq_zero_iff.1 lengths
    simp [append, behind, fill]
  | cons slot more ih =>
    intro lead texts lengths
    obtain ⟨name, after⟩ := slot
    obtain ⟨text, texts, rfl⟩ := List.exists_cons_of_length_eq_add_one lengths
    have next := ih after texts (Nat.succ.inj lengths)
    unfold append fill at next
    simp [append, behind, fill, next]

/-- By induction on the slots: a tidy template behind another is tidy with it. -/
theorem Tidy.behind {rest : Template} (tidyRest : rest.Tidy)
    (ends : ∀ c ∈ rest.lead.head?, isWord c = false) (slots : List (List Char × List Char)) :
    ∀ lead : List Char, (⟨lead, slots⟩ : Template).Tidy → (behind rest lead slots).Tidy := by
  induction slots with
  | nil =>
    intro lead tidy
    exact ⟨List.forall_mem_append.2 ⟨tidy.lead, tidyRest.lead⟩, tidyRest.names, tidyRest.texts,
      tidyRest.ends⟩
  | cons slot more ih =>
    intro lead tidy
    obtain ⟨name, after⟩ := slot
    obtain ⟨good, stops, tidyMore⟩ := tidy.of_slot
    refine .slot tidy.lead good ?_ (ih after tidyMore)
    cases after with
    | cons c after =>
      cases more <;> exact stops
    | nil =>
      cases more with
      | nil => exact ends
      | cons slot more => exact stops

end Template

/-! ### Texts that are laid out tidily -/

/-- A text that is the source of a tidy template with the given names. -/
def Lays (text : List Char) (names : List String) : Prop :=
  ∃ template : Template, template.Tidy ∧ template.source = text ∧ template.names = names

namespace Lays

theorem ofText {text : List Char} (inert : ∀ c ∈ text, isInert c = true) : Lays text [] :=
  ⟨⟨text, []⟩, .ofText inert, Template.source_ofText text, rfl⟩

theorem param {name : String} (good : Template.isParameterName name.toList = true) :
    Lays (':' :: name.toList) [name] := by
  refine ⟨⟨[], [(name.toList, [])]⟩, .slot (by simp) good (by simp) (.ofText (by simp)), ?_, ?_⟩
  · rw [Template.source_slot, Template.source_ofText, List.append_nil]
    rfl
  · show [String.ofList name.toList] = _
    rw [String.ofList_toList]

/-- **Texts behind one another**, where the second does not go on with a name. -/
theorem append {text rest : List Char} {names others : List String} (first : Lays text names)
    (second : Lays rest others) (ends : ∀ c ∈ rest.head?, isWord c = false) :
    Lays (text ++ rest) (names ++ others) := by
  obtain ⟨template, tidy, rfl, rfl⟩ := first
  obtain ⟨next, tidyNext, rfl, rfl⟩ := second
  have stops : ∀ c ∈ next.lead.head?, isWord c = false := by
    obtain ⟨lead, slots⟩ := next
    cases lead with
    | nil => exact fun _ member => by cases member
    | cons c lead => exact ends
  exact ⟨template.append next, tidyNext.behind stops template.slots template.lead tidy,
    Template.source_behind next template.slots template.lead,
    Template.names_behind next template.slots template.lead⟩

/-- Inert text in front, whatever stands behind it. -/
theorem prepend {text rest : List Char} {names : List String} (inert : ∀ c ∈ text, isInert c = true)
    (lays : Lays rest names) : Lays (text ++ rest) names := by
  obtain ⟨template, tidy, rfl, rfl⟩ := lays
  exact ⟨⟨text ++ template.lead, template.slots⟩,
    ⟨List.forall_mem_append.2 ⟨inert, tidy.lead⟩, tidy.names, tidy.texts, tidy.ends⟩,
    List.append_assoc _ _ _, rfl⟩

/-- A text that is laid out tidily is cut at its names. -/
theorem scan {text : List Char} {names : List String} (lays : Lays text names) :
    (Template.scan false text).names = names := by
  obtain ⟨⟨lead, slots⟩, tidy, rfl, rfl⟩ := lays
  rw [Template.scan_source_of_tidy slots lead tidy]

/-- **A query that is laid out tidily is cut at its names.** -/
theorem ofQuery {query : String} {names : List String} (lays : Lays query.toList names) :
    (Template.ofQuery query).Tidy ∧ (Template.ofQuery query).names = names := by
  obtain ⟨template, tidy, source, rfl⟩ := lays
  rw [Template.ofQuery_of_tidy tidy source.symm]
  exact ⟨tidy.unified, template.names_unified⟩

end Lays

end QueryDesk.Sql
