/-
**Characters counted before and after normalization.**

* `isCommentSign` — the characters that comments begin with. `stripCommentChars_eq_or_lt`: taking
  comments out leaves a text as it is or takes such a character away.
* `ShowsPlaceholders` — what stands in the place of a name, with the characters `isPlaceholderChar`.
  `Template.bind_eq_fill`: a bound query is its template with such texts in the places of its names.
* `Template.countP_fill_add_le` — so it has no more comment signs than the text of the template, and
  for each name one colon less.
-/

import QueryDesk.Proofs.Placeholder.Numbered

namespace QueryDesk.Sql

open Text

/-! ### Comments -/

/-- Whether a comment may begin with the character. -/
def isCommentSign (c : Char) : Bool := ['/', '#', '-'].contains c

/-- With a comment that is left out its sign is. -/
theorem countP_strip_lt {c : Char} {comment more : List Char} (sign : isCommentSign c = true) :
    (stripCommentChars more).countP isCommentSign <
      (c :: (comment ++ more)).countP isCommentSign := by
  have behind : (stripCommentChars more).countP isCommentSign ≤ more.countP isCommentSign :=
    (stripCommentChars_sublist more).countP_le
  rw [List.countP_cons_of_pos sign, List.countP_append]
  omega

/-- **A text without its comments is the text, or has fewer comment signs.** -/
theorem stripCommentChars_eq_or_lt (text : List Char) :
    stripCommentChars text = text ∨
      (stripCommentChars text).countP isCommentSign < text.countP isCommentSign := by
  have keep {before stripped more : List Char} : stripped = more ∨
      stripped.countP isCommentSign < more.countP isCommentSign →
        before ++ stripped = before ++ more ∨
        (before ++ stripped).countP isCommentSign < (before ++ more).countP isCommentSign := by
    rw [List.countP_append, List.countP_append]
    exact Or.imp (congrArg (before ++ ·)) (Nat.add_lt_add_left · _)
  induction text using reading_induction with
  | nil => exact .inl stripCommentChars_nil
  | literal c rest body more quote closed ih =>
    rw [stripCommentChars_literal quote closed, ← closeLiteral?_append closed]
    exact @keep (c :: body) _ _ ih
  | block inside body more closed ih =>
    rw [stripCommentChars_block closed, ← closeBlock?_append closed]
    exact .inr (@countP_strip_lt '/' ('*' :: body) more rfl)
  | line c rest comment more found ih =>
    obtain ⟨whole, some_there⟩ := lineComment?_append found
    obtain ⟨d, comment, rfl⟩ := List.exists_cons_of_ne_nil some_there
    obtain ⟨rfl, rfl⟩ := List.cons.inj whole
    rw [stripCommentChars_line found]
    refine .inr (countP_strip_lt ?_)
    rcases lineComment?_head found with rfl | rfl <;> rfl
  | single c rest single ih =>
    rw [stripCommentChars_cons single]
    exact @keep [c] _ _ ih

theorem countP_unifyLineBreaks {test : Char → Bool} (return_ : test '\r' = false)
    (text : List Char) :
    (unifyLineBreaks text).countP test = text.countP test := by
  fun_induction unifyLineBreaks text with
  | case1 text ih => simp [ih, List.countP_cons, return_]
  | case2 c text other ih => rw [List.countP_cons, List.countP_cons, ih]
  | case3 => rfl

/-! ### Placeholders -/

/-- The characters of placeholders, and of the text of an empty array. -/
def isPlaceholderChar (c : Char) : Bool :=
  c.isDigit || ['?', '$', ',', ' ', 'n', 'u', 'l'].contains c

theorem not_sign_of_isPlaceholderChar {c : Char} (one : isPlaceholderChar c = true) :
    isCommentSign c = false := by
  have signs : ['/', '#', '-'].all (fun d => !isPlaceholderChar d) = true := by decide
  refine Bool.eq_false_iff.2 fun sign => ?_
  have other := List.all_eq_true.1 signs c (List.contains_iff_mem.1 sign)
  rw [one] at other
  cases other

/-- A placeholder of one of the two styles. -/
def IsPlaceholder (text : String) : Prop := text = "?" ∨ ∃ place, text = placeholder place

/-- A list of placeholders in the place of a name, or the text of an empty array. -/
def ShowsPlaceholders (text : String) : Prop :=
  ∃ list, text = placeholderList list ∧ ∀ one ∈ list, IsPlaceholder one

theorem isPlaceholderChar_of_isPlaceholder {text : String} (one : IsPlaceholder text) :
    ∀ c ∈ text.toList, isPlaceholderChar c = true := by
  rcases one with rfl | ⟨place, rfl⟩
  · exact List.all_eq_true.1 (by decide)
  · rw [toList_placeholder]
    refine List.forall_mem_cons.2 ⟨rfl, fun c digit => ?_⟩
    have isDigit := Nat.isDigit_of_mem_toDigits (by decide) (Nat.le_refl 10) digit
    unfold isPlaceholderChar
    rw [isDigit, Bool.true_or]

namespace ShowsPlaceholders

theorem numbered (positions : List Nat) : ShowsPlaceholders (Block.numbered positions) :=
  ⟨positions.map placeholder, rfl, List.forall_mem_map.2 fun place _ => .inr ⟨place, rfl⟩⟩

theorem questions (count : Nat) : ShowsPlaceholders (placeholderList (List.replicate count "?")) :=
  ⟨List.replicate count "?", rfl, fun _ member => .inl (List.eq_of_mem_replicate member)⟩

theorem chars {text : String} (shows : ShowsPlaceholders text) :
    ∀ c ∈ text.toList, isPlaceholderChar c = true := by
  obtain ⟨list, rfl, placeholders⟩ := shows
  unfold placeholderList
  cases list with
  | nil => exact List.all_eq_true.1 (by decide)
  | cons text list =>
    rw [List.isEmpty_cons, if_neg Bool.false_ne_true]
    induction list generalizing text with
    | nil =>
      rw [String.intercalate_singleton]
      exact isPlaceholderChar_of_isPlaceholder (placeholders text (List.mem_singleton_self text))
    | cons next list ih =>
      obtain ⟨here, others⟩ := List.forall_mem_cons.1 placeholders
      rw [String.intercalate_cons_cons, String.toList_append, String.toList_append]
      exact List.forall_mem_append.2 ⟨List.forall_mem_append.2
        ⟨isPlaceholderChar_of_isPlaceholder here, List.all_eq_true.1 (by decide)⟩, ih next others⟩

end ShowsPlaceholders

/-- Texts in the places of names, all of characters of placeholders. -/
def ArePlaceholders (texts : List (List Char)) : Prop :=
  ∀ text ∈ texts, ∀ c ∈ text, isPlaceholderChar c = true

theorem scanNames_texts {State : Type} {visit : State → String → String × State}
    (shown : ∀ state name, ShowsPlaceholders (visit state name).1)
    (names : List String) : ∀ state : State,
      (scanNames visit state names).1.length = names.length ∧
        ∀ text ∈ (scanNames visit state names).1, ShowsPlaceholders text := by
  induction names with
  | nil => exact fun _ => ⟨rfl, fun _ member => absurd member List.not_mem_nil⟩
  | cons name rest ih =>
    intro state
    obtain ⟨lengths, others⟩ := ih (visit state name).2
    exact ⟨congrArg Nat.succ lengths, List.forall_mem_cons.2 ⟨shown state name, others⟩⟩

theorem shown_simple (given : Option Binds) (scan : SimpleScan) (name : String) :
    ShowsPlaceholders (scan.visit given name).1 := by
  unfold SimpleScan.visit
  cases given.bind (·.lookup name) with
  | some value => exact .questions _
  | none => exact .questions 1

theorem shown_positioned (given : Option Binds) (scan : PositionedScan) (name : String) :
    ShowsPlaceholders (scan.visit given name).1 := by
  unfold PositionedScan.visit
  cases scan.layout.lookup name with
  | some block => exact .numbered _
  | none => exact .numbered _

/-- **A bound query is its template with placeholders in the places of its names.** -/
theorem Template.bind_eq_fill {template : Template} {style : PlaceholderStyle}
    {given : Option Binds} {bound : BoundQuery} (found : template.bind style given = .ok bound) :
    ∃ texts : List String, texts.length = template.slots.length ∧
      (∀ text ∈ texts, ShowsPlaceholders text) ∧
      bound.query.toList = template.fill (texts.map String.toList) := by
  have answered : ∀ (texts missing : List String) (values : List Value),
      template.answer texts missing values = .ok bound →
        bound.query.toList = template.fill (texts.map String.toList) := by
    intro texts missing values answer
    cases missing with
    | nil =>
      obtain rfl := Except.ok.inj answer
      exact String.toList_ofList
    | cons name more => cases answer
  have named : template.names.length = template.slots.length := List.length_map _
  cases style with
  | simple =>
    obtain ⟨lengths, shown⟩ := scanNames_texts (shown_simple given) template.names .start
    exact ⟨_, lengths.trans named, shown, answered _ _ _ found⟩
  | positioned =>
    obtain ⟨lengths, shown⟩ := scanNames_texts (shown_positioned given) template.names .start
    exact ⟨_, lengths.trans named, shown, answered _ _ _ found⟩

/-! ### Filled templates -/

section Fill

variable {test : Char → Bool}

theorem countP_eq_zero_of_placeholders {texts : List (List Char)} (shown : ArePlaceholders texts)
    (apart : ∀ c : Char, isPlaceholderChar c = true → test c = false) :
    ∀ text ∈ texts, text.countP test = 0 := by
  intro text member
  refine List.countP_eq_zero.2 fun c inside => ?_
  rw [apart c (shown text member c inside)]
  exact Bool.false_ne_true

/-- **A filled template against its text**: the colons of its names are gone, and of characters that
the filling has none of there are no more than before. -/
theorem Template.countP_fill_add_le (template : Template) {texts : List (List Char)}
    (count : texts.length = template.slots.length)
    (none_there : ∀ text ∈ texts, text.countP test = 0) :
    (template.fill texts).countP test + template.slots.length * [':'].countP test ≤
      template.source.countP test := by
  obtain ⟨lead, slots⟩ := template
  induction slots generalizing lead texts with
  | nil => simp [Template.fill, Template.source]
  | cons slot more ih =>
    obtain ⟨name, after⟩ := slot
    obtain ⟨text, texts, rfl⟩ := List.exists_cons_of_length_eq_add_one count
    obtain ⟨here, others⟩ := List.forall_mem_cons.1 none_there
    have behind :
      ((⟨after, more⟩ : Template).fill texts).countP test + more.length * [':'].countP test ≤
        (⟨after, more⟩ : Template).source.countP test := ih others after (Nat.succ.inj count)
    have colon := @List.countP_append _ test [':'] (name ++ (⟨after, more⟩ : Template).source)
    rw [List.singleton_append] at colon
    rw [List.countP_append] at colon
    show _ + (more.length + 1) * _ ≤ _
    rw [Template.source_slot, Template.fill_slot, Nat.succ_mul]
    simp only [List.countP_append, here, colon]
    omega

end Fill

end QueryDesk.Sql
