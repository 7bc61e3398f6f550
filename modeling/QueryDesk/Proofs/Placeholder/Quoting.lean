/-
**Text cut at its quotes.**

* `Quoting` — a text cut at its quoted parts; `Quoting.ofQuery` cuts a query at its literals.
* `Quoting.cut` — the template of such a text, its quoted parts read by any rule.
  `Quoting.scan_text`: the template of a text reads them like the text around them, since no
  parameter reaches over a quote.
* `Quoting.names_cut_perm`, `Quoting.cut_of_unnamed` — so it has the names in quotes besides the
  others, and where there are none the quoted parts stay as they are.
-/

import QueryDesk.Proofs.Placeholder.Tidy

namespace QueryDesk.Sql

open Text

/-! ### Literals -/

/-- Text between two quotes of one kind; names in SQL stand between backticks. -/
def IsQuoted (text : List Char) : Prop :=
  ∃ quote inner, quote ∈ ['\'', '"', '`'] ∧ text = quote :: (inner ++ [quote])

theorem isStop_of_quote {quote : Char} (one : quote ∈ ['\'', '"', '`']) :
    quote ≠ '\r' ∧ quote ≠ '\n' ∧ Template.isStop quote = true := by
  simp only [List.mem_cons, List.not_mem_nil, or_false] at one
  rcases one with rfl | rfl | rfl <;> decide

theorem closeLiteral?_ends {quote : Char} {text body more : List Char}
    (closed : closeLiteral? quote text = some (body, more)) : ∃ inner, body = inner ++ [quote] := by
  fun_induction closeLiteral? quote text generalizing body more
  case case1 | case3 => simp_all
  case case2 | case5 | case6 => exact ⟨[], by simp_all⟩
  case case4 rest inner after found ih =>
    obtain ⟨text, rfl⟩ := ih found
    simp only [Option.some.injEq, Prod.mk.injEq] at closed
    obtain ⟨rfl, -⟩ := closed
    exact ⟨quote :: quote :: text, rfl⟩
  case case7 c d rest other ih =>
    obtain ⟨⟨inner, after⟩, found, same⟩ := Option.map_eq_some_iff.1 closed
    cases same
    obtain ⟨text, rfl⟩ := ih found
    exact ⟨c :: text, rfl⟩

theorem nextSegment_literal {c : Char} {rest text : List Char}
    (literal : (nextSegment c rest).1 = .literal text) : IsQuoted text := by
  unfold nextSegment at literal
  split at literal
  · rename_i quote
    split at literal
    · rename_i body more closed
      obtain ⟨inner, rfl⟩ := closeLiteral?_ends closed
      obtain rfl := Segment.literal.inj literal
      exact ⟨c, inner, by rcases quote with rfl | rfl <;> decide, rfl⟩
    · cases literal
  · -- no other piece of text is a literal
    split at literal
    · split at literal <;> cases literal
    · split at literal
      · split at literal <;> cases literal
      · split at literal <;> cases literal

/-- Every literal among the segments of a text is quoted. -/
theorem isQuoted_of_mem_segments {text : List Char} :
    ∀ literal, Segment.literal literal ∈ segments text → IsQuoted literal := by
  fun_induction segments text with
  | case1 => exact fun _ member => absurd member List.not_mem_nil
  | case2 c rest ih =>
    intro literal member
    rcases List.mem_cons.1 member with here | later
    · exact nextSegment_literal here.symm
    · exact ih literal later

/-! ### Text cut at its literals -/

/-- Text cut at its quoted literals: the text in front of the first, and each
literal with the text behind it. -/
structure Quoting where
  lead : List Char
  literals : List (List Char × List Char)
deriving DecidableEq, Repr

namespace Quoting

/-- The text of segments without comments, cut at its literals. -/
def ofSegments : List Segment → Quoting
  | [] => ⟨[], []⟩
  | .literal text :: rest => ⟨[], (text, (ofSegments rest).lead) :: (ofSegments rest).literals⟩
  | .plain c :: rest => ⟨c :: (ofSegments rest).lead, (ofSegments rest).literals⟩
  | .comment blank _ :: rest => ⟨blank ++ (ofSegments rest).lead, (ofSegments rest).literals⟩

/-- The whole text. -/
def text (quoting : Quoting) : List Char :=
  quoting.lead ++ quoting.literals.flatMap fun entry => entry.1 ++ entry.2

/-- With every line break a single line feed. -/
def unified (quoting : Quoting) : Quoting :=
  ⟨unifyLineBreaks quoting.lead,
    quoting.literals.map fun entry => (unifyLineBreaks entry.1, unifyLineBreaks entry.2)⟩

/-- A query cut at its literals, without comments, line breaks made equal. -/
def ofQuery (query : String) : Quoting := (ofSegments (segments query.toList)).unified

/-- The template of text between literals: the text is cut at its parameters,
the literals as given. -/
def cutFrom (inside : List Char → Template) : List Char → List (List Char × List Char) → Template
  | lead, [] => Template.scan false lead
  | lead, (literal, behind) :: more =>
    (Template.scan false lead).append ((inside literal).append (cutFrom inside behind more))

/-- The template of a text cut at its literals. -/
def cut (inside : List Char → Template) (quoting : Quoting) : Template :=
  cutFrom inside quoting.lead quoting.literals

/-- The names in the literals, each read by itself. -/
def quotedNames (quoting : Quoting) : List String :=
  quoting.literals.flatMap fun entry => (Template.scan false entry.1).names

variable {pieces : List Segment} {quoting : Quoting}

/-- Segments put together again are the text without its comments. -/
theorem text_ofSegments (pieces : List Segment) :
    (ofSegments pieces).text = pieces.flatMap Segment.kept := by
  induction pieces with
  | nil => rfl
  | cons piece rest ih =>
    rw [List.flatMap_cons, ← ih]
    cases piece with
    | plain c => rfl
    | literal text => simp [ofSegments, Quoting.text, Segment.kept]
    | comment blank text => simp [ofSegments, Quoting.text, Segment.kept]

theorem mem_of_mem_ofSegments (pieces : List Segment) :
    ∀ entry ∈ (ofSegments pieces).literals, Segment.literal entry.1 ∈ pieces := by
  induction pieces with
  | nil => exact fun _ member => absurd member List.not_mem_nil
  | cons piece rest ih =>
    intro entry member
    cases piece with
    | literal text =>
      rcases List.mem_cons.1 member with rfl | later
      · exact List.mem_cons_self
      · exact List.mem_cons_of_mem _ (ih entry later)
    | plain c => exact List.mem_cons_of_mem _ (ih entry member)
    | comment blank text => exact List.mem_cons_of_mem _ (ih entry member)

end Quoting

/-! ### Nothing reaches over a quote -/

namespace IsQuoted

variable {literal : List Char}

/-- The line breaks of a text between two quotes are unified apart from the rest. -/
theorem unifyLineBreaks_between {quote : Char} (one : quote ∈ ['\'', '"', '`'])
    (inner rest : List Char) :
    unifyLineBreaks (quote :: (inner ++ quote :: rest)) =
      quote :: (unifyLineBreaks inner ++ quote :: unifyLineBreaks rest) := by
  obtain ⟨return_, feed, -⟩ := isStop_of_quote one
  rw [unifyLineBreaks_cons_of_ne return_,
    Sql.unifyLineBreaks_append inner _ (by rintro _ ⟨⟩; exact feed),
    unifyLineBreaks_cons_of_ne return_]

/-- The line breaks of a literal are its own, and those of the text behind it are its own. -/
theorem unifyLineBreaks_append (quoted : IsQuoted literal) (rest : List Char) :
    unifyLineBreaks (literal ++ rest) = unifyLineBreaks literal ++ unifyLineBreaks rest := by
  obtain ⟨quote, inner, one, rfl⟩ := quoted
  rw [List.cons_append, List.append_assoc, List.singleton_append, unifyLineBreaks_between one,
    unifyLineBreaks_between one]
  simp [unifyLineBreaks]

/-- A quoted literal stays quoted when its line breaks are unified. -/
theorem unified (quoted : IsQuoted literal) : IsQuoted (unifyLineBreaks literal) := by
  obtain ⟨quote, inner, one, rfl⟩ := quoted
  exact ⟨quote, unifyLineBreaks inner, one, unifyLineBreaks_between one inner []⟩

theorem head (quoted : IsQuoted literal) (rest : List Char) :
    ∀ c ∈ (literal ++ rest).head?, c ≠ '\n' ∧ Template.isStop c = true := by
  obtain ⟨quote, inner, one, rfl⟩ := quoted
  rintro _ ⟨⟩
  exact (isStop_of_quote one).2

end IsQuoted

namespace Template

theorem append_assoc (first second third : Template) :
    (first.append second).append third = first.append (second.append third) := by
  obtain ⟨lead, slots⟩ := first
  unfold append
  induction slots generalizing lead with
  | nil =>
    obtain ⟨middle, others⟩ := second
    cases others with
    | nil => simp [behind]
    | cons slot more => rfl
  | cons slot more ih => simp [behind, ih slot.2]

theorem names_append (first rest : Template) :
    (first.append rest).names = first.names ++ rest.names :=
  names_behind rest first.slots first.lead

theorem append_ofText_nil (template : Template) : template.append (ofText []) = template := by
  obtain ⟨lead, slots⟩ := template
  unfold append
  induction slots generalizing lead with
  | nil => simp [behind, ofText]
  | cons slot more ih => simp [behind, ih slot.2]

/-- No parameter reaches into a text that begins with a stop. -/
theorem scan_append_of_head {rest : List Char} (stops : ∀ c ∈ rest.head?, isStop c = true)
    (text : List Char) : scan false (text ++ rest) =
      (scan false text).append (scan false rest) := by
  cases rest with
  | nil =>
    have blank : scan false [] = ofText [] := by rw [scan]
    rw [List.append_nil, blank, append_ofText_nil]
  | cons stop rest =>
    have here := stops stop rfl
    rw [scan_append_stop here, scan_cons_of_ne ((isStop_iff stop).1 here).2.2]

/-- **No parameter reaches out of a literal.** -/
theorem scan_quoted_append {literal : List Char} (quoted : IsQuoted literal) (rest : List Char) :
    scan false (literal ++ rest) = (scan false literal).append (scan false rest) := by
  have stops := (quoted.head [] · · |>.2)
  obtain ⟨quote, inner, -, rfl⟩ := quoted
  have here : isStop quote = true := stops quote rfl
  have plain := ((isStop_iff quote).1 here).2.2
  have blank : scan false [] = ofText [] := by rw [scan]
  rw [List.cons_append, List.append_assoc, List.singleton_append, scan_cons_of_ne plain,
    scan_cons_of_ne plain, scan_append_stop here, scan_append_stop here, push_append, append_assoc,
    push_append, blank, ofText_nil_append]

/-- A text without parameters is one piece. -/
theorem eq_ofText_of_names {text : List Char} (unnamed : (scan false text).names = []) :
    scan false text = ofText text := by
  have source := source_scan false text
  generalize scan false text = template at unnamed source
  obtain ⟨lead, slots⟩ := template
  obtain rfl : slots = [] := List.map_eq_nil_iff.1 unnamed
  rw [source_ofText] at source
  rw [source, ofText]

end Template

namespace Quoting

/-- Every literal stands between quotes. -/
def IsSound (literals : List (List Char × List Char)) : Prop := ∀ entry ∈ literals, IsQuoted entry.1

theorem isSound_ofSegments (text : List Char) : IsSound (ofSegments (segments text)).literals :=
  fun entry member => isQuoted_of_mem_segments entry.1 (mem_of_mem_ofSegments _ entry member)

/-- Literals begin with a character that ends a word. -/
theorem head_flatMap {literals : List (List Char × List Char)} (sound : IsSound literals) :
    ∀ c ∈ (literals.flatMap fun entry => entry.1 ++ entry.2).head?, c ≠ '\n' ∧
      Template.isStop c = true := by
  cases literals with
  | nil => exact fun _ member => by cases member
  | cons entry more =>
    rw [List.flatMap_cons, List.append_assoc]
    exact (sound entry List.mem_cons_self).head _

/-- **Line breaks are made equal inside and outside of literals apart.** -/
theorem unifyLineBreaks_text {literals : List (List Char × List Char)} (sound : IsSound literals) :
    ∀ lead : List Char, unifyLineBreaks (text ⟨lead, literals⟩) =
      (unified ⟨lead, literals⟩).text := by
  induction literals with
  | nil => exact fun lead => by simp [text, unified]
  | cons entry more ih =>
    intro lead
    obtain ⟨quoted, soundMore⟩ := List.forall_mem_cons.1 sound
    have behind := ih soundMore entry.2
    have split := unifyLineBreaks_append lead _ fun c here => (head_flatMap sound c here).1
    unfold text unified at behind ⊢
    rw [split, List.flatMap_cons, List.append_assoc, quoted.unifyLineBreaks_append, behind]
    simp

/-- **A text is cut at its parameters inside and outside of literals apart.** -/
theorem scan_text {literals : List (List Char × List Char)} (sound : IsSound literals) :
    ∀ lead : List Char, Template.scan false (text ⟨lead, literals⟩) =
      cut (Template.scan false) ⟨lead, literals⟩ := by
  induction literals with
  | nil => exact fun lead => by simp [text, cut, cutFrom]
  | cons entry more ih =>
    intro lead
    obtain ⟨quoted, soundMore⟩ := List.forall_mem_cons.1 sound
    have behind := ih soundMore entry.2
    have split := Template.scan_append_of_head (fun c here => (head_flatMap sound c here).2) lead
    unfold text cut at behind ⊢
    rw [split, List.flatMap_cons, List.append_assoc, Template.scan_quoted_append quoted, behind]
    rfl

/-- A query is cut at literals that are sound. -/
theorem isSound_ofQuery (query : String) : IsSound (ofQuery query).literals := by
  intro entry member
  obtain ⟨original, inside, rfl⟩ := List.mem_map.1 member
  exact (isSound_ofSegments query.toList original inside).unified

/-- **The template of a query reads its literals like the text around them.** -/
theorem ofQuery_eq_cut (query : String) :
    Template.ofQuery query = (ofQuery query).cut (Template.scan false) := by
  have sound := isSound_ofSegments query.toList
  unfold Template.ofQuery stripCommentChars
  rw [← text_ofSegments, unifyLineBreaks_text sound]
  exact scan_text (isSound_ofQuery query) _

/-! ### The names in literals -/

/-- The names of a text are those outside its literals and those inside. -/
theorem names_cut_perm (literals : List (List Char × List Char)) : ∀ lead : List Char,
    (cut (Template.scan false) ⟨lead, literals⟩).names.Perm
      ((cut Template.ofText ⟨lead, literals⟩).names ++ quotedNames ⟨lead, literals⟩) := by
  induction literals with
  | nil =>
    intro lead
    rw [quotedNames, List.flatMap_nil, List.append_nil]
    rfl
  | cons entry more ih =>
    intro lead
    have behind := (ih entry.2).append_left (Template.scan false entry.1).names
    have swapped := behind.trans (List.perm_append_comm_assoc _ _ _)
    unfold cut quotedNames at swapped ⊢
    simp only [cutFrom, Template.names_append, List.flatMap_cons, List.append_assoc]
    exact swapped.append_left _

/-- Literals without names are read as they are. -/
theorem cut_of_unnamed (literals : List (List Char × List Char)) : ∀ lead : List Char,
    quotedNames ⟨lead, literals⟩ = [] →
      cut (Template.scan false) ⟨lead, literals⟩ = cut Template.ofText ⟨lead, literals⟩ := by
  induction literals with
  | nil => exact fun _ _ => rfl
  | cons entry more ih =>
    intro lead unnamed
    obtain ⟨here, later⟩ := List.append_eq_nil_iff.1 unnamed
    have behind := ih entry.2 later
    unfold cut at behind ⊢
    rw [cutFrom, cutFrom, Template.eq_ofText_of_names here, behind]

end Quoting

end QueryDesk.Sql
