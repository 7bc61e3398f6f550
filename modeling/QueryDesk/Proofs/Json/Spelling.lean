/-
**Texts that are read as a value.**

* `Spells` — a text is read as a value, whatever stands behind it that does not go on with a number,
  with as much fuel as it has characters.
* `Padded` — an element with blanks of its own around it.
* `items_padded`, `entries_spelled` — elements and entries with commas and blanks between them, by
  induction on them; `spells_padded`, `spells_list`, `spells_record` — the same in brackets.
* `Spells.readChars` — a text that spells a value is a document of it.
* `Value.dictOf_named` — entries under distinct names make up a dict as they are.
-/

import QueryDesk.Proofs.Json.Scalars

namespace QueryDesk

/-! ### Dicts from distinct names -/

theorem Value.sameKey_text (one other : String) :
    sameKey (.text one) (.text other) = (one == other) := by
  simp [sameKey, equal, equalAtoms, magnitude?]

/-- A new name is put behind the others. -/
theorem Value.putEntry_named {name : String} (value : Value) {entries : List (String × Value)}
    (new : name ∉ entries.map Prod.fst) :
    putEntry (.text name) value (Fields.named entries) =
      Fields.named (entries ++ [(name, value)]) := by
  induction entries with
  | nil => rfl
  | cons entry rest ih =>
    obtain ⟨other, old⟩ := entry
    rw [List.map_cons, List.mem_cons, not_or] at new
    have differs : (other == name) = false := beq_false_of_ne (Ne.symm new.1)
    rw [Fields.named, List.map_cons, putEntry, sameKey_text, differs, if_neg Bool.false_ne_true,
      ← Fields.named, ih new.2]
    rfl

/-- By induction on entries with new names: they are put behind the others in order. -/
theorem Value.foldl_putEntry_named (entries : List (String × Value)) :
    ∀ before : List (String × Value),
    ((before ++ entries).map Prod.fst).Nodup →
      (Fields.named entries).foldl (fun built (key, value) => putEntry key value built)
        (Fields.named before) = Fields.named (before ++ entries) := by
  induction entries with
  | nil =>
    intro before _
    rw [List.append_nil]
    rfl
  | cons entry rest ih =>
    intro before distinct
    obtain ⟨name, value⟩ := entry
    have new : name ∉ before.map Prod.fst := by
      rw [List.map_append, List.map_cons] at distinct
      intro inside
      exact (List.nodup_append.1 distinct).2.2 name inside name List.mem_cons_self rfl
    rw [← List.singleton_append, ← List.append_assoc] at distinct ⊢
    rw [← ih _ distinct, ← putEntry_named value new]
    rfl

/-- Entries under distinct names make up a dict as they are. -/
theorem Value.dictOf_named {entries : List (String × Value)}
    (distinct : (entries.map Prod.fst).Nodup) :
    dictOf (Fields.named entries) = .record entries :=
  congrArg Value.dict (foldl_putEntry_named entries [] distinct)

namespace Json

open Text

/-! ### Blanks -/

/-- Characters that all may stand between tokens. -/
def AllGaps (gap : List Char) : Prop := ∀ c ∈ gap, isGap c = true

theorem allGaps_nil : AllGaps [] := nofun

theorem allGaps_blank : AllGaps [' '] := by
  rintro _ ⟨⟩
  · rfl
  · contradiction

/-- A text that begins with neither a blank, a byte order mark nor a closing bracket. -/
def Opens (text : List Char) : Prop :=
  ∃ c more, text = c :: more ∧ isGap c = false ∧ c ≠ '\ufeff' ∧ c ≠ ']' ∧ c ≠ '\x7d'

/-- Blanks are skipped up to the first character that is none. -/
theorem skipGaps_append {gap text : List Char} (gaps : AllGaps gap)
    (solid : ∀ c ∈ text.head?, isGap c = false) : skipGaps (gap ++ text) = text :=
  dropWhile_append_of_stop gaps solid

theorem skipGaps_cons {c : Char} (solid : isGap c = false) (rest : List Char) :
    skipGaps (c :: rest) = c :: rest := List.dropWhile_cons_of_neg (by simp [solid])

/-- Blanks are skipped up to a value. -/
theorem Opens.skipGaps {gap text : List Char} (opens : Opens text) (gaps : AllGaps gap)
    (rest : List Char) : skipGaps (gap ++ (text ++ rest)) = text ++ rest := by
  obtain ⟨c, more, rfl, solid, -⟩ := opens
  exact skipGaps_append gaps (by rintro _ ⟨⟩; exact solid)

theorem endsNumber_of_isGap {c : Char} (blank : isGap c = true) (rest : List Char) :
    EndsNumber (c :: rest) := by
  simp only [isGap, Bool.or_eq_true, beq_iff_eq] at blank
  rintro _ ⟨⟩
  rcases blank with ((rfl | rfl) | rfl) | rfl <;> decide

/-- A number ends at blanks too. -/
theorem EndsNumber.behind {gap rest : List Char} (gaps : AllGaps gap) (ends : EndsNumber rest) :
    EndsNumber (gap ++ rest) := by
  cases gap with
  | nil => exact ends
  | cons c more => exact endsNumber_of_isGap (gaps c List.mem_cons_self) _

/-! ### Values -/

/-- A text is read as a value with as much fuel as it has characters, whatever stands behind it that
does not go on with a number. -/
structure Spells (text : List Char) (meant : Value) : Prop where
  opens : Opens text
  reads : ∀ fuel rest, EndsNumber rest → text.length ≤ fuel →
    value fuel (text ++ rest) = .ok (meant, rest)

/-- A value is read at its text even when another token stands behind it. -/
theorem Spells.reads_before {text : List Char} {meant : Value} (spelled : Spells text meant)
    {gap : List Char} (gaps : AllGaps gap) {c : Char} (closes : c = ',' ∨ c = ']' ∨ c = '\x7d')
    {fuel : Nat} (room : text.length ≤ fuel) (rest : List Char) :
    value fuel (text ++ (gap ++ c :: rest)) = .ok (meant, gap ++ c :: rest) ∧
      skipGaps (gap ++ c :: rest) = c :: rest := by
  have solid : isGap c = false ∧ isAsciiDigit c = false ∧ c ≠ '.' ∧ c ≠ 'e' ∧ c ≠ 'E' := by
    rcases closes with rfl | rfl | rfl <;> decide
  constructor
  · exact spelled.reads fuel _ (.behind gaps (by rintro _ ⟨⟩; exact solid.2)) room
  · exact skipGaps_append gaps (by rintro _ ⟨⟩; exact solid.1)

/-- A text that spells a value is a document of it. -/
theorem Spells.readChars {text : List Char} {meant : Value} (spelled : Spells text meant) :
    readChars text = .ok meant := by
  obtain ⟨c, more, parts, solid, -⟩ := spelled.opens
  have start : skipGaps text = text := by
    rw [parts]
    exact skipGaps_cons solid more
  have whole := spelled.reads (text.length + 1) [] nofun (Nat.le_succ _)
  rw [List.append_nil] at whole
  rw [Json.readChars, start, whole]
  rfl

theorem spells_list_nil : Spells ['[', ']'] (.list []) where
  opens := ⟨'[', _, rfl, by decide⟩
  reads := by
    intro fuel rest _ room
    obtain ⟨fuel, rfl⟩ := Nat.exists_eq_succ_of_ne_zero (Nat.ne_zero_of_lt room)
    simp [value, skipGaps_cons (show isGap ']' = false by decide)]

theorem spells_record_nil : Spells ['\x7b', '\x7d'] (.record []) where
  opens := ⟨'\x7b', _, rfl, by decide⟩
  reads := by
    intro fuel rest _ room
    obtain ⟨fuel, rfl⟩ := Nat.exists_eq_succ_of_ne_zero (Nat.ne_zero_of_lt room)
    simp [value, skipGaps_cons (show isGap '\x7d' = false by decide), Value.record]

/-! ### Arrays -/

/-- An element with the blanks around it. -/
structure Padded (α : Type) where
  before : List Char
  inner : α
  behind : List Char
  gapsBefore : AllGaps before
  gapsBehind : AllGaps behind

section Padding

variable {α : Type} {spell : α → List Char} {meant : α → Value}

/-- The text of an element with its blanks. -/
def Padded.chars (spell : α → List Char) (padded : Padded α) : List Char :=
  padded.before ++ (spell padded.inner ++ padded.behind)

/-- The texts of elements with commas between them. -/
def Padded.joined (spell : α → List Char) (elements : List (Padded α)) : List Char :=
  [','].intercalate (elements.map (Padded.chars spell))

theorem Padded.joined_cons_cons (first next : Padded α) (rest : List (Padded α)) :
    Padded.joined spell (first :: next :: rest) =
      first.chars spell ++ ',' :: Padded.joined spell (next :: rest) := by
  simp [Padded.joined]

/-- Joined elements are the first and the others behind commas. -/
theorem Padded.joined_cons (first : Padded α) (rest : List (Padded α)) :
    Padded.joined spell (first :: rest) =
      first.chars spell ++ rest.flatMap fun next => ',' :: next.chars spell := by
  induction rest generalizing first with
  | nil => simp [Padded.joined]
  | cons next rest ih => rw [Padded.joined_cons_cons, ih, List.flatMap_cons, List.cons_append]

variable {closing : List Char} (gapsClosing : AllGaps closing)

include gapsClosing

/-- Elements with commas between them are read up to the closing bracket, by induction on them. -/
theorem items_padded (rest : List (Padded α)) (more : List Char) :
    ∀ (first : Padded α) (fuel : Nat),
    (∀ each ∈ first :: rest, Spells (spell each.inner) (meant each.inner)) →
    (Padded.joined spell (first :: rest)).length < fuel →
    items fuel (skipGaps (Padded.joined spell (first :: rest) ++ (closing ++ ']' :: more))) =
      .ok ((first :: rest).map fun each => meant each.inner, more) := by
  induction rest with
  | nil =>
    intro first fuel each room
    obtain ⟨fuel, rfl⟩ := Nat.exists_eq_succ_of_ne_zero (Nat.ne_zero_of_lt room)
    have here := each first List.mem_cons_self
    have gaps : AllGaps (first.behind ++ closing) :=
      List.forall_mem_append.2 ⟨first.gapsBehind, gapsClosing⟩
    simp only [Padded.joined_cons, Padded.chars, List.flatMap_nil, List.append_nil,
      List.length_append] at room
    obtain ⟨read, closed⟩ := here.reads_before gaps (.inr (.inl rfl)) (show _ ≤ fuel by omega) more
    have start := here.opens.skipGaps first.gapsBefore (first.behind ++ closing ++ ']' :: more)
    simp only [Padded.joined_cons, Padded.chars, List.flatMap_nil, List.append_nil,
      List.append_assoc] at read closed start ⊢
    rw [start, items, read]
    simp [bind, Except.bind, closed, pure, Except.pure]
  | cons next rest ih =>
    intro first fuel each room
    obtain ⟨fuel, rfl⟩ := Nat.exists_eq_succ_of_ne_zero (Nat.ne_zero_of_lt room)
    obtain ⟨here, others⟩ := List.forall_mem_cons.1 each
    simp only [Padded.joined_cons_cons, Padded.chars, List.length_append, List.length_cons] at room
    -- the recursive call skips the blanks behind the comma itself
    have later := ih next fuel others (by omega)
    generalize left_eq :
      Padded.joined spell (next :: rest) ++ (closing ++ ']' :: more) = left at later
    obtain ⟨read, comma⟩ :=
      here.reads_before first.gapsBehind (.inl rfl) (show _ ≤ fuel by omega) left
    have start := here.opens.skipGaps first.gapsBefore (first.behind ++ ',' :: left)
    rw [Padded.joined_cons_cons, Padded.chars]
    simp only [List.append_assoc, List.cons_append, left_eq]
    rw [start, items, read]
    simp [bind, Except.bind, comma, later, pure, Except.pure]

/-- **An array is spelled by its elements between brackets**, whatever blanks are around each. -/
theorem spells_padded {first : Padded α} {rest : List (Padded α)}
    (each : ∀ other ∈ first :: rest, Spells (spell other.inner) (meant other.inner)) :
    Spells ('[' :: (Padded.joined spell (first :: rest) ++ (closing ++ [']'])))
      (.list ((first :: rest).map fun other => meant other.inner)) where
  opens := ⟨'[', _, rfl, by decide⟩
  reads := by
    intro fuel more _ room
    obtain ⟨fuel, rfl⟩ : ∃ less, fuel = less + 1 := Nat.exists_eq_succ_of_ne_zero (by
      rintro rfl
      cases room)
    simp only [List.length_append, List.length_cons, List.length_nil] at room
    have read := items_padded gapsClosing rest more first fuel each (by omega)
    have start := (each first List.mem_cons_self).opens.skipGaps first.gapsBefore
    obtain ⟨c, others, parts, -, -, other, -⟩ := (each first List.mem_cons_self).opens
    simp only [List.cons_append, List.append_assoc, List.nil_append]
    rw [value]
    split
    · rename_i closed
      rw [Padded.joined_cons, Padded.chars] at closed
      simp only [List.append_assoc] at closed
      rw [start, parts] at closed
      exact absurd (List.cons.inj closed).1 other
    · rw [read]
      rfl

end Padding

section Elements

variable {before between behind : List Char} (gapsBefore : AllGaps before) (gaps : AllGaps between)
  (gapsBehind : AllGaps behind)

section Arrays

variable {spell : Value → List Char}

/-- The texts of elements behind the first, each behind a comma. -/
def laterItems (spell : Value → List Char) (between : List Char) (items : List Value) : List Char :=
  items.flatMap fun item => ',' :: (between ++ spell item)

include gapsBefore gaps gapsBehind

/-- The same blanks before each element but the first. -/
theorem spells_list {item : Value} {rest : List Value}
    (each : ∀ other ∈ item :: rest, Spells (spell other) other) :
    Spells ('[' :: (before ++ (spell item ++ (laterItems spell between rest ++ (behind ++ [']'])))))
      (.list (item :: rest)) := by
  have padded : ∀ other ∈ (⟨before, item, [], gapsBefore, allGaps_nil⟩ : Padded Value) ::
      rest.map fun later => ⟨between, later, [], gaps, allGaps_nil⟩,
      Spells (spell other.inner) (id other.inner) := by simpa using each
  have spelled := spells_padded gapsBehind padded
  simpa [Padded.joined_cons, Padded.chars, laterItems, List.flatMap_map, Function.comp_def]
    using spelled

end Arrays

/-! ### Objects -/

section Objects

variable {name : String → List Char} {spell : Value → List Char}

/-- The text of an entry: its name, a colon and its value. -/
def entryText (name : String → List Char) (spell : Value → List Char) (entry : String × Value) :
    List Char :=
  name entry.1 ++ ':' :: ' ' :: spell entry.2

/-- The texts of entries behind the first, each behind a comma. -/
def laterEntries (name : String → List Char) (spell : Value → List Char) (between : List Char)
    (entries : List (String × Value)) : List Char :=
  entries.flatMap fun entry => ',' :: (between ++ entryText name spell entry)

/-- A name begins with a quote and is read back, and a value is spelled. -/
structure SpellsEntry (name : String → List Char) (spell : Value → List Char)
    (entry : String × Value) : Prop where
  quoted : ∃ more, name entry.1 = '"' :: more
  named : ∀ rest, readText (name entry.1 ++ rest) = .ok (entry.1, rest)
  spelled : Spells (spell entry.2) entry.2

/-- A spelled entry begins like a value. -/
theorem SpellsEntry.opens {entry : String × Value} (entrySpelled : SpellsEntry name spell entry) :
    Opens (entryText name spell entry) := by
  obtain ⟨more, quoted⟩ := entrySpelled.quoted
  rw [entryText, quoted]
  exact ⟨'"', _, rfl, by decide⟩

/-- The name of an entry is read up to its colon, and the blank behind that is skipped. -/
theorem SpellsEntry.name_read {entry : String × Value} (entrySpelled : SpellsEntry name spell entry)
    (rest : List Char) :
    readText (entryText name spell entry ++ rest) =
      .ok (entry.1, ':' :: ' ' :: (spell entry.2 ++ rest)) ∧
    skipGaps (' ' :: (spell entry.2 ++ rest)) = spell entry.2 ++ rest := by
  constructor
  · rw [entryText, List.append_assoc, entrySpelled.named, List.cons_append, List.cons_append]
  · exact entrySpelled.spelled.opens.skipGaps allGaps_blank rest

include gaps gapsBehind

/-- Entries with commas between them are read up to the closing brace, by induction on them. -/
theorem entries_spelled (rest : List (String × Value)) (more : List Char) :
    ∀ (entry : String × Value) (fuel : Nat),
      (∀ each ∈ entry :: rest, SpellsEntry name spell each) →
      (entryText name spell entry ++ laterEntries name spell between rest).length < fuel →
      entries fuel (entryText name spell entry ++
          (laterEntries name spell between rest ++ (behind ++ '\x7d' :: more))) =
        .ok (Fields.named (entry :: rest), more) := by
  have colon (text : List Char) : skipGaps (':' :: text) = ':' :: text :=
    skipGaps_cons (by decide) text
  induction rest with
  | nil =>
    intro entry fuel each room
    obtain ⟨fuel, rfl⟩ := Nat.exists_eq_succ_of_ne_zero (Nat.ne_zero_of_lt room)
    have here := each entry List.mem_cons_self
    simp only [laterEntries, entryText, List.flatMap_nil, List.append_nil, List.length_append,
      List.length_cons] at room
    obtain ⟨named, start⟩ := here.name_read (behind ++ '\x7d' :: more)
    obtain ⟨read, closing⟩ := here.spelled.reads_before gapsBehind
      (.inr (.inr rfl)) (show _ ≤ fuel by omega) more
    simp only [laterEntries, List.flatMap_nil, List.nil_append]
    rw [entries, named]
    simp [bind, Except.bind, colon, start, read, closing, pure, Except.pure, Fields.named]
  | cons next rest ih =>
    intro entry fuel each room
    obtain ⟨fuel, rfl⟩ := Nat.exists_eq_succ_of_ne_zero (Nat.ne_zero_of_lt room)
    obtain ⟨here, others⟩ := List.forall_mem_cons.1 each
    have opens := (others next List.mem_cons_self).opens
    rw [laterEntries, List.flatMap_cons, ← laterEntries] at room ⊢
    simp only [entryText, List.length_append, List.length_cons] at room
    have later := ih next fuel others (by
      simp only [entryText, List.length_append, List.length_cons]
      omega)
    simp only [List.cons_append, List.append_assoc]
    generalize behind_eq : laterEntries name spell between rest ++ (behind ++ '\x7d' :: more) = left
      at later ⊢
    obtain ⟨named, start⟩ :=
      here.name_read (',' :: (between ++ (entryText name spell next ++ left)))
    obtain ⟨read, comma⟩ := here.spelled.reads_before allGaps_nil (c := ',') (.inl rfl)
      (show _ ≤ fuel by omega) (between ++ (entryText name spell next ++ left))
    rw [List.nil_append] at read comma
    rw [entries, named]
    simp [bind, Except.bind, colon, start, read, comma, opens.skipGaps gaps left, later, pure,
      Except.pure, Fields.named]

include gapsBefore in
/-- An object is spelled by its entries between braces, when their names are distinct. -/
theorem spells_record {entry : String × Value} {rest : List (String × Value)}
    (distinct : ((entry :: rest).map Prod.fst).Nodup)
    (each : ∀ other ∈ entry :: rest, SpellsEntry name spell other) :
    Spells ('\x7b' :: (before ++ (entryText name spell entry ++
        (laterEntries name spell between rest ++ (behind ++ ['\x7d'])))))
      (.record (entry :: rest)) where
  opens := ⟨'\x7b', _, rfl, by decide⟩
  reads := by
    intro fuel more _ room
    obtain ⟨fuel, rfl⟩ : ∃ less, fuel = less + 1 := Nat.exists_eq_succ_of_ne_zero (by
      rintro rfl
      cases room)
    simp only [List.length_append, List.length_cons, List.length_nil] at room
    have read := entries_spelled gaps gapsBehind rest more entry fuel each (by
      simp only [List.length_append]
      omega)
    have opens := (each entry List.mem_cons_self).opens
    have start := opens.skipGaps gapsBefore
      (laterEntries name spell between rest ++ (behind ++ '\x7d' :: more))
    obtain ⟨c, others, parts, -, -, -, other⟩ := opens
    simp only [List.cons_append, List.append_assoc, List.nil_append]
    rw [value, start]
    split
    · rename_i closed
      rw [parts] at closed
      exact absurd (List.cons.inj closed).1 other
    · rw [read]
      exact congrArg (fun meant => Except.ok (meant, more)) (Value.dictOf_named distinct)

end Objects

end Elements

end Json

end QueryDesk
