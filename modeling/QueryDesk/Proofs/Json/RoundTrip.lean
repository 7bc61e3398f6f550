/-
**Documents are read back as what they are written for.**

* `spelling_list`, `spelling_record` — what a value is written as, its brackets,
  commas and blanks put apart.
* `spells_spelling` — by induction on a plain value without halves: in every layout and on every
  level, what it is written as spells it. `read_write` — so it is read back from its document.
* `mem_spelling`, `mem_write` — besides those of its texts, a document is made of line feeds and
  visible characters; so it holds no carriage return, and no half of a character unless a text does.
-/

import QueryDesk.Proofs.Json.Spelling

namespace QueryDesk.Json

open Text

/-! ### What values are written as -/

variable (layout : Layout)

/-- What a value is written as on a level. -/
def spelling (level : Nat) (value : Value) : List Char :=
  (piecesAt layout level value).flatMap String.toList

/-- The blanks between a comma and the next element on a level. -/
def blanks (level : Nat) : List Char :=
  match layout.indent with
  | some _ => (lineBreak layout level).toList
  | none => [' ']

/-- What a name is written as. -/
def spelledName (name : String) : List Char := (quotedText layout.asciiOnly name).toList

/-- What stands between two lines of a document may stand between two of its parts. -/
theorem allGaps_lineBreak (level : Nat) : AllGaps (lineBreak layout level).toList := by
  unfold lineBreak
  split
  · rename_i width _
    have blank : (repeated ' ' (width * level)).toList = List.replicate (width * level) ' ' :=
      String.toList_ofList
    rw [String.toList_append, blank]
    intro c inside
    rcases List.mem_append.1 inside with first | blank
    · obtain rfl : c = '\n' := List.mem_singleton.1 first
      rfl
    · obtain rfl := List.eq_of_mem_replicate blank
      rfl
  · nofun

theorem allGaps_blanks (level : Nat) : AllGaps (blanks layout level) := by
  unfold blanks
  split
  · exact allGaps_lineBreak layout level
  · exact allGaps_blank

theorem toList_separator (level : Nat) :
    (separator layout level).toList = ',' :: blanks layout level := by
  unfold separator blanks
  cases layout.indent with
  | some width => exact String.toList_append
  | none =>
    show (", " : String).toList = [',', ' ']
    rfl

theorem flatMap_elementPieces (front : String) (element : Value) (pieces : List String) :
    (elementPieces front element pieces).flatMap String.toList =
      front.toList ++ pieces.flatMap String.toList := by
  unfold elementPieces
  split <;> simp [String.toList_append, String.toList_join]

/-- By induction on the elements behind the first: how they are spelled. -/
theorem flatMap_itemPieces (level : Nat) (items : List Value) :
    (itemPieces layout level (separator layout level) items).flatMap String.toList =
      laterItems (spelling layout level) (blanks layout level) items := by
  induction items with
  | nil => rfl
  | cons item rest ih =>
    rw [itemPieces, List.flatMap_append, flatMap_elementPieces, ih, toList_separator, laterItems,
      laterItems, List.flatMap_cons, spelling, List.cons_append]

/-- What stands between two brackets is followed by a line break. -/
theorem flatMap_bracketed (level : Nat) (opening closing : String) {inner : List String}
    (some_piece : inner ≠ []) :
    (bracketed layout level opening closing inner).flatMap String.toList =
      inner.flatMap String.toList ++ ((lineBreak layout level).toList ++ closing.toList) := by
  rw [bracketed, if_neg (by simpa using some_piece), List.flatMap_append, List.flatMap_singleton,
    String.toList_append]

/-- A scalar is spelled by its text, at any level. -/
theorem spelling_scalar (level : Nat) {value : Value} (plain : value.IsPlainScalar) :
    spelling layout level value = (atom layout value).toList := by
  cases plain <;> exact List.flatMap_singleton ..

/-- A list with elements: each on a line of its own, or one behind the other. -/
theorem spelling_list (level : Nat) (item : Value) (rest : List Value) :
    spelling layout level (.list (item :: rest)) =
      '[' :: ((lineBreak layout (level + 1)).toList ++ (spelling layout (level + 1) item ++
        (laterItems (spelling layout (level + 1)) (blanks layout (level + 1)) rest ++
          ((lineBreak layout level).toList ++ [']'])))) := by
  have some_piece : ∀ front, itemPieces layout (level + 1) front (item :: rest) ≠ [] := by
    intro front
    rw [itemPieces, elementPieces]
    split <;> simp
  rw [spelling, piecesAt, flatMap_bracketed layout level _ _ (some_piece _), itemPieces,
    List.flatMap_append, flatMap_elementPieces, flatMap_itemPieces, String.toList_append]
  simp only [List.append_assoc]
  rfl

theorem flatMap_entryPieces (level : Nat) (entries : List (String × Value)) :
    (entryPieces layout level (separator layout level) (Fields.named entries)).flatMap
      String.toList =
      laterEntries (spelledName layout) (spelling layout level) (blanks layout level) entries := by
  induction entries with
  | nil => rfl
  | cons entry rest ih =>
    obtain ⟨name, value⟩ := entry
    rw [Fields.named, List.map_cons, entryPieces, ← Fields.named, List.flatMap_cons,
      List.flatMap_cons, List.flatMap_append, ih, toList_separator, String.toList_append,
      laterEntries, laterEntries,
      List.flatMap_cons]
    simp only [entryText, List.append_assoc, List.cons_append]
    rfl

/-- A record with entries: each on a line of its own, or one behind the other. -/
theorem spelling_record (level : Nat) (entry : String × Value) (rest : List (String × Value)) :
    spelling layout level (.record (entry :: rest)) =
      '\x7b' :: ((lineBreak layout (level + 1)).toList ++
        (entryText (spelledName layout) (spelling layout (level + 1)) entry ++
          (laterEntries (spelledName layout) (spelling layout (level + 1))
            (blanks layout (level + 1))
              rest ++ ((lineBreak layout level).toList ++ ['\x7d'])))) := by
  obtain ⟨name, value⟩ := entry
  rw [Fields.record_eq, spelling, piecesAt, Fields.named, List.map_cons, entryPieces,
    ← Fields.named, flatMap_bracketed layout level _ _ (List.cons_ne_nil _ _), List.flatMap_cons,
    List.flatMap_cons,
    List.flatMap_append, flatMap_entryPieces, String.toList_append, String.toList_append]
  simp only [entryText, List.append_assoc, List.cons_append]
  rfl

/-! ### Values are read back -/

/-- A scalar begins with neither a blank, a byte order mark nor a bracket. -/
theorem exists_cons_atom {meant : Value} (plain : meant.IsPlainScalar) :
    ∃ c more, (atom layout meant).toList = c :: more ∧ isGap c = false ∧
      c ∉ ['\ufeff', '[', ']', '\x7b', '\x7d'] := by
  have of_digit {c : Char} (digit : isAsciiDigit c = true) :
      isGap c = false ∧ c ∉ ['\ufeff', '[', ']', '\x7b', '\x7d'] := by
    simp only [isAsciiDigit, Bool.and_eq_true, decide_eq_true_eq] at digit
    constructor
    · simp only [isGap, Bool.or_eq_false_iff, beq_eq_false_iff_ne]
      refine ⟨⟨⟨?_, ?_⟩, ?_⟩, ?_⟩ <;> rintro rfl <;> exact absurd digit (by decide)
    · simp only [List.mem_cons, List.not_mem_nil, or_false]
      rintro (rfl | rfl | rfl | rfl | rfl) <;> exact absurd digit (by decide)
  cases plain with
  | null => exact ⟨'n', ['u', 'l', 'l'], by rw [atom]; rfl, by decide⟩
  | bool truth =>
    cases truth with
    | false => exact ⟨'f', ['a', 'l', 's', 'e'], by rw [atom]; rfl, by decide⟩
    | true => exact ⟨'t', ['r', 'u', 'e'], by rw [atom]; rfl, by decide⟩
  | int number writable =>
    cases number with
    | ofNat size =>
      obtain ⟨c, more, parts, digit⟩ := toDigits_eq_cons size
      exact ⟨c, more, (toList_toString_ofNat size).trans parts, of_digit digit⟩
    | negSucc size => exact ⟨'-', _, toList_toString_negSucc size, by decide⟩
  | text content => exact ⟨'"', _, toList_quotedText layout.asciiOnly content, by decide⟩

/-- A plain scalar without halves is read back. -/
theorem spells_atom {meant : Value} (plain : meant.IsPlainScalar) (whole : meant.IsWhole) :
    Spells (atom layout meant).toList meant := by
  obtain ⟨c, more, parts, solid, other⟩ := exists_cons_atom layout plain
  constructor
  · refine ⟨c, more, parts, solid, ?_, ?_, ?_⟩ <;>
    · rintro rfl
      simp at other
  · intro fuel rest ends room
    have read := scalar_atom layout plain whole ends
    rw [parts] at room read ⊢
    obtain ⟨fuel, rfl⟩ := Nat.exists_eq_succ_of_ne_zero (Nat.ne_zero_of_lt room)
    rw [List.cons_append, value, ← List.cons_append, read]
    all_goals
      rintro inner spelled
      obtain ⟨rfl, -⟩ := List.cons.inj spelled
      simp at other

/-- By induction on a plain value: what it is written as spells it. -/
theorem spells_spelling {value : Value} (plain : value.IsPlain) :
    value.IsWhole → ∀ level, Spells (spelling layout level value) value := by
  induction plain with
  | scalar allowed =>
    intro whole level
    rw [spelling_scalar layout level allowed]
    exact spells_atom layout allowed whole
  | @list items each ih =>
    intro whole level
    rw [Value.isWhole_list_iff] at whole
    cases items with
    | nil => exact spells_list_nil
    | cons item rest =>
      rw [spelling_list]
      exact spells_list (allGaps_lineBreak layout _) (allGaps_blanks layout _)
        (allGaps_lineBreak layout _)
        fun other inside => ih other inside (whole other inside) (level + 1)
  | @record entries distinct each ih =>
    intro whole level
    rw [Value.isWhole_record_iff] at whole
    cases entries with
    | nil => exact spells_record_nil
    | cons entry rest =>
      rw [spelling_record]
      refine spells_record (allGaps_lineBreak layout _) (allGaps_blanks layout _)
        (allGaps_lineBreak layout _)
        distinct fun other inside => ⟨⟨_, toList_quotedText layout.asciiOnly other.1⟩,
          readText_quotedText layout.asciiOnly (whole other inside).1,
          ih other inside (whole other inside).2 (level + 1)⟩

/-- **A plain value is read back from the document it is written as**, in every layout. -/
theorem read_write {value : Value} (plain : value.IsPlain) (whole : value.IsWhole) :
    read (write layout value) = .ok value := by
  have spelled := spells_spelling layout plain whole 0
  have document : (write layout value).toList = spelling layout 0 value := String.toList_join
  obtain ⟨c, more, parts, -, mark, -⟩ := spelled.opens
  have unmarked : (write layout value).toList.head? ≠ some '\ufeff' := by
    rw [document, parts]
    exact fun marked => mark (Option.some.inj marked)
  rw [read, if_neg unmarked, document, spelled.readChars]
  rfl

/-! ### The characters of a document -/

/-- Whether a character can stand in a document besides those of its texts. -/
def isFrame (c : Char) : Bool := c == '\n' || decide (0x20 ≤ c.toNat) && decide (c.toNat < 0x7f)

/-- A character of a document is one of its frame, or one of a text that is no control character. -/
def FramedBy (texts : List String) (c : Char) : Prop :=
  isFrame c = true ∨ 0x20 ≤ c.toNat ∧ ∃ text ∈ texts, c ∈ text.toList

theorem FramedBy.mono {texts others : List String} {c : Char} (framed : FramedBy texts c)
    (more : ∀ text ∈ texts, text ∈ others) : FramedBy others c :=
  framed.imp_right fun ⟨visible, text, inside, member⟩ => ⟨visible, text, more text inside, member⟩

theorem isFrame_of_mem {text : List Char} (fixed : text.all isFrame = true) {c : Char}
    (inside : c ∈ text) :
    isFrame c = true :=
  List.all_eq_true.1 fixed c inside

theorem isFrame_of_mem_hex {code : Nat} {c : Char} (inside : c ∈ (hex 4 code).toList) :
    isFrame c = true := by
  have digit {value : Nat} (small : value < 16) : isFrame (hexDigit value) = true := by
    interval_cases value <;> decide
  have each (value : Nat) := digit (Nat.mod_lt value (show 0 < 16 by decide))
  rw [toList_hex_four] at inside
  simp only [List.mem_cons, List.not_mem_nil, or_false] at inside
  rcases inside with rfl | rfl | rfl | rfl <;> exact each _

/-- An escape is written in characters of the frame. -/
theorem isFrame_of_mem_unicodeEscapes {code : Nat} {c : Char}
    (inside : c ∈ (unicodeEscapes code).toList) :
    isFrame c = true := by
  have letters : ("\\u" : String).toList.all isFrame = true := by decide
  unfold unicodeEscapes at inside
  split at inside
  · rw [String.toList_append] at inside
    exact (List.mem_append.1 inside).elim (isFrame_of_mem letters) isFrame_of_mem_hex
  · simp only [String.toList_append, List.append_assoc, List.mem_append] at inside
    rcases inside with start | digits | start | digits
    · exact isFrame_of_mem letters start
    · exact isFrame_of_mem_hex digits
    · exact isFrame_of_mem letters start
    · exact isFrame_of_mem_hex digits

/-- A character is escaped into characters of the frame, or stands for itself. -/
theorem mem_escapedChar {asciiOnly : Bool} {c meant : Char}
    (inside : c ∈ (escapedChar asciiOnly meant).toList) :
    isFrame c = true ∨ 0x20 ≤ c.toNat ∧ c = meant := by
  unfold escapedChar at inside
  split at inside
  iterate 7 exact .inl (isFrame_of_mem (by decide) inside)
  split at inside
  · exact .inl (isFrame_of_mem_unicodeEscapes inside)
  · rename_i visible
    obtain rfl : c = meant := by simpa using inside
    rw [Bool.or_eq_true, decide_eq_true_eq, not_or] at visible
    exact .inr ⟨Nat.le_of_not_lt visible.1, rfl⟩

/-- What a quoted text holds besides its own characters belongs to the frame. -/
theorem mem_quotedText {asciiOnly : Bool} {text : String} {c : Char}
    (inside : c ∈ (quotedText asciiOnly text).toList) : FramedBy [text] c := by
  rw [toList_quotedText, List.mem_cons, List.mem_append, List.mem_singleton, List.mem_flatMap]
    at inside
  rcases inside with rfl | ⟨meant, member, inside⟩ | rfl
  · exact .inl (by decide)
  · exact (mem_escapedChar inside).imp_right fun ⟨visible, same⟩ =>
      ⟨visible, text, List.mem_singleton_self text, same ▸ member⟩
  · exact .inl (by decide)

theorem isFrame_of_mem_lineBreak {level : Nat} {c : Char}
    (inside : c ∈ (lineBreak layout level).toList) :
    isFrame c = true := by
  unfold lineBreak at inside
  split at inside
  · simp only [String.toList_append, repeated, String.toList_ofList, List.mem_append,
      List.mem_replicate] at inside
    rcases inside with first | ⟨-, rfl⟩
    · obtain rfl : c = '\n' := List.mem_singleton.1 first
      decide
    · decide
  · cases inside

theorem isFrame_of_mem_blanks {level : Nat} {c : Char} (inside : c ∈ blanks layout level) :
    isFrame c = true := by
  unfold blanks at inside
  split at inside
  · exact isFrame_of_mem_lineBreak layout inside
  · obtain rfl := List.mem_singleton.1 inside
    decide

/-- What the text of a scalar holds besides the characters of its texts belongs to the frame. -/
theorem mem_atom {value : Value} (plain : value.IsPlainScalar) {c : Char}
    (inside : c ∈ (atom layout value).toList) : FramedBy value.texts c := by
  have digits {size : Nat} (inside : c ∈ Nat.toDigits 10 size) : isFrame c = true := by
    have digit := isAsciiDigit_of_mem_toDigits inside
    simp only [isAsciiDigit, Bool.and_eq_true, decide_eq_true_eq, Char.le_def,
      UInt32.le_iff_toNat_le] at digit
    have low : 48 ≤ c.toNat := digit.1
    have high : c.toNat ≤ 57 := digit.2
    simp only [isFrame, Bool.or_eq_true, Bool.and_eq_true, decide_eq_true_eq]
    exact .inr ⟨by omega, by omega⟩
  cases plain with
  | null =>
    rw [atom] at inside
    exact .inl (isFrame_of_mem (by decide) inside)
  | bool truth =>
    rw [atom] at inside
    cases truth with
    | false => exact .inl (isFrame_of_mem (by decide) inside)
    | true => exact .inl (isFrame_of_mem (by decide) inside)
  | int number writable =>
    rw [atom] at inside
    cases number with
    | ofNat size =>
      rw [toList_toString_ofNat] at inside
      exact .inl (digits inside)
    | negSucc size =>
      rw [toList_toString_negSucc, List.mem_cons] at inside
      exact .inl (inside.elim (fun same => same ▸ by decide) digits)
  | text content => exact mem_quotedText inside

/-- By induction on a plain value: what the characters of its spelling are. -/
theorem mem_spelling {value : Value} (plain : value.IsPlain) :
    ∀ level, ∀ c ∈ spelling layout level value, FramedBy value.texts c := by
  induction plain with
  | scalar allowed =>
    intro level c inside
    rw [spelling_scalar layout level allowed] at inside
    exact mem_atom layout allowed inside
  | @list items each ih =>
    intro level c inside
    cases items with
    | nil =>
      have brackets : (['[', ']'] : List Char).all isFrame = true := by decide
      exact .inl (isFrame_of_mem brackets inside)
    | cons item rest =>
      have element {other : Value} (member : other ∈ item :: rest)
          (there : c ∈ spelling layout (level + 1) other) :
            FramedBy (Value.list (item :: rest)).texts c :=
        (ih other member (level + 1) c there).mono fun text found =>
          Value.mem_texts_list.2 ⟨other, member, found⟩
      rw [spelling_list] at inside
      simp only [List.mem_cons, List.mem_append, laterItems, List.mem_flatMap, List.not_mem_nil,
        or_false] at inside
      rcases inside with rfl | gap | first | ⟨other, member, rfl | gap | later⟩ | gap | rfl
      · exact .inl (by decide)
      · exact .inl (isFrame_of_mem_lineBreak layout gap)
      · exact element List.mem_cons_self first
      · exact .inl (by decide)
      · exact .inl (isFrame_of_mem_blanks layout gap)
      · exact element (List.mem_cons_of_mem item member) later
      · exact .inl (isFrame_of_mem_lineBreak layout gap)
      · exact .inl (by decide)
  | @record entries distinct each ih =>
    intro level c inside
    cases entries with
    | nil =>
      have brackets : (['\x7b', '\x7d'] : List Char).all isFrame = true := by decide
      exact .inl (isFrame_of_mem brackets inside)
    | cons entry rest =>
      have named {other : String × Value} (member : other ∈ entry :: rest)
          (there : c ∈ entryText (spelledName layout) (spelling layout (level + 1)) other) :
          FramedBy (Value.record (entry :: rest)).texts c := by
        simp only [entryText, List.mem_append, List.mem_cons] at there
        rcases there with name | rfl | rfl | content
        · refine (mem_quotedText name).mono fun text found => ?_
          exact Value.mem_texts_record.2 ⟨other, member, .inl (List.mem_singleton.1 found)⟩
        · exact .inl (by decide)
        · exact .inl (by decide)
        · refine (ih other member (level + 1) c content).mono fun text found => ?_
          exact Value.mem_texts_record.2 ⟨other, member, .inr found⟩
      rw [spelling_record] at inside
      simp only [List.mem_cons, List.mem_append, laterEntries, List.mem_flatMap, List.not_mem_nil,
        or_false] at inside
      rcases inside with rfl | gap | first | ⟨other, member, rfl | gap | later⟩ | gap | rfl
      · exact .inl (by decide)
      · exact .inl (isFrame_of_mem_lineBreak layout gap)
      · exact named List.mem_cons_self first
      · exact .inl (by decide)
      · exact .inl (isFrame_of_mem_blanks layout gap)
      · exact named (List.mem_cons_of_mem entry member) later
      · exact .inl (isFrame_of_mem_lineBreak layout gap)
      · exact .inl (by decide)

/-- **The characters of a document** of a plain value are those of its frame and of its texts. -/
theorem mem_write {value : Value} (plain : value.IsPlain) {c : Char}
    (inside : c ∈ (write layout value).toList) :
    FramedBy value.texts c := by
  have document : (write layout value).toList = spelling layout 0 value := String.toList_join
  exact mem_spelling layout plain 0 c (document ▸ inside)

/-- The document of a plain value holds no carriage return, so its line ends are line feeds. -/
theorem no_return_write {value : Value} (plain : value.IsPlain) :
    '\r' ∉ (write layout value).toList := by
  intro inside
  rcases mem_write layout plain inside with frame | ⟨visible, -⟩
  · cases frame
  · exact absurd visible (by decide)

/-- The document of a plain value without halves holds no half. -/
theorem isWhole_write {value : Value} (plain : value.IsPlain) (whole : value.IsWhole) :
    isWhole (write layout value) = true := by
  rw [isWhole, List.all_eq_true]
  intro c inside
  rcases mem_write layout plain inside with frame | ⟨-, text, member, there⟩
  · simp only [isFrame, Bool.or_eq_true, beq_iff_eq, Bool.and_eq_true, decide_eq_true_eq] at frame
    rw [Bool.not_eq_true', isHalf, decide_eq_false_iff_not, firstStandIn]
    rcases frame with rfl | ⟨-, small⟩
    · decide
    · omega
  · have all := whole text member
    rw [isWhole, List.all_eq_true] at all
    exact all c there

end QueryDesk.Json
