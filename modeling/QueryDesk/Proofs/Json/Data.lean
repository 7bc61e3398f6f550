/-
**What is read from a JSON document.**

* `Value.dictOf_named_isJson` — entries under any names make up a record with distinct names.
* `Json.GiveJson`, `Json.giveJson`, `Json.isJson_of_read` — **what is read is JSON
  data**, by induction on the fuel.
* `Json.HoldsOddKey`, `Json.checkWritable_eq_ok_iff` — a value can be written unless a number in
  it is too long or a dict inside it has a key that is none in JSON;
  `Json.failure_of_checkWritable` — what it is refused with.
* `Json.StopsAtKey`, `Json.refuses_key_iff` — it is refused for a key when this is the first thing
  in it that cannot be written; `Json.not_stopsAtKey_of_isJson` — in JSON data there is no such key.
-/

import QueryDesk.Json.Reader
import QueryDesk.Json.Writer
import QueryDesk.Proofs.Json.Spelling
import QueryDesk.Proofs.Outcomes
import QueryDesk.Proofs.Value.Texts

namespace QueryDesk

/-! ### Records from entries -/

namespace Value

/-- An entry put into a record under distinct names: the names stay distinct, and the entries are
those from before and the new one. -/
theorem putEntry_record (name : String) (value : Value) {entries : List (String × Value)}
    (distinct : (entries.map Prod.fst).Nodup) :
    ∃ after, putEntry (.text name) value (Fields.named entries) = Fields.named after ∧
      (after.map Prod.fst).Nodup ∧ ∀ entry ∈ after, entry ∈ entries ∨ entry = (name, value) := by
  induction entries with
  | nil => exact ⟨[(name, value)], rfl, by simp, by simp⟩
  | cons first rest ih =>
    obtain ⟨other, old⟩ := first
    rw [List.map_cons, List.nodup_cons] at distinct
    rw [Fields.named, List.map_cons, putEntry, sameKey_text, ← Fields.named]
    by_cases same : other = name
    · subst same
      refine ⟨(other, value) :: rest, by simp [Fields.named], List.nodup_cons.2 distinct, ?_⟩
      intro entry inside
      exact (List.mem_cons.1 inside).elim .inr fun later => .inl (List.mem_cons_of_mem _ later)
    · obtain ⟨after, put, apart, origin⟩ := ih distinct.2
      refine ⟨(other, old) :: after, ?_, ?_, ?_⟩
      · rw [beq_false_of_ne same, if_neg Bool.false_ne_true, put]
        rfl
      · refine List.nodup_cons.2 ⟨fun inside => ?_, apart⟩
        obtain ⟨entry, member, there⟩ := List.mem_map.1 inside
        rcases origin entry member with before | rfl
        · exact distinct.1 (there ▸ List.mem_map_of_mem before)
        · exact same there.symm
      · intro entry inside
        rcases List.mem_cons.1 inside with rfl | later
        · exact .inl List.mem_cons_self
        · exact (origin entry later).imp_left (List.mem_cons_of_mem _)

/-- By induction on further entries: put into a record they make a record, with what
is claimed of its values. -/
theorem foldl_putEntry_record {claim : Value → Prop} (entries : List (String × Value)) :
    ∀ {built : List (String × Value)}, (built.map Prod.fst).Nodup →
      (∀ entry ∈ built, claim entry.2) →
      (∀ entry ∈ entries, claim entry.2) →
        ∃ after, (Fields.named entries).foldl (fun built (key, value) => putEntry key value built)
            (Fields.named built) = Fields.named after ∧
          (after.map Prod.fst).Nodup ∧ ∀ entry ∈ after, claim entry.2 := by
  induction entries with
  | nil => exact fun {built} distinct before _ => ⟨built, rfl, distinct, before⟩
  | cons first rest ih =>
    intro built distinct before all
    obtain ⟨here, others⟩ := List.forall_mem_cons.1 all
    obtain ⟨after, put, apart, origin⟩ := putEntry_record first.1 first.2 distinct
    show ∃ record,
      (Fields.named rest).foldl _ (putEntry (.text first.1) first.2 (Fields.named built)) =
      Fields.named record ∧ _
    rw [put]
    exact ih apart (fun entry inside => (origin entry inside).elim (before entry)
      fun same => same ▸ here) others

/-- A record without entries is JSON data. -/
theorem isJson_record_nil : (record []).IsJson :=
  @BuiltFrom.record _ [] List.nodup_nil nofun

/-- Entries under any names make up a record; the last of several entries under one name counts. -/
theorem dictOf_named_isJson {entries : List (String × Value)}
    (all : ∀ entry ∈ entries, entry.2.IsJson) :
    (dictOf (Fields.named entries)).IsJson := by
  obtain ⟨after, built, distinct, each⟩ :=
    @foldl_putEntry_record _ entries [] List.nodup_nil nofun all
  rw [dictOf, show ([] : List (Value × Value)) = Fields.named [] from rfl, built,
    ← Fields.record_eq]
  exact .record distinct each

end Value

namespace Json

/-! ### Documents -/

theorem isJson_of_literal? {text rest : List Char} {found : Value}
    (read : literal? text = some (found, rest)) : found.IsJson := by
  have each : ∀ entry ∈ words, entry.2.IsJson := by
    simp only [words, List.forall_mem_cons]
    exact ⟨.scalar .null, .scalar (.bool true), .scalar (.bool false), .scalar (.double .nan),
      .scalar (.double _), .scalar (.double _), List.forall_mem_nil _⟩
  obtain ⟨entry, member, here⟩ := List.exists_of_findSome?_eq_some read
  dsimp only at here
  split at here
  · obtain ⟨rfl, -⟩ := Prod.mk.inj (Option.some.inj here)
    exact each entry member
  · cases here

theorem isJson_of_number? {text rest : List Char} {found : Value}
    (read : number? text = some (.ok (found, rest))) : found.IsJson := by
  simp only [number?] at read
  split_ifs at read
  · cases read
  · cases read
    exact .scalar (.int _)
  · cases read
    exact .scalar (.double _)

theorem isJson_of_scalar {text rest : List Char} {found : Value}
    (read : scalar text = .ok (found, rest)) : found.IsJson := by
  unfold scalar at read
  split at read
  · obtain ⟨pair, -, same⟩ := map_eq_ok_iff.1 read
    obtain ⟨rfl, -⟩ := Prod.mk.inj same
    exact .scalar (.text _)
  · split at read
    · rename_i literal
      obtain rfl := Except.ok.inj read
      exact isJson_of_literal? literal
    · cases number : number? text with
      | none =>
        rw [number] at read
        cases read
      | some outcome =>
        rw [number, Option.getD_some] at read
        exact isJson_of_number? (read ▸ number)

/-- The readers of values, of the elements of a list and of the entries of a record give
JSON data with some fuel. -/
structure GiveJson (fuel : Nat) : Prop where
  value : ∀ {text found rest}, value fuel text = .ok (found, rest) → found.IsJson
  items : ∀ {text found rest}, items fuel text = .ok (found, rest) → ∀ item ∈ found, item.IsJson
  entries : ∀ {text found rest}, entries fuel text = .ok (found, rest) →
    ∃ named, found = Fields.named named ∧ ∀ entry ∈ named, entry.2.IsJson

section Steps

variable {fuel : Nat} {text rest : List Char}

/-- A value that is read with one more unit of fuel is JSON data. -/
theorem isJson_value_succ (before : GiveJson fuel) {found : Value}
    (read : value (fuel + 1) text = .ok (found, rest)) : found.IsJson := by
  unfold value at read
  split at read
  · split at read
    · cases read
      exact .list (List.forall_mem_nil _)
    · obtain ⟨⟨inside, more⟩, elements, same⟩ := map_eq_ok_iff.1 read
      cases same
      exact .list (before.items elements)
  · split at read
    · cases read
      exact Value.isJson_record_nil
    · obtain ⟨⟨inside, more⟩, fields, same⟩ := map_eq_ok_iff.1 read
      cases same
      obtain ⟨named, rfl, each⟩ := before.entries fields
      exact Value.dictOf_named_isJson each
  · exact isJson_of_scalar read

/-- Elements that are read with one more unit of fuel are JSON data. -/
theorem isJson_items_succ (before : GiveJson fuel) {found : List Value}
    (read : items (fuel + 1) text = .ok (found, rest)) : ∀ item ∈ found, item.IsJson := by
  simp only [items, bind_eq_ok_iff] at read
  obtain ⟨⟨first, behind⟩, one, read⟩ := read
  have here := before.value one
  dsimp only at read
  split at read
  · cases read
    exact List.forall_mem_singleton.2 here
  · simp only [bind_eq_ok_iff] at read
    obtain ⟨⟨others, more⟩, later, same⟩ := read
    cases same
    exact List.forall_mem_cons.2 ⟨here, before.items later⟩
  · cases read

/-- Entries that are read with one more unit of fuel are named JSON data. -/
theorem isJson_entries_succ (before : GiveJson fuel) {found : List (Value × Value)}
    (read : entries (fuel + 1) text = .ok (found, rest)) :
    ∃ named, found = Fields.named named ∧ ∀ entry ∈ named, entry.2.IsJson := by
  simp only [entries, bind_eq_ok_iff] at read
  obtain ⟨⟨name, behind⟩, -, read⟩ := read
  dsimp only at read
  split at read
  · simp only [bind_eq_ok_iff] at read
    obtain ⟨⟨first, behind⟩, one, read⟩ := read
    have here := before.value one
    dsimp only at read
    split at read
    · cases read
      exact ⟨[(name, first)], rfl, List.forall_mem_singleton.2 here⟩
    · simp only [bind_eq_ok_iff] at read
      obtain ⟨⟨others, more⟩, later, same⟩ := read
      cases same
      obtain ⟨named, rfl, each⟩ := before.entries later
      exact ⟨(name, first) :: named, rfl, List.forall_mem_cons.2 ⟨here, each⟩⟩
    · cases read
  · cases read

end Steps

/-- What is read with any fuel is JSON data. -/
theorem giveJson (fuel : Nat) : GiveJson fuel := by
  induction fuel with
  | zero =>
    refine ⟨fun read => ?_, fun read => ?_, fun read => ?_⟩
    · rw [value] at read
      cases read
    · rw [items] at read
      cases read
    · rw [entries] at read
      cases read
  | succ fuel ih => exact ⟨isJson_value_succ ih, isJson_items_succ ih, isJson_entries_succ ih⟩

theorem isJson_of_readChars {document : List Char} {found : Value}
    (read : readChars document = .ok found) : found.IsJson := by
  simp only [readChars, bind_eq_ok_iff] at read
  obtain ⟨⟨first, rest⟩, one, read⟩ := read
  dsimp only at read
  split at read
  · cases read
    exact (giveJson _).value one
  · cases read

/-- **What is read from a document is JSON data.** -/
theorem isJson_of_read {document : String} {found : Value} (read : Json.read document = .ok found) :
    found.IsJson := by
  unfold Json.read at read
  split at read
  · cases read
  · exact isJson_of_readChars (mapError_eq_ok_iff.1 read)

/-! ### Keys of objects -/

/-- Somewhere inside a value a dict has a key that no object of a document can have. What is held in
a set is not looked at: a set is written as one text. -/
inductive HoldsOddKey : Value → Prop
  | key {entries : List (Value × Value)} {entry : Value × Value} (inside : entry ∈ entries)
      (odd : isKey entry.1 = false) : HoldsOddKey (.dict entries)
  | value {entries : List (Value × Value)} {entry : Value × Value} (inside : entry ∈ entries)
      (deeper : HoldsOddKey entry.2) : HoldsOddKey (.dict entries)
  | list {items : List Value} {item : Value} (inside : item ∈ items) (deeper : HoldsOddKey item) :
      HoldsOddKey (.list items)
  | tuple {items : List Value} {item : Value} (inside : item ∈ items) (deeper : HoldsOddKey item) :
      HoldsOddKey (.tuple items)

theorem holdsOddKey_list_iff {items : List Value} :
    HoldsOddKey (.list items) ↔ ∃ item ∈ items, HoldsOddKey item := by
  refine ⟨fun odd => ?_, fun ⟨item, inside, deeper⟩ => .list inside deeper⟩
  cases odd with
  | list inside deeper => exact ⟨_, inside, deeper⟩

theorem holdsOddKey_tuple_iff {items : List Value} :
    HoldsOddKey (.tuple items) ↔ ∃ item ∈ items, HoldsOddKey item := by
  refine ⟨fun odd => ?_, fun ⟨item, inside, deeper⟩ => .tuple inside deeper⟩
  cases odd with
  | tuple inside deeper => exact ⟨_, inside, deeper⟩

theorem holdsOddKey_dict_iff {entries : List (Value × Value)} :
    HoldsOddKey (.dict entries) ↔
      ∃ entry ∈ entries, isKey entry.1 = false ∨ HoldsOddKey entry.2 := by
  refine ⟨fun odd => ?_, fun ⟨entry, inside, either⟩ => either.elim (.key inside) (.value inside)⟩
  cases odd with
  | key inside odd => exact ⟨_, inside, .inl odd⟩
  | value inside deeper => exact ⟨_, inside, .inr deeper⟩

/-- A document can be written of a value: no number in it is too long, and no
dict has an odd key. -/
def IsWritable (value : Value) : Prop := value.hasText = true ∧ ¬ HoldsOddKey value

/-- An entry of an object can be written. -/
def IsWritableEntry (entry : Value × Value) : Prop :=
  isKey entry.1 = true ∧ IsWritable entry.1 ∧ IsWritable entry.2

theorem checkWritableItems_eq_ok_iff {items : List Value} :
    checkWritableItems items = .ok () ↔ ∀ item ∈ items, checkWritable item = .ok () := by
  induction items with
  | nil => exact iff_of_true rfl nofun
  | cons item rest ih =>
    rw [checkWritableItems, check_bind_eq_ok_iff, List.forall_mem_cons, ← ih]

theorem checkWritableEntries_eq_ok_iff {entries : List (Value × Value)} :
    checkWritableEntries entries = .ok () ↔ ∀ entry ∈ entries,
      isKey entry.1 = true ∧ checkWritable entry.1 = .ok () ∧ checkWritable entry.2 = .ok () := by
  induction entries with
  | nil => exact iff_of_true rfl nofun
  | cons entry rest ih =>
    obtain ⟨key, value⟩ := entry
    rw [checkWritableEntries, List.forall_mem_cons, ← ih]
    cases isKey key with
    | true => simp [check_bind_eq_ok_iff, and_assoc]
    | false => simp

theorem isWritable_list_iff {items : List Value} :
    IsWritable (.list items) ↔ ∀ item ∈ items, IsWritable item := by
  rw [IsWritable, holdsOddKey_list_iff, Value.hasText, Value.haveTexts_iff]
  constructor
  · rintro ⟨texts, even⟩ item inside
    exact ⟨texts item inside, fun odd => even ⟨item, inside, odd⟩⟩
  · intro all
    refine ⟨fun item inside => (all item inside).1, ?_⟩
    rintro ⟨item, inside, odd⟩
    exact (all item inside).2 odd

theorem isWritable_tuple_iff {items : List Value} :
    IsWritable (.tuple items) ↔ ∀ item ∈ items, IsWritable item := by
  rw [IsWritable, holdsOddKey_tuple_iff, Value.hasText, Value.haveTexts_iff]
  constructor
  · rintro ⟨texts, even⟩ item inside
    exact ⟨texts item inside, fun odd => even ⟨item, inside, odd⟩⟩
  · intro all
    refine ⟨fun item inside => (all item inside).1, ?_⟩
    rintro ⟨item, inside, odd⟩
    exact (all item inside).2 odd

/-- A key of an object holds nothing. -/
theorem not_holdsOddKey_of_isKey {key : Value} (possible : isKey key = true) :
    ¬ HoldsOddKey key := by
  cases key with
  | null | bool _ | int _ | double _ | text _ => exact nofun
  | _ => cases possible

theorem isWritable_dict_iff {entries : List (Value × Value)} :
    IsWritable (.dict entries) ↔ ∀ entry ∈ entries, IsWritableEntry entry := by
  rw [IsWritable, holdsOddKey_dict_iff, Value.hasText, Value.entriesHaveTexts_iff]
  constructor
  · rintro ⟨texts, even⟩ entry inside
    have key : isKey entry.1 = true := by
      by_contra odd
      exact even ⟨entry, inside, .inl (Bool.eq_false_iff.2 odd)⟩
    exact ⟨key, ⟨(texts entry inside).1, not_holdsOddKey_of_isKey key⟩, (texts entry inside).2,
      fun odd => even ⟨entry, inside, .inr odd⟩⟩
  · intro all
    refine ⟨fun entry inside => ⟨(all entry inside).2.1.1, (all entry inside).2.2.1⟩, ?_⟩
    rintro ⟨entry, inside, odd | odd⟩
    · exact Bool.eq_false_iff.1 odd (all entry inside).1
    · exact (all entry inside).2.2.2 odd

/-- **A value can be written** unless a number in it is too long or a dict
inside it has an odd key. -/
theorem checkWritable_eq_ok_iff (value : Value) :
    checkWritable value = .ok () ↔ IsWritable value := by
  induction value using Value.induction_on_parts with
  | step value ih =>
    cases value with
    | list items =>
      rw [checkWritable, checkWritableItems_eq_ok_iff, isWritable_list_iff]
      exact forall₂_congr ih
    | tuple items =>
      rw [checkWritable, checkWritableItems_eq_ok_iff, isWritable_tuple_iff]
      exact forall₂_congr ih
    | dict entries =>
      rw [checkWritable, checkWritableEntries_eq_ok_iff, isWritable_dict_iff]
      exact forall₂_congr fun entry inside => and_congr_right fun _ =>
        and_congr (ih _ (Value.key_mem_parts inside)) (ih _ (Value.value_mem_parts inside))
    | _ =>
      refine Iff.trans ?_ (and_iff_left (fun odd => nomatch odd)).symm
      simp [checkWritable]

/-! ### What a value is refused for -/

/-- By induction on elements: they stop at the first that cannot be written. -/
theorem checkWritableItems_eq_error_iff {items : List Value} {failure : Failure} :
    checkWritableItems items = .error failure ↔
      StopsAt IsWritable (checkWritable · = .error failure) items := by
  induction items with
  | nil => exact iff_of_false nofun stopsAt_nil
  | cons item rest ih =>
    rw [checkWritableItems, bind_eq_error_iff, stopsAt_cons, ← ih, ← checkWritable_eq_ok_iff]
    exact or_congr_right ⟨fun ⟨_, here, later⟩ => ⟨here, later⟩,
      fun ⟨here, later⟩ => ⟨(), here, later⟩⟩

/-- What keeps an entry from being written. -/
def EntryFails (failure : Failure) (entry : Value × Value) : Prop :=
  isKey entry.1 = false ∧
      failure = .unwritable ("keys must be str, int, float, bool or None, not " ++
        entry.1.kindName) ∨
    isKey entry.1 = true ∧ (checkWritable entry.1 = .error failure ∨
      checkWritable entry.1 = .ok () ∧ checkWritable entry.2 = .error failure)

/-- By induction on entries: they stop at the first that cannot be written. -/
theorem checkWritableEntries_eq_error_iff {entries : List (Value × Value)} {failure : Failure} :
    checkWritableEntries entries = .error failure ↔
      StopsAt IsWritableEntry (EntryFails failure) entries := by
  induction entries with
  | nil => exact iff_of_false nofun stopsAt_nil
  | cons entry rest ih =>
    obtain ⟨key, value⟩ := entry
    rw [checkWritableEntries, stopsAt_cons, ← ih, EntryFails, IsWritableEntry,
      ← checkWritable_eq_ok_iff, ← checkWritable_eq_ok_iff]
    cases isKey key with
    | false => simp [eq_comm]
    | true =>
      rw [if_pos rfl, bind_eq_error_iff]
      simp only [bind_eq_error_iff]
      constructor
      · rintro (name | ⟨_, name, content | ⟨_, content, later⟩⟩)
        · exact .inl (.inr ⟨trivial, .inl name⟩)
        · exact .inl (.inr ⟨trivial, .inr ⟨name, content⟩⟩)
        · exact .inr ⟨⟨trivial, name, content⟩, later⟩
      · rintro ((⟨impossible, -⟩ | ⟨-, name | ⟨name, content⟩⟩) | ⟨⟨-, name, content⟩, later⟩)
        · cases impossible
        · exact .inl name
        · exact .inr ⟨(), name, .inl content⟩
        · exact .inr ⟨(), name, .inr ⟨(), content, later⟩⟩

/-- What a value that cannot be written is refused with. -/
theorem failure_of_checkWritable (value : Value) {failure : Failure}
    (failed : checkWritable value = .error failure) :
    failure = .value .tooManyDigits ∨ ∃ message, failure = .unwritable message := by
  induction value using Value.induction_on_parts with
  | step value ih =>
    cases value with
    | list items | tuple items =>
      obtain ⟨item, inside, broken⟩ := exists_of_stopsAt (checkWritableItems_eq_error_iff.1 failed)
      exact ih item inside broken
    | dict entries =>
      obtain ⟨entry, inside, broken⟩ :=
        exists_of_stopsAt (checkWritableEntries_eq_error_iff.1 failed)
      rcases broken with ⟨-, refused⟩ | ⟨-, name | ⟨-, content⟩⟩
      · exact .inr ⟨_, refused⟩
      · exact ih entry.1 (Value.key_mem_parts inside) name
      · exact ih entry.2 (Value.value_mem_parts inside) content
    | _ =>
      simp only [checkWritable] at failed
      split at failed
      · cases failed
      · exact .inl (Except.error.inj failed).symm

/-- Going through a value, the first thing that cannot be written is a key of a dict. -/
inductive StopsAtKey : Value → Prop
  | list {before behind : List Value} {item : Value}
    (written : ∀ earlier ∈ before, IsWritable earlier)
      (stops : StopsAtKey item) : StopsAtKey (.list (before ++ item :: behind))
  | tuple {before behind : List Value} {item : Value}
    (written : ∀ earlier ∈ before, IsWritable earlier)
      (stops : StopsAtKey item) : StopsAtKey (.tuple (before ++ item :: behind))
  | key {before behind : List (Value × Value)} {entry : Value × Value}
      (written : ∀ earlier ∈ before, IsWritableEntry earlier) (odd : isKey entry.1 = false) :
      StopsAtKey (.dict (before ++ entry :: behind))
  | content {before behind : List (Value × Value)} {entry : Value × Value}
      (written : ∀ earlier ∈ before, IsWritableEntry earlier)
      (named : isKey entry.1 = true ∧ IsWritable entry.1) (stops : StopsAtKey entry.2) :
      StopsAtKey (.dict (before ++ entry :: behind))

/-- Writing a value is refused for a key that it comes to. -/
def RefusesKey (value : Value) : Prop :=
  ∃ message, checkWritable value = .error (.unwritable message)

theorem not_refusesKey_of_isKey {key : Value} (possible : isKey key = true) : ¬ RefusesKey key := by
  rintro ⟨message, refused⟩
  cases key with
  | null | bool _ | int _ | double _ | text _ =>
    simp only [checkWritable] at refused
    split at refused <;> cases refused
  | _ => cases possible

/-- What stops at a key holds an odd one. -/
theorem holdsOddKey_of_stopsAtKey {value : Value} (stops : StopsAtKey value) :
    HoldsOddKey value := by
  induction stops with
  | list written stops ih => exact .list (List.mem_append_right _ List.mem_cons_self) ih
  | tuple written stops ih => exact .tuple (List.mem_append_right _ List.mem_cons_self) ih
  | key written odd => exact .key (List.mem_append_right _ List.mem_cons_self) odd
  | content written named stops ih => exact .value (List.mem_append_right _ List.mem_cons_self) ih

/-- What stops at a key is refused because of it. -/
theorem refusesKey_of_stopsAtKey {value : Value} (stops : StopsAtKey value) : RefusesKey value := by
  induction stops with
  | list written stops ih =>
    obtain ⟨message, refused⟩ := ih
    exact ⟨message, checkWritableItems_eq_error_iff.2 ⟨_, _, _, rfl, written, refused⟩⟩
  | tuple written stops ih =>
    obtain ⟨message, refused⟩ := ih
    exact ⟨message, checkWritableItems_eq_error_iff.2 ⟨_, _, _, rfl, written, refused⟩⟩
  | key written odd =>
    exact ⟨_, checkWritableEntries_eq_error_iff.2 ⟨_, _, _, rfl, written, .inl ⟨odd, rfl⟩⟩⟩
  | content written named stops ih =>
    obtain ⟨message, refused⟩ := ih
    exact ⟨message, checkWritableEntries_eq_error_iff.2
      ⟨_, _, _, rfl, written,
        .inr ⟨named.1, .inr ⟨(checkWritable_eq_ok_iff _).2 named.2, refused⟩⟩⟩⟩

/-- **A value is refused for a key** exactly when a key is the first thing in it
that cannot be written. -/
theorem refuses_key_iff (value : Value) : RefusesKey value ↔ StopsAtKey value := by
  refine ⟨fun refuses => ?_, refusesKey_of_stopsAtKey⟩
  induction value using Value.induction_on_parts with
  | step value ih =>
    obtain ⟨message, refused⟩ := refuses
    cases value with
    | list items =>
      obtain ⟨before, item, behind, rfl, written, here⟩ := checkWritableItems_eq_error_iff.1 refused
      exact .list written (ih item (List.mem_append_right _ List.mem_cons_self) ⟨message, here⟩)
    | tuple items =>
      obtain ⟨before, item, behind, rfl, written, here⟩ := checkWritableItems_eq_error_iff.1 refused
      exact .tuple written (ih item (List.mem_append_right _ List.mem_cons_self) ⟨message, here⟩)
    | dict entries =>
      obtain ⟨before, entry, behind, rfl, written, here⟩ :=
        checkWritableEntries_eq_error_iff.1 refused
      have inside : entry ∈ before ++ entry :: behind := List.mem_append_right _ List.mem_cons_self
      rcases here with ⟨odd, -⟩ | ⟨possible, name | ⟨name, content⟩⟩
      · exact .key written odd
      · exact absurd ⟨message, name⟩ (not_refusesKey_of_isKey possible)
      · exact .content written ⟨possible, (checkWritable_eq_ok_iff _).1 name⟩
          (ih entry.2 (Value.value_mem_parts inside) ⟨message, content⟩)
    | _ =>
      simp only [checkWritable] at refused
      split at refused <;> cases refused

/-- JSON data has no odd keys. -/
theorem not_holdsOddKey_of_isJson {value : Value} (json : value.IsJson) : ¬ HoldsOddKey value := by
  induction json with
  | scalar allowed => cases allowed <;> exact nofun
  | list _ ih =>
    intro odd
    cases odd with
    | list inside deeper => exact ih _ inside deeper
  | record _ _ ih =>
    intro odd
    cases odd with
    | key inside odd =>
      obtain ⟨entry, -, rfl⟩ := List.mem_map.1 inside
      cases odd
    | value inside deeper =>
      obtain ⟨entry, member, rfl⟩ := List.mem_map.1 inside
      exact ih entry member deeper

/-- JSON data never stops at a key. -/
theorem not_stopsAtKey_of_isJson {value : Value} (json : value.IsJson) : ¬ StopsAtKey value :=
  fun stops => not_holdsOddKey_of_isJson json (holdsOddKey_of_stopsAtKey stops)

end Json

end QueryDesk
