/-
**Result sets from documents.**

* `Records.IsRecord` — a value that can be gone through as a record is.
* `Records.Covers`, `Records.names_or` — the names of records: all their elements are among them, up
  to equality, unless a value is no record; by induction on the records.
* `ResultSet.escapes_ofRecordList_iff`, `ResultSet.escapes_ofDocument_iff` — **only a list with a
  value that is no record is not reported.**
* `ResultSet.holdsData_ofDocument` — the set of a document holds data.
-/

import QueryDesk.Load.Records
import QueryDesk.Proofs.Load.Table

namespace QueryDesk

namespace Records

/-- A value that can be gone through: the keys of a dict, the elements of a list, or
the characters of a text. -/
def IsRecord : Value → Prop
  | .dict _ => True
  | .list _ => True
  | .text _ => True
  | _ => False

instance : DecidablePred IsRecord := fun value => by
  cases value <;> unfold IsRecord <;> infer_instance

/-- What has the form of a record has elements. -/
theorem elements_of_isRecord {record : Value} (data : record.IsData) (formed : IsRecord record) :
    ∃ items, elements record = .ok items ∧ ∀ item ∈ items, item.IsData := by
  cases record with
  | dict entries =>
    refine ⟨_, rfl, List.forall_mem_map.2 fun entry inside => ?_⟩
    exact (Value.isData_dict_iff.1 data entry inside).1
  | list items => exact ⟨items, rfl, Value.isData_list_iff.1 data⟩
  | text content =>
    exact ⟨_, rfl, List.forall_mem_map.2 fun _ _ => Value.isData_of_no_parts rfl rfl⟩
  | _ => exact formed.elim

/-- Nothing else has. -/
theorem elements_of_not_isRecord {record : Value} (other : ¬ IsRecord record) :
    elements record = .error (.notIterable record.kindName) := by
  cases record with
  | dict entries => exact absurd trivial other
  | list items => exact absurd trivial other
  | text content => exact absurd trivial other
  | _ => rfl

/-! ### Names -/

/-- An item is among names, or equals one of them. -/
def Covers (names : List Value) (item : Value) : Prop :=
  item ∈ names ∨ ∃ name ∈ names, Value.equal name item = .ok true

theorem Covers.mono {names more : List Value} {item : Value} (covered : Covers names item)
    (kept : names ⊆ more) : Covers more item :=
  covered.imp (fun inside => kept inside) fun ⟨name, inside, same⟩ => ⟨name, kept inside, same⟩

/-- What has become of known names after others were added: none is lost, all of them are data, and
something is claimed of them. -/
structure Gathers (known : List Value) (claim : List Value → Prop) (names : List Value) : Prop where
  kept : known ⊆ names
  data : ∀ name ∈ names, name.IsData
  holds : claim names

/-- What is seen in a list equals one of its elements. -/
theorem equal_of_memberOf {value : Value} {items : List Value}
    (seen : value.memberOf items = .ok true) :
    ∃ item ∈ items, Value.equal item value = .ok true := by
  unfold Value.memberOf at seen
  induction items with
  | nil => cases seen
  | cons item rest ih =>
    simp only [Value.anyOf, bind_eq_ok_iff] at seen
    obtain ⟨same, here, seen⟩ := seen
    cases same with
    | true => exact ⟨item, List.mem_cons_self, here⟩
    | false =>
      obtain ⟨other, inside, found⟩ := ih seen
      exact ⟨other, List.mem_cons_of_mem item inside, found⟩

/-- A name that is data can be added, and then it is covered. -/
theorem addNew_of_isData {known : List Value} (all : ∀ name ∈ known, name.IsData) {item : Value}
    (data : item.IsData) :
    ∃ names, addNew known item = .ok names ∧ Gathers known (Covers · item) names := by
  obtain ⟨seen, searched⟩ := Value.memberOf_of_isData data all
  unfold addNew
  rw [searched]
  cases seen with
  | true =>
    refine ⟨known, rfl, List.Subset.refl known, all, .inr ?_⟩
    exact equal_of_memberOf searched
  | false =>
    refine ⟨known ++ [item], rfl, List.subset_append_left known [item], ?_, .inl ?_⟩
    · exact List.forall_mem_append.2 ⟨all, List.forall_mem_singleton.2 data⟩
    · exact List.mem_append_right known List.mem_cons_self

/-- By induction on names that are data: all of them can be added, and then they are covered. -/
theorem addAll_of_isData {items : List Value} (data : ∀ item ∈ items, item.IsData) :
    ∀ {known : List Value},
    (∀ name ∈ known, name.IsData) → ∃ names, items.foldlM addNew known = .ok names ∧
      Gathers known (fun names => ∀ item ∈ items, Covers names item) names := by
  induction items with
  | nil => exact fun {known} all => ⟨known, rfl, List.Subset.refl known, all, nofun⟩
  | cons item rest ih =>
    intro known all
    obtain ⟨here, others⟩ := List.forall_mem_cons.1 data
    obtain ⟨first, added, kept, dataOfFirst, covered⟩ := addNew_of_isData all here
    obtain ⟨names, rest_added, keptRest, dataOfAll, coveredRest⟩ := ih others dataOfFirst
    refine ⟨names, ?_, fun _ inside => keptRest (kept inside), dataOfAll, ?_⟩
    · rw [List.foldlM_cons, added]
      exact rest_added
    · exact List.forall_mem_cons.2 ⟨covered.mono keptRest, coveredRest⟩

/-- The names of records behind known ones. -/
def namesBehind (known : List Value) (records : List Value) : Except Failure (List Value) :=
  records.foldlM (fun known record => do (← elements record).foldlM addNew known) known

/-- **The names of records**: some value is no record, and this is not reported, or all
elements are among the names. -/
theorem names_or {records : List Value} (data : ∀ record ∈ records, record.IsData) :
    ∀ {known : List Value},
    (∀ name ∈ known, name.IsData) →
      (∃ record ∈ records, ¬ IsRecord record) ∧ Escapes (namesBehind known records) ∨
      (∀ record ∈ records, IsRecord record) ∧ ∃ names, namesBehind known records = .ok names ∧
        Gathers known (fun names => ∀ record ∈ records, ∀ items, elements record = .ok items →
          ∀ item ∈ items, Covers names item) names := by
  induction records with
  | nil => exact fun {known} all => .inr ⟨nofun, known, rfl, List.Subset.refl known, all, nofun⟩
  | cons record rest ih =>
    intro known all
    obtain ⟨here, others⟩ := List.forall_mem_cons.1 data
    have ran : namesBehind known (record :: rest) =
        elements record >>= fun items => items.foldlM addNew known >>= fun first =>
          namesBehind first rest := by
      rw [namesBehind, List.foldlM_cons, bind_assoc]
      rfl
    rw [ran]
    by_cases formed : IsRecord record
    · obtain ⟨items, found, dataOfItems⟩ := elements_of_isRecord here formed
      obtain ⟨first, added, kept, dataOfFirst, covered⟩ := addAll_of_isData dataOfItems all
      have reached : (elements record >>= fun items => items.foldlM addNew known >>= fun first =>
          namesBehind first rest) = namesBehind first rest := by
        rw [found]
        exact congrArg (· >>= fun first => namesBehind first rest) added
      rw [reached]
      rcases ih others dataOfFirst with
        ⟨⟨other, inside, broken⟩, escaped⟩ | ⟨formedRest, names, done, gathered⟩
      · exact .inl ⟨⟨other, List.mem_cons_of_mem record inside, broken⟩, escaped⟩
      · refine .inr ⟨List.forall_mem_cons.2 ⟨formed, formedRest⟩, names, done, ?_⟩
        refine ⟨fun _ inside => gathered.kept (kept inside), gathered.data, ?_⟩
        refine List.forall_mem_cons.2 ⟨fun items' again item inside => ?_, gathered.holds⟩
        obtain rfl := Except.ok.inj (found.symm.trans again)
        exact (covered item inside).mono gathered.kept
    · refine .inl ⟨⟨record, List.mem_cons_self, formed⟩, escapes_bind_iff.2 (.inl ?_)⟩
      rw [elements_of_not_isRecord formed]
      exact escapes_error_iff.2 rfl

/-! ### Entries -/

/-- What equals a text is this text. -/
theorem eq_text_of_covers {names : List Value}
    (texts : ∀ name ∈ names, ∃ content, name = .text content)
    {item : Value} (covered : Covers names item) : ∃ content, item = .text content := by
  rcases covered with inside | ⟨name, inside, same⟩
  · exact texts item inside
  · obtain ⟨content, rfl⟩ := texts name inside
    cases item with
    | text other => exact ⟨other, rfl⟩
    | _ => simp [Value.equal, Value.equalAtoms, Value.magnitude?] at same

/-- A record of texts has entries, or this is reported. -/
theorem not_escapes_entries {record : Value} (formed : IsRecord record)
    (texts : ∀ items, elements record = .ok items → ∀ item ∈ items, ∃ content,
      item = .text content) :
    ¬ Escapes (entries record) := by
  have pairs (place : Nat) (content : String) : ¬ Escapes (pair place (.text content)) := by
    rw [pair]
    split
    · exact not_escapes_ok _
    · rw [escapes_error_iff]
      exact Bool.false_ne_true.symm
  unfold entries
  split
  · exact not_escapes_ok _
  · cases found : elements record with
    | error failure =>
      -- records have elements
      cases record with
      | dict entries => cases found
      | list items => cases found
      | text content => cases found
      | _ => exact formed.elim
    | ok items =>
      refine not_escapes_bind (not_escapes_ok items) fun _ same => ?_
      obtain rfl := Except.ok.inj same
      refine not_escapes_bind (not_escapes_mapM fun numbered inside => ?_) fun made _ => ?_
      · obtain ⟨item, place⟩ := numbered
        obtain ⟨content, rfl⟩ := texts items found item (List.fst_mem_of_mem_zipIdx inside)
        exact pairs place content
      · split <;> exact not_escapes_pure _

theorem isData_pair {place : Nat} {element : Value} {found : Value × Value}
    (done : pair place element = .ok found) : found.1.IsData ∧ found.2.IsData := by
  unfold pair at done
  split at done
  · split at done
    · cases done
      exact ⟨Value.isData_of_no_parts rfl rfl, Value.isData_of_no_parts rfl rfl⟩
    · cases done
  · cases done

theorem isData_entries {record : Value} (data : record.IsData) {found : List (Value × Value)}
    (done : entries record = .ok found) : ∀ entry ∈ found, entry.2.IsData := by
  unfold entries at done
  split at done
  · cases done
    exact fun entry inside => (Value.isData_dict_iff.1 data entry inside).2
  · simp only [bind_eq_ok_iff] at done
    obtain ⟨items, -, pairs, made, done⟩ := done
    have all : ∀ entry ∈ pairs, entry.1.IsData ∧ entry.2.IsData := by
      intro entry inside
      obtain ⟨numbered, -, one⟩ := exists_of_mapM_eq_ok made inside
      exact isData_pair one
    have dict := Value.isData_dictOf all
    split at done
    · rename_i entries same
      rw [same] at dict
      obtain rfl := Except.ok.inj done
      exact fun entry inside => (Value.isData_dict_iff.1 dict entry inside).2
    · obtain rfl := Except.ok.inj done
      exact fun entry inside => (all entry inside).2

end Records

/-! ### Sets from records -/

namespace ResultSet

/-- A name that is taken for a column is a text. -/
theorem text_of_key {name : Value} {key : ResultKey}
    (done : (ResultKey.reading (.record [("name", name)])).orFail "RdhKey" = .ok key) :
    ∃ content, name = .text content := by
  rw [Checked.orFail_eq_ok_iff, Fields.record_eq] at done
  simp only [ResultKey.reading, Reading.record, Checked.fmap_eq, Checked.ap_eq,
    Checked.seq_eq_good_iff, Checked.map_eq_good_iff, Fields.required_eq_good_iff] at done
  obtain ⟨_, _, ⟨_, _, ⟨content, ⟨value, there, read⟩, -⟩, -⟩, -⟩ := done
  obtain rfl : name = value := Option.some.inj there
  exact ⟨content, Reading.text_eq_good_iff.1 read⟩

theorem mem_of_entriesOf {entries : List (Value × Value)} : ∀ {values : List (String × Value)},
    Reading.entriesOf Reading.anything entries = .good values →
      ∀ named ∈ values, ∃ entry ∈ entries, entry.2 = named.2 := by
  induction entries with
  | nil =>
    intro values read
    cases read
    exact nofun
  | cons entry rest ih =>
    intro values read
    simp only [Reading.entriesOf, Checked.seq_eq_good_iff, Checked.map_eq_good_iff,
      Checked.under_eq_good_iff] at read
    obtain ⟨_, others, ⟨one, ⟨_, value, ⟨name, -, rfl⟩, here, rfl⟩, rfl⟩, later, rfl⟩ := read
    refine List.forall_mem_cons.2 ⟨⟨entry, List.mem_cons_self, Checked.good.inj here⟩,
      fun named inside => ?_⟩
    obtain ⟨other, member, same⟩ := ih later named inside
    exact ⟨other, List.mem_cons_of_mem entry member, same⟩

/-- **A list of records**: only a value that is no record is not reported. -/
theorem escapes_ofRecordList_iff {records : List Value} (data : ∀ record ∈ records, record.IsData)
    (origin : Provenance) :
    Escapes (ofRecordList records origin) ↔ ∃ record ∈ records, ¬ Records.IsRecord record := by
  have ran : ofRecordList records origin = Records.namesBehind [] records >>= fun names =>
      names.mapM (fun name => (ResultKey.reading (.record [("name", name)])).orFail "RdhKey") >>=
        fun keys =>
      records.mapM Records.entries >>= fun found => ofRecords keys found origin := rfl
  rw [ran]
  rcases Records.names_or data (List.forall_mem_nil _) with
    ⟨broken, escaped⟩ | ⟨formed, names, done, gathered⟩
  · exact iff_of_true (escapes_bind_iff.2 (.inl escaped)) broken
  · refine iff_of_false ?_ fun ⟨record, inside, broken⟩ => broken (formed record inside)
    rw [done]
    refine not_escapes_bind (not_escapes_ok names) fun _ same => ?_
    obtain rfl := Except.ok.inj same
    refine not_escapes_bind (not_escapes_mapM fun name _ => not_escapes_orFail _ _)
      fun keys named => ?_
    have texts : ∀ name ∈ names, ∃ content, name = .text content := by
      intro name inside
      obtain ⟨key, -, one⟩ := succeeds_of_mapM named inside
      exact text_of_key one
    refine not_escapes_bind (not_escapes_mapM fun record inside => ?_) fun found _ => ?_
    · refine Records.not_escapes_entries (formed record inside) fun items elements item member => ?_
      exact Records.eq_text_of_covers texts
        (gathered.holds record inside items elements item member)
    · refine not_escapes_bind (not_escapes_mapM fun entries _ => ?_) fun _ _ => not_escapes_pure _
      rw [rowOfEntries, escapes_map_iff]
      exact not_escapes_orFail _ _

/-- A set made of records of data holds data. -/
theorem holdsData_ofRecords {keys : List ResultKey} {records : List (List (Value × Value))}
    (data : ∀ record ∈ records, ∀ entry ∈ record, entry.2.IsData) {origin : Provenance}
    {set : ResultSet} (made : ofRecords keys records origin = .ok set) : set.HoldsData := by
  simp only [ofRecords, bind_eq_ok_iff] at made
  obtain ⟨rows, read, same⟩ := made
  obtain rfl := Except.ok.inj same
  intro row inside named member
  obtain ⟨record, original, one⟩ := exists_of_mapM_eq_ok read inside
  obtain ⟨values, good, rfl⟩ := map_eq_ok_iff.1 one
  obtain ⟨entry, there, same⟩ :=
    mem_of_entriesOf (Checked.under_eq_good_iff.1 (Checked.orFail_eq_ok_iff.1 good)) named member
  exact same ▸ data record original entry there

/-- A set made of a list of data holds data. -/
theorem holdsData_ofRecordList {records : List Value} (data : ∀ record ∈ records, record.IsData)
    {origin : Provenance} {set : ResultSet} (made : ofRecordList records origin = .ok set) :
    set.HoldsData := by
  simp only [ofRecordList, bind_eq_ok_iff] at made
  obtain ⟨names, -, keys, -, found, entries, made⟩ := made
  refine holdsData_ofRecords (fun record inside => ?_) made
  obtain ⟨original, member, one⟩ := exists_of_mapM_eq_ok entries inside
  exact Records.isData_entries (data original member) one

theorem isData_of_row_reading {document : Value} (data : document.IsData) {row : Row}
    (read : Row.reading document = .good row) : ∀ named ∈ row.values, named.2.IsData := by
  cases document with
  | dict fields =>
    simp only [Row.reading, Reading.record, Checked.fmap_eq, Checked.ap_eq, Checked.seq_eq_good_iff,
      Checked.map_eq_good_iff] at read
    obtain ⟨_, marks, ⟨values, given, rfl⟩, -, rfl⟩ := read
    rcases Fields.read_of_defaulted given with rfl | ⟨entry, inside, read⟩
    · exact List.forall_mem_nil _
    · have dataOfEntry := (Value.isData_dict_iff.1 data entry inside).2
      cases here : entry.2 with
      | dict found =>
        rw [here] at read dataOfEntry
        intro named member
        obtain ⟨field, there, same⟩ := mem_of_entriesOf read named member
        exact same ▸ (Value.isData_dict_iff.1 dataOfEntry field there).2
      | _ =>
        rw [here] at read
        cases read
  | _ => cases read

/-- A set read from data holds data. -/
theorem holdsData_reading {document : Value} (data : document.IsData) {set : ResultSet}
    (read : ResultSet.reading document = .good set) : set.HoldsData := by
  cases document with
  | dict fields =>
    simp only [ResultSet.reading, Reading.record, Checked.fmap_eq, Checked.ap_eq,
      Checked.seq_eq_good_iff, Checked.map_eq_good_iff] at read
    obtain ⟨_, _, ⟨_, _, ⟨_, _, ⟨_, rows, ⟨keys, -, rfl⟩, given, rfl⟩, -, rfl⟩, -, rfl⟩, -,
      rfl⟩ := read
    rcases Fields.read_of_defaulted given with rfl | ⟨entry, inside, read⟩
    · exact List.forall_mem_nil _
    · have dataOfEntry := (Value.isData_dict_iff.1 data entry inside).2
      intro row member
      obtain ⟨part, there, one⟩ := exists_of_forall₂ (Reading.each_of_items read) member
      exact isData_of_row_reading (dataOfEntry.of_mem there) one
  | _ => cases read

/-- A document that is a list with a value that is no record. -/
def HoldsNoRecord (document : Value) : Prop :=
  ∃ records, document = .list records ∧ ∃ record ∈ records, ¬ Records.IsRecord record

variable {document : Value} {path : String} {origin : Option Provenance}

/-- **A document**: only a list with a value that is no record is not reported. -/
theorem escapes_ofDocument_iff (data : document.IsData) :
    Escapes (ofDocument path origin document) ↔ HoldsNoRecord document := by
  unfold ofDocument HoldsNoRecord
  split
  · rename_i records
    rw [escapes_ofRecordList_iff (Value.isData_list_iff.1 data)]
    simp
  · refine iff_of_false ?_ (by rintro ⟨records, same, -⟩; cases same)
    split
    · exact not_escapes_bind (not_escapes_orFail _ _) fun _ _ => not_escapes_pure _
    · rw [escapes_error_iff]
      exact nofun
  · rename_i other _
    refine iff_of_false ?_ (by rintro ⟨records, rfl, -⟩; exact other records rfl)
    rw [escapes_error_iff]
    exact nofun

/-- **The set of a document holds data.** -/
theorem holdsData_ofDocument (data : document.IsData) {set : ResultSet}
    (made : ofDocument path origin document = .ok set) : set.HoldsData := by
  unfold ofDocument at made
  split at made
  · exact holdsData_ofRecordList (Value.isData_list_iff.1 data) made
  · split at made
    · simp only [bind_eq_ok_iff] at made
      obtain ⟨read, done, same⟩ := made
      obtain rfl := Except.ok.inj same
      have held : read.HoldsData := holdsData_reading data (Checked.orFail_eq_ok_iff.1 done)
      exact held
    · cases made
  · cases made

end ResultSet

end QueryDesk
