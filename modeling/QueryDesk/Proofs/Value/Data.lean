/-
**Data that documents can hold.**

Neither JSON nor YAML has tuples, decimals or times of day. Most faults of working with values come
from these, so with data from documents they do not occur.

* `Value.IsData` — data of the kinds that documents have, inside as well
  (`Value.isData_list_iff`, `Value.isData_dict_iff`).
* `Value.isData_dictOf` — a dict is data when its keys and values are.
* `Fields.read_of_defaulted`, `Reading.each_of_items` — where what is read comes from.
* `Value.not_equalityFails_of_isData`, `Value.memberOf_of_isData` — what cannot fail for data;
  `Value.toNumber?_of_isData`, `RowKey.check_of_isData` — what can fail only where a number is too
  long to be written (`FailsUnwritten`).
-/

import QueryDesk.Proofs.Matching.KeyClass
import QueryDesk.Proofs.Outcomes
import QueryDesk.Proofs.Reading.Records
import QueryDesk.Proofs.Search
import QueryDesk.Proofs.Value.Reflexivity
import QueryDesk.Proofs.Value.Texts
import QueryDesk.Value.Coercion

namespace QueryDesk

namespace Value

/-- Whether documents have values of this kind. -/
def isOfDocument : Value → Bool
  | .tuple _ => false
  | .decimal _ => false
  | .time _ => false
  | _ => true

/-- Data that a document can hold: it and everything inside it is of a kind that documents have. -/
inductive IsData : Value → Prop
  | intro {value : Value} (kind : value.isOfDocument = true)
      (inside : ∀ part ∈ value.parts, IsData part) : IsData value

theorem IsData.kind {value : Value} (data : value.IsData) : value.isOfDocument = true := by
  cases data with
  | intro kind _ => exact kind

theorem IsData.of_mem {value part : Value} (data : value.IsData) (inside : part ∈ value.parts) :
    part.IsData := by
  cases data with
  | intro _ all => exact all part inside

/-- A value without parts is data when it is of a kind that documents have. -/
theorem isData_of_no_parts {value : Value} (kind : value.isOfDocument = true)
    (bare : value.parts = []) : value.IsData :=
  ⟨kind, fun _ inside => absurd (bare ▸ inside) List.not_mem_nil⟩

theorem isData_list_iff {items : List Value} : (list items).IsData ↔ ∀ item ∈ items, item.IsData :=
  ⟨fun data _ inside => data.of_mem inside, fun all => ⟨rfl, all⟩⟩

theorem isData_dict_iff {entries : List (Value × Value)} :
    (dict entries).IsData ↔ ∀ entry ∈ entries, entry.1.IsData ∧ entry.2.IsData := by
  constructor
  · intro data entry inside
    exact ⟨data.of_mem (key_mem_parts inside), data.of_mem (value_mem_parts inside)⟩
  · refine fun all => ⟨rfl, fun part inside => ?_⟩
    obtain ⟨entry, member, either⟩ := List.mem_flatMap.1 inside
    rcases List.mem_pair.1 either with rfl | rfl
    · exact (all entry member).1
    · exact (all entry member).2

/-- What JSON documents hold is data. -/
theorem isData_of_isJson {value : Value} (json : value.IsJson) : value.IsData := by
  induction json with
  | scalar allowed => cases allowed <;> exact isData_of_no_parts rfl rfl
  | list _ each => exact isData_list_iff.2 each
  | record _ _ each =>
    refine isData_dict_iff.2 (List.forall_mem_map.2 fun entry inside => ⟨?_, each entry inside⟩)
    exact isData_of_no_parts rfl rfl

/-! ### Dicts from entries -/

/-- A dict with one more entry has its keys and values from before and from the entry. -/
theorem forall_mem_putEntry {keys values : Value → Prop} {key value : Value} (ofKey : keys key)
    (ofValue : values value) {entries : List (Value × Value)}
    (before : ∀ entry ∈ entries, keys entry.1 ∧ values entry.2) :
    ∀ entry ∈ putEntry key value entries, keys entry.1 ∧ values entry.2 := by
  induction entries with
  | nil => exact List.forall_mem_singleton.2 ⟨ofKey, ofValue⟩
  | cons first rest ih =>
    obtain ⟨here, others⟩ := List.forall_mem_cons.1 before
    rw [putEntry]
    split
    · exact List.forall_mem_cons.2 ⟨⟨here.1, ofValue⟩, others⟩
    · exact List.forall_mem_cons.2 ⟨here, ih others⟩

theorem forall_mem_foldl_putEntry {keys values : Value → Prop} (entries : List (Value × Value)) :
    ∀ {built : List (Value × Value)}, (∀ entry ∈ built, keys entry.1 ∧ values entry.2) →
      (∀ entry ∈ entries, keys entry.1 ∧ values entry.2) →
        ∀ entry ∈ entries.foldl (fun built (key, value) => putEntry key value built) built,
          keys entry.1 ∧ values entry.2 := by
  induction entries with
  | nil => exact fun before _ => before
  | cons first rest ih =>
    intro built before all
    obtain ⟨here, others⟩ := List.forall_mem_cons.1 all
    exact ih (forall_mem_putEntry here.1 here.2 before) others

/-- A dict is data when its keys and values are. -/
theorem isData_dictOf {entries : List (Value × Value)}
    (all : ∀ entry ∈ entries, entry.1.IsData ∧ entry.2.IsData) : (dictOf entries).IsData :=
  isData_dict_iff.2 (forall_mem_foldl_putEntry entries nofun all)

end Value

/-! ### Where what is read comes from -/

theorem Value.mem_of_lookup? {name : String} {value : Value} {entries : List (Value × Value)}
    (found : lookup? name entries = some value) : ∃ entry ∈ entries, entry.2 = value := by
  induction entries with
  | nil => cases found
  | cons entry rest ih =>
    have later (found : lookup? name rest = some value) : ∃ other ∈ entry :: rest,
      other.2 = value := by
      obtain ⟨other, inside, same⟩ := ih found
      exact ⟨other, List.mem_cons_of_mem entry inside, same⟩
    obtain ⟨key, content⟩ := entry
    cases key with
    | text key =>
      rw [lookup?] at found
      split_ifs at found
      · exact ⟨_, List.mem_cons_self, Option.some.inj found⟩
      · exact later found
    | _ =>
      rw [lookup?] at found
      · exact later found
      · intro _ _ impossible
        cases impossible

/-- A field that may be missing is read from an entry, if it is there. -/
theorem Fields.read_of_defaulted {α : Type} {fields : Fields} {names : List String}
    {absent found : α}
    {read : Reading α} (done : fields.defaulted names absent read = .good found) :
    found = absent ∨ ∃ entry ∈ fields, read entry.2 = .good found := by
  unfold defaulted at done
  split at done
  · rename_i name value there
    obtain ⟨other, -, same⟩ := List.exists_of_findSome?_eq_some there
    obtain ⟨content, looked, same⟩ := Option.map_eq_some_iff.1 same
    cases same
    obtain ⟨entry, inside, rfl⟩ := Value.mem_of_lookup? looked
    exact .inr ⟨entry, inside, Checked.under_eq_good_iff.1 done⟩
  · exact .inl (Checked.good.inj done).symm

/-- The elements of a container that is read are its parts. -/
theorem Reading.each_of_items {α : Type} {read : Reading α} {document : Value} {results : List α}
    (found : Reading.items read document = .good results) :
    List.Forall₂ (fun item result => read item = .good result) document.parts results := by
  unfold Reading.items at found
  split at found
  · exact Checked.eachFrom_eq_good_iff.1 found
  · exact Checked.eachFrom_eq_good_iff.1 found
  · exact Checked.eachFrom_eq_good_iff.1 found
  · cases found

namespace Value

/-! ### What cannot fail -/

/-- Numbers of documents do not signal. -/
theorem isSignalling_of_isData {value : Value} (data : value.IsData) {place : Magnitude}
    (found : value.magnitude? = some place) : place.isSignalling = false := by
  have kind := data.kind
  cases value with
  | decimal number => cases kind
  | double number =>
    obtain rfl := Option.some.inj found
    exact Magnitude.isSignalling_ofDouble number
  | bool truth =>
    obtain rfl := Option.some.inj found
    rfl
  | int number =>
    obtain rfl := Option.some.inj found
    rfl
  | _ => cases found

/-- No equality test of data fails. -/
theorem not_equalityFails_of_isData {a b : Value} (fails : EqualityFails a b) :
    a.IsData → ¬ b.IsData :=
  not_equalityFails_of_hereditary (fun _ _ data inside => data.of_mem inside)
    (fun _ _ data found => isSignalling_of_isData data found) fails

/-- A search among data does not fail. -/
theorem memberOf_of_isData {value : Value} (data : value.IsData) {items : List Value}
    (all : ∀ item ∈ items, item.IsData) : ∃ seen, value.memberOf items = .ok seen := by
  cases searched : value.memberOf items with
  | ok seen => exact ⟨seen, rfl⟩
  | error fault =>
    obtain ⟨-, before, item, behind, rfl, -, fails⟩ :=
      (memberOf_eq_error_iff value items fault).1 searched
    have inside := all item (List.mem_append_right before List.mem_cons_self)
    exact absurd data (not_equalityFails_of_isData fails inside)

end Value

/-! ### Numbers that are too long -/

/-- A computation on values that fails with nothing but a number that is too long to be written. -/
def FailsUnwritten {α : Type} (outcome : Except Fault α) : Prop :=
  ∀ fault, outcome = .error fault → fault = .tooManyDigits

namespace FailsUnwritten

variable {α β : Type}

@[simp] theorem of_ok (result : α) : FailsUnwritten (.ok result) := nofun

theorem bind {first : Except Fault α} {next : α → Except Fault β} (one : FailsUnwritten first)
    (two : ∀ found, FailsUnwritten (next found)) : FailsUnwritten (first >>= next) := by
  intro fault failed
  rcases bind_eq_error_iff.1 failed with here | ⟨found, -, later⟩
  · exact one fault here
  · exact two found fault later

theorem map {outcome : Except Fault α} (change : α → β) (own : FailsUnwritten outcome) :
    FailsUnwritten (outcome.map change) :=
  fun fault failed => own fault (map_eq_error_iff.1 failed)

end FailsUnwritten

namespace Value

theorem failsUnwritten_written (value : Value) : FailsUnwritten value.written := by
  intro fault failed
  unfold written at failed
  split at failed
  · cases failed
  · exact (Except.error.inj failed).symm

/-- Data is turned into a number wherever it can be written. -/
theorem toNumber?_of_isData {value : Value} (data : value.IsData) :
    FailsUnwritten value.toNumber? := by
  have kind := data.kind
  cases value with
  | decimal number => cases kind
  | null | bool _ | int _ | double _ => exact .of_ok _
  | _ =>
    unfold toNumber?
    exact (failsUnwritten_written _).map numberOfText?

end Value

theorem Row.isOfDocument_cell (row : Row) (data : ∀ entry ∈ row.values, entry.2.IsData)
    (name : String) :
    (row.cell name).isOfDocument = true := by
  unfold Row.cell Row.cell?
  cases found : row.values.lookup name with
  | none => rfl
  | some value => exact (data _ (mem_of_lookup found)).kind

/-- The key of a row whose cells are data can be looked up, unless a text that it
is made of does not exist. -/
theorem RowKey.check_of_isData (key : CompareKey) {row : Row}
    (data : ∀ entry ∈ row.values, entry.2.IsData) :
    FailsUnwritten (RowKey.ofRow key row).check := by
  cases key with
  | composite origin names =>
    show FailsUnwritten (ofMade _ (cellTexts row names)).check
    by_cases texts : row.HasTexts names
    · rw [cellTexts_of_hasTexts texts]
      exact .of_ok ()
    · rw [cellTexts_of_not texts]
      exact fun fault failed => (Except.error.inj failed).symm
  | unique name =>
    have kind := row.isOfDocument_cell data name
    -- a container that can change is a key by its text
    have byText (value : Value) : FailsUnwritten
      (ofMade unique (value.written.map .text)).check := by
      cases written : value.written with
      | ok text => exact .of_ok ()
      | error fault =>
        exact fun other failed => (Except.error.inj failed) ▸ Value.failsUnwritten_written value
          fault written
    show FailsUnwritten (ofMade unique (keyValue (row.cell name))).check
    cases cell : row.cell name with
    | tuple items | decimal number =>
      rw [cell] at kind
      cases kind
    | list items | set items | dict entries => exact byText _
    | _ => exact .of_ok ()

/-- A row is not matched by a not-a-number. -/
def CompareKey.AvoidsNaN (key : CompareKey) (row : Row) : Prop :=
  ∀ name, key = .unique name → (row.cell name).isNaN = false

theorem Value.sameKey_self {value : Value} (bare : value.parts = [])
    (proper : value.isNaN = false) :
    sameKey value value = true := by
  have single : value.HasSingleKeys := by
    refine ⟨?_, fun part inside => absurd (bare ▸ inside) List.not_mem_nil⟩
    rintro (_ | ⟨entry, rest⟩) rfl
    · exact .nil
    · cases bare
  rw [sameKey, equal_self value ⟨proper, not_holdsNaN_of_no_parts bare⟩ single]

/-- A row whose cells are data is matched by a key that is the same as itself, so a search that
first asks for the very object finds the same rows. -/
theorem RowKey.same_self_of_isData {key : CompareKey} {row : Row}
    (data : ∀ entry ∈ row.values, entry.2.IsData)
    (read : (RowKey.ofRow key row).check = .ok ()) (proper : key.AvoidsNaN row) :
    (RowKey.ofRow key row).same (RowKey.ofRow key row) = true := by
  cases key with
  | composite origin names =>
    rw [ofRow] at read ⊢
    cases made : cellTexts row names with
    | ok texts => exact beq_self_eq_true (keySeparator.intercalate texts)
    | error fault =>
      rw [made] at read
      cases read
  | unique name =>
    have kind := row.isOfDocument_cell data name
    have own (value : Value) (bare : value.parts = []) (number : value.isNaN = false) :
        (RowKey.unique value).same (.unique value) = true := by
      rw [same, Value.sameKey_self bare number, beq_self_eq_true, Bool.true_and]
    have byText (value : Value) (found : (ofMade unique (value.written.map .text)).check = .ok ()) :
        (ofMade unique (value.written.map .text)).same (ofMade unique (value.written.map .text)) =
          true := by
      cases written : value.written with
      | ok text => exact own (.text text) rfl rfl
      | error fault =>
        rw [written] at found
        cases found
    have number := proper name rfl
    rw [ofRow] at read ⊢
    cases cell : row.cell name with
    | tuple items | decimal number =>
      rw [cell] at kind
      cases kind
    | list items | set items | dict entries =>
      rw [cell] at read
      exact byText _ read
    | null => exact own (.text "") rfl rfl
    | _ =>
      rw [cell] at number
      exact own _ rfl number

end QueryDesk
