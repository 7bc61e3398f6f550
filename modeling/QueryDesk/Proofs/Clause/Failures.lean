/-
**Why a tree that is read from data is not compiled.**

* `Leaf.bound?_of_isData` — the conversion of data fails only at numbers that
  are too long to be written.
* `Sql.failure_of_compile` — **an operator without a word, or such a number, is the only failure.**
-/

import QueryDesk.Proofs.Clause.Compiled
import QueryDesk.Proofs.ConditionTree.Data
import QueryDesk.Proofs.Json.Data

namespace QueryDesk

/-! ### Conversions -/

namespace ColumnType

theorem convert?_of_isData (type : ColumnType) {value : Value} (data : value.IsData) :
    FailsUnwritten (type.convert? value) := by
  unfold convert?
  split_ifs
  · exact (Value.toNumber?_of_isData data).map some
  all_goals exact .of_ok _

theorem convert_of_isData (type : ColumnType) {value : Value} (data : value.IsData) :
    FailsUnwritten (type.convert value) := by
  refine (convert?_of_isData type data).bind fun converted => ?_
  cases converted <;> exact .of_ok _

end ColumnType

namespace Sql

theorem convertElement_of_isData (type : ColumnType) {item : Value} (data : item.IsData) :
    FailsUnwritten (convertElement type item) := by
  refine (ColumnType.convert?_of_isData type data).bind fun converted => ?_
  cases converted with
  | some converted => exact .of_ok _
  | none => exact (Value.failsUnwritten_written item).map Value.text

theorem convertElements_of_isData (type : ColumnType) {items : List Value}
    (data : ∀ item ∈ items, item.IsData) : FailsUnwritten (convertElements type items) := by
  induction items with
  | nil => exact .of_ok []
  | cons item rest ih =>
    obtain ⟨here, others⟩ := List.forall_mem_cons.1 data
    rw [convertElements]
    exact (convertElement_of_isData type here).bind fun first => (ih others).bind fun later =>
      .of_ok _

theorem isData_commaParts (text : List Char) : ∀ part ∈ commaParts text, part.IsData :=
  List.forall_mem_map.2 fun _ _ => Value.isData_of_no_parts rfl rfl

theorem isData_bracketElements (text : List Char) : ∀ item ∈ bracketElements text, item.IsData := by
  unfold bracketElements
  split
  · rename_i items read
    exact Value.isData_list_iff.1 (Value.isData_of_isJson (Json.isJson_of_readChars read))
  · exact isData_commaParts _

/-- The elements that data stands for as a list. -/
theorem isData_listElements {value : Value} (data : value.IsData) {items : List Value}
    (found : listElements value = .ok items) : ∀ item ∈ items, item.IsData := by
  unfold listElements at found
  split at found
  · rename_i inside elements
    cases found
    have kind := data.kind
    cases value with
    | list inside =>
      obtain rfl := Option.some.inj elements
      exact Value.isData_list_iff.1 data
    | tuple inside => cases kind
    | _ => cases elements
  · obtain ⟨written, -, rfl⟩ := map_eq_ok_iff.1 found
    dsimp only
    split
    · exact isData_bracketElements _
    · exact isData_commaParts _

theorem failsUnwritten_listElements (value : Value) : FailsUnwritten (listElements value) := by
  unfold listElements
  split
  · exact .of_ok _
  · exact (Value.failsUnwritten_written value).map _

theorem convertList?_of_isData (type : ColumnType) {value : Value} (data : value.IsData) :
    FailsUnwritten (convertList? type value) := by
  unfold convertList?
  split_ifs
  · exact .of_ok none
  · intro fault failed
    rcases bind_eq_error_iff.1 failed with here | ⟨items, found, later⟩
    · exact failsUnwritten_listElements value fault here
    · exact ((convertElements_of_isData type (isData_listElements data found)).map some) fault later

theorem failsUnwritten_likePattern (value : Value) (pattern : String → String) :
    FailsUnwritten (likePattern value pattern) := by
  unfold likePattern
  split_ifs
  · exact .of_ok _
  · exact (Value.failsUnwritten_written value).map _

theorem singleValue_of_isData (operator : String) (type : ColumnType) {value : Value}
    (data : value.IsData) :
    FailsUnwritten (singleValue operator type value) := by
  unfold singleValue
  split_ifs
  · exact failsUnwritten_likePattern value _
  · exact failsUnwritten_likePattern value _
  · exact ColumnType.convert_of_isData type data

theorem boundValues_of_isData (operator : String) (type : ColumnType) {value : Value}
    (data : value.IsData) :
    FailsUnwritten (boundValues operator type value) := by
  unfold boundValues
  split_ifs
  · exact .of_ok []
  · exact (convertList?_of_isData type data).map _
  · exact (convertList?_of_isData type data).map _
  · exact (singleValue_of_isData operator type data).map _

end Sql

theorem Leaf.bound?_of_isData (columns : Sql.ColumnTypes) {leaf : Leaf} (data : leaf.value.IsData) :
    FailsUnwritten (leaf.bound? columns) :=
  Sql.boundValues_of_isData _ _ data

/-! ### Failures -/

namespace Sql

variable {columns : ColumnTypes} {quote : Bool}

/-- **A tree that compares with data is not compiled only if an operator has no word**, or a number
that it compares with is too long to be written. -/
theorem failure_of_compile {indent : String} {position : Int} {tree : ConditionTree}
    (data : ∀ leaf ∈ tree.leaves, leaf.value.IsData) {failure : Failure}
    (failed : compile columns quote indent position tree = .error failure) :
    ∃ leaf ∈ tree.leaves, failure = .noSqlForm leaf.operator ∨ failure = .value .tooManyDigits := by
  obtain ⟨before, leaf, behind, parts, -, fails⟩ := compile_eq_error_iff.1 failed
  have inside : leaf ∈ tree.leaves := by simp [parts]
  refine ⟨leaf, inside, ?_⟩
  cases fails with
  | noWord missing => exact .inl rfl
  | noValue some_word broken =>
    exact .inr (congrArg Failure.value (leaf.bound?_of_isData columns (data leaf inside) _ broken))

end Sql

end QueryDesk
