/-
**What values become when they are bound.**

* `Value.NumberFails`, `Value.toNumber?_eq_error_iff` — the values whose
  conversion to a number fails.
* `ColumnType.Holds` — the values that a column of a converted type holds;
  `ColumnType.holds_of_convert?`, `ColumnType.convert?_of_holds` — a value becomes one of them or
  none, and stays as it is when it is one.
* `ColumnType.bindValue_exact` — **which values are not bound, and what becomes of the others.** A
  signalling not-a-number escapes the conversion: `ColumnType.bindValue_fails_at_signalling`.
-/

import QueryDesk.Proofs.Value.Conversion
import QueryDesk.Proofs.Value.Texts

namespace QueryDesk

namespace Value

/-! ### Numbers -/

/-- The values whose conversion to a number fails: a signalling not-a-number, and what holds a
number that is too long to be written. -/
inductive NumberFails : Value → Fault → Prop
  | signalling {number : Decimal} (signalling : number.isSignalling = true) :
      NumberFails (.decimal number) .invalidOperation
  | tooLong {value part : Value} (member : part ∈ value.parts) (long : part.HoldsLongNumber) :
      NumberFails value .tooManyDigits

/-- **A value is not converted to a number** only when comparing or writing it fails. -/
theorem toNumber?_eq_error_iff {value : Value} {fault : Fault} :
    value.toNumber? = .error fault ↔ value.NumberFails fault := by
  cases value with
  | null | bool _ | int _ | double _ =>
    refine iff_of_false nofun fun fails => ?_
    cases fails with
    | tooLong member _ => cases member
  | decimal number =>
    constructor
    · intro failed
      rw [toNumber?] at failed
      split at failed
      · cases failed
        exact .signalling ‹_›
      · cases failed
    · intro fails
      cases fails with
      | signalling signalling => exact if_pos signalling
      | tooLong member _ => cases member
  | _ =>
    unfold toNumber?
    rw [map_eq_error_iff, written_eq_error_iff, holdsLongNumber_iff]
    constructor
    · rintro ⟨rfl, ⟨number, impossible, -⟩ | ⟨part, member, long⟩⟩
      · cases impossible
      · exact .tooLong member long
    · intro fails
      cases fails with
      | tooLong member long => exact ⟨rfl, .inr ⟨_, member, long⟩⟩

end Value

namespace ColumnType

/-! ### Kinds -/

/-- The values that a column of a converted type holds: numbers other than not-a-number, truth
values, points in time or times of day. -/
inductive Holds (type : ColumnType) : Value → Prop
  | int (numeric : type.isNumericLike = true) (number : Int) : Holds type (.int number)
  | double (numeric : type.isNumericLike = true) {number : Binary64} (real : number.isNaN = false) :
      Holds type (.double number)
  | decimal (numeric : type.isNumericLike = true) {number : Decimal} (real : number.isNaN = false) :
      Holds type (.decimal number)
  | truth (boolean : type.isBooleanLike = true) (truth : Bool) : Holds type (.bool truth)
  | moment (datetime : type.isDatetimeLike = true) (moment : Datetime) :
    Holds type (.datetime moment)
  | clock (time : type.isTimeLike = true) (clock : Time) : Holds type (.time clock)

variable {type : ColumnType} {value result : Value}

theorem holds_numberOfText? (numeric : type.isNumericLike = true) {text : String}
    (found : Value.numberOfText? text = some result) : type.Holds result := by
  unfold Value.numberOfText? at found
  split at found
  · cases found
    exact .int numeric _
  · split at found
    · rename_i number _
      split at found
      · cases found
        refine .double numeric ?_
        cases number <;> first | rfl | contradiction
      · cases found
    · cases found

/-- A number that a value has become. -/
theorem holds_toNumber? (numeric : type.isNumericLike = true)
    (found : value.toNumber? = .ok (some result)) :
    type.Holds result := by
  cases value with
  | null | bool _ => cases found
  | int number =>
    cases found
    exact .int numeric number
  | double number =>
    rw [Value.toNumber?] at found
    split at found
    · cases found
    · cases found
      exact .double numeric (Bool.eq_false_iff.2 ‹_›)
  | decimal number =>
    rw [Value.toNumber?] at found
    split at found
    · cases found
    · split at found
      · cases found
      · cases found
        exact .decimal numeric (Bool.eq_false_iff.2 ‹_›)
  | _ =>
    unfold Value.toNumber? at found
    obtain ⟨text, -, read⟩ := map_eq_ok_iff.1 found
    exact holds_numberOfText? numeric read

theorem holds_toTruth? (boolean : type.isBooleanLike = true)
    (found : value.toTruth? = some result) :
    type.Holds result := by
  unfold Value.toTruth? at found
  split at found
  · cases found
    exact .truth boolean _
  · cases found
    exact .truth boolean false
  · cases found
    exact .truth boolean true
  · dsimp only at found
    split_ifs at found
    · cases found
      exact .truth boolean true
    · cases found
      exact .truth boolean false
  · cases found

theorem holds_toDatetime? (datetime : type.isDatetimeLike = true)
    (found : value.toDatetime? = some result) :
    type.Holds result := by
  unfold Value.toDatetime? at found
  split at found
  · cases found
    exact .moment datetime _
  · cases found
    exact .moment datetime _
  · split_ifs at found
    obtain ⟨moment, -, rfl⟩ := Option.map_eq_some_iff.1 found
    exact .moment datetime moment
  · cases found

theorem holds_toTime? (time : type.isTimeLike = true) (found : value.toTime? = some result) :
    type.Holds result := by
  unfold Value.toTime? at found
  split at found
  · cases found
    exact .clock time _
  · cases found
    exact .clock time _
  · dsimp only at found
    split_ifs at found
    split at found
    · cases found
      exact .clock time _
    · obtain ⟨moment, -, rfl⟩ := Option.map_eq_some_iff.1 found
      exact .clock time _
  · cases found

/-- **A conversion makes what the column holds.** -/
theorem holds_of_convert? (found : type.convert? value = .ok (some (some result))) :
    type.Holds result := by
  unfold convert? at found
  split_ifs at found with numeric boolean datetime time
  · obtain ⟨number, read, same⟩ := map_eq_ok_iff.1 found
    cases same
    exact holds_toNumber? numeric read
  · exact holds_toTruth? boolean (Option.some.inj (Except.ok.inj found))
  · exact holds_toDatetime? datetime (Option.some.inj (Except.ok.inj found))
  · exact holds_toTime? time (Option.some.inj (Except.ok.inj found))
  · cases found

/-- **What the column holds already stays as it is.** -/
theorem convert?_of_holds (held : type.Holds value) :
    type.convert? value = .ok (some (some value)) := by
  unfold convert?
  cases held with
  | int numeric number => exact if_pos numeric
  | double numeric real => rw [if_pos numeric, Value.toNumber?, real]; rfl
  | decimal numeric real =>
    rename_i number
    have quiet : number.isSignalling = false := by
      cases number with
      | nan => cases real
      | _ => rfl
    rw [if_pos numeric, Value.toNumber?, quiet, real]
    rfl
  | truth boolean truth =>
    have other : type.isNumericLike = false := by cases type <;> first | rfl | cases boolean
    rw [other, boolean]
    rfl
  | moment datetime moment =>
    have other : type.isNumericLike = false ∧ type.isBooleanLike = false := by
      cases type <;> first | exact ⟨rfl, rfl⟩ | cases datetime
    rw [other.1, other.2, datetime]
    rfl
  | clock time clock =>
    have other : type.isNumericLike = false ∧ type.isBooleanLike = false ∧
      type.isDatetimeLike = false := by
      cases type <;> first | exact ⟨rfl, rfl, rfl⟩ | cases time
    rw [other.1, other.2.1, other.2.2, time]
    rfl

/-! ### Binding -/

/-- What is bound for a value. A text column takes every value as it is, and so does another column
without a conversion but for an empty text, which is nothing there. A column with a conversion takes
nothing else than what it holds, and takes that as it is. -/
structure IsBound (type : ColumnType) (value bound : Value) : Prop where
  text : type.isTextLike = true → bound = value
  plain : type.isTextLike = false → type.converts = false → value ≠ .text "" → bound = value
  empty : type.isTextLike = false → value = .text "" → bound = .null
  held : type.converts = true → bound = .null ∨ type.Holds bound
  kept : type.Holds value → bound = value

theorem isBlankValue_iff : isBlankValue value = true ↔ value = .null ∨ value = .text "" := by
  cases value with
  | text content => simp [isBlankValue]
  | _ => simp [isBlankValue]

theorem isTextLike_of_converts (converts : type.converts = true) : type.isTextLike = false := by
  cases type <;> first | rfl | cases converts

theorem Holds.converts (held : type.Holds value) : type.converts = true := by
  unfold ColumnType.converts
  cases held with
  | int numeric | double numeric | decimal numeric => rw [numeric]; rfl
  | truth boolean => rw [boolean, Bool.or_true]; rfl
  | moment datetime => rw [datetime, Bool.or_true]; rfl
  | clock time => rw [time, Bool.or_true]

theorem Holds.not_blank (held : type.Holds value) : isBlankValue value = false := by
  cases held <;> rfl

theorem not_blank_of_numberFails {fault : Fault} (fails : value.NumberFails fault) :
    isBlankValue value = false := by
  cases fails with
  | signalling _ => rfl
  | tooLong member _ =>
    cases value with
    | null | text _ => cases member
    | _ => rfl

theorem convert_eq_error_iff {fault : Fault} :
    type.convert value = .error fault ↔ type.isNumericLike = true ∧ value.NumberFails fault := by
  have steps : type.convert value = .error fault ↔ type.convert? value = .error fault := by
    unfold convert
    rw [bind_eq_error_iff]
    refine or_iff_left ?_
    rintro ⟨converted, -, impossible⟩
    cases converted <;> cases impossible
  rw [steps]
  unfold convert?
  split_ifs with numeric
  · rw [map_eq_error_iff, Value.toNumber?_eq_error_iff, and_iff_right numeric]
  all_goals exact iff_of_false nofun fun fails => numeric fails.1

theorem converts_of_convert? {converted : Option (Option Value)}
    (found : type.convert? value = .ok converted) :
    type.converts = converted.isSome := by
  unfold convert? at found
  unfold converts
  split_ifs at found with numeric boolean datetime time
  · obtain ⟨number, -, rfl⟩ := map_eq_ok_iff.1 found
    rw [numeric]
    rfl
  · cases found
    rw [boolean, Bool.or_true]
    rfl
  · cases found
    rw [datetime, Bool.or_true]
    rfl
  · cases found
    rw [time, Bool.or_true]
    rfl
  · cases found
    rw [Bool.eq_false_iff.2 numeric, Bool.eq_false_iff.2 boolean, Bool.eq_false_iff.2 datetime,
      Bool.eq_false_iff.2 time]
    rfl

/-- What is bound for a text column. -/
theorem isBound_of_text (text : type.isTextLike = true) : IsBound type value value where
  text _ := rfl
  plain _ _ _ := rfl
  empty other := by rw [text] at other; cases other
  held converts := by rw [isTextLike_of_converts converts] at text; cases text
  kept _ := rfl

/-- What is bound for nothing and for an empty text. -/
theorem isBound_of_blank (other : type.isTextLike = false) (blank : isBlankValue value = true) :
    IsBound type value .null where
  text text := by rw [other] at text; cases text
  plain _ _ filled := by rw [(isBlankValue_iff.1 blank).resolve_right filled]
  empty _ _ := rfl
  held _ := .inl rfl
  kept held := by rw [held.not_blank] at blank; cases blank

/-- What is bound for any other value. -/
theorem isBound_of_convert {bound : Value} (other : type.isTextLike = false)
    (filled : isBlankValue value = false) (found : type.convert value = .ok bound) :
    IsBound type value bound := by
  obtain ⟨converted, made, same⟩ := bind_eq_ok_iff.1 found
  have asked := converts_of_convert? made
  refine ⟨fun text => ?_, fun _ plain _ => ?_, fun _ empty => ?_, fun converts => ?_,
    fun held => ?_⟩
  · rw [other] at text
    cases text
  · rw [plain] at asked
    cases converted with
    | some converted => cases asked
    | none => exact (Except.ok.inj same).symm
  · rw [isBlankValue_iff.2 (.inr empty)] at filled
    cases filled
  · rw [converts] at asked
    cases converted with
    | none => cases asked
    | some converted =>
      cases converted with
      | none => exact .inl (Except.ok.inj same).symm
      | some result => exact .inr ((Except.ok.inj same) ▸ holds_of_convert? made)
  · rw [convert?_of_holds held] at made
    cases made
    exact (Except.ok.inj same).symm

/-- **Binding a value** fails exactly where a column of numbers gets a signalling
not-a-number or a container that holds a number too long to be written, each with its own
fault. All other values are bound: as they are in columns without a conversion, and else as
what the column holds or as nothing. -/
theorem bindValue_exact (type : ColumnType) (value : Value) :
    (∀ fault, type.bindValue value = .error fault ↔ type.isNumericLike = true ∧
      value.NumberFails fault) ∧
      ∀ bound, type.bindValue value = .ok bound → IsBound type value bound := by
  unfold bindValue
  split_ifs with text blank
  · refine ⟨fun fault => iff_of_false nofun fun fails => ?_, fun bound found => ?_⟩
    · rw [isTextLike_of_converts (by unfold converts; rw [fails.1]; rfl)] at text
      cases text
    · cases found
      exact isBound_of_text text
  · refine ⟨fun fault => iff_of_false nofun fun fails => ?_, fun bound found => ?_⟩
    · rw [not_blank_of_numberFails fails.2] at blank
      cases blank
    · cases found
      exact isBound_of_blank (Bool.eq_false_iff.2 text) blank
  · refine ⟨fun fault => convert_eq_error_iff, fun bound found => ?_⟩
    exact isBound_of_convert (Bool.eq_false_iff.2 text) (Bool.eq_false_iff.2 blank) found

/-- **A signalling not-a-number is not bound.** -/
theorem bindValue_fails_at_signalling :
    integer.bindValue (.decimal (.nan true false 0)) = .error .invalidOperation := rfl

end ColumnType

end QueryDesk
