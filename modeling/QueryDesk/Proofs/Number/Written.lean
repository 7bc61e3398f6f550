/-
**Whole numbers are read back from what they are written as.**

* `IsFigure` — the characters of a whole number: digits and a minus;
  `forall_mem_toString` — it has no others.
* `Numeral.chars?_of_figures` — no blank, underscore or digit of another script is among them, so
  reading takes them as they are.
* `Numeral.int?_toString` — **a whole number that is short enough to be written** is read back.
-/

import QueryDesk.Proofs.Json.Scalars
import QueryDesk.Proofs.Text.Parts

namespace QueryDesk

open Text

/-- A character that whole numbers are written with. -/
def IsFigure (c : Char) : Prop := isAsciiDigit c = true ∨ c = '-'

/-- What holds of the ten digits and of a minus holds of every such character. -/
theorem forall_of_isFigure (claim : Char → Prop)
    (each : ∀ value < 10, claim (Char.ofNat (48 + value)))
    (minus : claim '-') {c : Char} (figure : IsFigure c) : claim c := by
  rcases figure with digit | rfl
  · obtain ⟨low, high⟩ : 48 ≤ c.toNat ∧ c.toNat ≤ 57 := by
      simpa [isAsciiDigit, Char.le_def, UInt32.le_iff_toNat_le] using digit
    have here := each (c.toNat - 48) (by omega)
    rwa [Nat.add_sub_cancel' low, Char.ofNat_toNat] at here
  · exact minus

theorem isBlank_of_isFigure {c : Char} (figure : IsFigure c) : isBlank c = false :=
  forall_of_isFigure (fun c => isBlank c = false) (by decide) rfl figure

theorem forall_mem_toString (number : Int) : ∀ c ∈ (toString number).toList, IsFigure c := by
  cases number with
  | ofNat size =>
    rw [Json.toList_toString_ofNat]
    exact fun c inside => .inl (Json.isAsciiDigit_of_mem_toDigits inside)
  | negSucc size =>
    rw [Json.toList_toString_negSucc]
    exact List.forall_mem_cons.2 ⟨.inr rfl,
      fun c inside => .inl (Json.isAsciiDigit_of_mem_toDigits inside)⟩

namespace Numeral

theorem plainChar_of_isFigure {c : Char} (figure : IsFigure c) : plainChar c = c :=
  forall_of_isFigure (fun c => plainChar c = c) (by decide) rfl figure

theorem joinGroups?_of_not_mem {text : List Char} (apart : '_' ∉ text) : ∀ before,
    joinGroups? before text = some text := by
  induction text with
  | nil => exact fun _ => rfl
  | cons c rest ih =>
    rw [List.mem_cons, not_or] at apart
    obtain ⟨here, behind⟩ := apart
    intro before
    rw [joinGroups?, ih behind]
    · rfl
    · exact fun same => here same.symm

/-- Figures are taken as they are. -/
theorem chars?_of_figures {text : String} (figures : ∀ c ∈ text.toList, IsFigure c) :
    chars? text = some text.toList := by
  have plain : text.toList.map plainChar = text.toList :=
    (List.map_congr_left fun c inside => plainChar_of_isFigure (figures c inside)).trans
      (List.map_id _)
  have apart : '_' ∉ text.toList := fun inside => by
    rcases figures '_' inside with digit | same
    · cases digit
    · cases same
  have unblank : ∀ c ∈ text.toList, isBlank c = false :=
    fun c inside => isBlank_of_isFigure (figures c inside)
  rw [chars?, plain, stripChars_of_ends (fun c first => unblank c (List.mem_of_mem_head? first))
    fun c last => unblank c (List.mem_of_mem_getLast? last), joinGroups?_of_not_mem apart]

/-- Few enough digits, behind a sign or not, are read as the number they are written for. -/
theorem int?_of_digits {text : String} {negative : Bool} {size : Nat}
    (figures : ∀ c ∈ text.toList, IsFigure c)
    (parts : splitSign text.toList = (negative, Nat.toDigits 10 size))
    (short : (Nat.toDigits 10 size).length ≤ maxDigits) :
    int? text = some (signed negative size) := by
  have digits : (Nat.toDigits 10 size).all isAsciiDigit = true :=
    List.all_eq_true.2 fun c inside => Json.isAsciiDigit_of_mem_toDigits inside
  have some_digit : (Nat.toDigits 10 size).isEmpty = false := by simp [Nat.toDigits_ne_nil]
  rw [int?, chars?_of_figures figures]
  simp only [Option.bind_eq_bind, Option.bind_some, parts, some_digit, digits, Nat.not_lt.2 short,
    readDigits_toDigits]
  rfl

/-- A digit is no sign. -/
theorem splitSign_of_digit {c : Char} (digit : isAsciiDigit c = true) (rest : List Char) :
    splitSign (c :: rest) = (false, c :: rest) := by
  unfold splitSign
  split
  · rename_i same
    obtain ⟨rfl, -⟩ := List.cons.inj same
    cases digit
  · rename_i same
    obtain ⟨rfl, -⟩ := List.cons.inj same
    cases digit
  · rfl

/-- **A whole number that is short enough to be written** is read back. -/
theorem int?_toString {number : Int} (writable : isWritable number = true) :
    int? (toString number) = some number := by
  have short (size : Nat) (same : number.natAbs = size) :
      (Nat.toDigits 10 size).length ≤ maxDigits := by
    rw [isWritable, decide_eq_true_eq, same] at writable
    rwa [← Nat.toList_repr, String.length_toList]
  have figures := forall_mem_toString number
  cases number with
  | ofNat size =>
    show _ = some (signed false size)
    refine int?_of_digits figures ?_ (short size rfl)
    obtain ⟨c, more, parts, digit⟩ := Json.toDigits_eq_cons size
    rw [Json.toList_toString_ofNat, parts]
    exact splitSign_of_digit digit more
  | negSucc size =>
    -- a minus is followed by the digits of the absolute value
    show _ = some (signed true (size + 1))
    refine int?_of_digits figures ?_ (short (size + 1) rfl)
    rw [Json.toList_toString_negSucc]
    rfl

end Numeral

end QueryDesk
