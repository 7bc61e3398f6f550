/-
**Whole numbers with blank cells among them.**

A column of whole numbers with blanks is read as doubles, where a blank is not-a-number, and becomes
a column of whole numbers again. On the way a number is rounded to the nearest double, and the
smallest number of all, which stands for a blank as well, is taken for one.

* `Csv.signed?_toString` — a number is read from the digits it is written with.
* `Csv.infer_spelling` — numbers and blanks are held as doubles; `Csv.IsKept`,
  `Csv.toInt?_heldDouble_iff` — the numbers that come back from these, and
  `Csv.restored_eq_integers_iff` — a column of them.
* `Csv.length_cells_infer`, `Csv.getElem?_columns` — the columns of a text, one cell for each row.
* `Csv.WritesNumbers`, `Csv.HoldsNumbers` — a column of a text, and the column
  of a set that comes of it.
* `Csv.loads_numbers_iff` — **when blank cells do not change whole numbers.** They do change one of
  54 binary digits: `Csv.resultSet_changes_number`.
-/

import QueryDesk.Proofs.Json.Scalars
import QueryDesk.Proofs.Load.Table
import QueryDesk.Proofs.Number.Exact

namespace QueryDesk.Csv

open Text Json FrameColumn

/-! ### Numbers in cells -/

/-- Digits are read as the number they are written for. -/
theorem digitsUpTo_toDigits {largest number : Nat} (small : number ≤ largest) :
    digitsUpTo largest (Nat.toDigits 10 number) = .ok number := by
  have digits : ∀ c ∈ Nat.toDigits 10 number, isAsciiDigit c = true :=
    fun _ inside => isAsciiDigit_of_mem_toDigits inside
  have ends : ∀ c ∈ ([] : List Char).head?, isAsciiDigit c = false := nofun
  have whole := takeWhile_append_of_stop digits ends
  have behind := dropWhile_append_of_stop digits ends
  have some_digit : (Nat.toDigits 10 number).isEmpty = false := by simp [Nat.toDigits_ne_nil]
  rw [List.append_nil] at whole behind
  unfold digitsUpTo
  simp only [whole, behind, some_digit, readDigits_toDigits]
  rw [if_neg Bool.false_ne_true, if_neg (Nat.not_lt.2 small)]
  rfl

theorem isNumberBlank_of_isAsciiDigit {c : Char} (digit : isAsciiDigit c = true) :
    isNumberBlank c = false := by
  have least : 48 ≤ c.toNat := by
    simp only [isAsciiDigit, Bool.and_eq_true, decide_eq_true_eq] at digit
    exact digit.1
  unfold isNumberBlank
  rw [Bool.or_eq_false_iff, decide_eq_false_iff_not, Bool.and_eq_false_iff, decide_eq_false_iff_not,
    decide_eq_false_iff_not]
  refine ⟨?_, .inr (by omega)⟩
  rintro rfl
  exact absurd least (by decide)

/-- A whole number of 64 bits is read back from its digits. -/
theorem signed?_toString {number : Int} (fits : CanHold number) :
    signed? (toString number) = .ok number := by
  obtain ⟨low, high⟩ := fits
  unfold smallestInteger at low
  unfold largestSigned at high
  cases number with
  | ofNat size =>
    have small : size ≤ Nat.pow 2 63 - 1 := by
      have limit : Nat.pow 2 63 - 1 = 9223372036854775807 := rfl
      have bound := Int.toNat_le_toNat high
      rw [limit]
      exact bound
    obtain ⟨c, more, spelled, digit⟩ := toDigits_eq_cons size
    have visible := isNumberBlank_of_isAsciiDigit digit
    have read := digitsUpTo_toDigits small
    rw [spelled] at read
    unfold signed? skipBlanks
    rw [toList_toString_ofNat, spelled, List.dropWhile_cons_of_neg (by simp [visible])]
    split
    · rename_i minus
      obtain ⟨rfl, -⟩ := List.cons.inj minus
      cases digit
    · rename_i plus
      obtain ⟨rfl, -⟩ := List.cons.inj plus
      cases digit
    · rw [read]
      rfl
  | negSucc size =>
    have small : size + 1 ≤ Nat.pow 2 63 := by
      have limit : Nat.pow 2 63 = 9223372036854775808 := rfl
      omega
    unfold signed? skipBlanks
    rw [toList_toString_negSucc, List.dropWhile_cons_of_neg (by decide)]
    show (digitsUpTo (Nat.pow 2 63) (Nat.toDigits 10 (size + 1))).map (fun number =>
      -(number : Int)) = _
    rw [digitsUpTo_toDigits small]
    rfl

/-- No number stands for nothing. -/
theorem not_missing_toString {number : Int} (fits : CanHold number) :
    missingSpellings.contains (toString number) = false := by
  have unread : ∀ spelling ∈ missingSpellings, (signed? spelling).toOption = none := by
    decide +kernel
  rw [Bool.eq_false_iff]
  intro missing
  have none_read := unread _ (List.contains_iff_mem.1 missing)
  rw [signed?_toString fits] at none_read
  cases none_read

/-! ### Columns of whole numbers -/

/-- What a number is written as; a blank cell stands for a missing one. -/
def spelling (number : Option Int) : String := (number.map toString).getD ""

/-- The value of a number or of a missing one. -/
def valueOf (number : Option Int) : Value := (number.map Value.int).getD .null

/-- The double that stands for a number in a column with missing ones. -/
def heldDouble (number : Option Int) : Binary64 :=
  match number with
  | none => .nan
  | some number =>
    if Binary64.ofInt number = .ofInt smallestInteger then .nan else .ofInt number

/-- A number that stays what it is in a column with missing ones. -/
def IsKept (number : Int) : Prop := Binary64.IsExact number ∧ number ≠ smallestInteger

/-- Different doubles have different values. -/
theorem valueOf_injective : Function.Injective valueOf := by
  intro first second same
  cases first <;> cases second <;> cases same <;> rfl

/-- A number of 64 bits is below the first that needs more. -/
theorem natAbs_lt_of_canHold {number : Int} (fits : CanHold number) : number.natAbs < 2 ^ 64 := by
  obtain ⟨low, high⟩ := fits
  unfold smallestInteger at low
  unfold largestSigned at high
  omega

theorem canHold_smallestInteger : CanHold smallestInteger := by
  unfold CanHold smallestInteger largestSigned
  omega

theorem isExact_smallestInteger : Binary64.IsExact smallestInteger := ⟨1, 63, by decide, rfl⟩

/-- **A number comes back from the double that stands for it** exactly when it is kept. -/
theorem toInt?_heldDouble_iff {number : Int} (fits : CanHold number) :
    (heldDouble (some number)).toInt? = some number ↔ IsKept number := by
  have back := Binary64.toInt?_ofInt_iff (natAbs_lt_of_canHold fits)
  have smallest_back := (Binary64.toInt?_ofInt_iff (natAbs_lt_of_canHold canHold_smallestInteger)).2
    isExact_smallestInteger
  unfold heldDouble IsKept
  dsimp only
  split
  · rename_i same
    refine iff_of_false nofun ?_
    rintro ⟨exact, other⟩
    rw [← back, same, smallest_back] at exact
    exact other (Option.some.inj exact).symm
  · rename_i other
    rw [back]
    refine (and_iff_left fun same => other ?_).symm
    rw [same]

section Column

variable {numbers : List (Option Int)}

theorem present_spelling (fits : ∀ number, some number ∈ numbers → CanHold number) :
    present (numbers.map spelling) = numbers.map fun number => number.map toString := by
  unfold present
  rw [List.map_map]
  refine List.map_congr_left fun number inside => ?_
  cases number with
  | none => rfl
  | some number => exact if_neg (Bool.eq_false_iff.1 (not_missing_toString (fits number inside)))

/-- Numbers are read back from their spellings, and blanks as nothing. -/
theorem readPresent_spelling (fits : ∀ number, some number ∈ numbers → CanHold number) :
    readPresent signed? (numbers.map fun number => number.map toString) = .ok numbers := by
  induction numbers with
  | nil => rfl
  | cons number rest ih =>
    have others := ih fun number inside => fits number (List.mem_cons_of_mem _ inside)
    cases number with
    | none =>
      rw [List.map_cons, Option.map_none, readPresent, others]
      rfl
    | some number =>
      rw [List.map_cons, Option.map_some, readPresent,
        signed?_toString (fits number List.mem_cons_self), others]
      rfl

/-- Whole numbers with missing ones among them are held as doubles. -/
theorem infer_spelling (fits : ∀ number, some number ∈ numbers → CanHold number)
    (missing : none ∈ numbers) :
    infer (present (numbers.map spelling)) = .doubles (numbers.map heldDouble) := by
  have some_missing : ¬ numbers.all Option.isSome = true := by
    rw [List.all_eq_true]
    exact fun all => Bool.false_ne_true (all none missing)
  unfold infer
  rw [present_spelling fits, readPresent_spelling fits]
  dsimp only
  rw [if_neg some_missing]
  unfold asDoubles
  congr 1

/-- A cell that becomes a number has its value. -/
theorem toInt?_of_integerCell {cell : Binary64} {number : Option Int}
    (made : integerCell cell = .ok number) :
    cell.toInt? = number := by
  unfold integerCell at made
  cases value : cell.toInt? with
  | none =>
    rw [value] at made
    exact Except.ok.inj made
  | some found =>
    rw [value] at made
    dsimp only at made
    split_ifs at made
    exact Except.ok.inj made

/-- A cell whose value has 64 bits becomes a number. -/
theorem integerCell_of_canHold {cell : Binary64} {number : Int} (value : cell.toInt? = some number)
    (fits : CanHold number) : integerCell cell = .ok (some number) := by
  unfold integerCell
  rw [value]
  exact if_pos fits

theorem isNaN_eq_false_of_toInt? {double : Binary64} {number : Int}
    (value : double.toInt? = some number) :
    double.isNaN = false := by
  cases double with
  | nan => cases value
  | _ => rfl

/-- **A column of whole numbers is restored** exactly when each of them is kept. -/
theorem restored_eq_integers_iff (fits : ∀ number, some number ∈ numbers → CanHold number)
    (missing : none ∈ numbers) (some_number : ∃ number, some number ∈ numbers) :
    (doubles (numbers.map heldDouble)).restored = .ok (.integers numbers) ↔
      ∀ number, some number ∈ numbers → IsKept number := by
  constructor
  · intro restored number inside
    by_cases stand : StandForIntegers (numbers.map heldDouble)
    · rw [restored_doubles_of stand, map_eq_ok_iff] at restored
      obtain ⟨found, made, same⟩ := restored
      obtain rfl := integers.inj same
      rw [mapM_eq_ok_iff, List.forall₂_map_left_iff, List.forall₂_same] at made
      exact (toInt?_heldDouble_iff (fits number inside)).1 (toInt?_of_integerCell (made _ inside))
    · rw [restored_doubles_of_not stand] at restored
      cases restored
  · intro kept
    have back (number : Int) (inside : some number ∈ numbers) :
        (heldDouble (some number)).toInt? = some number :=
      (toInt?_heldDouble_iff (fits number inside)).2 (kept number inside)
    have stand : StandForIntegers (numbers.map heldDouble) := by
      refine ⟨⟨_, List.mem_map_of_mem missing, rfl⟩, ?_,
        List.forall_mem_map.2 fun number inside => ?_⟩
      · obtain ⟨number, inside⟩ := some_number
        exact ⟨_, List.mem_map_of_mem inside, isNaN_eq_false_of_toInt? (back number inside)⟩
      · cases number with
        | none => exact .inl rfl
        | some number =>
          refine .inr ?_
          unfold Binary64.isWhole
          rw [back number inside]
          rfl
    rw [restored_doubles_of stand, map_eq_ok_iff]
    refine ⟨numbers, ?_, rfl⟩
    rw [mapM_eq_ok_iff, List.forall₂_map_left_iff, List.forall₂_same]
    intro number inside
    cases number with
    | none => rfl
    | some number => exact integerCell_of_canHold (back number inside) (fits number inside)

/-- A column that shows whole numbers is a column of them. -/
theorem eq_integers_iff {column : FrameColumn} :
    column.type = .integer ∧ column.cells = numbers.map valueOf ↔ column = .integers numbers := by
  constructor
  · rintro ⟨type, cells⟩
    cases column with
    | integers found => exact congrArg integers (List.map_injective_iff.2 valueOf_injective cells)
    | _ => cases type
  · rintro rfl
    exact ⟨rfl, rfl⟩

end Column

/-! ### The columns of a text -/

/-- As many cells come out as go in. -/
theorem length_readPresent {ε α : Type} {read : String → Except ε α} {cells : List (Option String)}
    {found : List (Option α)} (made : readPresent read cells = .ok found) :
    found.length = cells.length := by
  induction cells generalizing found with
  | nil =>
    cases made
    rfl
  | cons cell rest ih =>
    cases cell with
    | none =>
      obtain ⟨others, later, rfl⟩ := map_eq_ok_iff.1 made
      rw [List.length_cons, List.length_cons, ih later]
    | some cell =>
      obtain ⟨first, -, made⟩ := bind_eq_ok_iff.1 made
      obtain ⟨others, later, same⟩ := bind_eq_ok_iff.1 made
      obtain rfl := Except.ok.inj same
      rw [List.length_cons, List.length_cons, ih later]

theorem length_cells_inferInexact (cells : List (Option String)) :
    (inferInexact cells).cells.length = cells.length := by
  unfold inferInexact
  split
  · rename_i doubles made
    obtain ⟨numbers, read, rfl⟩ := Option.map_eq_some_iff.1 made
    simpa [FrameColumn.cells] using length_of_mapM read
  · split
    · rename_i truths read
      split
      · simpa [FrameColumn.cells] using length_of_mapM read
      · simpa [FrameColumn.cells] using length_of_mapM read
    · simp [asTexts, FrameColumn.cells]

theorem length_cells_infer (cells : List (Option String)) :
    (infer cells).cells.length = cells.length := by
  unfold infer
  split
  · rename_i numbers read
    split
    · simpa [FrameColumn.cells] using length_readPresent read
    · simpa [FrameColumn.cells, asDoubles] using length_readPresent read
  · unfold inferUnsigned
    split
    · simp [asTexts, FrameColumn.cells]
    · exact length_cells_inferInexact cells
    · rename_i numbers read
      split
      · rename_i complete made
        simpa [FrameColumn.cells] using (length_of_mapM made).trans (length_readPresent read)
      · simp [asTexts, FrameColumn.cells]
  · exact length_cells_inferInexact cells

/-- How many cells of each row stand in front of the named ones. -/
def labels (header : List String) (rows : List (List String)) : Nat :=
  (rows.head?.map List.length).getD 0 - header.length

/-- Without declared types all columns are inferred. -/
theorem columns_undeclared {header : List String} {rows : List (List String)}
    (some_row : rows ≠ []) :
    columns [] header rows = (columnNames header).zipIdx.map fun entry =>
      (entry.1.name, infer (column rows (labels header rows + entry.2))) := by
  have inferred (named : List (HeaderName × List (Option String))) :
      declaredColumns? [] named = some (named.map fun entry => (entry.1.name, infer entry.2)) := by
    unfold declaredColumns?
    induction named with
    | nil => rfl
    | cons entry rest ih =>
      rw [List.mapM_cons, ih]
      rfl
  unfold columns
  extract_lets before named
  rw [List.isEmpty_eq_false_iff.2 some_row, if_neg Bool.false_ne_true, inferred, Option.getD_some,
    List.map_map]
  rfl

/-- The columns of a text have one cell for each row. -/
theorem length_cells_columns {header : List String} {rows : List (List String)}
    (some_row : rows ≠ []) :
    ∀ entry ∈ columns [] header rows, entry.2.cells.length = rows.length := by
  rw [columns_undeclared some_row]
  refine List.forall_mem_map.2 fun entry _ => ?_
  simp [length_cells_infer, column, present]

/-- The column at a place of the header. -/
theorem getElem?_columns {header : List String} {rows : List (List String)} (some_row : rows ≠ [])
    {place : Nat} (inside : place < header.length) :
    ∃ name, (columns [] header rows)[place]? =
      some (name, infer (column rows (labels header rows + place))) := by
  rw [columns_undeclared some_row]
  have within : place < (columnNames header).length := (length_columnNames header).symm ▸ inside
  exact ⟨(columnNames header)[place].name, by simp [List.getElem?_eq_getElem within]⟩

/-! ### Sets of a text -/

/-- A column that the header of a text names, in which only whole numbers of 64 bits and blank cells
stand, some of each. -/
structure WritesNumbers (header : List String) (rows : List (List String)) (place : Nat)
    (numbers : List (Option Int)) : Prop where
  inside : place < header.length
  spelled : rows.map (fun row => row[labels header rows + place]?.getD "") = numbers.map spelling
  fits : ∀ number, some number ∈ numbers → CanHold number
  missing : none ∈ numbers
  present : ∃ number, some number ∈ numbers

/-- A column of a set that is one of whole numbers and holds the given ones. -/
def HoldsNumbers (set : ResultSet) (place : Nat) (numbers : List (Option Int)) : Prop :=
  ∃ name, set.keys[place]? = some ⟨name, .integer, none⟩ ∧
    set.rows.map (·.cell name) = numbers.map valueOf

section Sets

variable {origin : Provenance} {text : String} {header : List String} {rows : List (List String)}
    {place : Nat}
  {numbers : List (Option Int)} {set : ResultSet}

theorem resultSet_undeclared (aligned : align text = .ok (header, rows)) :
    resultSet [] origin text = ResultSet.ofFrame (columns [] header rows) origin := by
  unfold resultSet
  rw [aligned]
  show (ResultSet.ofFrame (columns [] header rows) origin >>= fun set =>
    pure { set with keys := set.keys.map fun key => key }) = _
  cases ResultSet.ofFrame (columns [] header rows) origin with
  | error failure => rfl
  | ok set =>
    show Except.ok { set with keys := set.keys.map fun key => key } = _
    rw [List.map_id']

/-- A column with missing numbers has rows. -/
theorem WritesNumbers.some_row (written : WritesNumbers header rows place numbers) : rows ≠ [] := by
  rintro rfl
  have none_written := written.missing
  rw [List.map_eq_nil_iff.1 written.spelled.symm] at none_written
  cases none_written

/-- The set that is loaded holds the numbers when they are kept. -/
theorem WritesNumbers.holdsNumbers_iff (written : WritesNumbers header rows place numbers)
    (made : ResultSet.ofFrame (columns [] header rows) origin = .ok set) :
    HoldsNumbers set place numbers ↔ ∀ number, some number ∈ numbers → IsKept number := by
  obtain ⟨name, there⟩ := getElem?_columns written.some_row written.inside
  unfold column at there
  rw [written.spelled, infer_spelling written.fits written.missing] at there
  obtain ⟨done, restored, key, cells⟩ :=
    ResultSet.column_of_ofFrame (length_cells_columns written.some_row) made there
  rw [← restored_eq_integers_iff written.fits written.missing written.present, restored,
    Except.ok.injEq, ← eq_integers_iff]
  unfold HoldsNumbers
  rw [key]
  constructor
  · rintro ⟨_, same, held⟩
    obtain ⟨rfl, type, -⟩ := ResultKey.mk.inj (Option.some.inj same)
    exact ⟨type, cells.symm.trans held⟩
  · rintro ⟨type, held⟩
    exact ⟨name, by rw [type], cells.trans held⟩

/-- **Blank cells do not change whole numbers** exactly when each number beside them is a double
other than the smallest whole number, and no column of the text has doubles out of reach that
are taken for whole numbers. -/
theorem loads_numbers_iff (aligned : align text = .ok (header, rows))
    (written : WritesNumbers header rows place numbers) :
    (∃ set, resultSet [] origin text = .ok set ∧ HoldsNumbers set place numbers) ↔
      (∀ number, some number ∈ numbers → IsKept number) ∧ ¬ Overflows [] text := by
  constructor
  · rintro ⟨set, loaded, held⟩
    have made : ResultSet.ofFrame (columns [] header rows) origin = .ok set :=
      (resultSet_undeclared aligned).symm.trans loaded
    exact ⟨(written.holdsNumbers_iff made).1 held, fun overflows =>
      absurd (escapes_resultSet_iff.2 overflows) (loaded ▸ not_escapes_ok set)⟩
  · rintro ⟨kept, fit⟩
    have distinct := (columns_spec [] header rows).1 ▸ columnNames_nodup header
    obtain ⟨set, made⟩ : ∃ set, ResultSet.ofFrame (columns [] header rows) origin = .ok set :=
      ResultSet.exists_ofFrame distinct fun column inside overflows =>
        fit ⟨header, rows, aligned, column, inside, overflows⟩
    exact ⟨set, (resultSet_undeclared aligned).trans made, (written.holdsNumbers_iff made).2 kept⟩

/-- A number and a blank cell below it. -/
theorem writesNumbers_pair {number : Int} (fits : CanHold number) :
    WritesNumbers ["id", "amount"] [["1", toString number], ["2", ""]] 1 [some number, none] where
  inside := by decide
  spelled := rfl
  fits other inside := by
    rcases List.mem_cons.1 inside with same | inside
    · exact Option.some.inj same ▸ fits
    · cases List.mem_singleton.1 inside
  missing := List.mem_cons_of_mem _ List.mem_cons_self
  present := ⟨number, List.mem_cons_self⟩

/-- The number ten is kept beside a blank cell. -/
theorem loads_numbers_iff_of_ten :
    align "id,amount\n1,10\n2,\n" = .ok (["id", "amount"], [["1", "10"], ["2", ""]]) ∧
      ∃ set, resultSet [] .unknown "id,amount\n1,10\n2,\n" = .ok set ∧
        HoldsNumbers set 1 [some 10, none] := by
  have fits : CanHold 10 := ⟨by decide, by decide⟩
  refine ⟨rfl, (loads_numbers_iff rfl (writesNumbers_pair fits)).2 ⟨fun number inside => ?_, ?_⟩⟩
  · rcases List.mem_cons.1 inside with same | inside
    · exact Option.some.inj same ▸ ⟨⟨10, 0, by decide, rfl⟩, by decide⟩
    · cases List.mem_singleton.1 inside
  · intro overflows
    have failed : Escapes (resultSet [] .unknown "id,amount\n1,10\n2,\n") :=
      escapes_resultSet_iff.2 overflows
    exact not_escapes_ok _ failed

/-- **A number of 54 binary digits is changed** by a blank cell beside it. -/
theorem resultSet_changes_number :
    align "id,amount\n1,9007199254740993\n2,\n" =
      .ok (["id", "amount"], [["1", "9007199254740993"], ["2", ""]]) ∧
      WritesNumbers ["id", "amount"] [["1", "9007199254740993"], ["2", ""]] 1
        [some 9007199254740993, none] ∧
      ∃ set, resultSet [] .unknown "id,amount\n1,9007199254740993\n2,\n" = .ok set ∧
        set.rows.map (·.cell "amount") = [.int 9007199254740992, .null] := by
  have fits : CanHold 9007199254740993 := ⟨by decide, by decide⟩
  exact ⟨rfl, writesNumbers_pair fits, _, rfl, rfl⟩

end Sets

end QueryDesk.Csv
