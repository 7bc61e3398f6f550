/-
**A list of whole numbers is bound alike in each of its spellings.**

The value of an operator on lists is a list, a text of numbers between commas, or a text of a JSON
array. Each goes a way of its own through the compiler.

* `SpacedNumber` — a number with blanks around it; `stripChars_chars` — only its
  figures are left without them.
* `SpellsNumbers` — the three spellings of a list of numbers.
* `SpellsNumbers.listElements_eq` — what each spelling is taken apart into:
  numbers, or the texts of numbers.
* `SpellsNumbers.convertList?_eq` — both are converted to the same numbers.
* `BindsNumbers` — the values that an operator on lists binds for numbers.
* `compile_number_list` — **they are bound in the place of the comparison**, by
  itself and in every tree.
-/

import QueryDesk.Proofs.Clause.Compiled
import QueryDesk.Proofs.Json.RoundTrip
import QueryDesk.Proofs.Number.Written

namespace QueryDesk.Sql

open Text

/-! ### Numbers with blanks around them -/

/-- A whole number with blanks around it. -/
abbrev SpacedNumber := Json.Padded Int

namespace SpacedNumber

/-- The figures of a number. -/
def figures (number : Int) : List Char := (toString number).toList

/-- The text of a number with its blanks. -/
def chars (spaced : SpacedNumber) : List Char := Json.Padded.chars figures spaced

/-- The text of several numbers between commas. -/
def joined (spaced : List SpacedNumber) : List Char := Json.Padded.joined figures spaced

end SpacedNumber

/-- **The values that stand for a list of whole numbers**: the list itself, the numbers between
commas, and the text of the JSON array, with blanks around each number. -/
inductive SpellsNumbers : List Int → Value → Prop
  | list (numbers : List Int) : SpellsNumbers numbers (.list (numbers.map .int))
  | commas (spaced : List SpacedNumber) :
      SpellsNumbers (spaced.map (·.inner)) (.text (String.ofList (SpacedNumber.joined spaced)))
  | array (spaced : List SpacedNumber) {front back : List Char}
    (blankFront : ∀ c ∈ front, isBlank c = true)
      (blankBack : ∀ c ∈ back, isBlank c = true) :
      SpellsNumbers (spaced.map (·.inner))
        (.text (String.ofList (front ++ ('[' :: (SpacedNumber.joined spaced ++ [']']) ++ back))))

theorem isBlank_of_isGap {c : Char} (gap : Json.isGap c = true) : isBlank c = true := by
  simp only [Json.isGap, Bool.or_eq_true, beq_iff_eq] at gap
  rcases gap with ((rfl | rfl) | rfl) | rfl <;> rfl

namespace SpacedNumber

/-- Without the blanks around it, a number is its figures. -/
theorem stripChars_chars (spaced : SpacedNumber) :
    stripChars spaced.chars = figures spaced.inner := by
  have solid : ∀ c ∈ figures spaced.inner, isBlank c = false := fun c inside =>
    isBlank_of_isFigure (forall_mem_toString spaced.inner c inside)
  rw [chars, Json.Padded.chars,
    stripChars_blanks_append fun c inside => isBlank_of_isGap (spaced.gapsBefore c inside),
    stripChars_append_blanks fun c inside => isBlank_of_isGap (spaced.gapsBehind c inside)]
  exact stripChars_of_ends (fun c first => solid c (List.mem_of_mem_head? first))
    fun c last => solid c (List.mem_of_mem_getLast? last)

/-- A number with its blanks has blanks and figures only. -/
theorem isBlank_or_isFigure_of_mem_chars {spaced : SpacedNumber} {c : Char}
    (inside : c ∈ spaced.chars) :
    isBlank c = true ∨ IsFigure c := by
  rw [chars, Json.Padded.chars, List.mem_append, List.mem_append] at inside
  rcases inside with before | figure | behind
  · exact .inl (isBlank_of_isGap (spaced.gapsBefore c before))
  · exact .inr (forall_mem_toString spaced.inner c figure)
  · exact .inl (isBlank_of_isGap (spaced.gapsBehind c behind))

theorem not_mem_chars {c : Char} (solid : isBlank c = false) (other : ¬ IsFigure c)
    (spaced : SpacedNumber) :
    c ∉ spaced.chars := fun inside => by
  rcases isBlank_or_isFigure_of_mem_chars inside with blank | figure
  · rw [solid] at blank
    cases blank
  · exact other figure

theorem bracket_not_mem_joined (spaced : List SpacedNumber) : '[' ∉ joined spaced := by
  have apart := not_mem_chars (c := '[') (by decide) (by simp [IsFigure, isAsciiDigit])
  cases spaced with
  | nil => exact List.not_mem_nil
  | cons first rest =>
    rw [joined, Json.Padded.joined_cons]
    simpa using ⟨apart first, fun other _ => apart other⟩

end SpacedNumber

/-! ### The elements of a spelling -/

/-- The elements of a text: those of the array in brackets, else its parts between commas. -/
theorem listElements_text (text : List Char) :
    listElements (.text (String.ofList text)) =
      .ok (if (stripChars text).head? = some '[' ∧ (stripChars text).getLast? = some ']' then
        bracketElements (stripChars text) else commaParts (stripChars text)) := by
  show (Except.ok _ : Except Fault (List Value)) = _
  simp only [Value.toText, String.toList_ofList]

/-- The parts of numbers between commas are the texts of the numbers. -/
theorem commaParts_joined {spaced : List SpacedNumber} (some_number : spaced ≠ []) :
    commaParts (stripChars (SpacedNumber.joined spaced)) =
      (spaced.map (·.inner)).map fun number => .text (toString number) := by
  have apart : ∀ part ∈ spaced.map SpacedNumber.chars, ',' ∉ part :=
    List.forall_mem_map.2 fun each _ =>
      SpacedNumber.not_mem_chars (by decide) (by simp [IsFigure, isAsciiDigit]) each
  have stripped : (splitOnChar ',' (stripChars (SpacedNumber.joined spaced))).map stripChars =
      spaced.map fun each => SpacedNumber.figures each.inner := by
    have some_part : spaced.map SpacedNumber.chars ≠ [] := by simpa using some_number
    rw [map_stripChars_splitOnChar (by decide)]
    show (splitOnChar ',' ([','].intercalate (spaced.map SpacedNumber.chars))).map stripChars = _
    rw [splitOnChar_intercalate some_part apart, List.map_map]
    exact List.map_congr_left fun each _ => each.stripChars_chars
  calc commaParts (stripChars (SpacedNumber.joined spaced))
      = ((splitOnChar ',' (stripChars (SpacedNumber.joined spaced))).map stripChars).map
          fun part => .text (String.ofList part) := by rw [commaParts, List.map_map]; rfl
    _ = _ := by
      rw [stripped, List.map_map, List.map_map]
      exact List.map_congr_left fun each _ => congrArg Value.text String.ofList_toList

/-- The figures of a number spell it in a document. -/
theorem spells_figures {number : Int} (writable : Numeral.isWritable number = true) :
    Json.Spells (SpacedNumber.figures number) (.int number) :=
  Json.spells_atom ⟨none, false⟩ (.int number writable) nofun

/-- What stands in brackets are the numbers of the array. -/
theorem bracketElements_joined {spaced : List SpacedNumber} (some_number : spaced ≠ [])
    (writable : ∀ each ∈ spaced, Numeral.isWritable each.inner = true) :
    bracketElements ('[' :: (SpacedNumber.joined spaced ++ [']'])) =
      (spaced.map (·.inner)).map .int := by
  obtain ⟨first, rest, rfl⟩ := List.exists_cons_of_ne_nil some_number
  have spelled := Json.spells_padded Json.allGaps_nil fun each inside =>
    spells_figures (writable each inside)
  have read : Json.readChars ('[' :: (SpacedNumber.joined (first :: rest) ++ [']'])) =
    .ok (.list _) :=
    spelled.readChars
  rw [bracketElements, read, List.map_map]
  rfl

namespace SpellsNumbers

variable {numbers : List Int} {value : Value}

/-- **What a spelling is taken apart into**: the numbers, or their texts. -/
theorem listElements_eq (spells : SpellsNumbers numbers value) (some_number : numbers ≠ [])
    (writable : ∀ number ∈ numbers, Numeral.isWritable number = true) :
    listElements value = .ok (numbers.map .int) ∨
      listElements value = .ok (numbers.map fun number => .text (toString number)) := by
  cases spells with
  | list => exact .inl rfl
  | commas spaced =>
    -- neither blanks nor figures nor commas can be taken for a bracket
    have unbracketed : (stripChars (SpacedNumber.joined spaced)).head? ≠ some '[' :=
      fun bracket => by
      obtain ⟨front, back, parts, -⟩ := exists_blanks (SpacedNumber.joined spaced)
      apply SpacedNumber.bracket_not_mem_joined spaced
      rw [parts]
      exact List.mem_append_right _ (List.mem_append_left _ (List.mem_of_mem_head? bracket))
    rw [listElements_text, if_neg fun bracketed => unbracketed bracketed.1,
      commaParts_joined (by simpa using some_number)]
    exact .inr rfl
  | @array spaced front back blankFront blankBack =>
    -- stripping stops at the brackets, so the blanks around the first and the last number stay
    have closed : ('[' :: (SpacedNumber.joined spaced ++ [']'])).getLast? = some ']' :=
      List.getLast?_concat (l := '[' :: SpacedNumber.joined spaced)
    have stripped : stripChars (front ++ ('[' :: (SpacedNumber.joined spaced ++ [']']) ++ back)) =
        '[' :: (SpacedNumber.joined spaced ++ [']']) := by
      rw [stripChars_blanks_append blankFront, stripChars_append_blanks blankBack]
      refine stripChars_of_ends (by rintro _ ⟨⟩; decide) ?_
      rw [closed]
      rintro _ ⟨⟩
      decide
    rw [listElements_text, stripped, if_pos ⟨rfl, closed⟩,
      bracketElements_joined (by simpa using some_number) (by simpa using writable)]
    exact .inl rfl

end SpellsNumbers

/-! ### The values that are bound -/

section Numeric

variable {type : ColumnType} (numeric : type.isNumericLike = true)

include numeric

theorem convertElement_int (number : Int) :
    convertElement type (.int number) = .ok (.int number) := by
  rw [convertElement, ColumnType.convert?, if_pos numeric]
  rfl

theorem convertElement_toString {number : Int} (writable : Numeral.isWritable number = true) :
    convertElement type (.text (toString number)) = .ok (.int number) := by
  have read : Value.toNumber? (.text (toString number)) = .ok (some (.int number)) := by
    show Except.ok (Value.numberOfText? (toString number)) = _
    rw [Value.numberOfText?, Numeral.int?_toString writable]
  rw [convertElement, ColumnType.convert?, if_pos numeric, read]
  rfl

omit numeric in
theorem convertElements_map {numbers : List Int} {spell : Int → Value}
    (each : ∀ number ∈ numbers, convertElement type (spell number) = .ok (.int number)) :
    convertElements type (numbers.map spell) = .ok (numbers.map .int) := by
  induction numbers with
  | nil => rfl
  | cons number rest ih =>
    obtain ⟨here, others⟩ := List.forall_mem_cons.1 each
    rw [List.map_cons, convertElements, here, ih others]
    rfl

/-- **Each spelling is converted to the numbers themselves.** -/
theorem SpellsNumbers.convertList?_eq {numbers : List Int} {value : Value}
    (spells : SpellsNumbers numbers value)
    (some_number : numbers ≠ []) (writable : ∀ number ∈ numbers, Numeral.isWritable number = true) :
    convertList? type value = .ok (some (numbers.map .int)) := by
  have present : value.isNull = false := by cases spells <;> rfl
  obtain ⟨items, found, converted⟩ : ∃ items, listElements value = .ok items ∧
      convertElements type items = .ok (numbers.map .int) := by
    rcases spells.listElements_eq some_number writable with ints | texts
    · exact ⟨_, ints, convertElements_map fun number _ => convertElement_int numeric number⟩
    · exact ⟨_, texts, convertElements_map fun number inside =>
        convertElement_toString numeric (writable number inside)⟩
  rw [convertList?, present, found]
  show (convertElements type items).map some = _
  rw [converted]
  rfl

end Numeric

/-- The values that an operator on lists binds for whole numbers: all of them as
one list, or two bounds. -/
inductive BindsNumbers : String → List Int → List Value → Prop
  | isIn (numbers : List Int) : BindsNumbers "in" numbers [.list (numbers.map .int)]
  | notIn (numbers : List Int) : BindsNumbers "notIn" numbers [.list (numbers.map .int)]
  | between (low high : Int) : BindsNumbers "between" [low, high] [.int low, .int high]

section Bound

variable {columns : ColumnTypes} {leaf : Leaf} {numbers : List Int} {values : List Value}

/-- What a comparison binds for a spelling of numbers. -/
theorem BindsNumbers.bound?_eq (binds : BindsNumbers leaf.operator numbers values)
    (converted : convertList? (columns.typeOf leaf.fact) leaf.value =
      .ok (some (numbers.map .int))) :
    leaf.bound? columns = .ok values := by
  rw [Leaf.bound?, boundValues, converted]
  generalize leaf.operator = operator at binds
  cases binds <;> rfl

theorem BindsNumbers.sqlWord?_isSome (binds : BindsNumbers leaf.operator numbers values) :
    leaf.sqlWord?.isSome = true := by
  rw [Leaf.sqlWord?]
  generalize leaf.operator = operator at binds
  cases binds <;> rfl

/-- **A list of whole numbers is bound alike in each of its spellings**: as the list of the numbers,
or as the two bounds, by the comparison itself and in its place in every tree whose other
comparisons can be compiled. -/
theorem compile_number_list (numeric : (columns.typeOf leaf.fact).isNumericLike = true)
    (some_number : numbers ≠ []) (writable : ∀ number ∈ numbers, Numeral.isWritable number = true)
    (spells : SpellsNumbers numbers leaf.value) (binds : BindsNumbers leaf.operator numbers values)
    (quote : Bool) (position : Int) :
    compileLeaf columns quote position leaf =
        .ok ⟨leaf.text quote position, bindsFrom position values, position + values.length⟩ ∧
      ∀ (indent : String) (tree : ConditionTree) (before behind : List Leaf),
        tree.leaves = before ++ leaf :: behind →
          (∀ other ∈ before ++ behind, other.Compiles columns) →
        compile columns quote indent position tree =
          .ok ⟨treeText quote indent position tree,
            bindsFrom position (boundOf columns before ++ (values ++ boundOf columns behind)),
            position + widthOf tree.leaves⟩ := by
  have bound := binds.bound?_eq (spells.convertList?_eq numeric some_number writable)
  have compiles : leaf.Compiles columns := ⟨binds.sqlWord?_isSome, values, bound⟩
  have same : leaf.bound columns = values := Leaf.bound_eq bound
  constructor
  · rw [compileLeaf_eq compiles, ← Leaf.length_bound compiles, same]
  · intro indent tree before behind place others
    have each : ∀ other ∈ tree.leaves, other.Compiles columns := by
      obtain ⟨first, last⟩ := List.forall_mem_append.1 others
      rw [place]
      exact List.forall_mem_append.2 ⟨first, List.forall_mem_cons.2 ⟨compiles, last⟩⟩
    have parts : boundOf columns tree.leaves =
      boundOf columns before ++ (values ++ boundOf columns behind) := by
      rw [place, boundOf_append, ← same]
      rfl
    rw [compile_eq columns quote indent position tree each, parts]

/-- Numbers in brackets with blanks around them, beside a comparison that binds nothing; two bounds
with a comma between them. -/
theorem compile_number_list_of_brackets_and_comma :
    (∀ number ∈ [1, -20, 300], Numeral.isWritable number = true) ∧
      SpellsNumbers [1, -20, 300] (.text " [ 1 ,-20,\t300 ]\n") ∧
        SpellsNumbers [-5, 7] (.text "-5 , 7") ∧
      (∃ text, compile [("amount", .bigint)] true "" 1 ⟨.any,
          [.leaf ⟨"name", "isNull", .null⟩,
            .leaf ⟨"amount", "notIn", .text " [ 1 ,-20,\t300 ]\n"⟩]⟩ =
        .ok ⟨text, [("val1", .list [.int 1, .int (-20), .int 300])], 2⟩) ∧
      ∃ text, compileLeaf [("amount", .bigint)] false 3 ⟨"amount", "between", .text "-5 , 7"⟩ =
        .ok ⟨text, [("val3", .int (-5)), ("val4", .int 7)], 5⟩ := by
  have writable : ∀ number ∈ [1, -20, 300], Numeral.isWritable number = true := by decide
  have tab : Json.AllGaps ['\t'] := List.all_eq_true.1 rfl
  have brackets : SpellsNumbers [1, -20, 300] (.text " [ 1 ,-20,\t300 ]\n") := by
    have figures : SpacedNumber.figures 1 = ['1'] ∧ SpacedNumber.figures (-20) = ['-', '2', '0'] ∧
        SpacedNumber.figures 300 = ['3', '0', '0'] :=
      ⟨Json.toList_toString_ofNat 1, Json.toList_toString_negSucc 19,
        Json.toList_toString_ofNat 300⟩
    have space : ∀ c ∈ [' '], isBlank c = true := List.forall_mem_singleton.2 rfl
    have line : ∀ c ∈ ['\n'], isBlank c = true := List.forall_mem_singleton.2 rfl
    have spelled := SpellsNumbers.array [⟨[' '], 1, [' '], Json.allGaps_blank, Json.allGaps_blank⟩,
      ⟨[], -20, [], Json.allGaps_nil, Json.allGaps_nil⟩,
        ⟨['\t'], 300, [' '], tab, Json.allGaps_blank⟩]
      space line
    simpa [SpacedNumber.joined, Json.Padded.joined, Json.Padded.chars, figures] using spelled
  have comma : SpellsNumbers [-5, 7] (.text "-5 , 7") := by
    have figures : SpacedNumber.figures (-5) = ['-', '5'] ∧ SpacedNumber.figures 7 = ['7'] :=
      ⟨Json.toList_toString_negSucc 4, Json.toList_toString_ofNat 7⟩
    have spelled := SpellsNumbers.commas [⟨[], -5, [' '], Json.allGaps_nil, Json.allGaps_blank⟩,
      ⟨[' '], 7, [], Json.allGaps_blank, Json.allGaps_nil⟩]
    simpa [SpacedNumber.joined, Json.Padded.joined, Json.Padded.chars, figures] using spelled
  have names : bindName 1 = "val1" ∧ bindName 3 = "val3" ∧ bindName 4 = "val4" := by decide
  have others : ∀ other ∈ [⟨"name", "isNull", .null⟩] ++ [],
    Leaf.Compiles [("amount", .bigint)] other :=
    List.forall_mem_singleton.2 ⟨rfl, [], rfl⟩
  have inTree :=
    (@compile_number_list [("amount", .bigint)] ⟨"amount", "notIn", .text " [ 1 ,-20,\t300 ]\n"⟩
    [1, -20, 300] _ rfl (by decide) writable brackets (.notIn _) true 1).2 ""
    ⟨.any, [.leaf ⟨"name", "isNull", .null⟩,
      .leaf ⟨"amount", "notIn", .text " [ 1 ,-20,\t300 ]\n"⟩]⟩
    [⟨"name", "isNull", .null⟩] [] rfl others
  have alone :=
    (@compile_number_list [("amount", .bigint)] ⟨"amount", "between", .text "-5 , 7"⟩ [-5, 7] _ rfl
    (by decide) (by decide) comma (.between _ _) false 3).1
  rw [← names.1, ← names.2.1, ← names.2.2]
  exact ⟨writable, brackets, comma, ⟨_, inTree⟩, _, alone⟩

end Bound

end QueryDesk.Sql
