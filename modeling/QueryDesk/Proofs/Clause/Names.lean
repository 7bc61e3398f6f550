/-
**Words in the text of a condition.**

* `isPlainName` — names that SQL reads as names: a letter or an underscore, then word characters.
  The names of parameters are such names (`isPlainName_bindName`).
* `isWord_of_isBlank` — a blank is no word character.
* `Ends` — what stands behind a word in a condition: nothing, a blank or a closing parenthesis.
  There a reader of word characters stops (`Ends.head_isWord`).
-/

import QueryDesk.Proofs.Search
import QueryDesk.Sql.Clause

namespace QueryDesk.Sql

open Text

/-! ### Plain names -/

/-- Whether a name may begin with the character: a letter of any script or an underscore. -/
def opensName (c : Char) : Bool := isWord c && !isDecimalDigit c

/-- A name that needs no quotes. -/
def isPlainName : List Char → Bool
  | [] => false
  | c :: rest => opensName c && rest.all isWord

theorem exists_of_isPlainName {name : List Char} (plain : isPlainName name) :
    ∃ c rest, name = c :: rest ∧ opensName c = true ∧ ∀ d ∈ rest, isWord d = true := by
  cases name with
  | nil => cases plain
  | cons c rest =>
    obtain ⟨opens, words⟩ := (Bool.and_eq_true _ _).mp plain
    exact ⟨c, rest, rfl, opens, List.all_eq_true.1 words⟩

theorem isWord_of_opensName {c : Char} (opens : opensName c = true) : isWord c = true :=
  ((Bool.and_eq_true _ _).mp opens).1

theorem isWord_of_mem_plainName {name : List Char} (plain : isPlainName name) :
    ∀ c ∈ name, isWord c = true := by
  obtain ⟨c, rest, rfl, opens, words⟩ := exists_of_isPlainName plain
  exact List.forall_mem_cons.2 ⟨isWord_of_opensName opens, words⟩

/-- Characters of which only one passes a test are different. -/
theorem ne_of_test {test : Char → Bool} {c d : Char} (passes : test c = true)
    (fails : test d = false) : c ≠ d := by
  rintro rfl
  rw [passes] at fails
  cases fails

theorem isWord_of_isDigit {c : Char} (digit : c.isDigit = true) : isWord c = true := by
  simp only [Char.isDigit, Bool.and_eq_true, decide_eq_true_eq, ge_iff_le, UInt32.le_iff_toNat_le]
    at digit
  have digits : ∀ code < 58, 48 ≤ code → Edges.holds wordEdges code = true := by decide
  exact digits c.toNat (Nat.lt_succ_of_le digit.2) digit.1

theorem toList_bindName (number : Nat) :
    (bindName number).toList = ['v', 'a', 'l'] ++ Nat.toDigits 10 number := by
  show ("val" ++ Nat.repr number).toList = _
  rw [String.toList_append, Nat.toList_repr]
  rfl

/-- **The name of a parameter is a plain name.** -/
theorem isPlainName_bindName {position : Int} (start : 0 ≤ position) :
    isPlainName (bindName position).toList := by
  obtain ⟨number, rfl⟩ := Int.eq_ofNat_of_zero_le start
  rw [toList_bindName]
  have digits : (Nat.toDigits 10 number).all isWord = true := List.all_eq_true.2 fun c member =>
    isWord_of_isDigit (Nat.isDigit_of_mem_toDigits (by decide) (Nat.le_refl 10) member)
  show (opensName 'v' && (['a', 'l'] ++ Nat.toDigits 10 number).all isWord) = true
  rw [List.all_append, digits]
  decide

/-! ### Blanks -/

/-- The code points of a set that is given by its edges, all of its ranges being closed. -/
def codesBetween : List Nat → List Nat
  | first :: last :: rest => List.range' first (last - first) ++ codesBetween rest
  | _ => []

theorem mem_codesBetween {code : Nat} : ∀ {edges : List Nat}, edges.length % 2 = 0 →
    Edges.holds edges code = true → code ∈ codesBetween edges
  | [], _, inside => by cases inside
  | [_], even, _ => by cases even
  | first :: last :: rest, even, inside => by
    unfold Edges.holds at inside
    split at inside
    · cases inside
    · unfold Edges.holds at inside
      rw [codesBetween, List.mem_append, List.mem_range'_1]
      split at inside
      · exact .inl (by omega)
      · rw [Bool.not_not] at inside
        exact .inr (mem_codesBetween (by simpa [Nat.add_assoc] using even) inside)

/-- **A blank is no word character.** -/
theorem isWord_of_isBlank {c : Char} (blank : isBlank c = true) : isWord c = false := by
  have outside : ∀ code ∈ codesBetween blankEdges, Edges.holds wordEdges code = false := by
    decide +kernel
  exact outside _ (mem_codesBetween rfl blank)

theorem blank_indent {indent : String} (blanks : ∀ c ∈ indent.toList, isBlank c = true) :
    ∀ c ∈ (indent ++ "  ").toList, isBlank c = true := by
  rw [String.toList_append]
  exact List.forall_mem_append.2 ⟨blanks, List.all_eq_true.1 (by decide)⟩

/-! ### The end of a word -/

/-- What stands behind a word: nothing, a blank or a closing parenthesis. -/
def Ends (rest : List Char) : Prop := ∀ c ∈ rest.head?, isBlank c = true ∨ c = ')'

theorem ends_nil : Ends [] := fun _ member => by cases member

theorem ends_blank {c : Char} (blank : isBlank c = true) (rest : List Char) : Ends (c :: rest) := by
  rintro _ ⟨⟩
  exact .inl blank

theorem ends_closing (rest : List Char) : Ends (')' :: rest) := by
  rintro _ ⟨⟩
  exact .inr rfl

/-- Nothing behind a word goes on with it. -/
theorem Ends.head_isWord {rest : List Char} (ends : Ends rest) :
    ∀ c ∈ rest.head?, isWord c = false := by
  intro c member
  rcases ends c member with blank | rfl
  · exact isWord_of_isBlank blank
  · decide

end QueryDesk.Sql
