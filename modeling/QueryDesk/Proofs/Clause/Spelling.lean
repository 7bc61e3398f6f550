/-
**How the pieces of a condition's text are read.**

* `Scans` — the tokens of a piece of text, whatever stands behind it; pieces are put together with a
  blank between them (`Scans.then_blank`).
* `Leaf.scans_text`, `Leaf.symbols?_tokens` — the tokens of a compiled comparison are put
  together to a single symbol.
* `Spells` — the symbols of a piece of text: of two operands with a connective between them
  (`Spells.joined`) and of a group in parentheses (`Spells.parenthesized`).
-/

import QueryDesk.Proofs.Clause.Compiled
import QueryDesk.Proofs.Clause.Predicate

namespace QueryDesk.Sql.Predicate

open Text

/-- What is put in front twice is put in front at once. -/
theorem map_append_map {α : Type} (first second : List α) (found : Option (List α)) :
    (found.map (second ++ ·)).map (first ++ ·) = found.map (first ++ second ++ ·) := by
  rw [Option.map_map]
  exact congrArg (fun join => found.map join) (funext fun _ => (List.append_assoc _ _ _).symm)

/-! ### One token -/

theorem tokens?_blank {c : Char} (blank : isBlank c = true) (rest : List Char) :
    tokens? (c :: rest) = tokens? rest := by
  rw [tokens?.eq_def]
  dsimp only
  rw [if_pos blank]

theorem tokens?_opening (rest : List Char) :
    tokens? ('(' :: rest) = (tokens? rest).map (Token.opening :: ·) := by
  rw [tokens?.eq_def]
  dsimp only
  rw [if_neg (by decide), if_pos rfl]

theorem tokens?_closing (rest : List Char) :
    tokens? (')' :: rest) = (tokens? rest).map (Token.closing :: ·) := by
  rw [tokens?.eq_def]
  dsimp only
  rw [if_neg (by decide), if_neg (by decide), if_pos rfl]

/-- A colon and a name are one token. -/
theorem tokens?_param {d : Char} (opens : opensName d = true) (rest : List Char) :
    tokens? (':' :: d :: rest) = (tokens? (rest.dropWhile isWord)).map
      (Token.param (String.ofList (d :: rest.takeWhile isWord)) :: ·) := by
  rw [tokens?.eq_def]
  dsimp only
  rw [if_neg (by decide), if_neg (by decide), if_neg (by decide), if_pos rfl]
  exact if_pos opens

/-- A name between backticks is one token. -/
theorem tokens?_quoted {name : List Char} (plain : ∀ c ∈ name, (c != backtick) = true)
    (rest : List Char) :
    tokens? (backtick :: (name ++ backtick :: rest)) =
      (tokens? rest).map (Token.name (String.ofList name) true :: ·) := by
  have stop : ∀ c ∈ (backtick :: rest).head?, (c != backtick) = false := by
    rintro _ ⟨⟩
    exact bne_self_eq_false backtick
  have behind := dropWhile_append_of_stop plain stop
  rw [tokens?.eq_def]
  dsimp only
  rw [if_neg (by decide), if_neg (by decide), if_neg (by decide), if_neg (by decide),
    if_pos rfl, takeWhile_append_of_stop plain stop]
  split
  · rename_i found
    rw [behind] at found
    cases found
  · rename_i found
    rw [behind] at found
    cases found
    rfl

theorem inMark_cases {c : Char} (mark : inMark c = true) : c = '=' ∨ c = '<' ∨ c = '>' := by
  simpa [inMark] using mark

/-- A sign that is known is one token. -/
theorem tokens?_mark {c : Char} (mark : inMark c = true) (rest : List Char)
    (known : marks.contains (String.ofList (c :: rest.takeWhile inMark)) = true) :
    tokens? (c :: rest) = (tokens? (rest.dropWhile inMark)).map
      (Token.mark (String.ofList (c :: rest.takeWhile inMark)) :: ·) := by
  have unblank : ¬ isBlank c = true := by
    rcases inMark_cases mark with rfl | rfl | rfl <;> decide
  rw [tokens?.eq_def]
  dsimp only
  rw [if_neg unblank, if_neg (ne_of_test mark (by decide)), if_neg (ne_of_test mark (by decide)),
    if_neg (ne_of_test mark (by decide)), if_neg (ne_of_test mark (by decide)), if_pos mark,
    if_pos known]

/-- A word is one token. -/
theorem tokens?_word {c : Char} (opens : opensName c = true) (rest : List Char) :
    tokens? (c :: rest) = (tokens? (rest.dropWhile isWord)).map
      (ofWord (String.ofList (c :: rest.takeWhile isWord)) :: ·) := by
  have word := isWord_of_opensName opens
  have unblank : ¬ isBlank c = true := fun blank => by
    rw [isWord_of_isBlank blank] at word
    cases word
  have unmarked : ¬ inMark c = true := fun mark => by
    rcases inMark_cases mark with rfl | rfl | rfl <;> exact absurd word (by decide)
  rw [tokens?.eq_def]
  dsimp only
  rw [if_neg unblank, if_neg (ne_of_test word (by decide)),
    if_neg (ne_of_test word (by decide)), if_neg (ne_of_test word (by decide)),
    if_neg (ne_of_test word (by decide)), if_neg unmarked, if_pos opens]

/-! ### The tokens of a piece of text -/

/-- The tokens of a piece of text, whatever stands behind it. -/
def Scans (text : List Char) (found : List Token) : Prop :=
  ∀ rest, Ends rest → tokens? (text ++ rest) = (tokens? rest).map (found ++ ·)

namespace Scans

variable {text more : List Char} {found others : List Token}

theorem nil : Scans [] [] := fun rest _ => by
  rw [List.nil_append]
  exact (Option.map_id' (x := tokens? rest)).symm

theorem blank {c : Char} (blank : isBlank c = true) (scans : Scans text found) :
    Scans (c :: text) found := by
  intro rest ends
  rw [List.cons_append, tokens?_blank blank, scans rest ends]

theorem blanks {before : List Char} (blanks : ∀ c ∈ before, isBlank c = true)
    (scans : Scans text found) : Scans (before ++ text) found := by
  induction before with
  | nil => exact scans
  | cons c before ih =>
    obtain ⟨here, others⟩ := List.forall_mem_cons.1 blanks
    exact (ih others).blank here

/-- **Two pieces with a blank between them.** -/
theorem then_blank (c : Char) (first : Scans text found) (blank : isBlank c = true)
    (second : Scans more others) : Scans (text ++ c :: more) (found ++ others) := by
  intro rest ends
  rw [List.append_assoc, List.cons_append, first _ (ends_blank blank _), tokens?_blank blank,
    second rest ends]
  exact map_append_map found others _

theorem opening (scans : Scans text found) : Scans ('(' :: text) (.opening :: found) := by
  intro rest ends
  rw [List.cons_append, tokens?_opening, scans rest ends, Option.map_map]
  rfl

theorem closing (scans : Scans text found) : Scans (text ++ [')']) (found ++ [.closing]) := by
  intro rest ends
  rw [List.append_assoc, List.singleton_append, scans _ (ends_closing rest), tokens?_closing]
  exact map_append_map found [.closing] _

end Scans

/-- A plain word is scanned as what it stands for. -/
theorem scans_word {word : List Char} (plain : isPlainName word) :
    Scans word [ofWord (String.ofList word)] := by
  obtain ⟨c, tail, rfl, opens, words⟩ := exists_of_isPlainName plain
  intro rest ends
  rw [List.cons_append, tokens?_word opens, takeWhile_append_of_stop words ends.head_isWord,
    dropWhile_append_of_stop words ends.head_isWord]
  rfl

/-- A parameter is scanned as one. -/
theorem scans_param {name : List Char} (plain : isPlainName name) :
    Scans (':' :: name) [.param (String.ofList name)] := by
  obtain ⟨c, tail, rfl, opens, words⟩ := exists_of_isPlainName plain
  intro rest ends
  rw [List.cons_append, List.cons_append, tokens?_param opens,
    takeWhile_append_of_stop words ends.head_isWord,
      dropWhile_append_of_stop words ends.head_isWord]
  rfl

theorem scans_keyword (keyword : Keyword) :
    Scans keyword.spelling.toList [.keyword keyword] := by
  have spelled : isPlainName keyword.spelling.toList ∧
      ofWord (String.ofList keyword.spelling.toList) = .keyword keyword := by
    cases keyword <;> decide +kernel
  have scans := scans_word spelled.1
  rwa [spelled.2] at scans

/-- A known sign is scanned as one. -/
theorem scans_mark {sign : String} (known : sign ∈ marks) : Scans sign.toList [.mark sign] := by
  have signs : ∀ sign ∈ marks, sign.toList ≠ [] ∧ sign.toList.all inMark = true := by decide
  obtain ⟨nonempty, all⟩ := signs sign known
  have good := List.all_eq_true.1 all
  obtain ⟨c, tail, spelled⟩ := List.exists_cons_of_ne_nil nonempty
  rw [spelled] at good ⊢
  obtain ⟨here, behind⟩ := List.forall_mem_cons.1 good
  have whole : String.ofList (c :: tail) = sign := by rw [← spelled, String.ofList_toList]
  intro rest ends
  have stop : ∀ d ∈ rest.head?, inMark d = false := by
    refine fun d member => Bool.eq_false_iff.2 fun mark => ?_
    rcases ends d member with blank | rfl
    · rcases inMark_cases mark with rfl | rfl | rfl <;> exact absurd blank (by decide)
    · exact absurd mark (by decide)
  have taken := takeWhile_append_of_stop behind stop
  rw [List.cons_append, tokens?_mark here, taken, whole, dropWhile_append_of_stop behind stop]
  · rfl
  · rw [taken, whole]
    exact List.contains_iff_mem.2 known

/-- A plain name that is no keyword is scanned as a name, between backticks or not. -/
theorem scans_name (quote : Bool) {name : String} (plain : isPlainName name.toList)
    (free : Keyword.ofWord? name = none) :
    Scans (quoteName quote name).toList [.name name quote] := by
  cases quote with
  | false =>
    have scans := scans_word plain
    rw [String.ofList_toList, ofWord, free] at scans
    exact scans
  | true =>
    have words := isWord_of_mem_plainName plain
    have unticked : ∀ c ∈ name.toList, (c != backtick) = true := fun c member =>
      bne_iff_ne.2 (ne_of_test (words c member) (by decide))
    have spelled : (quoteName true name).toList = backtick :: (name.toList ++ [backtick]) := by
      show ("`" ++ name ++ "`").toList = _
      rw [String.toList_append, String.toList_append]
      rfl
    intro rest _
    rw [spelled, List.cons_append, List.append_assoc, List.singleton_append,
      tokens?_quoted unticked rest, String.ofList_toList]
    rfl

/-! ### The tokens of a comparison -/

/-- The tokens of the SQL word of an operator. -/
def wordTokens : String → List Token
  | "LIKE" => [.keyword .like]
  | "IN" => [.keyword .within]
  | "NOT IN" => [.keyword .not, .keyword .within]
  | "BETWEEN" => [.keyword .between]
  | "IS NULL" => [.keyword .is, .keyword .null]
  | "IS NOT NULL" => [.keyword .is, .keyword .not, .keyword .null]
  | sign => [.mark sign]

/-- The tokens of the parameters behind an operator. -/
def tailTokens (operator : String) (position : Int) : List Token :=
  if Operator.takesNoValue operator then []
  else if operator = "between" then
    [.param (bindName position), .keyword .and, .param (bindName (position + 1))]
  else if Operator.takesList operator then [.opening, .param (bindName position), .closing]
  else [.param (bindName position)]

/-- The words of all operators are scanned. -/
theorem scans_wordTokens :
    ∀ entry ∈ Operator.words, Scans entry.2.toList (wordTokens entry.2) := by
  have not_in : Scans "NOT IN".toList (wordTokens "NOT IN") :=
    (scans_keyword .not).then_blank ' ' (by decide) (scans_keyword .within)
  have is_null : Scans "IS NULL".toList (wordTokens "IS NULL") :=
    (scans_keyword .is).then_blank ' ' (by decide) (scans_keyword .null)
  have is_not_null : Scans "IS NOT NULL".toList (wordTokens "IS NOT NULL") :=
    (scans_keyword .is).then_blank ' ' (by decide)
      ((scans_keyword .not).then_blank ' ' (by decide) (scans_keyword .null))
  have sign {word : String} (known : word ∈ marks) (tokens : wordTokens word = [.mark word]) :
      Scans word.toList (wordTokens word) := by
    rw [tokens]
    exact scans_mark known
  simp only [Operator.words, List.forall_mem_cons]
  exact ⟨sign (by decide) rfl, sign (by decide) rfl, sign (by decide) rfl, sign (by decide) rfl,
    sign (by decide) rfl, sign (by decide) rfl, scans_keyword .within, not_in,
      scans_keyword .between,
    is_null, is_not_null, is_null, is_not_null, scans_keyword .like, scans_keyword .like,
    fun _ member => by cases member⟩

/-- The parameters of an operator behind a piece of text. -/
theorem Scans.then_tail {text : List Char} {found : List Token} (scans : Scans text found)
    (operator : String) {position : Int} (start : 0 ≤ position) :
    Scans (text ++ (tailText operator position).toList)
      (found ++ tailTokens operator position) := by
  have param {number : Int} (counted : 0 ≤ number) :
      Scans (':' :: (bindName number).toList) [.param (bindName number)] := by
    have scans := scans_param (isPlainName_bindName counted)
    rwa [String.ofList_toList] at scans
  unfold tailText tailTokens
  split
  · rw [String.toList_empty, List.append_nil, List.append_nil]
    exact scans
  · split
    · have bounds := (param start).then_blank ' ' (by decide)
        ((scans_keyword .and).then_blank ' ' (by decide) (param (Int.le_add_one start)))
      have whole := scans.then_blank ' ' (by decide) bounds
      simp only [String.toList_append, List.append_assoc] at whole ⊢
      exact whole
    · split
      · have whole := scans.then_blank ' ' (by decide) (param start).opening.closing
        simp only [String.toList_append] at whole ⊢
        exact whole
      · have whole := scans.then_blank ' ' (by decide) (param start)
        simp only [String.toList_append] at whole ⊢
        exact whole

end QueryDesk.Sql.Predicate

namespace QueryDesk

open Sql Predicate Text

/-! ### Leaves as comparisons -/

/-- The comparison that a leaf is, its first parameter having the given number. -/
def Leaf.atom (quote : Bool) (position : Int) (leaf : Leaf) : Atom :=
  ⟨leaf.fact, quote, leaf.sqlWord?.getD "", bindNames position leaf.width⟩

/-- A leaf whose fact SQL reads as the name of a column. -/
def Leaf.NamesColumn (leaf : Leaf) : Prop :=
  isPlainName leaf.fact.toList = true ∧ Keyword.ofWord? leaf.fact = none

/-- The tokens of a leaf. -/
def Leaf.tokens (quote : Bool) (position : Int) (leaf : Leaf) : List Token :=
  .name leaf.fact quote :: (wordTokens (leaf.sqlWord?.getD "") ++ tailTokens leaf.operator position)

/-- **The tokens of a leaf's text.** -/
theorem Leaf.scans_text {leaf : Leaf} (some_word : leaf.sqlWord?.isSome) (named : leaf.NamesColumn)
    (quote : Bool) {position : Int} (start : 0 ≤ position) :
    Scans (leaf.text quote position).toList (leaf.tokens quote position) := by
  have word := scans_wordTokens _ (Leaf.mem_words some_word)
  have whole := ((scans_name quote named.1 named.2).then_blank ' ' (by decide) word).then_tail
    leaf.operator start
  unfold Leaf.text
  simp only [String.toList_append, List.append_assoc] at whole ⊢
  exact whole

/-- **The tokens of a leaf are one comparison.** -/
theorem Leaf.symbols?_tokens {leaf : Leaf} (some_word : leaf.sqlWord?.isSome) (quote : Bool)
    (position : Int) (rest : List Token) :
    symbols? (leaf.tokens quote position ++ rest) =
      (symbols? rest).map (Symbol.atom (leaf.atom quote position) :: ·) := by
  -- the operators differ in their tokens, so the table of operators is gone through
  have forms : ∀ entry ∈ Operator.words,
      symbols? (.name leaf.fact quote :: (wordTokens entry.2 ++ tailTokens entry.1 position) ++
        rest) =
        (symbols? rest).map
          (Symbol.atom ⟨leaf.fact, quote, entry.2, bindNames position (arity entry.1)⟩ :: ·) := by
    simp only [Operator.words, List.forall_mem_cons]
    exact ⟨rfl, rfl, rfl, rfl, rfl, rfl, rfl, rfl, rfl, rfl, rfl, rfl, rfl, rfl, rfl,
      fun _ member => by cases member⟩
  exact forms _ (Leaf.mem_words some_word)

/-! ### The symbols of a piece of text -/

/-- The symbol of a connective. -/
def Connective.symbol : Connective → Symbol
  | .all => .and
  | .any => .or

/-- The symbols of a piece of text, whatever stands behind it. -/
def Spells (text : String) (symbols : List Symbol) : Prop :=
  ∃ tokens, Scans text.toList tokens ∧
    ∀ rest, symbols? (tokens ++ rest) = (symbols? rest).map (symbols ++ ·)

namespace Spells

variable {indent : String} (blanks : ∀ c ∈ indent.toList, isBlank c = true)

/-- A spelled text as a whole gives its symbols. -/
theorem whole {text : String} {symbols : List Symbol} (spells : Spells text symbols) :
    ∃ tokens, tokens? text.toList = some tokens ∧ symbols? tokens = some symbols := by
  obtain ⟨tokens, scans, groups⟩ := spells
  have scanned := scans [] ends_nil
  have grouped := groups []
  rw [List.append_nil] at scanned grouped
  exact ⟨tokens, by simpa [tokens?] using scanned, by simpa [symbols?] using grouped⟩

include blanks

theorem indented {text : String} {symbols : List Symbol} (spells : Spells text symbols) :
    Spells (indent ++ text) symbols := by
  obtain ⟨tokens, scans, groups⟩ := spells
  refine ⟨tokens, ?_, groups⟩
  rw [String.toList_append]
  exact scans.blanks blanks

/-- **Two pieces with a connective between them.** -/
theorem joined (connective : Connective) {left right : String} {before behind : List Symbol}
    (first : Spells left before) (second : Spells right behind) :
    Spells (left ++ separator indent connective ++ right)
      (before ++ connective.symbol :: behind) := by
  obtain ⟨leftTokens, leftScans, leftGroups⟩ := first
  obtain ⟨rightTokens, rightScans, rightGroups⟩ := second
  obtain ⟨keyword, spelled, grouped⟩ : ∃ keyword : Keyword, keyword.spelling = connective.sql ∧
      ∀ rest, symbols? (.keyword keyword :: rest) =
        (symbols? rest).map (connective.symbol :: ·) := by
    cases connective
    · exact ⟨.and, rfl, fun _ => rfl⟩
    · exact ⟨.or, rfl, fun _ => rfl⟩
  have word := (scans_keyword keyword).then_blank ' ' (by decide) rightScans
  rw [spelled] at word
  refine ⟨leftTokens ++ (.keyword keyword :: rightTokens), ?_, fun rest => ?_⟩
  · have whole := leftScans.then_blank '\n' (by decide) (word.blanks blanks)
    rw [String.toList_append, String.toList_append, toList_separator]
    simpa using whole
  · rw [List.append_assoc, leftGroups, List.cons_append, grouped, rightGroups]
    have inner := map_append_map [connective.symbol] behind (symbols? rest)
    exact (congrArg (Option.map (before ++ ·)) inner).trans
      (map_append_map before (connective.symbol :: behind) _)

/-- Parentheses around a spelled text. -/
theorem parenthesized {text : String} {symbols : List Symbol} (spells : Spells text symbols) :
    Spells (parenthesized indent text) (.opening :: symbols ++ [.closing]) := by
  obtain ⟨tokens, scans, groups⟩ := spells
  refine ⟨.opening :: tokens ++ [.closing], ?_, fun rest => ?_⟩
  · have inner := scans.then_blank '\n' (by decide) (Scans.nil.blanks blanks)
    have whole := ((inner.blank (c := '\n') (by decide)).opening).closing
    unfold Sql.parenthesized
    simp only [String.toList_append, List.append_assoc, List.cons_append, List.append_nil]
      at whole ⊢
    exact whole
  · rw [List.append_assoc, List.cons_append]
    show (symbols? (tokens ++ (.closing :: rest))).map (Symbol.opening :: ·) = _
    rw [groups]
    have inner := map_append_map symbols [.closing] (symbols? rest)
    exact (congrArg (Option.map (Symbol.opening :: ·)) inner).trans
      (map_append_map [.opening] (symbols ++ [.closing]) _)

end Spells

end QueryDesk
