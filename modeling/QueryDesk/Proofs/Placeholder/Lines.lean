/-
**A query is cut at its parameters line by line.**

* `Template.append` — a template with another one behind it.
* `Template.scan_append_stop` — no parameter reaches over a character that belongs to none, such as
  a line break, so the cut of a text with one is the cut of the two sides.
* `Template.ofQuery_eq_ofLines` — the template of a query is that of the lines that are left when
  the comments are taken out, with a line break between them.
-/

import QueryDesk.Proofs.Text.Parts
import QueryDesk.Sql.Template

namespace QueryDesk.Sql.Template

open Text

/-! ### One template behind another -/

/-- Text and parameters with a template behind them. -/
def behind (rest : Template) : List Char → List (List Char × List Char) → Template
  | lead, [] => ⟨lead ++ rest.lead, rest.slots⟩
  | lead, (name, after) :: more =>
    ⟨lead, (name, (behind rest after more).lead) :: (behind rest after more).slots⟩

/-- A template with another one behind it. -/
def append (first rest : Template) : Template := behind rest first.lead first.slots

@[simp] theorem ofText_nil_append (rest : Template) : (ofText []).append rest = rest := rfl

theorem push_append (c : Char) (first rest : Template) :
    (first.push c).append rest = (first.append rest).push c := by
  obtain ⟨lead, slots⟩ := first
  cases slots <;> rfl

theorem pushName_append (name : List Char) (first rest : Template) :
    (first.pushName name).append rest = (first.append rest).pushName name := rfl

/-! ### The cut at a stop -/

theorem scan_cons_of_ne {c : Char} (plain : c ≠ ':') (colon : Bool) (rest : List Char) :
    scan colon (c :: rest) = (scan false rest).push c := by
  rw [scan, if_neg plain]

theorem scan_colon_of_none {colon : Bool} {rest : List Char}
    (unnamed : (if colon then none else name? rest) = none) :
    scan colon (':' :: rest) = (scan true rest).push ':' := by
  rw [scan, if_pos rfl]
  split
  · rename_i found
    rw [unnamed] at found
    cases found
  · rfl

theorem scan_colon_of_some {colon : Bool} {rest name more : List Char}
    (named : (if colon then none else name? rest) = some (name, more)) :
    scan colon (':' :: rest) = (scan false more).pushName name := by
  rw [scan, if_pos rfl]
  split
  · rename_i found
    rw [named] at found
    cases found
    rfl
  · rename_i found
    rw [named] at found
    cases found

/-- Whether no parameter reaches over the character. -/
def isStop (c : Char) : Bool := !isWord c && !startsName c && c != ':'

variable {stop : Char}

theorem isStop_iff (c : Char) :
    isStop c = true ↔ isWord c = false ∧ startsName c = false ∧ c ≠ ':' := by
  simp [isStop, and_assoc]

theorem takeWhile_isWord_append_stop (stops : isStop stop = true) (text rest : List Char) :
    (text ++ stop :: rest).takeWhile isWord = text.takeWhile isWord ∧
      (text ++ stop :: rest).dropWhile isWord = text.dropWhile isWord ++ stop :: rest := by
  have other := ((isStop_iff stop).1 stops).1
  induction text with
  | nil => simp [other]
  | cons c text ih =>
    by_cases word : isWord c
    · simp [word, ih]
    · simp [word]

/-- No name reaches over a stop. -/
theorem name?_append_stop (stops : isStop stop = true) (text rest : List Char) :
    name? (text ++ stop :: rest) =
      (name? text).map fun found => (found.1, found.2 ++ stop :: rest) := by
  cases text with
  | nil => simp [name?, ((isStop_iff stop).1 stops).2.1]
  | cons c text =>
    obtain ⟨taken, left⟩ := takeWhile_isWord_append_stop stops text rest
    unfold name?
    rw [List.cons_append]
    simp only [taken, left]
    split <;> rfl

/-- **The cut of a text with a stop** is the cut of the text before it and of the text behind. -/
theorem scan_append_stop (stops : isStop stop = true) (colon : Bool) (text rest : List Char) :
    scan colon (text ++ stop :: rest) =
      (scan colon text).append ((scan false rest).push stop) := by
  fun_induction scan colon text with
  | case1 colon =>
    rw [ofText_nil_append, List.nil_append, scan_cons_of_ne ((isStop_iff stop).1 stops).2.2]
  | case2 colon text name more found ih =>
    have longer : (if colon then none else name? (text ++ stop :: rest)) =
        some (name, more ++ stop :: rest) := by
      cases colon with
      | true => simp at found
      | false =>
        have here : name? text = some (name, more) := by simpa using found
        rw [if_neg Bool.false_ne_true, name?_append_stop stops, here]
        rfl
    rw [List.cons_append, scan_colon_of_some longer, ih, pushName_append]
  | case3 colon text found ih =>
    have longer : (if colon then none else name? (text ++ stop :: rest)) = none := by
      cases colon with
      | true => rfl
      | false =>
        have here : name? text = none := by simpa using found
        rw [if_neg Bool.false_ne_true, name?_append_stop stops, here]
        rfl
    rw [List.cons_append, scan_colon_of_none longer, ih, push_append]
  | case4 colon c text plain ih =>
    rw [List.cons_append, scan_cons_of_ne plain, ih, push_append]

/-- No parameter reaches over a line break. -/
theorem scan_append_newline (colon : Bool) (text rest : List Char) :
    scan colon (text ++ '\n' :: rest) =
      (scan colon text).append ((scan false rest).push '\n') :=
  scan_append_stop (by decide) colon text rest

/-! ### The lines of a query -/

/-- The template of lines, with a line break between neighbours. -/
def ofLines : List String → Template
  | [] => ofText []
  | [line] => scan false line.toList
  | line :: next :: rest => (scan false line.toList).append ((ofLines (next :: rest)).push '\n')

theorem scan_intercalate : ∀ texts : List (List Char),
    scan false (['\n'].intercalate texts) = ofLines (texts.map String.ofList)
  | [] => by rw [List.intercalate_nil, scan]; rfl
  | [text] => by
    rw [List.intercalate_singleton, List.map_cons, List.map_nil, ofLines, String.toList_ofList]
  | text :: next :: rest => by
    have others := scan_intercalate (next :: rest)
    rw [List.intercalate_cons_cons, List.append_assoc, List.singleton_append, scan_append_newline,
      others]
    show _ = (scan false (String.ofList text).toList).append
      ((ofLines ((next :: rest).map String.ofList)).push '\n')
    rw [String.toList_ofList]

/-- **A query is cut at its parameters line by line**, once the comments are out. -/
theorem ofQuery_eq_ofLines (query : String) :
    ofQuery query = ofLines (lines (stripComments query)) := by
  unfold ofQuery lines stripComments
  rw [← scan_intercalate, intercalate_splitOnChar, String.toList_ofList]

end QueryDesk.Sql.Template
