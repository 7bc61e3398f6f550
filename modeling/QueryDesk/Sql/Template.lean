/-
**Named parameters in SQL text.**

* `lines` — the lines of a text; a line break is a line feed with or without a carriage return.
* `Template` — a text cut at its named parameters: the pieces of text and the names between them.
* `Template.scan` — the cut: a parameter is a colon that follows no other colon and a name of an
  ASCII letter, underscore or dollar sign and word characters, whose end is the end of a word.
  Written out again, a template is the text it was cut from (`Template.source_scan`).
* `Template.ofQuery` — the template of a query: without comments, line breaks made equal.
-/

import QueryDesk.Sql.Comment
import QueryDesk.Text.Basic

namespace QueryDesk.Sql

open Text

/-- The text with every line break a single line feed. -/
def unifyLineBreaks : List Char → List Char
  | '\r' :: '\n' :: rest => '\n' :: unifyLineBreaks rest
  | c :: rest => c :: unifyLineBreaks rest
  | [] => []

/-- The lines of a text. -/
def lines (text : String) : List String :=
  (splitOnChar '\n' (unifyLineBreaks text.toList)).map String.ofList

/-- SQL text cut at its named parameters: the text in front of the first, and each
name with the text behind it. -/
structure Template where
  lead : List Char
  slots : List (List Char × List Char)
deriving DecidableEq, Repr

namespace Template

/-- A template without parameters. -/
def ofText (text : List Char) : Template := ⟨text, []⟩

/-- The template with a character in front. -/
def push (c : Char) (template : Template) : Template := { template with lead := c :: template.lead }

/-- The template with a parameter in front. -/
def pushName (name : List Char) (template : Template) : Template :=
  ⟨[], (name, template.lead) :: template.slots⟩

/-- Whether a parameter's name may begin with the character. -/
def startsName (c : Char) : Bool := c.isAlpha || c == '_' || c == '$'

/-- The name behind a colon and the text behind the name. A lone dollar sign is no name,
since no word ends there. -/
def name? : List Char → Option (List Char × List Char)
  | [] => none
  | c :: rest =>
    if startsName c && !(c == '$' && (rest.takeWhile isWord).isEmpty) then
      some (c :: rest.takeWhile isWord, rest.dropWhile isWord)
    else none

/-- A name and what stands behind it are the text. -/
theorem name?_append {text name rest : List Char} (found : name? text = some (name, rest)) :
    name ++ rest = text := by
  unfold name? at found
  split at found
  · simp at found
  · split at found <;> simp at found
    obtain ⟨rfl, rfl⟩ := found
    simp [List.takeWhile_append_dropWhile]

/-- Cuts a text at its parameters; `colon` tells whether a colon stands before it. -/
def scan (colon : Bool) : List Char → Template
  | [] => ofText []
  | c :: rest =>
    if c = ':' then
      match _found : (if colon then none else name? rest) with
      | some (name, more) => (scan false more).pushName name
      | none => (scan true rest).push c
    else (scan false rest).push c
termination_by text => text.length
decreasing_by
  · cases colon <;> simp at _found
    have whole := congrArg List.length (name?_append _found)
    simp only [List.length_append] at whole
    simp only [List.length_cons]
    omega
  · simp
  · simp

/-- The names in the order they stand in the text. -/
def names (template : Template) : List String := template.slots.map fun slot => String.ofList slot.1

/-- The text with the given texts in the places of the parameters. -/
def fill (template : Template) (texts : List (List Char)) : List Char :=
  template.lead ++ (texts.zip (template.slots.map Prod.snd)).flatMap fun (text, after) =>
    text ++ after

/-- The text a template was cut from. -/
def source (template : Template) : List Char :=
  template.fill (template.slots.map fun slot => ':' :: slot.1)

theorem source_push (c : Char) (template : Template) :
    (template.push c).source = c :: template.source := by
  simp [source, fill, push]

theorem source_pushName (name : List Char) (template : Template) :
    (template.pushName name).source = ':' :: name ++ template.source := by
  simp [source, fill, pushName]

/-- Written out again, a template is the text it was cut from. -/
theorem source_scan (colon : Bool) (text : List Char) : (scan colon text).source = text := by
  fun_induction scan colon text with
  | case1 => rfl
  | case2 colon rest name more found ih =>
    cases colon <;> simp at found
    rw [source_pushName, ih, List.cons_append, name?_append found]
  | case3 colon rest found ih => rw [source_push, ih]
  | case4 colon c rest other ih => rw [source_push, ih]

/-- The template of a query. -/
def ofQuery (query : String) : Template :=
  scan false (unifyLineBreaks (stripCommentChars query.toList))

end Template

end QueryDesk.Sql
