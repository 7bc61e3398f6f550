/-
**JSON documents as values.**

* `Json.value`, `Json.items`, `Json.entries` — a value, the elements of an array and the entries of
  an object, each with what is left of the text.
* `Json.read` — a whole document: one value with nothing but blanks around it.
-/

import QueryDesk.Json.Scalar
import QueryDesk.Value.Equality
import QueryDesk.Failure

namespace QueryDesk.Json

/-- Reads a text of the document. -/
def readText : List Char → Scanned String
  | '"' :: rest => textBody (rest.length + 1) [] rest
  | text => .error (.fault .expectingName text.length)

/-- Reads a value that holds no others. -/
def scalar (text : List Char) : Scanned Value :=
  match text with
  | '"' :: _ => (readText text).map fun (content, rest) => (.text content, rest)
  | _ =>
    match literal? text with
    | some found => .ok found
    | none => (number? text).getD (.error (.fault .expectingValue text.length))

mutual

/-- Reads a value; the fuel bounds how deep containers nest and how many elements they have. -/
def value : Nat → List Char → Except Stop (Value × List Char)
  | 0, text => .error (.fault .expectingValue text.length)
  | fuel + 1, text =>
    match text with
    | '[' :: rest =>
      match skipGaps rest with
      | ']' :: more => .ok (.list [], more)
      | inside => (items fuel inside).map fun (found, more) => (.list found, more)
    | '\x7b' :: rest =>
      match skipGaps rest with
      | '\x7d' :: more => .ok (.dict [], more)
      | inside => (entries fuel inside).map fun (found, more) => (Value.dictOf found, more)
    | _ => scalar text

/-- Reads the elements of an array up to its closing bracket. -/
def items : Nat → List Char → Except Stop (List Value × List Char)
  | 0, text => .error (.fault .expectingValue text.length)
  | fuel + 1, text => do
    let (first, rest) ← value fuel text
    match skipGaps rest with
    | ']' :: more => pure ([first], more)
    | ',' :: more => do
      let (others, more) ← items fuel (skipGaps more)
      pure (first :: others, more)
    | other => .error (.fault .expectingComma other.length)

/-- Reads the entries of an object up to its closing brace. -/
def entries : Nat → List Char → Except Stop (List (Value × Value) × List Char)
  | 0, text => .error (.fault .expectingName text.length)
  | fuel + 1, text => do
    let (name, rest) ← readText text
    match skipGaps rest with
    | ':' :: rest => do
      let (first, rest) ← value fuel (skipGaps rest)
      match skipGaps rest with
      | '\x7d' :: more => pure ([(.text name, first)], more)
      | ',' :: more => do
        let (others, more) ← entries fuel (skipGaps more)
        pure ((.text name, first) :: others, more)
      | other => .error (.fault .expectingComma other.length)
    | other => .error (.fault .expectingColon other.length)

end

/-- Why a document cannot be read, from where its reading stopped. -/
def failureAt (document : List Char) : Stop → Failure
  | .fault reason left => .json (.behind reason (document.take (document.length - left)))
  | .tooManyDigits count => .tooManyDigits (some count)

/-- Reads the characters of a document. -/
def readChars (document : List Char) : Except Stop Value := do
  let (found, rest) ← value (document.length + 1) (skipGaps document)
  let rest := skipGaps rest
  if rest.isEmpty then pure found else .error (.fault .extraData rest.length)

/-- Reads a document. -/
def read (document : String) : Except Failure Value :=
  if document.toList.head? = some '\ufeff' then .error (.json (.behind .byteOrderMark []))
  else (readChars document.toList).mapError (failureAt document.toList)

end QueryDesk.Json
