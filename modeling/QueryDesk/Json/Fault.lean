/-
**Where and why a text is no JSON document.**

* `JsonFault` — the reason and the place, counted in characters from the start, with the line and
  column it falls on.
-/

namespace QueryDesk

/-- Why a text is no JSON document. -/
inductive JsonReason where
  | expectingValue
  | expectingName
  | expectingColon
  | expectingComma
  | extraData
  | unterminatedText
  | controlCharacter
  | badEscape
  | badUnicodeEscape
  | byteOrderMark
deriving DecidableEq, Repr

/-- The words for a reason. -/
def JsonReason.message : JsonReason → String
  | .expectingValue => "Expecting value"
  | .expectingName => "Expecting property name enclosed in double quotes"
  | .expectingColon => "Expecting ':' delimiter"
  | .expectingComma => "Expecting ',' delimiter"
  | .extraData => "Extra data"
  | .unterminatedText => "Unterminated string starting at"
  | .controlCharacter => "Invalid control character at"
  | .badEscape => "Invalid \\escape"
  | .badUnicodeEscape => "Invalid \\uXXXX escape"
  | .byteOrderMark => "Unexpected UTF-8 BOM (decode using utf-8-sig)"

/-- A reason and its place: line and column are counted from one, the position from zero. -/
structure JsonFault where
  reason : JsonReason
  line : Nat
  column : Nat
  position : Nat
deriving DecidableEq, Repr

namespace JsonFault

/-- The fault at a place of a document, given by the characters before it. -/
def behind (reason : JsonReason) (before : List Char) : JsonFault :=
  ⟨reason, before.count '\n' + 1, (before.reverse.takeWhile (· != '\n')).length + 1, before.length⟩

/-- The message: the reason and the place. -/
def message (fault : JsonFault) : String :=
  fault.reason.message ++ ": line " ++ toString fault.line ++ " column " ++ toString fault.column ++
    " (char " ++ toString fault.position ++ ")"

end JsonFault

end QueryDesk
