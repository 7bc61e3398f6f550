/-
**Texts in quotes, as they stand inside lists and messages.**

* `quoted` — the text between single quotes, or between double quotes when it holds a
  single quote and no double one; the closing quote and the backslash get a backslash, tab,
  line feed and carriage return their letters, and other characters that cannot be printed
  their number in hexadecimal.
-/

import QueryDesk.Text.Basic
import QueryDesk.Text.Half

namespace QueryDesk.Text

/-- One character between the given quotes. -/
def quotedChar (quote c : Char) : String :=
  if c = quote ∨ c = '\\' then String.ofList ['\\', c]
  else if c = '\t' then "\\t"
  else if c = '\n' then "\\n"
  else if c = '\r' then "\\r"
  else if isPrintable c then String.singleton c
  else
    let code := codePoint c
    if code < 0x100 then "\\x" ++ hex 2 code
    else if code < 0x10000 then "\\u" ++ hex 4 code
    else "\\U" ++ hex 8 code

/-- The quote a text is put between: a double one only when it saves escapes. -/
def quoteFor (text : String) : Char :=
  if text.contains '\'' && !text.contains '"' then '"' else '\''

/-- A text between quotes. -/
def quoted (text : String) : String :=
  let quote := quoteFor text
  String.singleton quote ++ String.join (text.toList.map (quotedChar quote)) ++
    String.singleton quote

end QueryDesk.Text
