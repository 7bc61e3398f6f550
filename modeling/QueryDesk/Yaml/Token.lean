/-
**The tokens of a YAML text.**

* `Token` — marks, names and scalars. Indentation is told by tokens that start and end collections.
* `Scanner` — the tokens found so far. A scalar may turn out to be a key when a colon follows it,
  and then tokens are put in front of it, so the last tokens are not final while that is open.
* `tokens` — the final tokens of a text, and why it does not go on if it is no YAML. Tokens that are
  not final when the text turns out to be wrong are not given.
-/

import QueryDesk.Yaml.ScalarText

namespace QueryDesk.Yaml

open Scan

/-- A token. -/
inductive Token where
  | streamEnd
  /-- The version of YAML that a text is written in. -/
  | version (major : Nat)
  /-- What a handle in front of tags stands for. -/
  | tagHandle (handle meaning : String)
  /-- A directive without a meaning. -/
  | directive
  | documentStart
  | documentEnd
  | blockSequenceStart
  | blockMappingStart
  | blockEnd
  | flowSequenceStart
  | flowSequenceEnd
  | flowMappingStart
  | flowMappingEnd
  | blockEntry
  | flowEntry
  | key
  | value
  | reference (name : String)
  | anchor (name : String)
  /-- A tag, with the handle in front of it if it has one. -/
  | tag (handle : Option String) (rest : String)
  /-- A scalar; it is plain if it stands without quotes and on no lines of its own. -/
  | scalar (text : String) (plain : Bool)
deriving DecidableEq, Repr

/-! ### Names, tags and directives -/

/-- The name of an anchor or alias, behind its mark. -/
def anchorName : Scan String := do
  forward 1
  let name ← run isNameChar
  let endsWell := match ← peek with
    | none => true
    | some c => isSeparator c || "?:,]\x7d%@".toList.contains c || c = Char.ofNat 96
  if name.isEmpty || !endsWell then fail
  return String.ofList name

/-- Whether a character may stand in a tag. -/
def isTagChar (c : Char) : Bool := c.isAlphanum || "-;/?:@&=+$,_.!~*'()[]%".toList.contains c

/-- Bytes written as two digits behind a percent sign each. -/
def percentBytes : List Char → Option (List UInt8 × List Char)
  | '%' :: high :: low :: rest => do
    let high ← Text.hexValue? high
    let low ← Text.hexValue? low
    let (others, rest) ← match rest with
      | '%' :: _ => percentBytes rest
      | _ => some ([], rest)
    return (UInt8.ofNat (high * 16 + low) :: others, rest)
  | '%' :: _ => none
  | text => some ([], text)

/-- The characters of a tag, with characters written as bytes put back. -/
def tagChars : Nat → List Char → Option (List Char)
  | _, [] => some []
  | 0, _ => none
  | bound + 1, '%' :: rest => do
    let (bytes, rest) ← percentBytes ('%' :: rest)
    let text ← String.fromUTF8? ⟨bytes.toArray⟩
    return text.toList ++ (← tagChars bound rest)
  | bound + 1, c :: rest => do return c :: (← tagChars bound rest)

/-- A nonempty tag. -/
def tagText : Scan String := do
  let found ← run isTagChar
  match tagChars found.length found with
  | some text => if found.isEmpty then fail else return String.ofList text
  | none => fail

/-- A handle in front of a tag: an exclamation mark, or a name between two of them. -/
def handleText : Scan String := do
  if !(← accept? '!') then fail
  if (← peek) = some ' ' then return "!"
  else
    let name ← run isNameChar
    if !(← accept? '!') then fail
    return "!" ++ String.ofList name ++ "!"

/-- A tag. -/
def tag : Scan Token := do
  let cursor ← get
  let found ← match cursor.ahead 1 with
    | some '<' => do
      forward 2
      let text ← tagText
      if !(← accept? '>') then fail
      pure (Token.tag none text)
    | next =>
      if endsToken next then do
        forward 1
        pure (Token.tag none "!")
      else do
        let word := (cursor.rest.drop 1).takeWhile fun c => c ≠ ' ' && !isBreak c
        let handle ← if word.contains '!' then handleText else do
          forward 1
          pure "!"
        pure (Token.tag (some handle) (← tagText))
  if (← peek).any fun c => c ≠ ' ' && !isBreak c then fail
  return found

/-- A number of a version. -/
def versionPart : Scan Nat := do
  let digits ← run Char.isDigit
  if digits.isEmpty then fail
  return Text.readDigits digits

/-- Whether a blank or the end of the line comes next, as behind the parts of a directive. -/
def expectBlank : Scan Unit := do
  if (← peek).any fun c => c ≠ ' ' && !isBreak c then fail

/-- A directive, behind its mark. -/
def directive : Scan Token := do
  forward 1
  let name ← run isNameChar
  if name.isEmpty then fail
  expectBlank
  let found ← match String.ofList name with
    | "YAML" => do
      let _ ← run (· = ' ')
      let major ← versionPart
      if !(← accept? '.') then fail
      let _ ← versionPart
      expectBlank
      pure (Token.version major)
    | "TAG" => do
      let _ ← run (· = ' ')
      let handle ← handleText
      if (← peek) ≠ some ' ' then fail
      let _ ← run (· = ' ')
      let meaning ← tagText
      expectBlank
      pure (Token.tagHandle handle meaning)
    | _ => do
      let _ ← run (!isBreak ·)
      pure Token.directive
  restOfLine
  return found

/-! ### The scanner -/

/-- A token that may turn out to be a key: the number of tokens in front of it, whether it has to be
one, and where it starts. -/
structure PossibleKey where
  place : Nat
  required : Bool
  cursor : Cursor
deriving Repr

/-- The tokens found so far and the text that follows, with the number of brackets and braces that
are open, the column of the innermost collection and of those around it, whether a key may start
here, and the tokens that may turn out to be keys, at most one for each flow level. -/
structure Scanner where
  cursor : Cursor
  tokens : Array Token
  flowLevel : Nat
  indent : Int
  outer : List Int
  keyAllowed : Bool
  possibleKeys : List (Nat × PossibleKey)

namespace Scanner

/-- Before the first token. -/
def start (text : List Char) : Scanner := ⟨.start text, #[], 0, -1, [], true, []⟩

/-- One more token. -/
def push (scanner : Scanner) (token : Token) : Scanner :=
  { scanner with tokens := scanner.tokens.push token }

/-- A token in front of others. -/
def insert (scanner : Scanner) (place : Nat) (token : Token) : Scanner :=
  { scanner with tokens :=
      (scanner.tokens.extract 0 place).push token ++
        scanner.tokens.extract place scanner.tokens.size }

/-- Reads on and leaves what was read to be used. -/
def read {α : Type} (scanner : Scanner) (scan : Scan α) : Except YamlFault (α × Scanner) :=
  (StateT.run scan scanner.cursor).map fun (found, cursor) => (found, { scanner with cursor })

/-- The key of the current flow level is none any more. -/
def dropKey (scanner : Scanner) : Except YamlFault Scanner :=
  match scanner.possibleKeys.lookup scanner.flowLevel with
  | none => .ok scanner
  | some key =>
    if key.required then .error .scanner
    else .ok { scanner with
      possibleKeys := scanner.possibleKeys.filter fun entry => entry.1 != scanner.flowLevel }

/-- Keys end with their line and have at most 1024 characters. -/
def dropStaleKeys (scanner : Scanner) : Except YamlFault Scanner :=
  let stale (key : PossibleKey) : Bool :=
    key.cursor.line != scanner.cursor.line ||
      decide (1024 < scanner.cursor.index - key.cursor.index)
  if scanner.possibleKeys.any fun entry => stale entry.2 && entry.2.required then .error .scanner
  else .ok { scanner with possibleKeys := scanner.possibleKeys.filter fun entry => !stale entry.2 }

/-- The next token may turn out to be a key. -/
def saveKey (scanner : Scanner) : Except YamlFault Scanner := do
  if !scanner.keyAllowed then return scanner
  else
    let cleared ← scanner.dropKey
    let required := scanner.flowLevel = 0 && scanner.indent = scanner.cursor.column
    return { cleared with possibleKeys :=
        (scanner.flowLevel, ⟨scanner.tokens.size, required, scanner.cursor⟩) ::
          cleared.possibleKeys }

/-- Collections that are indented further than a column end. -/
def unwindFrom (column : Int) : List Int → Scanner → Scanner
  | outer, scanner =>
    if scanner.indent ≤ column then { scanner with outer }
    else
      match outer with
      | [] => scanner
      | indent :: outer => unwindFrom column outer { scanner.push .blockEnd with indent }

/-- Collections that are indented further than a column end; between brackets nothing does. -/
def unwind (scanner : Scanner) (column : Int) : Scanner :=
  if scanner.flowLevel = 0 then unwindFrom column scanner.outer scanner else scanner

/-- A collection that starts at a column, unless there is one there already. -/
def indentTo (scanner : Scanner) (column : Int) (place : Nat) (token : Token) : Scanner :=
  if scanner.flowLevel = 0 && decide (scanner.indent < column) then
    { scanner.insert place token with indent := column, outer := scanner.indent :: scanner.outer }
  else scanner

/-- A mark of one character, which is passed over. -/
def mark (scanner : Scanner) (token : Token) : Scanner :=
  { scanner.push token with cursor := scanner.cursor.next }

/-! ### Single tokens -/

/-- Everything ends. -/
def finish (scanner : Scanner) : Except YamlFault Scanner := do
  let done ← (scanner.unwind (-1)).dropKey
  return { done.push .streamEnd with keyAllowed := false, possibleKeys := [] }

/-- The border of a document, which ends all collections. -/
def border (scanner : Scanner) (token : Token) : Except YamlFault Scanner := do
  let done ← (scanner.unwind (-1)).dropKey
  return { done.push token with keyAllowed := false, cursor := scanner.cursor.forward 3 }

/-- A directive, which ends all collections. -/
def readDirective (scanner : Scanner) : Except YamlFault Scanner := do
  let done ← (scanner.unwind (-1)).dropKey
  let (token, next) ← { done with keyAllowed := false }.read directive
  return next.push token

/-- An opening bracket or brace. -/
def openFlow (scanner : Scanner) (token : Token) : Except YamlFault Scanner := do
  let saved ← scanner.saveKey
  return { saved.mark token with flowLevel := scanner.flowLevel + 1, keyAllowed := true }

/-- A closing bracket or brace. -/
def closeFlow (scanner : Scanner) (token : Token) : Except YamlFault Scanner := do
  let done ← scanner.dropKey
  return { done.mark token with flowLevel := scanner.flowLevel - 1, keyAllowed := false }

/-- A comma between brackets or braces. -/
def readFlowEntry (scanner : Scanner) : Except YamlFault Scanner := do
  let done ← { scanner with keyAllowed := true }.dropKey
  return done.mark .flowEntry

/-- The dash in front of an entry. -/
def readBlockEntry (scanner : Scanner) : Except YamlFault Scanner := do
  if scanner.flowLevel = 0 && !scanner.keyAllowed then throw .scanner
  let started := scanner.indentTo scanner.cursor.column scanner.tokens.size .blockSequenceStart
  let done ← { started with keyAllowed := true }.dropKey
  return done.mark .blockEntry

/-- The question mark in front of a key. -/
def readKey (scanner : Scanner) : Except YamlFault Scanner := do
  if scanner.flowLevel = 0 && !scanner.keyAllowed then throw .scanner
  let started := scanner.indentTo scanner.cursor.column scanner.tokens.size .blockMappingStart
  let done ← { started with keyAllowed := scanner.flowLevel = 0 }.dropKey
  return done.mark .key

/-- The colon in front of a value. What stands before it is a key if it can be one. -/
def readValue (scanner : Scanner) : Except YamlFault Scanner := do
  match scanner.possibleKeys.lookup scanner.flowLevel with
  | some key =>
    let found := { scanner.insert key.place .key with
      possibleKeys := scanner.possibleKeys.filter fun entry => entry.1 != scanner.flowLevel
      keyAllowed := false }
    return (found.indentTo key.cursor.column key.place .blockMappingStart).mark .value
  | none =>
    if scanner.flowLevel = 0 && !scanner.keyAllowed then throw .scanner
    let started := scanner.indentTo scanner.cursor.column scanner.tokens.size .blockMappingStart
    let done ← { started with keyAllowed := scanner.flowLevel = 0 }.dropKey
    return done.mark .value

/-- An anchor, an alias or a tag. -/
def readName (scanner : Scanner) (scan : Scan Token) : Except YamlFault Scanner := do
  let saved ← scanner.saveKey
  let (token, next) ← { saved with keyAllowed := false }.read scan
  return next.push token

/-- A scalar in quotes. -/
def readQuoted (scanner : Scanner) (double : Bool) : Except YamlFault Scanner :=
  scanner.readName ((quotedText double).map fun text => .scalar text false)

/-- A scalar on lines of its own. -/
def readBlock (scanner : Scanner) (folded : Bool) : Except YamlFault Scanner := do
  let done ← { scanner with keyAllowed := true }.dropKey
  let (text, next) ← done.read (blockText folded scanner.indent)
  return next.push (.scalar text false)

/-- A plain scalar. -/
def readPlain (scanner : Scanner) : Except YamlFault Scanner := do
  let saved ← scanner.saveKey
  let ((text, ended), next) ← saved.read (plainText (scanner.flowLevel != 0) (scanner.indent + 1))
  return { next.push (.scalar text true) with keyAllowed := ended }

/-! ### All tokens -/

/-- Passes over blanks, comments and line ends; a key may start on a new line. -/
def skipBlanks : Nat → Scanner → Scanner
  | 0, scanner => scanner
  | bound + 1, scanner =>
    let dropRun (inRun : Char → Bool) (cursor : Cursor) : Cursor :=
      cursor.forward (cursor.rest.takeWhile inRun).length
    let cursor := dropRun (· = ' ') scanner.cursor
    let cursor := if cursor.rest.head? = some '#' then dropRun (!isBreak ·) cursor else cursor
    match cursor.rest with
    | [] => { scanner with cursor }
    | c :: _ =>
      if isBreak c then
        skipBlanks bound { scanner with
          cursor := cursor.next
          keyAllowed := scanner.keyAllowed || scanner.flowLevel = 0 }
      else { scanner with cursor }

/-- Whether a plain scalar may start with the next character. -/
def startsPlain (scanner : Scanner) (c : Char) : Bool :=
  !(isSeparator c || "-?:,[]\x7b\x7d#&*!|>'\"%@".toList.contains c || c = Char.ofNat 96) ||
    (!endsToken (scanner.cursor.ahead 1) &&
      (c = '-' || (scanner.flowLevel = 0 && (c = '?' || c = ':'))))

/-- The next token, and maybe others in front of it. -/
def step (scanner : Scanner) : Except YamlFault Scanner := do
  let atStart := scanner.cursor.index = 0 && scanner.cursor.rest.head? = some '\ufeff'
  let scanner := if atStart then { scanner with cursor := scanner.cursor.next } else scanner
  let fresh ← (scanner.skipBlanks (scanner.cursor.rest.length + 1)).dropStaleKeys
  let scanner := fresh.unwind fresh.cursor.column
  let inBlock := scanner.flowLevel = 0
  let alone := endsToken (scanner.cursor.ahead 1)
  let lineStart := scanner.cursor.column = 0
  match scanner.cursor.rest.head? with
  | none => scanner.finish
  | some c =>
    if c = '%' && lineStart then scanner.readDirective
    else if lineStart && scanner.cursor.atMark '-' then scanner.border .documentStart
    else if lineStart && scanner.cursor.atMark '.' then scanner.border .documentEnd
    else if c = '[' then scanner.openFlow .flowSequenceStart
    else if c = '\x7b' then scanner.openFlow .flowMappingStart
    else if c = ']' then scanner.closeFlow .flowSequenceEnd
    else if c = '\x7d' then scanner.closeFlow .flowMappingEnd
    else if c = ',' then scanner.readFlowEntry
    else if c = '-' && alone then scanner.readBlockEntry
    else if c = '?' && (!inBlock || alone) then scanner.readKey
    else if c = ':' && (!inBlock || alone) then scanner.readValue
    else if c = '*' then scanner.readName (anchorName.map .reference)
    else if c = '&' then scanner.readName (anchorName.map .anchor)
    else if c = '!' then scanner.readName tag
    else if c = '|' && inBlock then scanner.readBlock false
    else if c = '>' && inBlock then scanner.readBlock true
    else if c = '\'' then scanner.readQuoted false
    else if c = '"' then scanner.readQuoted true
    else if scanner.startsPlain c then scanner.readPlain
    else throw .scanner

/-- How many of the tokens are final: those in front of the first that may turn out to be a key. -/
def finalCount (scanner : Scanner) : Nat :=
  scanner.possibleKeys.foldl (fun count entry => min count entry.2.place) scanner.tokens.size

/-- The final tokens of the text that follows, given how many are final already. -/
def runFrom : Nat → Nat → Scanner → List Token × Option YamlFault
  | 0, _, scanner => (scanner.tokens.toList, none)
  | bound + 1, count, scanner =>
    if scanner.tokens.back? = some .streamEnd then (scanner.tokens.toList, none)
    else
      match scanner.dropStaleKeys with
      | .error fault => (scanner.tokens.toList.take count, some fault)
      | .ok fresh =>
        match fresh.step with
        | .error fault => (scanner.tokens.toList.take fresh.finalCount, some fault)
        | .ok next => runFrom bound fresh.finalCount next

end Scanner

/-- The final tokens of a text, and why it does not go on. Every step but the last reads a
character, so the length of the text bounds their number. -/
def tokens (text : List Char) : List Token × Option YamlFault :=
  Scanner.runFrom (text.length + 2) 0 (.start text)

end QueryDesk.Yaml
