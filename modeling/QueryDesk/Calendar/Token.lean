/-
**The tokens of a date written by people.**

* `Token.scan` — a text cut into numbers, words and single marks; every blank is one space. A
  number may hold one point; a run of digits and letters with more points, or with a point at
  its end, is cut at its points.
-/

import QueryDesk.Text.Basic

namespace QueryDesk.Token

open Text

/-- What the token that is being read consists of so far. -/
inductive Kind where
  | letters
  | digits
  | dottedLetters
  | dottedDigits
deriving DecidableEq, Repr

namespace Kind

/-- Whether the kind is one of letters. -/
def isOfLetters : Kind → Bool
  | .letters => true
  | .dottedLetters => true
  | _ => false

/-- Whether a point or comma has been read. -/
def isDotted : Kind → Bool
  | .dottedLetters => true
  | .dottedDigits => true
  | _ => false

end Kind

/-- Whether a character is a letter of some script. -/
def isLetter (c : Char) : Bool := isWord c && c != '_' && !isDecimalDigit c

/-- The kind of a token with one more character, given its last one and its length, or none when the
character does not belong to it. -/
def extended (kind : Kind) (last : Char) (size : Nat) (c : Char) : Option Kind :=
  match kind with
  | .letters =>
    if isLetter c then some .letters else if c = '.' then some .dottedLetters else none
  | .digits =>
    if isDecimalDigit c then some .digits
    else if c = '.' ∨ (c = ',' ∧ 2 ≤ size) then some .dottedDigits
    else none
  | .dottedLetters =>
    if c = '.' ∨ isLetter c then some .dottedLetters
    else if isDecimalDigit c ∧ last = '.' then some .dottedDigits
    else none
  | .dottedDigits =>
    if c = '.' ∨ isDecimalDigit c then some .dottedDigits
    else if isLetter c ∧ last = '.' then some .dottedLetters
    else none

/-- A token as it was read: its kind, whether a character followed one of its letters, and its
characters, the last one first. -/
structure Raw where
  kind : Kind
  passedLetters : Bool
  reversed : List Char

/-- Reads a token to its end; the rest of the text is what follows it. -/
def extend (token : Raw) : List Char → Raw × List Char
  | [] => (token, [])
  | c :: rest =>
    let passed := token.passedLetters || token.kind.isOfLetters
    match extended token.kind (token.reversed.headD ' ') token.reversed.length c with
    | some kind => extend ⟨kind, passed, c :: token.reversed⟩ rest
    | none => (⟨token.kind, passed, token.reversed⟩, c :: rest)

theorem length_extend_le (token : Raw) (text : List Char) :
    (extend token text).2.length ≤ text.length := by
  induction text generalizing token with
  | nil => simp [extend]
  | cons c rest ih =>
    simp only [extend]
    split
    · exact Nat.le_succ_of_le (ih _)
    · simp

/-- Cuts at points and commas, which stand for themselves. -/
def cutAtPoints : List Char → List Char → List (List Char)
  | part, [] => if part.isEmpty then [] else [part.reverse]
  | part, c :: rest =>
    if c = '.' ∨ c = ',' then
      (if part.isEmpty then [] else [part.reverse]) ++ [c] :: cutAtPoints [] rest
    else cutAtPoints (c :: part) rest

/-- The tokens a reading stands for. -/
def Raw.parts (token : Raw) : List (List Char) :=
  let points := token.reversed.count '.'
  let endsWithPoint := token.reversed.head?.any fun c => c == '.' || c == ','
  if token.kind.isDotted && (token.passedLetters || decide (1 < points) || endsWithPoint) then
    cutAtPoints [] token.reversed.reverse
  else if token.kind = .dottedDigits ∧ points = 0 then
    [token.reversed.reverse.map fun c => if c = ',' then '.' else c]
  else [token.reversed.reverse]

/-- The token that a character begins, read to its end. -/
def extended? (c : Char) (rest : List Char) : Option (Raw × List Char) :=
  if isLetter c then some (extend ⟨.letters, false, [c]⟩ rest)
  else if isDecimalDigit c then some (extend ⟨.digits, false, [c]⟩ rest)
  else none

/-- An extended token leaves no more text than there was. -/
theorem length_extended?_le {c : Char} {rest : List Char} {found : Raw × List Char}
    (reads : extended? c rest = some found) : found.2.length ≤ rest.length := by
  unfold extended? at reads
  split at reads
  · cases reads
    exact length_extend_le _ rest
  · split at reads
    · cases reads
      exact length_extend_le _ rest
    · simp at reads

/-- The tokens of a list of characters. -/
def scanChars : List Char → List (List Char)
  | [] => []
  | c :: rest =>
    match _reads : extended? c rest with
    | some found => found.1.parts ++ scanChars found.2
    | none => (if isBlank c then [' '] else [c]) :: scanChars rest
termination_by text => text.length
decreasing_by
  · exact Nat.lt_succ_of_le (length_extended?_le _reads)
  · simp

/-- The tokens of a text. -/
def scan (text : String) : List String := (scanChars text.toList).map String.ofList

end QueryDesk.Token
