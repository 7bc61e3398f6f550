/-
**Decimal numbers that keep their trailing zeros.**

* `Decimal` — a finite decimal with its coefficient and exponent, an infinity, or a quiet or
  signalling not-a-number with an optional payload.
* `Decimal.toText` — positional notation while the exponent is not positive and the number is not
  below a millionth, scientific notation otherwise.
* `Decimal.ofText?` — reads any such text.
-/

import QueryDesk.Number.Numeral

namespace QueryDesk

/-- A decimal number; a finite one is `± coefficient · 10 ^ exponent`. -/
inductive Decimal where
  | finite (negative : Bool) (coefficient : Nat) (exponent : Int)
  | infinite (negative : Bool)
  | nan (signalling negative : Bool) (payload : Nat)
deriving DecidableEq, Repr

namespace Decimal

open Text

/-- The exact value of a finite decimal. -/
def toRat? : Decimal → Option Rat
  | .finite negative coefficient exponent =>
    let signed : Int := if negative then -(coefficient : Int) else coefficient
    some (if 0 ≤ exponent then ((signed * Nat.pow 10 exponent.toNat : Int) : Rat)
      else mkRat signed (Nat.pow 10 (-exponent).toNat))
  | _ => none

/-- Whether a decimal is not a number, of either sort. -/
def isNaN : Decimal → Bool
  | .nan .. => true
  | _ => false

/-- Whether a decimal is the sort of not-a-number that no operation accepts. -/
def isSignalling : Decimal → Bool
  | .nan signalling _ _ => signalling
  | _ => false

/-- The text of a finite decimal without its sign. -/
def finiteText (coefficient : Nat) (exponent : Int) : String :=
  let digits := (toString coefficient).toList
  let leftDigits : Int := exponent + digits.length
  let scientific := decide (0 < exponent) || decide (leftDigits ≤ -6)
  let point : Int := if scientific then 1 else leftDigits
  let body : List Char :=
    if point ≤ 0 then '0' :: '.' :: (List.replicate (-point).toNat '0' ++ digits)
    else if (digits.length : Int) ≤ point then
      digits ++ List.replicate (point - digits.length).toNat '0'
    else digits.take point.toNat ++ '.' :: digits.drop point.toNat
  let power := leftDigits - point
  String.ofList body ++
    (if power = 0 then ""
     else "E" ++ (if power < 0 then "-" else "+") ++ toString power.natAbs)

/-- The text of a decimal. -/
def toText : Decimal → String
  | .finite negative coefficient exponent =>
    (if negative then "-" else "") ++ finiteText coefficient exponent
  | .infinite negative => (if negative then "-" else "") ++ "Infinity"
  | .nan signalling negative payload =>
    (if negative then "-" else "") ++ (if signalling then "sNaN" else "NaN") ++
      (if payload = 0 then "" else toString payload)

/-- A not-a-number, whose name may be followed by digits. -/
def nan? (negative : Bool) (word : List Char) : Option Decimal :=
  match word with
  | 's' :: 'n' :: 'a' :: 'n' :: rest =>
    if rest.all isAsciiDigit then some (.nan true negative (readDigits rest)) else none
  | 'n' :: 'a' :: 'n' :: rest =>
    if rest.all isAsciiDigit then some (.nan false negative (readDigits rest)) else none
  | _ => none

/-- The decimal a text spells. -/
def ofText? (text : String) : Option Decimal :=
  match Numeral.scientific? text.toList with
  | some number => some (.finite number.negative number.digits number.exponent)
  | none =>
    let (negative, word) := Numeral.splitSign text.toList
    let lowered := word.map Char.toLower
    match String.ofList lowered with
    | "inf" | "infinity" => some (.infinite negative)
    | _ => nan? negative lowered

/-- The nearest double of a decimal. -/
def toDouble : Decimal → Binary64
  | .finite negative coefficient exponent => Binary64.ofScientific negative coefficient exponent
  | .infinite negative => .infinite negative
  | .nan .. => .nan

end Decimal

end QueryDesk
