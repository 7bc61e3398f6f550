/-
**The shortest decimal that reads back as a double.**

* `Shortest.digits` — the decimal with the fewest digits inside the interval of numbers that round
  to the double, and of those the nearest to it.
* `DoubleFormat` — how such a decimal is written: which exponents stand in positional notation and
  how the others, infinity and not-a-number look.
-/

import QueryDesk.Number.Binary64

namespace QueryDesk

/-- A decimal `digits · 10 ^ exponent`. -/
structure ShortDecimal where
  digits : Nat
  exponent : Int

namespace Shortest

/-- Numbers as multiples of `2 ^ exponent / 4`: the double itself and the ends of the interval of
numbers that round to it, with the ends counted in when the mantissa is even. -/
structure Interval where
  value : Nat
  low : Nat
  high : Nat
  closed : Bool

/-- The interval of a double; below a power of two the neighbours lie half as far apart. -/
def interval (mantissa : Nat) (exponent : Int) : Interval :=
  { value := 4 * mantissa
    low := 4 * mantissa -
      (if mantissa = Nat.pow 2 52 ∧ Binary64.minExponent < exponent then 1 else 2)
    high := 4 * mantissa + 2
    closed := mantissa % 2 = 0 }

/-- Whether `candidate` lies between the ends, all three on one scale. -/
def Interval.admits (ends : Interval) (scale candidate : Nat) : Bool :=
  if ends.closed then
    decide (ends.low * scale ≤ candidate) && decide (candidate ≤ ends.high * scale)
  else decide (ends.low * scale < candidate) && decide (candidate < ends.high * scale)

/-- Of two neighbours on a grid the one nearer to `exact`, the even one when both are as far. -/
def nearer (exact step below above : Nat) : Nat :=
  let down := exact - below * step
  let up := above * step - exact
  if down < up then below
  else if up < down then above
  else if below % 2 = 0 then below else above

/-- The neighbour of the double on the grid of multiples of `10 ^ power` that rounds to it, the
nearer one when both do. -/
def onGrid? (mantissa : Nat) (exponent : Int) (power : Int) : Option Nat :=
  let ends := interval mantissa exponent
  -- One quarter of `2 ^ exponent` is `scale` units and one step of the grid is `step` units.
  let binary := exponent - 2
  let scale := Nat.pow 2 binary.toNat * Nat.pow 10 (-power).toNat
  let step := Nat.pow 2 (-binary).toNat * Nat.pow 10 power.toNat
  let exact := ends.value * scale
  let below := exact / step
  let above := below + 1
  match ends.admits scale (below * step), ends.admits scale (above * step) with
  | true, true => some (nearer exact step below above)
  | true, false => some below
  | false, true => some above
  | false, false => none

/-- Leaves out the zeros at the end of the digits. -/
def trimZeros : Nat → ShortDecimal → ShortDecimal
  | 0, decimal => decimal
  | fuel + 1, decimal =>
    if decimal.digits % 10 = 0 ∧ decimal.digits ≠ 0 then
      trimZeros fuel ⟨decimal.digits / 10, decimal.exponent + 1⟩
    else decimal

/-- The power of ten of the leading digit of a positive double. -/
def leadingPower (mantissa : Nat) (exponent : Int) : Int :=
  let numerator := mantissa * Nat.pow 2 exponent.toNat
  let denominator := Nat.pow 2 (-exponent).toNat
  -- The first estimate is at most one too large.
  let guess : Int := (Binary64.topExponent numerator denominator + 1) * 30103 / 100000 + 1
  let reaches (power : Int) : Bool :=
    decide (denominator * Nat.pow 10 power.toNat ≤ numerator * Nat.pow 10 (-power).toNat)
  if reaches guess then guess
  else if reaches (guess - 1) then guess - 1
  else if reaches (guess - 2) then guess - 2
  else guess - 3

/-- The first grid, from the coarsest on, with a neighbour that rounds to the double. -/
def search (mantissa : Nat) (exponent : Int) : Nat → Int → ShortDecimal
  | 0, power => ⟨(onGrid? mantissa exponent power).getD 0, power⟩
  | fuel + 1, power =>
    match onGrid? mantissa exponent power with
    | some digits => trimZeros 20 ⟨digits, power⟩
    | none => search mantissa exponent fuel (power - 1)

/-- The shortest decimal of the positive double `mantissa · 2 ^ exponent`. -/
def digits (mantissa : Nat) (exponent : Int) : ShortDecimal :=
  search mantissa exponent 18 (leadingPower mantissa exponent + 1)

end Shortest

/-- How doubles are written: the texts of the values that are no numbers, and the powers of ten of a
leading digit that is written positionally, the end not included. -/
structure DoubleFormat where
  nan : String
  infinity : String
  firstPositional : Int
  endPositional : Int

namespace DoubleFormat

/-- Positional notation of `digits · 10 ^ exponent`, with at least one digit after the point. -/
def positional (decimal : ShortDecimal) : String :=
  let text := toString decimal.digits
  if 0 ≤ decimal.exponent then
    text ++ String.ofList (List.replicate decimal.exponent.toNat '0') ++ ".0"
  else
    let places := (-decimal.exponent).toNat
    let padded := String.ofList (List.replicate (places + 1 - text.length) '0') ++ text
    let whole := padded.length - places
    String.ofList (padded.toList.take whole) ++ "." ++ String.ofList (padded.toList.drop whole)

/-- Scientific notation: the exponent has a sign and at least two digits. -/
def scientific (decimal : ShortDecimal) (leading : Int) : String :=
  let text := (toString decimal.digits).toList
  let mantissa := match text with
    | [] => ""
    | [first] => String.ofList [first]
    | first :: rest => String.ofList (first :: '.' :: rest)
  let size := toString leading.natAbs
  mantissa ++ "e" ++ (if leading < 0 then "-" else "+") ++
    (if size.length < 2 then "0" ++ size else size)

/-- The text of a double. -/
def write (format : DoubleFormat) : Binary64 → String
  | .nan => format.nan
  | .infinite negative => (if negative then "-" else "") ++ format.infinity
  | .finite negative mantissa exponent =>
    let sign := if negative then "-" else ""
    if mantissa = 0 then sign ++ "0.0"
    else
      let decimal := Shortest.digits mantissa exponent
      let leading : Int := (toString decimal.digits).length - 1 + decimal.exponent
      sign ++ (if format.firstPositional ≤ leading ∧ leading < format.endPositional then
        positional decimal else scientific decimal leading)

/-- Doubles as they stand in texts of values: positional from a ten-thousandth
up to ten to the sixteenth. -/
def plain : DoubleFormat := ⟨"nan", "inf", -4, 16⟩

/-- Doubles as they stand in JSON documents. -/
def json : DoubleFormat := ⟨"NaN", "Infinity", -4, 16⟩

end DoubleFormat

end QueryDesk
