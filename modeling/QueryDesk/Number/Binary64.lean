/-
**Double precision numbers, held exactly.**

* `Binary64` — not a number, a signed infinity, or a signed whole multiple of a power of two.
* `Binary64.ofRatio` — the nearest double of a quotient of natural numbers; a value half way between
  two doubles goes to the one with the even mantissa, and what lies beyond the largest double is
  infinite.
* `Binary64.toRat?` — the exact value of a finite double; comparison goes through it.
-/

namespace QueryDesk

/-- A double. A finite one is `± mantissa · 2 ^ exponent` with `mantissa < 2 ^ 53` and
`-1074 ≤ exponent`, the mantissa at least `2 ^ 52` unless the exponent is the smallest one. -/
inductive Binary64 where
  | nan
  | infinite (negative : Bool)
  | finite (negative : Bool) (mantissa : Nat) (exponent : Int)
deriving DecidableEq, Repr, Inhabited

namespace Binary64

/-- The smallest exponent of a double. -/
def minExponent : Int := -1074

/-- The largest exponent of a double. -/
def maxExponent : Int := 971

/-- Zero with the given sign. -/
def signedZero (negative : Bool) : Binary64 := .finite negative 0 minExponent

/-- The nearest natural number of a quotient; halves go to the even neighbour. -/
def roundHalfEven (numerator denominator : Nat) : Nat :=
  let quotient := numerator / denominator
  let twice := 2 * (numerator % denominator)
  if twice < denominator then quotient
  else if denominator < twice then quotient + 1
  else quotient + quotient % 2

/-- The exponent of the power of two at or just below a positive quotient. -/
def topExponent (numerator denominator : Nat) : Int :=
  let guess : Int := (numerator.log2 : Int) - denominator.log2
  let reached : Bool :=
    if 0 ≤ guess then decide (denominator * Nat.pow 2 guess.toNat ≤ numerator)
    else decide (denominator ≤ numerator * Nat.pow 2 (-guess).toNat)
  if reached then guess else guess - 1

/-- The double with the given sign and mantissa, the mantissa brought back into its range. -/
def normalized (negative : Bool) (mantissa : Nat) (exponent : Int) : Binary64 :=
  let carried := decide (mantissa = Nat.pow 2 53)
  let mantissa := if carried then Nat.pow 2 52 else mantissa
  let exponent := if carried then exponent + 1 else exponent
  if maxExponent < exponent then .infinite negative else .finite negative mantissa exponent

/-- The nearest double of `numerator / denominator` with the given sign. -/
def ofRatio (negative : Bool) (numerator denominator : Nat) : Binary64 :=
  if numerator = 0 then signedZero negative
  else
    let exponent := max (topExponent numerator denominator - 52) minExponent
    let mantissa :=
      if 0 ≤ exponent then roundHalfEven numerator (denominator * Nat.pow 2 exponent.toNat)
      else roundHalfEven (numerator * Nat.pow 2 (-exponent).toNat) denominator
    normalized negative mantissa exponent

/-- The nearest double of a rational number. -/
def ofRat (value : Rat) : Binary64 :=
  ofRatio (decide (value.num < 0)) value.num.natAbs value.den

/-- The nearest double of a whole number, infinite when the number is out of reach. -/
def ofInt (value : Int) : Binary64 :=
  ofRatio (decide (value < 0)) value.natAbs 1

/-- The nearest double of `± digits · 10 ^ exponent`. -/
def ofScientific (negative : Bool) (digits : Nat) (exponent : Int) : Binary64 :=
  if digits = 0 then signedZero negative
  else
    -- The power of ten of the leading digit lies between these two numbers.
    let atLeast : Int := (digits.log2 : Int) / 4 + exponent
    let atMost : Int := (digits.log2 : Int) / 3 + 1 + exponent
    if 310 < atLeast then .infinite negative
    else if atMost < -330 then signedZero negative
    else if 0 ≤ exponent then ofRatio negative (digits * Nat.pow 10 exponent.toNat) 1
    else ofRatio negative digits (Nat.pow 10 (-exponent).toNat)

/-- The exact value of a finite double. -/
def toRat? : Binary64 → Option Rat
  | .finite negative mantissa exponent =>
    let signed : Int := if negative then -(mantissa : Int) else mantissa
    some (if 0 ≤ exponent then ((signed * Nat.pow 2 exponent.toNat : Int) : Rat)
      else mkRat signed (Nat.pow 2 (-exponent).toNat))
  | _ => none

/-- Whether a double is not a number. -/
def isNaN : Binary64 → Bool
  | .nan => true
  | _ => false

/-- Whether a double is finite. -/
def isFinite : Binary64 → Bool
  | .finite .. => true
  | _ => false

/-- Whether the sign of a double is a minus. -/
def isNegative : Binary64 → Bool
  | .nan => false
  | .infinite negative => negative
  | .finite negative _ _ => negative

/-- The double with the other sign. -/
def neg : Binary64 → Binary64
  | .nan => .nan
  | .infinite negative => .infinite (!negative)
  | .finite negative mantissa exponent => .finite (!negative) mantissa exponent

/-- The whole number a double stands for, if it stands for one. -/
def toInt? (value : Binary64) : Option Int :=
  value.toRat?.bind fun exact => if exact.den = 1 then some exact.num else none

/-- Whether a double is a whole number. -/
def isWhole (value : Binary64) : Bool := value.toInt?.isSome

end Binary64

end QueryDesk
