/-
**The whole numbers within reach of doubles.**

A whole number is rounded to a multiple of the distance between the doubles around it. Just
below `2 ^ 1024` this distance is `2 ^ 971`, so what is closer than half of it to `2 ^
1024` is rounded up to it, and is out of reach: the last double has an odd mantissa, so the
number half way goes up as well.

* `Binary64.topExponent_one` — the leading digit of a whole number.
* `Binary64.roundHalfEven_eq_iff` — when a number is rounded up to an even multiple.
* `Binary64.isFinite_ofInt_iff` — the whole numbers within reach.
-/

import Mathlib.Algebra.Group.Nat.Defs
import QueryDesk.Number.Binary64

namespace QueryDesk.Binary64

theorem topExponent_one {number : Nat} (positive : number ≠ 0) :
    topExponent number 1 = number.log2 := by
  have reached : Nat.pow 2 number.log2 ≤ number := Nat.log2_self_le positive
  have guess : (number.log2 : Int) - Nat.log2 1 = number.log2 := Int.sub_zero _
  unfold topExponent
  simp only [guess, Int.natCast_nonneg, if_true, Int.toNat_natCast, Nat.one_mul, reached,
    decide_true]

theorem ofRatio_one (negative : Bool) {number : Nat} (positive : number ≠ 0) :
    ofRatio negative number 1 = normalized negative
      (if 0 ≤ (number.log2 : Int) - 52 then
          roundHalfEven number (Nat.pow 2 ((number.log2 : Int) - 52).toNat)
        else roundHalfEven (number * Nat.pow 2 (-((number.log2 : Int) - 52)).toNat) 1)
      (number.log2 - 52) := by
  have exponent : max ((number.log2 : Int) - 52) minExponent = number.log2 - 52 := by
    unfold minExponent
    omega
  unfold ofRatio
  simp only [if_neg positive, topExponent_one positive, exponent, Nat.one_mul]

theorem isFinite_normalized_iff (negative : Bool) (mantissa : Nat) (exponent : Int) :
    (normalized negative mantissa exponent).isFinite = true ↔
      exponent + (if mantissa = 2 ^ 53 then 1 else 0) ≤ 971 := by
  have power : Nat.pow 2 53 = 2 ^ 53 := rfl
  unfold normalized maxExponent
  simp only [power, decide_eq_true_eq]
  by_cases carried : mantissa = 2 ^ 53
  · rw [if_pos carried, if_pos carried]
    by_cases beyond : 971 < exponent + 1
    · rw [if_pos beyond]
      exact iff_of_false nofun (by omega)
    · rw [if_neg beyond]
      exact iff_of_true rfl (by omega)
  · rw [if_neg carried, if_neg carried]
    by_cases beyond : 971 < exponent
    · rw [if_pos beyond]
      exact iff_of_false nofun (by omega)
    · rw [if_neg beyond]
      exact iff_of_true rfl (by omega)

/-- A number below an even multiple of a distance is rounded up to it from half the distance on. -/
theorem roundHalfEven_eq_iff {number half top : Nat} (positive : 0 < half) (even : top % 2 = 0)
    (below : number < top * (2 * half)) :
    roundHalfEven number (2 * half) = top ↔ top * (2 * half) ≤ number + half := by
  have split : 2 * half * (number / (2 * half)) + number % (2 * half) = number :=
    Nat.div_add_mod number (2 * half)
  have remainder : number % (2 * half) < 2 * half := Nat.mod_lt number (by omega)
  have quotient : number / (2 * half) < top := Nat.div_lt_of_lt_mul (by rwa [Nat.mul_comm] at below)
  unfold roundHalfEven
  generalize number / (2 * half) = whole at *
  generalize number % (2 * half) = part at *
  show (if 2 * part < 2 * half then whole
    else if 2 * half < 2 * part then whole + 1 else whole + whole % 2) = top ↔ _
  by_cases last : whole + 1 = top
  · subst last
    have distance : (whole + 1) * (2 * half) = 2 * half * whole + 2 * half := by
      rw [Nat.mul_comm, Nat.mul_succ]
    rw [distance]
    split
    · omega
    · split <;> omega
  · have next : 2 * half * (whole + 2) ≤ 2 * half * top := Nat.mul_le_mul_left _ (by omega)
    rw [Nat.mul_add] at next
    rw [Nat.mul_comm top]
    split
    · omega
    · split <;> omega

/-- The last exponent of doubles is left as a variable here, so that no power of two is computed. -/
theorem isFinite_ofRatio_one_iff (negative : Bool) {size last : Nat} (positive : size ≠ 0)
    (final : last + 1 = 971) :
    (ofRatio negative size 1).isFinite = true ↔ size + 2 ^ last < 2 ^ (last + 54) := by
  have limit : 2 ^ (last + 54) = 2 ^ 53 * (2 * 2 ^ last) := by
    rw [Nat.pow_add]
    omega
  have twice : 2 ^ (last + 54) = 2 * 2 ^ (last + 53) := Nat.pow_succ'
  have small : 2 ^ last < 2 ^ (last + 53) := Nat.pow_lt_pow_right (by omega) (by omega)
  rw [ofRatio_one _ positive, isFinite_normalized_iff]
  -- below the last power of two there is room for a carry, above it there is none for anything
  rcases Nat.lt_trichotomy size.log2 (last + 53) with low | top | high
  · have bound : size < 2 ^ (last + 53) := (Nat.log2_lt positive).1 low
    refine iff_of_true ?_ (by omega)
    split <;> omega
  · have bound : size < 2 ^ (last + 54) := (Nat.log2_lt positive).1 (by omega)
    have carried := roundHalfEven_eq_iff (Nat.two_pow_pos last) (by decide : 2 ^ 53 % 2 = 0)
      (Nat.lt_of_lt_of_eq bound limit)
    have exponent : ((size.log2 : Int) - 52).toNat = last + 1 := by omega
    have distance : Nat.pow 2 (last + 1) = 2 * 2 ^ last := Nat.pow_succ'
    have whole : 0 ≤ (size.log2 : Int) - 52 := by omega
    simp only [if_pos whole, exponent, distance, carried, ← limit]
    split <;> omega
  · have bound : 2 ^ (last + 54) ≤ size := (Nat.le_log2 positive).1 high
    refine iff_of_false ?_ (by omega)
    split <;> omega

/-- **The whole numbers within reach of doubles**: those further from `2 ^ 1024` than half the
distance of the last two doubles. -/
theorem isFinite_ofInt_iff (number : Int) :
    (ofInt number).isFinite = true ↔ number.natAbs + 2 ^ 970 < 2 ^ 1024 := by
  unfold ofInt
  by_cases zero : number.natAbs = 0
  · rw [zero]
    refine iff_of_true rfl ?_
    rw [Nat.zero_add]
    exact Nat.pow_lt_pow_right (by omega) (by omega)
  · exact isFinite_ofRatio_one_iff _ zero rfl

end QueryDesk.Binary64
