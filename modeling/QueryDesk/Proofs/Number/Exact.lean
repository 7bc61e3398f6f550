/-
**The whole numbers that are doubles.**

A double holds 53 binary digits, so a whole number is one when it is a number of so many digits
with zeros behind them. Any other is rounded to a multiple of the distance of the doubles
around it, and is changed by that.

* `Binary64.IsExact` — the whole numbers that are doubles.
* `Binary64.roundHalfEven_mul_eq_iff` — only multiples are rounded to themselves.
* `Binary64.toInt?_ofInt_iff` — **a whole number of 64 bits comes back from its nearest
  double exactly when it is one.**
-/

import QueryDesk.Proofs.Number.Range

namespace QueryDesk.Binary64

/-- A whole number of at most 53 binary digits, zeros behind it not counted. -/
def IsExact (number : Int) : Prop :=
  ∃ mantissa exponent : Nat, mantissa < 2 ^ 53 ∧ number.natAbs = mantissa * 2 ^ exponent

/-- A natural number with a sign. -/
def withSign (negative : Bool) (size : Nat) : Int := if negative then -(size : Int) else size

theorem withSign_eq_iff {number : Int} {size : Nat} :
    withSign (decide (number < 0)) size = number ↔ size = number.natAbs := by
  unfold withSign
  split
  · rename_i negative
    have below := of_decide_eq_true negative
    omega
  · rename_i negative
    have above : ¬ number < 0 := fun below => negative (decide_eq_true below)
    omega

theorem withSign_mul (negative : Bool) (size factor : Nat) :
    withSign negative size * (factor : Int) = withSign negative (size * factor) := by
  unfold withSign
  cases negative with
  | false => exact (Int.natCast_mul size factor).symm
  | true => exact (Int.neg_mul _ _).trans (congrArg Neg.neg (Int.natCast_mul size factor).symm)

/-! ### Whole doubles -/

/-- A double with a whole value. -/
theorem toInt?_of_toRat? {double : Binary64} {number : Int}
    (value : double.toRat? = some (number : Rat)) :
    double.toInt? = some number := by
  unfold toInt?
  rw [value, Option.bind_some, Rat.den_intCast, Rat.num_intCast]
  rfl

theorem toInt?_of_multiple (negative : Bool) (mantissa exponent : Nat) :
    (finite negative mantissa exponent).toInt? =
      some (withSign negative (mantissa * 2 ^ exponent)) := by
  refine toInt?_of_toRat? ?_
  rw [← withSign_mul]
  exact congrArg some (if_pos (Int.natCast_nonneg exponent))

theorem toInt?_of_shifted (negative : Bool) (size places : Nat) :
    (finite negative (size * 2 ^ places) (-(places : Int))).toInt? =
      some (withSign negative size) := by
  cases places with
  | zero => exact (toInt?_of_multiple negative (size * 2 ^ 0) 0).trans (by simp)
  | succ places =>
    refine toInt?_of_toRat? ?_
    have below : ¬ (0 : Int) ≤ -((places + 1 : Nat) : Int) := by omega
    have scale : Nat.pow 2 (-(-((places + 1 : Nat) : Int))).toNat = 1 * 2 ^ (places + 1) := by
      rw [Int.neg_neg, Int.toNat_natCast, Nat.one_mul]
      rfl
    show some (if (0 : Int) ≤ -((places + 1 : Nat) : Int) then _
      else mkRat (withSign negative (size * 2 ^ (places + 1))) _) = _
    rw [if_neg below, scale, ← withSign_mul, Rat.mkRat_mul_right (Nat.ne_of_gt (Nat.two_pow_pos _)),
      Rat.mkRat_one]

/-! ### Rounding -/

variable {number distance : Nat}

/-- Only multiples are rounded to themselves. -/
theorem roundHalfEven_mul_eq_iff (positive : 0 < distance) :
    roundHalfEven number distance * distance = number ↔ distance ∣ number := by
  have split : distance * (number / distance) + number % distance = number :=
    Nat.div_add_mod number distance
  have small : number % distance < distance := Nat.mod_lt number positive
  constructor
  · intro same
    exact ⟨_, same.symm.trans (Nat.mul_comm _ _)⟩
  · intro multiple
    have none_left : number % distance = 0 := Nat.mod_eq_zero_of_dvd multiple
    unfold roundHalfEven
    rw [none_left]
    dsimp only
    rw [if_pos (by omega), Nat.mul_comm]
    omega

theorem roundHalfEven_one : roundHalfEven number 1 = number := by
  have exact := (roundHalfEven_mul_eq_iff Nat.one_pos).2 (Nat.one_dvd number)
  rwa [Nat.mul_one] at exact

/-- A number of more than 53 digits is exact when it is a multiple of the distance
of the doubles around it. -/
theorem isExact_iff_dvd {number : Int} {exponent : Nat}
    (large : 2 ^ (exponent + 52) ≤ number.natAbs) (small : number.natAbs < 2 ^ (exponent + 53)) :
    IsExact number ↔ 2 ^ exponent ∣ number.natAbs := by
  constructor
  · rintro ⟨mantissa, power, short, same⟩
    have bound : 2 ^ (exponent + 52) < 2 ^ (53 + power) := by
      calc 2 ^ (exponent + 52) ≤ mantissa * 2 ^ power := same ▸ large
        _ < 2 ^ 53 * 2 ^ power := Nat.mul_lt_mul_of_pos_right short (Nat.two_pow_pos power)
        _ = 2 ^ (53 + power) := (Nat.pow_add 2 53 power).symm
    have less : exponent ≤ power := by
      have := (Nat.pow_lt_pow_iff_right (by decide : 1 < 2)).1 bound
      omega
    rw [same]
    exact Nat.dvd_mul_left_of_dvd (Nat.pow_dvd_pow 2 less) mantissa
  · rintro ⟨mantissa, same⟩
    refine ⟨mantissa, exponent, ?_, by rw [same, Nat.mul_comm]⟩
    rw [same, Nat.add_comm exponent, Nat.pow_add, Nat.mul_comm] at small
    exact Nat.lt_of_mul_lt_mul_right small

/-! ### Nearest doubles -/

theorem normalized_of_lt (negative : Bool) {mantissa : Nat} {exponent : Int}
    (short : mantissa < 2 ^ 53) (low : exponent ≤ 971) : normalized negative mantissa exponent =
      finite negative mantissa exponent := by
  have power : Nat.pow 2 53 = 2 ^ 53 := rfl
  unfold normalized maxExponent
  simp only [power, decide_eq_true_eq]
  rw [if_neg (Nat.ne_of_lt short), if_neg (Nat.ne_of_lt short), if_neg (Int.not_lt.2 low)]

/-- A mantissa that has been rounded up to one digit more gives the same value. -/
theorem toInt?_normalized (negative : Bool) {mantissa exponent : Nat} (short : mantissa ≤ 2 ^ 53)
    (low : exponent < 971) :
    (normalized negative mantissa exponent).toInt? =
      some (withSign negative (mantissa * 2 ^ exponent)) := by
  rcases Nat.lt_or_eq_of_le short with below | carried
  · rw [normalized_of_lt negative below (by omega)]
    exact toInt?_of_multiple negative mantissa exponent
  · have power : Nat.pow 2 53 = 2 ^ 53 := rfl
    have half : normalized negative mantissa exponent =
      finite negative (2 ^ 52) (exponent + 1 : Nat) := by
      unfold normalized maxExponent
      simp only [power, carried, decide_true, if_true]
      exact if_neg (by omega)
    have same : 2 ^ 52 * 2 ^ (exponent + 1) = 2 ^ 53 * 2 ^ exponent := by
      rw [← Nat.pow_add, ← Nat.pow_add]
      congr 1
      omega
    rw [half, toInt?_of_multiple, carried, same]

/-- A number of at most 53 digits is held as it is. -/
theorem toInt?_ofRatio_small (negative : Bool) {size : Nat} (positive : size ≠ 0)
    (small : size < 2 ^ 53) :
    (ofRatio negative size 1).toInt? = some (withSign negative size) := by
  have short : size.log2 < 53 := (Nat.log2_lt positive).2 small
  obtain ⟨places, digits⟩ : ∃ places, size.log2 + places = 52 := ⟨52 - size.log2, by omega⟩
  have exponent : (size.log2 : Int) - 52 = -(places : Int) := by omega
  have mantissa :
    (if 0 ≤ -(places : Int) then roundHalfEven size (Nat.pow 2 (-(places : Int)).toNat)
      else roundHalfEven (size * Nat.pow 2 (-(-(places : Int))).toNat) 1) = size * 2 ^ places := by
    cases places with
    | zero => exact roundHalfEven_one.trans (Nat.mul_one size).symm
    | succ places =>
      rw [if_neg (by omega), Int.neg_neg, Int.toNat_natCast]
      exact roundHalfEven_one
  have below : size * 2 ^ places < 2 ^ 53 := by
    calc size * 2 ^ places < 2 ^ (size.log2 + 1) * 2 ^ places :=
          Nat.mul_lt_mul_of_pos_right Nat.lt_log2_self (Nat.two_pow_pos places)
      _ = 2 ^ 53 := by rw [← Nat.pow_add]; congr 1; omega
  rw [ofRatio_one _ positive, exponent, mantissa, normalized_of_lt negative below (by omega)]
  exact toInt?_of_shifted negative size places

/-- A longer number is held rounded to a multiple of the distance of the doubles around it. -/
theorem toInt?_ofRatio_large (negative : Bool) {size exponent : Nat}
    (large : 2 ^ (exponent + 52) ≤ size)
    (small : size < 2 ^ (exponent + 53)) (low : exponent < 971) :
    (ofRatio negative size 1).toInt? =
      some (withSign negative (roundHalfEven size (2 ^ exponent) * 2 ^ exponent)) := by
  have positive : size ≠ 0 := Nat.ne_of_gt (Nat.lt_of_lt_of_le (Nat.two_pow_pos _) large)
  have digits : size.log2 = exponent + 52 := by
    have above := (Nat.le_log2 positive).2 large
    have below := (Nat.log2_lt positive).2 small
    omega
  have power : (size.log2 : Int) - 52 = (exponent : Int) := by omega
  have whole : (if 0 ≤ (exponent : Int) then roundHalfEven size (Nat.pow 2 (exponent : Int).toNat)
      else roundHalfEven (size * Nat.pow 2 (-(exponent : Int)).toNat) 1) =
        roundHalfEven size (2 ^ exponent) := by
    rw [if_pos (Int.natCast_nonneg exponent), Int.toNat_natCast]
    rfl
  have short : roundHalfEven size (2 ^ exponent) ≤ 2 ^ 53 := by
    have quotient : size / 2 ^ exponent < 2 ^ 53 := by
      rw [Nat.div_lt_iff_lt_mul (Nat.two_pow_pos exponent), ← Nat.pow_add, Nat.add_comm]
      exact small
    unfold roundHalfEven
    dsimp only
    split
    · omega
    · split <;> omega
  rw [ofRatio_one _ positive, power, whole]
  exact toInt?_normalized negative short low

/-- **A whole number of 64 bits comes back from its nearest double exactly when it is one.** -/
theorem toInt?_ofInt_iff {number : Int} (reach : number.natAbs < 2 ^ 64) :
    (ofInt number).toInt? = some number ↔ IsExact number := by
  unfold ofInt
  by_cases zero : number.natAbs = 0
  · obtain rfl := Int.natAbs_eq_zero.1 zero
    have nothing := toInt?_of_shifted false 0 1074
    rw [Nat.zero_mul] at nothing
    exact iff_of_true nothing ⟨0, 0, by decide, rfl⟩
  by_cases small : number.natAbs < 2 ^ 53
  · rw [toInt?_ofRatio_small _ zero small, withSign_eq_iff.2 rfl]
    exact iff_of_true rfl ⟨number.natAbs, 0, small, (Nat.mul_one _).symm⟩
  · obtain ⟨exponent, digits⟩ : ∃ exponent, number.natAbs.log2 = exponent + 52 := by
      have long := (Nat.le_log2 zero).2 (Nat.not_lt.1 small)
      exact ⟨number.natAbs.log2 - 52, by omega⟩
    have large : 2 ^ (exponent + 52) ≤ number.natAbs := digits ▸ Nat.log2_self_le zero
    have below : number.natAbs < 2 ^ (exponent + 53) := (Nat.log2_lt zero).1 (by omega)
    have low : exponent < 971 := by
      have := (Nat.log2_lt zero).2 reach
      omega
    rw [toInt?_ofRatio_large _ large below low, isExact_iff_dvd large below,
      ← roundHalfEven_mul_eq_iff (Nat.two_pow_pos exponent), Option.some.injEq]
    exact withSign_eq_iff

end QueryDesk.Binary64
