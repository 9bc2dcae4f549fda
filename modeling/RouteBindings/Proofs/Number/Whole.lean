import RouteBindings.Number.Double

namespace RouteBindings.Number.Double

theorem nearest_pos {num den : Nat} (positive : 0 < den) (large : den ≤ num) :
    0 < nearest num den := by
  have quotient : 0 < num / den := Nat.div_pos large positive
  unfold nearest
  dsimp only
  split
  · exact quotient
  · split
    · exact Nat.succ_pos _
    · exact Nat.lt_of_lt_of_le quotient (Nat.le_add_right _ _)

theorem binaryLog_one {num : Nat} (nonzero : num ≠ 0) : binaryLog num 1 = Nat.log2 num := by
  have one : (Nat.log2 num : Int) - Nat.log2 1 = Nat.log2 num := by
    rw [show Nat.log2 1 = 0 by decide]
    exact Int.sub_zero _
  have fits : 1 * twoTo (Nat.log2 num : Int).toNat ≤
      num * twoTo (-(Nat.log2 num : Int)).toNat := by
    rw [Nat.one_mul, Int.toNat_natCast]
    exact Nat.le_trans (Nat.log2_self_le nonzero)
      (Nat.le_mul_of_pos_right _ (Nat.two_pow_pos _))
  unfold binaryLog
  rw [one, if_pos fits]

/-- A whole number is never below the least exponent. -/
theorem round_one {num : Nat} (negative : Bool) (nonzero : num ≠ 0) :
    round negative num 1 =
      let exponent : Int := Nat.log2 num - 52
      let mantissa := nearest (num * twoTo (-exponent).toNat) (twoTo exponent.toNat)
      if mantissa = twoTo 53 then
        if exponent + 1 > greatestExponent then infinite negative
        else finite negative (twoTo 52) (exponent + 1)
      else if exponent > greatestExponent then infinite negative
      else finite negative mantissa exponent := by
  have normal : ¬ ((Nat.log2 num : Int) - 52 < leastExponent) := by
    unfold leastExponent
    omega
  unfold round
  rw [if_neg nonzero, binaryLog_one nonzero]
  dsimp only
  rw [if_neg normal, Nat.one_mul]

theorem round_one_nonzero {negative : Bool} {num : Nat} (nonzero : num ≠ 0) :
    (round negative num 1).isZero = false := by
  have mantissa : 0 < nearest (num * twoTo (-((Nat.log2 num : Int) - 52)).toNat)
      (twoTo ((Nat.log2 num : Int) - 52).toNat) := by
    apply nearest_pos (Nat.two_pow_pos _)
    calc
      twoTo ((Nat.log2 num : Int) - 52).toNat ≤ twoTo (Nat.log2 num) :=
        Nat.pow_le_pow_right (by decide) (by omega)
      _ ≤ num := Nat.log2_self_le nonzero
      _ ≤ num * twoTo (-((Nat.log2 num : Int) - 52)).toNat :=
        Nat.le_mul_of_pos_right _ (Nat.two_pow_pos _)
  rw [round_one negative nonzero]
  dsimp only
  split <;> split
  · rfl
  · simp [isZero]
  · rfl
  · simp only [isZero, decide_eq_false_iff_not]
    exact Nat.ne_of_gt mantissa

theorem ofInt_isZero_iff {n : Int} : (ofInt n).isZero = true ↔ n = 0 := by
  constructor
  · intro zero
    refine Decidable.byContradiction fun nonzero => ?_
    rw [ofInt, round_one_nonzero (Int.natAbs_ne_zero.mpr nonzero)] at zero
    cases zero
  · rintro rfl
    rfl

/-- The mantissa is filled up to 53 binary digits. -/
theorem round_one_of_small {num : Nat} (negative : Bool) (nonzero : num ≠ 0)
    (small : num < twoTo 53) :
    round negative num 1 = finite negative (num * twoTo (52 - Nat.log2 num))
      (-((52 - Nat.log2 num : Nat) : Int)) := by
  have log : Nat.log2 num ≤ 52 := by
    rw [← Nat.lt_succ_iff, Nat.log2_lt nonzero]
    exact small
  have scale : (Nat.log2 num : Int) - 52 = -((52 - Nat.log2 num : Nat) : Int) := by omega
  have bounded : ¬ (-((52 - Nat.log2 num : Nat) : Int) > greatestExponent) := by
    unfold greatestExponent
    omega
  have exact : ∀ n, nearest n 1 = n := by
    intro n
    simp [nearest, Nat.mod_one]
  have fits : num * twoTo (52 - Nat.log2 num) ≠ twoTo 53 := by
    refine Nat.ne_of_lt ?_
    calc
      num * twoTo (52 - Nat.log2 num) < twoTo (Nat.log2 num + 1) * twoTo (52 - Nat.log2 num) :=
        Nat.mul_lt_mul_of_pos_right Nat.lt_log2_self (Nat.two_pow_pos _)
      _ = twoTo 53 := by
        simp only [Nat.pow_eq]
        rw [← Nat.pow_add, show Nat.log2 num + 1 + (52 - Nat.log2 num) = 53 by omega]
  rw [round_one negative nonzero, scale]
  dsimp only
  rw [Int.neg_neg, Int.toNat_natCast, show (-((52 - Nat.log2 num : Nat) : Int)).toNat = 0 by omega,
    show twoTo 0 = 1 from rfl, exact, if_neg fits, if_neg bounded]

theorem round_ne_nan (negative : Bool) (num den : Nat) : round negative num den ≠ nan := by
  intro impossible
  unfold round at impossible
  dsimp only at impossible
  repeat' split at impossible
  all_goals cases impossible

end RouteBindings.Number.Double
