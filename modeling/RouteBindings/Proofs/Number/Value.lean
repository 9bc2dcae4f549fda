import Mathlib
import RouteBindings.Number.Layout
import RouteBindings.Proofs.Number.Whole

namespace RouteBindings.Number

/-- A power with a whole exponent as a quotient of powers of which one is trivial. -/
theorem zpow_eq_div {base : ℚ} (nonzero : base ≠ 0) (e : Int) :
    base ^ e = base ^ e.toNat / base ^ (-e).toNat := by
  have split : e = (e.toNat : Int) - ((-e).toNat : Int) := by omega
  conv_lhs => rw [split]
  rw [zpow_sub₀ nonzero, zpow_natCast, zpow_natCast]

namespace Double

def signOf (negative : Bool) : ℚ :=
  if negative then -1 else 1

def value? : Double → Option ℚ
  | finite negative mantissa exponent => some (signOf negative * mantissa * 2 ^ exponent)
  | _ => none

/-- The integer of which a number with integral value is made. -/
theorem scaled_of_value {negative : Bool} {mantissa : Nat} {exponent n : Int}
    (whole : (finite negative mantissa exponent).value? = some (n : ℚ)) :
    ((mantissa * twoTo exponent.toNat : Nat) : Int) =
      (if negative then -n else n) * (twoTo (-exponent).toNat : Nat) := by
  have same : signOf negative * mantissa * 2 ^ exponent = (n : ℚ) := Option.some.inj whole
  have parts : (0 : ℚ) < 2 ^ (-exponent).toNat := by positivity
  have exact : (mantissa : ℚ) * 2 ^ exponent.toNat =
      (if negative then -(n : ℚ) else n) * 2 ^ (-exponent).toNat := by
    rw [← same, zpow_eq_div two_ne_zero]
    cases negative <;> simp [signOf] <;> field_simp
  have cast : ((if negative then -n else n : Int) : ℚ) = if negative then -(n : ℚ) else n := by
    split <;> simp
  rw [← cast] at exact
  simp only [Nat.pow_eq]
  exact_mod_cast exact

/-- Of a whole number nothing is dropped. -/
theorem truncate?_of_value {x : Double} {n : Int} (whole : x.value? = some (n : ℚ)) :
    x.truncate? = some n := by
  cases x with
  | nan => cases whole
  | infinite negative => cases whole
  | finite negative mantissa exponent =>
    have parts : ((twoTo (-exponent).toNat : Nat) : Int) ≠ 0 := by
      exact_mod_cast Nat.ne_of_gt (Nat.two_pow_pos _)
    have quotient : ((mantissa * twoTo exponent.toNat / twoTo (-exponent).toNat : Nat) : Int) =
        if negative then -n else n := by
      rw [Int.natCast_ediv, scaled_of_value whole, Int.mul_ediv_cancel _ parts]
    unfold truncate?
    dsimp only
    rw [quotient]
    cases negative <;> simp

theorem value?_ofInt {n : Int} (small : n.natAbs < twoTo 53) :
    (ofInt n).value? = some (n : ℚ) := by
  by_cases zero : n = 0
  · subst zero
    simp [ofInt, round, Double.zero, value?]
  · have nonzero : n.natAbs ≠ 0 := Int.natAbs_ne_zero.mpr zero
    rw [ofInt, round_one_of_small _ nonzero small, value?]
    generalize 52 - Nat.log2 n.natAbs = k
    have magnitude : ((n.natAbs * twoTo k : Nat) : ℚ) * 2 ^ (-(k : Int)) = n.natAbs := by
      rw [zpow_neg, zpow_natCast]
      simp only [Nat.pow_eq]
      push_cast
      field_simp
    rw [mul_assoc, magnitude]
    congr 1
    by_cases below : n < 0
    · have signed : (n : ℚ) = -((n.natAbs : Int) : ℚ) := by
        rw [← Int.cast_neg]
        exact congrArg _ (by omega)
      rw [signed]
      simp [signOf, below]
    · have signed : (n : ℚ) = ((n.natAbs : Int) : ℚ) := congrArg _ (by omega)
      rw [signed]
      simp [signOf, below]

/-- A whole number becomes the word that differs from it by a multiple of `2 ^ 32`. -/
theorem toInt_toWord {x : Double} {n : Int} (whole : x.value? = some (n : ℚ)) :
    x.toWord.toInt = n.bmod (2 ^ 32) := by
  rw [toWord, truncate?_of_value whole, Option.getD_some, BitVec.toInt_ofInt]

theorem toWord_of_endless {x : Double} (endless : x.value? = none) : x.toWord = 0 := by
  cases x with
  | nan => rfl
  | infinite negative => rfl
  | finite negative mantissa exponent => cases endless

theorem natAbs_toInt_lt (w : BitVec 32) : w.toInt.natAbs < twoTo 53 := by
  have above := w.toInt_lt
  have below := w.le_toInt
  simp only [Nat.pow_eq]
  omega

theorem toWord_ofWord (w : BitVec 32) : (ofWord w).toWord = w := by
  rw [toWord, ofWord, truncate?_of_value (value?_ofInt (natAbs_toInt_lt w)), Option.getD_some,
    BitVec.ofInt_toInt]

theorem signed_toDigits (n : Int) :
    signed (decide (n < 0)) (Nat.toDigits 10 n.natAbs) = toString n := by
  cases n with
  | ofNat m =>
    have plain : ¬ (Int.ofNat m < 0) := by simp
    rw [decide_eq_false plain]
    rfl
  | negSucc m =>
    have below : Int.negSucc m < 0 := Int.negSucc_lt_zero m
    rw [decide_eq_true below, signed, if_pos rfl, String.ofList_cons]
    rfl

/-- A whole number is written with its digits. -/
theorem exactText_of_value {n : Int} {mantissa : Nat} {exponent : Int}
    (whole : (finite (n < 0) mantissa exponent).value? = some (n : ℚ))
    (small : n.natAbs < tenTo 21) :
    (finite (n < 0) mantissa exponent).exactText = toString n := by
  have size : (if decide (n < 0) then -n else n) = (n.natAbs : Int) := by
    by_cases below : n < 0
    · simp only [below, decide_true, if_true]
      omega
    · simp only [below, decide_false, Bool.false_eq_true, if_false]
      omega
  have exact : mantissa * twoTo exponent.toNat = n.natAbs * twoTo (-exponent).toNat := by
    have scaled := scaled_of_value whole
    rw [size] at scaled
    exact_mod_cast scaled
  have parts : 0 < twoTo (-exponent).toNat := Nat.two_pow_pos _
  have shown : mantissa * twoTo exponent.toNat / twoTo (-exponent).toNat = n.natAbs := by
    rw [exact, Nat.mul_div_cancel _ parts]
  have all : mantissa * twoTo exponent.toNat % twoTo (-exponent).toNat = 0 := by
    rw [exact, Nat.mul_mod_left]
  unfold exactText
  dsimp only
  rw [shown, all, if_pos (by simpa using small), signed_toDigits]

theorem exactText_ofInt {n : Int} (small : n.natAbs < twoTo 53) :
    (ofInt n).exactText = toString n := by
  have whole := value?_ofInt small
  have below : n.natAbs < tenTo 21 := Nat.lt_trans small (by decide)
  by_cases zero : n = 0
  · subst zero
    exact exactText_of_value (n := 0) (by simp [value?]) (by decide)
  · rw [ofInt, round_one_of_small _ (Int.natAbs_ne_zero.mpr zero) small] at whole ⊢
    exact exactText_of_value whole below

end Double

end RouteBindings.Number
