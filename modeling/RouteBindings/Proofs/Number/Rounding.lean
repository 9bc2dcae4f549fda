import Mathlib
import RouteBindings.Proofs.Number.Value

/-! Rounding to the nearest double. A double has its mantissa and exponent in one form only, so that
the parity of the mantissa is its own; between any two doubles that are equally near, one of them is
even. -/

namespace RouteBindings.Number

/-- A mantissa of 53 binary digits, or the least exponent. The power of two behind the greatest
double is among them: it stands for all that is too large. -/
structure Canonical (mantissa exponent : Int) : Prop where
  least : -1074 ≤ exponent
  greatest : exponent ≤ 971
  size : mantissa.natAbs ≤ 2 ^ 53
  filled : exponent = -1074 ∨ 2 ^ 52 ≤ mantissa.natAbs

/-- No other double is nearer to `q`, and if another is as near, this one is even. -/
structure Nearest (q : ℚ) (mantissa exponent : Int) : Prop where
  canonical : Canonical mantissa exponent
  closest : ∀ m e : Int, Canonical m e →
    |q - mantissa * 2 ^ exponent| ≤ |q - m * 2 ^ e|
  even : ∀ m e : Int, Canonical m e → (m * 2 ^ e : ℚ) ≠ mantissa * 2 ^ exponent →
    |q - mantissa * 2 ^ exponent| = |q - m * 2 ^ e| → Even mantissa

/-- A double and every other one: the other is farther away, or it is odd and as far. -/
structure Closest (q : ℚ) (mantissa exponent : Int) : Prop where
  canonical : Canonical mantissa exponent
  beats : ∀ m e : Int, Canonical m e → (m * 2 ^ e : ℚ) ≠ mantissa * 2 ^ exponent →
    |q - mantissa * 2 ^ exponent| < |q - m * 2 ^ e| ∨
      |q - mantissa * 2 ^ exponent| = |q - m * 2 ^ e| ∧ Even mantissa ∧ Odd m

section

variable {q : ℚ} {mantissa exponent m e : Int}

theorem Canonical.neg (canonical : Canonical mantissa exponent) :
    Canonical (-mantissa) exponent :=
  ⟨canonical.least, canonical.greatest, by simpa using canonical.size,
    by simpa using canonical.filled⟩

theorem Canonical.abs_le (canonical : Canonical mantissa exponent) :
    |(mantissa * 2 ^ exponent : ℚ)| ≤ 2 ^ 53 * 2 ^ exponent := by
  have size : |mantissa| ≤ 2 ^ 53 := by
    rw [Int.abs_eq_natAbs]
    exact_mod_cast canonical.size
  rw [abs_mul, abs_of_pos (zpow_pos (by norm_num : (0 : ℚ) < 2) exponent)]
  apply mul_le_mul_of_nonneg_right _ (by positivity)
  exact_mod_cast size

/-- With a smaller exponent there is no larger double. -/
theorem Canonical.le_power (canonical : Canonical mantissa exponent) {e : Int}
    (least : exponent ≤ e) : (mantissa * 2 ^ exponent : ℚ) ≤ 2 ^ 53 * 2 ^ e := by
  calc
    (mantissa * 2 ^ exponent : ℚ) ≤ 2 ^ 53 * 2 ^ exponent :=
      (le_abs_self _).trans canonical.abs_le
    _ ≤ 2 ^ 53 * 2 ^ e := by
      gcongr
      norm_num

theorem Canonical.nearest (canonical : Canonical mantissa exponent) :
    Nearest (mantissa * 2 ^ exponent) mantissa exponent := by
  refine ⟨canonical, ?_, ?_⟩
  · intro m e _
    rw [sub_self, abs_zero]
    exact abs_nonneg _
  · intro m e _ other tie
    rw [sub_self, abs_zero] at tie
    exact absurd (sub_eq_zero.mp (abs_eq_zero.mp tie.symm)).symm other

theorem Closest.eq_of_nearest (closest : Closest q mantissa exponent) (nearest : Nearest q m e) :
    (m * 2 ^ e : ℚ) = mantissa * 2 ^ exponent := by
  by_contra other
  have back := nearest.closest mantissa exponent closest.canonical
  rcases closest.beats m e nearest.canonical other with farther | ⟨tie, -, odd⟩
  · exact absurd back (not_le.mpr farther)
  · have even := nearest.even mantissa exponent closest.canonical (Ne.symm other) tie.symm
    exact Int.not_even_iff_odd.mpr odd even

theorem Closest.neg (closest : Closest q mantissa exponent) :
    Closest (-q) (-mantissa) exponent := by
  have flip : ∀ m e : Int, |-q - ((-m : Int) : ℚ) * 2 ^ e| = |q - m * 2 ^ e| := by
    intro m e
    rw [← abs_neg]
    congr 1
    push_cast
    ring
  refine ⟨closest.canonical.neg, ?_⟩
  intro m e canonical other
  have distance := flip (-m) e
  rw [neg_neg] at distance
  rw [flip, distance, even_neg, ← odd_neg (a := m)]
  apply closest.beats (-m) e canonical.neg
  intro same
  apply other
  push_cast at same ⊢
  linarith

/-- What is at least as large as the power behind the greatest double. -/
theorem closest_of_large (large : 2 ^ 53 * 2 ^ (971 : Int) ≤ q) : Closest q (2 ^ 53) 971 := by
  refine ⟨⟨by decide, by decide, by decide, .inr (by decide)⟩, ?_⟩
  intro m e canonical other
  rw [Int.cast_pow, Int.cast_ofNat] at other ⊢
  have below := lt_of_le_of_ne (canonical.le_power canonical.greatest) other
  left
  rw [abs_of_nonneg (by linarith), abs_of_nonneg (by linarith)]
  linarith

end

/-- A number between two steps of a grid, with the nearer of them, or the even one. -/
structure OnGrid (q : ℚ) (mantissa exponent : Int) : Prop where
  half : |q - mantissa * 2 ^ exponent| ≤ 2 ^ exponent / 2
  tie : |q - mantissa * 2 ^ exponent| = 2 ^ exponent / 2 → Even mantissa

/-- Every other step is farther away, unless it is the odd one on the other side. -/
theorem OnGrid.beats {q : ℚ} {mantissa exponent : Int}
    (grid : OnGrid q mantissa exponent) {k : Int} (other : k ≠ mantissa) :
    |q - mantissa * 2 ^ exponent| < |q - k * 2 ^ exponent| ∨
      |q - mantissa * 2 ^ exponent| = |q - k * 2 ^ exponent| ∧ Even mantissa ∧ Odd k := by
  have step : (0 : ℚ) < 2 ^ exponent := by positivity
  have half := grid.half
  have tie := grid.tie
  generalize (2 : ℚ) ^ exponent = u at *
  have apart : |((mantissa - k : Int) : ℚ)| * u ≤ |q - k * u| + |q - mantissa * u| := by
    rw [← abs_of_pos step, ← abs_mul, abs_of_pos step]
    refine le_of_eq_of_le ?_ (abs_sub (q - k * u) (q - mantissa * u))
    congr 1
    push_cast
    ring
  by_cases farther : |q - mantissa * u| < |q - k * u|
  · exact .inl farther
  · have least : 1 ≤ |mantissa - k| := Int.one_le_abs (sub_ne_zero.mpr (Ne.symm other))
    have least' : (1 : ℚ) ≤ |((mantissa - k : Int) : ℚ)| := by exact_mod_cast least
    have near : |q - k * u| ≤ |q - mantissa * u| := not_lt.mp farther
    have ends : |q - mantissa * u| = u / 2 := by nlinarith
    have most : |mantissa - k| ≤ 1 := by
      have most' : |((mantissa - k : Int) : ℚ)| ≤ 1 := by
        by_contra more
        nlinarith
      exact_mod_cast most'
    refine .inr ⟨by nlinarith, tie ends, ?_⟩
    have even := Int.even_iff.mp (tie ends)
    rw [Int.odd_iff]
    rw [Int.abs_eq_natAbs] at least most
    omega

theorem OnGrid.closest {q : ℚ} {mantissa exponent : Int}
    (grid : OnGrid q mantissa exponent) (canonical : Canonical mantissa exponent)
    (filled : exponent = -1074 ∨ 2 ^ 52 * 2 ^ exponent ≤ q) : Closest q mantissa exponent := by
  refine ⟨canonical, ?_⟩
  intro m e canonical' other
  by_cases fine : exponent ≤ e
  · obtain ⟨shift, rfl⟩ := Int.le.dest fine
    have value : (m * 2 ^ (exponent + shift) : ℚ) = ((m * 2 ^ shift : Int) : ℚ) * 2 ^ exponent := by
      rw [zpow_add₀ (by norm_num), zpow_natCast]
      push_cast
      ring
    rw [value] at other ⊢
    have differ : m * 2 ^ shift ≠ mantissa := by
      intro same
      rw [same] at other
      exact other rfl
    rcases grid.beats differ with farther | ⟨tie, even, odd⟩
    · exact .inl farther
    · exact .inr ⟨tie, even, (Int.odd_mul.mp odd).1⟩
  · -- a double on a finer grid lies below the first one on this grid
    have first := filled.resolve_left (by have := canonical'.least; omega)
    have below : (m * 2 ^ e : ℚ) ≤ 2 ^ 52 * 2 ^ exponent := by
      refine (canonical'.le_power (show e ≤ exponent - 1 by omega)).trans_eq ?_
      rw [zpow_sub_one₀ (by norm_num)]
      ring
    have distance : |q - ((2 ^ 52 : Int) : ℚ) * 2 ^ exponent| ≤ |q - m * 2 ^ e| := by
      push_cast
      rw [abs_of_nonneg (by linarith), abs_of_nonneg (by linarith)]
      linarith
    left
    by_cases same : 2 ^ 52 = mantissa
    · rw [← same] at other ⊢
      refine lt_of_le_of_ne distance ?_
      push_cast at other ⊢
      rw [abs_of_nonneg (by linarith), abs_of_nonneg (by linarith)]
      intro equal
      exact other (by linarith)
    · rcases grid.beats same with farther | ⟨-, -, odd⟩
      · exact lt_of_lt_of_le farther distance
      · exact absurd odd (by decide)

/-- On a grid that is fine enough for `q`, and no finer, the mantissa is of the right size. -/
theorem OnGrid.canonical {q : ℚ} {mantissa : Nat} {exponent : Int}
    (grid : OnGrid q mantissa exponent) (least : -1074 ≤ exponent) (greatest : exponent ≤ 971)
    (below : q < 2 ^ 53 * 2 ^ exponent) (filled : exponent = -1074 ∨ 2 ^ 52 * 2 ^ exponent ≤ q) :
    Canonical mantissa exponent := by
  have step : (0 : ℚ) < 2 ^ exponent := by positivity
  obtain ⟨low, high⟩ := abs_le.mp grid.half
  have size : mantissa < 2 ^ 53 + 1 := by
    have : (mantissa : ℚ) < 2 ^ 53 + 1 := by
      push_cast at low
      nlinarith
    exact_mod_cast this
  refine ⟨least, greatest, by omega, filled.imp_right fun reached => ?_⟩
  have : (2 ^ 52 : ℚ) < mantissa + 1 := by
    push_cast at high
    nlinarith
  have : 2 ^ 52 < mantissa + 1 := by exact_mod_cast this
  omega

namespace Double

/-- A quotient times a power of two, with naturals only. -/
theorem quotient_shifted (num den : Nat) (e : Int) :
    ((num * twoTo (-e).toNat : Nat) : ℚ) / (den * twoTo e.toNat : Nat) =
      (num / den : ℚ) / 2 ^ e := by
  rw [zpow_eq_div two_ne_zero]
  simp only [Nat.pow_eq]
  push_cast
  field_simp

theorem le_shifted_iff {num den : Nat} (positive : 0 < den) (e : Int) :
    den * twoTo e.toNat ≤ num * twoTo (-e).toNat ↔ (2 ^ e : ℚ) ≤ num / den := by
  have denominator : (0 : ℚ) < (den * twoTo e.toNat : Nat) := by
    exact_mod_cast Nat.mul_pos positive (Nat.two_pow_pos _)
  have power : (0 : ℚ) < 2 ^ e := by positivity
  rw [← one_le_div power, ← quotient_shifted, one_le_div denominator, Nat.cast_le]

/-- The power of two that the quotient reaches, and the next one, which it does not. -/
theorem binaryLog_spec {num den : Nat} (nonzero : num ≠ 0) (positive : 0 < den) :
    (2 ^ binaryLog num den : ℚ) ≤ num / den ∧
      (num / den : ℚ) < 2 ^ (binaryLog num den + 1) := by
  have two : (2 : ℚ) ≠ 0 := by norm_num
  have denominator : (0 : ℚ) < den := by exact_mod_cast positive
  have high : (num / den : ℚ) < 2 ^ ((Nat.log2 num : Int) - Nat.log2 den + 1) := by
    have above : (num : ℚ) < 2 ^ (Nat.log2 num + 1) := by exact_mod_cast Nat.lt_log2_self
    have below : (2 ^ Nat.log2 den : ℚ) ≤ den := by
      exact_mod_cast Nat.log2_self_le (Nat.ne_of_gt positive)
    calc
      (num / den : ℚ) < 2 ^ (Nat.log2 num + 1) / den := by gcongr
      _ ≤ 2 ^ (Nat.log2 num + 1) / 2 ^ Nat.log2 den := by gcongr
      _ = 2 ^ ((Nat.log2 num : Int) - Nat.log2 den + 1) := by
        rw [sub_add_eq_add_sub, zpow_sub₀ two]
        norm_cast
  have low : (2 ^ ((Nat.log2 num : Int) - Nat.log2 den - 1) : ℚ) ≤ num / den := by
    have below : (2 ^ Nat.log2 num : ℚ) ≤ num := by exact_mod_cast Nat.log2_self_le nonzero
    have above : (den : ℚ) < 2 ^ (Nat.log2 den + 1) := by exact_mod_cast Nat.lt_log2_self
    calc
      (2 ^ ((Nat.log2 num : Int) - Nat.log2 den - 1) : ℚ) =
          2 ^ Nat.log2 num / 2 ^ (Nat.log2 den + 1) := by
        rw [sub_sub, zpow_sub₀ two]
        norm_cast
      _ ≤ num / 2 ^ (Nat.log2 den + 1) := by gcongr
      _ ≤ num / den := by gcongr
  unfold binaryLog
  dsimp only
  split
  · rename_i reached
    exact ⟨(le_shifted_iff positive _).mp reached, high⟩
  · rename_i missed
    rw [le_shifted_iff positive, not_le] at missed
    exact ⟨low, by rwa [sub_add_cancel]⟩

theorem two_pow_mul_zpow (k : Nat) (e : Int) : (2 ^ k * 2 ^ e : ℚ) = 2 ^ (k + e) := by
  rw [zpow_add₀ (by norm_num), zpow_natCast]

def gridExponent (num den : Nat) : Int :=
  if binaryLog num den - 52 < leastExponent then leastExponent else binaryLog num den - 52

theorem gridExponent_spec {num den : Nat} (nonzero : num ≠ 0) (positive : 0 < den) :
    -1074 ≤ gridExponent num den ∧ (num / den : ℚ) < 2 ^ 53 * 2 ^ gridExponent num den ∧
      (gridExponent num den = -1074 ∨ (2 ^ 52 * 2 ^ gridExponent num den : ℚ) ≤ num / den) := by
  obtain ⟨reached, missed⟩ := binaryLog_spec nonzero positive
  unfold gridExponent leastExponent
  rw [two_pow_mul_zpow, two_pow_mul_zpow]
  split
  · rename_i tiny
    refine ⟨Int.le_refl _, lt_of_lt_of_le missed ?_, .inl rfl⟩
    exact zpow_le_zpow_right₀ (by norm_num) (by omega)
  · rename_i normal
    refine ⟨by omega, lt_of_lt_of_le missed ?_, .inr (le_of_eq_of_le ?_ reached)⟩
    · exact zpow_le_zpow_right₀ (by norm_num) (by omega)
    · exact congrArg _ (by omega)

theorem nearest_cases (num den : Nat) :
    (nearest num den = num / den ∧ 2 * (num % den) ≤ den ∨
      nearest num den = num / den + 1 ∧ den ≤ 2 * (num % den)) ∧
    (2 * (num % den) = den → nearest num den % 2 = 0) := by
  unfold nearest
  dsimp only
  split
  · omega
  · split <;> omega

/-- The rounded quotient is at most one half away, and even where it is as far as that. -/
theorem nearest_spec (num : Nat) {den : Nat} (positive : 0 < den) :
    |(num / den : ℚ) - nearest num den| ≤ 1 / 2 ∧
      (|(num / den : ℚ) - nearest num den| = 1 / 2 → Even (nearest num den)) := by
  have denominator : (0 : ℚ) < den := by exact_mod_cast positive
  obtain ⟨sides, tie⟩ := nearest_cases num den
  have parts : (num / den : ℚ) * den = (num / den : Nat) * den + (num % den : Nat) := by
    rw [div_mul_cancel₀ _ denominator.ne']
    exact_mod_cast (Nat.div_add_mod' num den).symm
  have tie' : (2 * (num % den : Nat) : ℚ) = den → Even (nearest num den) := by
    intro equal
    exact Nat.even_iff.mpr (tie (by exact_mod_cast equal))
  have rest : (0 : ℚ) ≤ (num % den : Nat) := Nat.cast_nonneg _
  have rest' : ((num % den : Nat) : ℚ) < den := by exact_mod_cast Nat.mod_lt _ positive
  rcases sides with ⟨lower, near⟩ | ⟨upper, near⟩
  · have near : (2 * (num % den : Nat) : ℚ) ≤ den := by exact_mod_cast near
    have distance : ((num / den : ℚ) - nearest num den) * den = (num % den : Nat) := by
      rw [lower]
      linarith
    have positive' : 0 ≤ (num / den : ℚ) - nearest num den := by
      by_contra negative
      nlinarith
    rw [abs_of_nonneg positive']
    refine ⟨by nlinarith, fun equal => tie' ?_⟩
    rw [equal] at distance
    linarith
  · have near : (den : ℚ) ≤ 2 * (num % den : Nat) := by exact_mod_cast near
    have distance : ((num / den : ℚ) - nearest num den) * den = (num % den : Nat) - den := by
      rw [upper]
      push_cast
      linarith
    have negative : (num / den : ℚ) - nearest num den ≤ 0 := by
      by_contra positive'
      nlinarith
    rw [abs_of_nonpos negative]
    refine ⟨by nlinarith, fun equal => tie' ?_⟩
    have equal : (num / den : ℚ) - nearest num den = -(1 / 2) := by linarith
    rw [equal] at distance
    linarith

theorem nearest_onGrid (num : Nat) {den : Nat} (positive : 0 < den) (exponent : Int) :
    OnGrid (num / den)
      (nearest (num * twoTo (-exponent).toNat) (den * twoTo exponent.toNat) : Nat) exponent := by
  have positive' : 0 < den * twoTo exponent.toNat := Nat.mul_pos positive (Nat.two_pow_pos _)
  obtain ⟨half, tie⟩ := nearest_spec (num * twoTo (-exponent).toNat) positive'
  rw [quotient_shifted] at half tie
  generalize nearest _ _ = mantissa at *
  have step : (0 : ℚ) < 2 ^ exponent := by positivity
  have scaled : |(num / den : ℚ) - ((mantissa : Int) : ℚ) * 2 ^ exponent| =
      |(num / den : ℚ) / 2 ^ exponent - mantissa| * 2 ^ exponent := by
    rw [← abs_of_pos step, ← abs_mul, abs_of_pos step, sub_mul, div_mul_cancel₀ _ step.ne']
    norm_cast
  constructor
  · rw [scaled]
    nlinarith
  · rw [scaled]
    intro equal
    have equal : |(num / den : ℚ) / 2 ^ exponent - mantissa| = 1 / 2 := by
      apply mul_right_cancel₀ step.ne'
      linarith
    exact_mod_cast tie equal

/-- The double to which `q` is rounded; an infinite one stands for the power of two behind the
greatest. -/
inductive RoundedTo (q : ℚ) : Double → Prop
  | finite {x : Double} {mantissa exponent : Int} (closest : Closest q mantissa exponent)
      (value : x.value? = some (mantissa * 2 ^ exponent : ℚ))
      (small : |(mantissa * 2 ^ exponent : ℚ)| < 2 ^ 53 * 2 ^ (971 : Int)) : RoundedTo q x
  | infinite {negative : Bool} (closest : Closest q (if negative then -2 ^ 53 else 2 ^ 53) 971) :
      RoundedTo q (infinite negative)

theorem closest_signed {q : ℚ} {mantissa exponent : Int} (closest : Closest q mantissa exponent)
    (negative : Bool) :
    Closest (signOf negative * q) (if negative then -mantissa else mantissa) exponent := by
  cases negative with
  | false => simpa [signOf] using closest
  | true => simpa [signOf] using closest.neg

theorem roundedTo_infinite {q : ℚ} (large : 2 ^ 53 * 2 ^ (971 : Int) ≤ q) (negative : Bool) :
    RoundedTo (signOf negative * q) (infinite negative) :=
  .infinite (closest_signed (closest_of_large large) negative)

theorem roundedTo_finite {q : ℚ} {mantissa : Nat} {exponent : Int}
    (closest : Closest q mantissa exponent) {m : Nat} {e : Int}
    (same : (m * 2 ^ e : ℚ) = mantissa * 2 ^ exponent)
    (small : (mantissa * 2 ^ exponent : ℚ) < 2 ^ 53 * 2 ^ (971 : Int)) (negative : Bool) :
    RoundedTo (signOf negative * q) (finite negative m e) := by
  have sign : (((if negative then -mantissa else mantissa : Int) : ℚ) * 2 ^ exponent) =
      signOf negative * (mantissa * 2 ^ exponent) := by
    cases negative <;> simp [signOf]
  have size : |signOf negative| = 1 := by cases negative <;> simp [signOf]
  refine .finite (closest_signed closest negative) ?_ ?_
  · rw [value?, sign, mul_assoc, same]
  · rw [sign, abs_mul, size, one_mul, abs_of_nonneg (by positivity)]
    exact small

theorem small_of_size {mantissa : Nat} {exponent : Int} (size : mantissa < 2 ^ 53)
    (greatest : exponent ≤ 971) :
    (mantissa * 2 ^ exponent : ℚ) < 2 ^ 53 * 2 ^ (971 : Int) := by
  calc
    (mantissa * 2 ^ exponent : ℚ) < 2 ^ 53 * 2 ^ exponent := by
      gcongr
      exact_mod_cast size
    _ ≤ 2 ^ 53 * 2 ^ (971 : Int) := by
      gcongr
      norm_num

/-- A mantissa that is rounded up to the next power is written with the next exponent. -/
theorem roundedTo_full {q : ℚ} {exponent : Int} (closest : Closest q (twoTo 53 : Nat) exponent)
    (below : exponent < 971) (negative : Bool) :
    RoundedTo (signOf negative * q) (finite negative (twoTo 52) (exponent + 1)) := by
  have small : (2 ^ exponent : ℚ) < 2 ^ (971 : Int) :=
    zpow_lt_zpow_right₀ (by norm_num) below
  refine roundedTo_finite closest ?_ ?_ negative
  · rw [zpow_add₀ (by norm_num)]
    norm_num
    ring
  · norm_num
    exact small

/-- At most half of the least positive double. -/
theorem roundedTo_tiny {q : ℚ} (nonnegative : 0 ≤ q) (tiny : q ≤ 2 ^ (-1074 : Int) / 2)
    (negative : Bool) : RoundedTo (signOf negative * q) (zero negative) := by
  have grid : OnGrid q 0 (-1074) := by
    refine ⟨?_, fun _ => by decide⟩
    rwa [Int.cast_zero, zero_mul, sub_zero, abs_of_nonneg nonnegative]
  have closest : Closest q (0 : Nat) (-1074) :=
    grid.closest ⟨by decide, by decide, by decide, .inl rfl⟩ (.inl rfl)
  exact roundedTo_finite closest rfl (by simp) negative

theorem round_eq {num : Nat} (nonzero : num ≠ 0) (negative : Bool) (den : Nat) :
    round negative num den =
      let exponent := gridExponent num den
      let mantissa := nearest (num * twoTo (-exponent).toNat) (den * twoTo exponent.toNat)
      if mantissa = twoTo 53 then
        if exponent + 1 > greatestExponent then infinite negative
        else finite negative (twoTo 52) (exponent + 1)
      else if exponent > greatestExponent then infinite negative
      else finite negative mantissa exponent := by
  rw [round, if_neg nonzero]
  rfl

theorem round_roundedTo (negative : Bool) (num : Nat) {den : Nat} (positive : 0 < den) :
    RoundedTo (signOf negative * (num / den)) (round negative num den) := by
  by_cases zero : num = 0
  · subst zero
    simpa [round] using roundedTo_tiny (le_refl 0) (by positivity) negative
  · obtain ⟨least, below, filled⟩ := gridExponent_spec zero positive
    have grid := nearest_onGrid num positive (gridExponent num den)
    rw [round_eq zero]
    dsimp only
    unfold greatestExponent
    generalize gridExponent num den = exponent at *
    generalize nearest _ _ = mantissa at *
    by_cases far : 971 < exponent
    · have large : (2 ^ 53 * 2 ^ (971 : Int) : ℚ) ≤ num / den := by
        refine le_trans ?_ (filled.resolve_left (by omega))
        rw [two_pow_mul_zpow, two_pow_mul_zpow]
        exact zpow_le_zpow_right₀ (by norm_num) (by omega)
      rw [if_pos (show exponent + 1 > 971 by omega), if_pos far, ite_self]
      exact roundedTo_infinite large negative
    · have canonical := grid.canonical least (by omega) below filled
      have closest := grid.closest canonical filled
      by_cases full : mantissa = twoTo 53
      · subst full
        rw [if_pos rfl]
        by_cases last : exponent = 971
        · subst last
          exact .infinite (closest_signed closest negative)
        · rw [if_neg (by omega)]
          exact roundedTo_full closest (by omega) negative
      · have size : mantissa < 2 ^ 53 := Nat.lt_of_le_of_ne canonical.size full
        rw [if_neg full, if_neg far]
        exact roundedTo_finite closest rfl (small_of_size size (by omega)) negative

end Double

end RouteBindings.Number
