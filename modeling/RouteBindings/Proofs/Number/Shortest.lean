import Mathlib.Data.List.Basic
import RouteBindings.Number.Shortest

/-! The search for the shortest decimal: a number is cut to ever more digits until one of the two
decimals around it reads back. The two ways to go on half-way between two decimals find neighbours,
and for a whole number the search ends with its last digit. -/

namespace RouteBindings.Number.Decimal

section

variable (mantissa : Nat) (exponent : Int) (size : Nat)

/-- The power of ten of the last digit, if the number is shown with so many digits. -/
def gridPower : Int :=
  decimalLog (mantissa * twoTo exponent.toNat) (twoTo (-exponent).toNat) - (size - 1 : Nat)

def gridNum : Nat :=
  mantissa * twoTo exponent.toNat * tenTo (-gridPower mantissa exponent size).toNat

def gridDen : Nat :=
  twoTo (-exponent).toNat * tenTo (gridPower mantissa exponent size).toNat

def below : Decimal :=
  ⟨gridNum mantissa exponent size / gridDen mantissa exponent size,
    gridPower mantissa exponent size⟩

def above : Decimal :=
  if (below mantissa exponent size).digits + 1 = tenTo size then
    ⟨1, gridPower mantissa exponent size + size⟩
  else ⟨(below mantissa exponent size).digits + 1, gridPower mantissa exponent size⟩

theorem onGrid_eq (halfway : Halfway) :
    onGrid halfway mantissa exponent size =
      match readsBack mantissa exponent (below mantissa exponent size),
        readsBack mantissa exponent (above mantissa exponent size) with
      | true, true =>
        if halfway.takesLower (gridNum mantissa exponent size) (gridDen mantissa exponent size) then
          some (below mantissa exponent size)
        else some (above mantissa exponent size)
      | true, false => some (below mantissa exponent size)
      | false, true => some (above mantissa exponent size)
      | false, false => none :=
  rfl

theorem power_above :
    gridPower mantissa exponent size ≤ (above mantissa exponent size).power := by
  unfold above
  split
  · exact Int.le_add_of_nonneg_right (Int.natCast_nonneg size)
  · exact Int.le_refl _

variable {mantissa exponent size}

theorem onGrid_facts {halfway : Halfway} {d : Decimal}
    (found : onGrid halfway mantissa exponent size = some d) :
    readsBack mantissa exponent d = true ∧ gridPower mantissa exponent size ≤ d.power := by
  have lower : gridPower mantissa exponent size ≤ (below mantissa exponent size).power :=
    Int.le_refl _
  have upper := power_above mantissa exponent size
  rw [onGrid_eq] at found
  split at found
  · rename_i low high
    split at found <;> cases found
    · exact ⟨low, lower⟩
    · exact ⟨high, upper⟩
  · rename_i low _
    cases found
    exact ⟨low, lower⟩
  · rename_i _ high
    cases found
    exact ⟨high, upper⟩
  · cases found

def Steps (low high : Decimal) : Prop :=
  high = low ∨ high = ⟨low.digits + 1, low.power⟩

theorem above_of_even (sized : size ≠ 0) (even : (below mantissa exponent size).digits % 2 = 0) :
    above mantissa exponent size =
      ⟨(below mantissa exponent size).digits + 1, (below mantissa exponent size).power⟩ := by
  have odd : (below mantissa exponent size).digits + 1 ≠ tenTo size := by
    intro same
    have ten : tenTo size % 2 = 0 := by
      obtain ⟨k, rfl⟩ := Nat.exists_eq_succ_of_ne_zero sized
      simp only [Nat.pow_eq, Nat.pow_succ]
      omega
    omega
  rw [above, if_neg odd]
  rfl

/-- The two ways to go on half-way between two decimals part only at a tie, and there the one keeps
an even decimal to which the other adds one. -/
theorem onGrid_halfway (sized : size ≠ 0) :
    Option.Rel Steps (onGrid .toEven mantissa exponent size)
      (onGrid .up mantissa exponent size) := by
  have same : ∀ d : Option Decimal, Option.Rel Steps d d := by
    rintro (_ | d)
    · exact .none
    · exact .some (.inl rfl)
  rw [onGrid_eq, onGrid_eq]
  split
  · simp only [Halfway.takesLower]
    split
    · by_cases even : (below mantissa exponent size).digits % 2 = 0
      · rw [if_pos (by simpa [below] using even), if_neg (by simp), above_of_even sized even]
        exact .some (.inr rfl)
      · rw [if_neg (by simpa [below] using even), if_neg (by simp)]
        exact same _
    · exact same _
  · exact same _
  · exact same _
  · exact same _

theorem readsBack_zero (nonzero : mantissa ≠ 0) (power : Int) :
    readsBack mantissa exponent ⟨0, power⟩ = false := by
  have low : ∀ quarters, 0 < quarters →
      0 < quarters * tenTo (-power).toNat * twoTo (exponent - 2).toNat := fun _ positive =>
    Nat.mul_pos (Nat.mul_pos positive (Nat.pow_pos (by decide))) (Nat.two_pow_pos _)
  unfold readsBack besideQuarters
  dsimp only
  rw [Nat.zero_mul, Nat.zero_mul]
  split
  · rw [decide_eq_false (Nat.not_le_of_lt (low _ (by split <;> omega))), Bool.false_and]
  · rw [decide_eq_false (Nat.not_lt_zero _), Bool.false_and]

end

section

variable {mantissa : Nat} {exponent : Int}

theorem rel_findSome? {sizes : List Nat} {f g : Nat → Option Decimal}
    (each : ∀ size ∈ sizes, Option.Rel Steps (f size) (g size)) :
    Option.Rel Steps (sizes.findSome? f) (sizes.findSome? g) := by
  induction sizes with
  | nil => exact .none
  | cons size rest ih =>
    have first := each size List.mem_cons_self
    rw [List.findSome?_cons, List.findSome?_cons]
    cases hf : f size <;> cases hg : g size <;> rw [hf, hg] at first
    · exact ih fun other member => each other (List.mem_cons_of_mem _ member)
    · cases first
    · cases first
    · exact first

theorem shortest_steps (mantissa : Nat) (exponent : Int) :
    Steps (shortest .toEven mantissa exponent) (shortest .up mantissa exponent) := by
  unfold shortest
  split
  · exact .inl rfl
  · have found : Option.Rel Steps ((List.range' 1 17).findSome? (onGrid .toEven mantissa exponent))
        ((List.range' 1 17).findSome? (onGrid .up mantissa exponent)) := by
      refine rel_findSome? fun size member => onGrid_halfway ?_
      have := (List.mem_range'_1.mp member).1
      omega
    cases low : (List.range' 1 17).findSome? (onGrid .toEven mantissa exponent) <;>
      cases high : (List.range' 1 17).findSome? (onGrid .up mantissa exponent) <;>
      rw [low, high] at found
    · exact .inl rfl
    · cases found
    · cases found
    · cases found with
      | some steps => exact steps

/-- A search through ever more digits ends at the first hit. -/
theorem findSome?_range' {α : Type} {f : Nat → Option α} {least count : Nat} {d : α}
    (found : (List.range' least count).findSome? f = some d) :
    ∃ size, size < least + count ∧ f size = some d ∧
      ∀ earlier, least ≤ earlier → earlier < size → f earlier = none := by
  obtain ⟨before, size, after, split, hit, misses⟩ := List.findSome?_eq_some_iff.mp found
  have bounds := List.mem_range'_1.mp (split ▸ List.mem_append_right before List.mem_cons_self)
  have ordered : (before ++ size :: after).Pairwise (· < ·) := split ▸ List.pairwise_lt_range'
  rw [List.pairwise_append, List.pairwise_cons] at ordered
  refine ⟨size, bounds.2, hit, fun earlier first less => ?_⟩
  have listed : earlier ∈ before ++ size :: after := by
    rw [← split, List.mem_range'_1]
    omega
  rcases List.mem_append.mp listed with early | late
  · exact misses earlier early
  · rcases List.mem_cons.mp late with same | late
    · omega
    · have := ordered.2.1.1 earlier late
      omega

theorem decimalLog_nonneg {num den : Nat} (large : den ≤ num) : 0 ≤ decimalLog num den := by
  have lengths : (Nat.toDigits 10 den).length ≤ (Nat.toDigits 10 num).length := by
    rw [Nat.length_toDigits_le_iff (by decide) Nat.length_toDigits_pos]
    exact Nat.lt_of_le_of_lt large
      ((Nat.length_toDigits_le_iff (by decide) Nat.length_toDigits_pos).mp (Nat.le_refl _))
  unfold decimalLog
  dsimp only
  split
  · omega
  · rename_i short
    by_cases same : (Nat.toDigits 10 den).length = (Nat.toDigits 10 num).length
    · rw [same, Int.sub_self] at short
      exact absurd (by simpa using large) short
    · omega

theorem mul_tenTo_decimalLog_le {num den : Nat} (large : den ≤ num) (positive : 0 < num) :
    den * tenTo (decimalLog num den).toNat ≤ num := by
  have nonneg := decimalLog_nonneg large
  have den_lt : den < 10 ^ (Nat.toDigits 10 den).length :=
    (Nat.length_toDigits_le_iff (by decide) Nat.length_toDigits_pos).mp (Nat.le_refl _)
  have le_num : 10 ^ ((Nat.toDigits 10 num).length - 1) ≤ num := by
    by_cases short : (Nat.toDigits 10 num).length = 1
    · rw [short]
      exact positive
    · have := Nat.length_toDigits_pos (b := 10) (n := num)
      refine Nat.not_lt.mp fun less => ?_
      have := (Nat.length_toDigits_le_iff (b := 10) (n := num) (by decide)
        (show 0 < (Nat.toDigits 10 num).length - 1 by omega)).mpr less
      omega
  revert nonneg
  unfold decimalLog
  dsimp only
  split
  · rename_i fits
    intro nonneg
    rw [show (-(((Nat.toDigits 10 num).length : Int) - (Nat.toDigits 10 den).length)).toNat = 0 by
      omega] at fits
    simpa using fits
  · intro nonneg
    have shift : (Nat.toDigits 10 num).length - 1 = (Nat.toDigits 10 den).length +
        (((Nat.toDigits 10 num).length : Int) - (Nat.toDigits 10 den).length - 1).toNat := by
      omega
    rw [shift, Nat.pow_add] at le_num
    exact Nat.le_trans (Nat.mul_le_mul_right _ (Nat.le_of_lt den_lt)) le_num

def IsWhole (mantissa : Nat) (exponent : Int) (whole : Nat) : Prop :=
  mantissa ≠ 0 ∧ mantissa * twoTo exponent.toNat = whole * twoTo (-exponent).toNat

theorem IsWhole.quarters {whole : Nat} (isWhole : IsWhole mantissa exponent whole) :
    whole * twoTo (2 - exponent).toNat = 4 * mantissa * twoTo (exponent - 2).toNat := by
  have same := isWhole.2
  simp only [Nat.pow_eq] at same ⊢
  by_cases small : exponent ≤ 0
  · have shift : (2 - exponent).toNat = (-exponent).toNat + 2 := by omega
    rw [show exponent.toNat = 0 by omega, Nat.pow_zero, Nat.mul_one] at same
    rw [show (exponent - 2).toNat = 0 by omega, shift, Nat.pow_add, ← Nat.mul_assoc, ← same]
    omega
  · by_cases one : exponent = 1
    · subst one
      simp at same ⊢
      omega
    · have shift : exponent.toNat = (exponent - 2).toNat + 2 := by omega
      rw [show (-exponent).toNat = 0 by omega, Nat.pow_zero, Nat.mul_one, shift, Nat.pow_add,
        ← Nat.mul_assoc] at same
      rw [show (2 - exponent).toNat = 0 by omega, ← same, Nat.mul_assoc 4]
      omega

theorem IsWhole.readsBack {whole : Nat} (isWhole : IsWhole mantissa exponent whole) :
    readsBack mantissa exponent ⟨whole, 0⟩ = true := by
  have scale : 0 < twoTo (exponent - 2).toNat := Nat.two_pow_pos _
  have positive := Nat.pos_of_ne_zero isWhole.1
  have low : ∀ quarters, quarters < 4 * mantissa →
      quarters * twoTo (exponent - 2).toNat < whole * twoTo (2 - exponent).toNat := by
    intro quarters less
    rw [isWhole.quarters]
    exact Nat.mul_lt_mul_of_pos_right less scale
  have high : whole * twoTo (2 - exponent).toNat < (4 * mantissa + 2) * twoTo (exponent - 2).toNat := by
    rw [isWhole.quarters]
    exact Nat.mul_lt_mul_of_pos_right (by omega) scale
  unfold Decimal.readsBack besideQuarters
  simp only [Int.toNat_zero, Int.neg_zero, Nat.pow_eq, Nat.pow_zero, Nat.mul_one] at low high ⊢
  have below := low _ (show 4 * mantissa - (if mantissa = 2 ^ 52 &&
    Double.leastExponent < exponent then 1 else 2) < 4 * mantissa by split <;> omega)
  split
  · rw [decide_eq_true (Nat.le_of_lt below), decide_eq_true (Nat.le_of_lt high), Bool.true_and]
  · rw [decide_eq_true below, decide_eq_true high, Bool.true_and]

theorem IsWhole.ne_zero {whole : Nat} (isWhole : IsWhole mantissa exponent whole) :
    whole ≠ 0 := by
  rintro rfl
  have zero := isWhole.2
  rw [Nat.zero_mul, Nat.mul_eq_zero] at zero
  exact isWhole.1 (zero.resolve_right (Nat.ne_of_gt (Nat.two_pow_pos _)))

/-- All digits of a natural, and not more than it has, are enough digits. -/
theorem IsWhole.exists_onGrid {whole : Nat} (isWhole : IsWhole mantissa exponent whole)
    (halfway : Halfway) :
    ∃ size, 1 ≤ size ∧ gridPower mantissa exponent size = 0 ∧ tenTo (size - 1) ≤ whole ∧
      onGrid halfway mantissa exponent size ≠ none := by
  have den : 0 < twoTo (-exponent).toNat := Nat.two_pow_pos _
  have large : twoTo (-exponent).toNat ≤ mantissa * twoTo exponent.toNat := by
    rw [isWhole.2]
    exact Nat.le_mul_of_pos_left _ (Nat.pos_of_ne_zero isWhole.ne_zero)
  have nonneg := decimalLog_nonneg large
  have fits := mul_tenTo_decimalLog_le large (Nat.lt_of_lt_of_le den large)
  generalize log : decimalLog (mantissa * twoTo exponent.toNat) (twoTo (-exponent).toNat) = k
    at nonneg fits
  have full : gridPower mantissa exponent (k.toNat + 1) = 0 := by
    unfold gridPower
    omega
  have exact : below mantissa exponent (k.toNat + 1) = ⟨whole, 0⟩ := by
    simp only [below, gridNum, gridDen, full, Int.neg_zero, Int.toNat_zero, Nat.pow_eq,
      Nat.pow_zero, Nat.mul_one]
    rw [← Nat.pow_eq, ← Nat.pow_eq, isWhole.2, Nat.mul_div_cancel _ den]
  refine ⟨k.toNat + 1, Nat.succ_pos _, full, ?_, ?_⟩
  · rw [isWhole.2, Nat.mul_comm] at fits
    exact Nat.le_of_mul_le_mul_right fits den
  · rw [onGrid_eq, exact, isWhole.readsBack]
    cases Decimal.readsBack mantissa exponent (above mantissa exponent (k.toNat + 1))
    · simp
    · dsimp only
      split <;> simp

/-- The search ends with the last digit of a natural, if not before. -/
theorem IsWhole.power_nonneg {whole : Nat} (isWhole : IsWhole mantissa exponent whole)
    {halfway : Halfway} {d : Decimal}
    (found : (List.range' 1 17).findSome? (onGrid halfway mantissa exponent) = some d) :
    0 ≤ d.power := by
  obtain ⟨size, -, hit, misses⟩ := findSome?_range' found
  obtain ⟨full, first, whole, -, enough⟩ := isWhole.exists_onGrid halfway
  refine Int.le_trans (Int.not_lt.mp fun long => ?_) (onGrid_facts hit).2
  refine enough (misses full first ?_)
  unfold gridPower at whole long
  omega

/-- The shortest decimal of a natural has no places after the point. -/
theorem IsWhole.shortest_whole {whole : Nat} (isWhole : IsWhole mantissa exponent whole)
    (halfway : Halfway) :
    0 ≤ (shortest halfway mantissa exponent).power ∧
      ((shortest halfway mantissa exponent).digits = 0 →
        (shortest halfway mantissa exponent).power = 0) := by
  unfold shortest
  rw [if_neg isWhole.1]
  cases found : (List.range' 1 17).findSome? (onGrid halfway mantissa exponent) with
  | none => simp
  | some d =>
    obtain ⟨size, -, hit, -⟩ := findSome?_range' found
    refine ⟨isWhole.power_nonneg found, fun zero => ?_⟩
    have back := (onGrid_facts hit).1
    rw [show d = ⟨0, d.power⟩ from zero ▸ rfl, readsBack_zero isWhole.1] at back
    cases back

/-- Nothing but the natural itself reads back to it if the places of the number go beyond the
point. -/
theorem IsWhole.eq_of_readsBack {whole : Nat} (isWhole : IsWhole mantissa exponent whole)
    (fine : exponent ≤ 0) {d : Decimal} (power : 0 ≤ d.power)
    (back : Decimal.readsBack mantissa exponent d = true) :
    d.digits * tenTo d.power.toNat = whole := by
  have quarters := isWhole.quarters
  have scale : 4 ≤ twoTo (2 - exponent).toNat :=
    Nat.pow_le_pow_right (show 2 > 0 by decide) (show 2 ≤ (2 - exponent).toNat by omega)
  unfold Decimal.readsBack besideQuarters at back
  simp only [show (exponent - 2).toNat = 0 by omega, show (-d.power).toNat = 0 by omega,
    Nat.pow_eq, Nat.pow_zero, Nat.mul_one] at quarters scale back ⊢
  generalize 2 ^ (2 - exponent).toNat = unit at quarters scale back
  generalize d.digits * 10 ^ d.power.toNat = shown at back ⊢
  have near : whole * unit ≤ shown * unit + 2 ∧ shown * unit ≤ whole * unit + 2 := by
    split at back <;> rw [Bool.and_eq_true, decide_eq_true_eq, decide_eq_true_eq] at back <;>
      split at back <;> omega
  rcases Nat.lt_trichotomy shown whole with less | same | more
  · have := Nat.mul_le_mul_right unit less
    rw [Nat.succ_mul] at this
    omega
  · exact same
  · have := Nat.mul_le_mul_right unit more
    rw [Nat.succ_mul] at this
    omega

theorem IsWhole.shortest_exact {whole : Nat} (isWhole : IsWhole mantissa exponent whole)
    (halfway : Halfway) (fine : exponent ≤ 0) (small : whole < tenTo 17) :
    (shortest halfway mantissa exponent).digits *
      tenTo (shortest halfway mantissa exponent).power.toNat = whole := by
  unfold shortest
  rw [if_neg isWhole.1]
  cases found : (List.range' 1 17).findSome? (onGrid halfway mantissa exponent) with
  | none =>
    obtain ⟨size, first, -, le_whole, enough⟩ := isWhole.exists_onGrid halfway
    have short : size - 1 < 17 :=
      (Nat.pow_lt_pow_iff_right (show 1 < 10 by decide)).mp (Nat.lt_of_le_of_lt le_whole small)
    refine absurd (List.findSome?_eq_none_iff.mp found size ?_) enough
    rw [List.mem_range'_1]
    omega
  | some d =>
    obtain ⟨size, -, hit, -⟩ := findSome?_range' found
    exact isWhole.eq_of_readsBack fine (isWhole.power_nonneg found) (onGrid_facts hit).1

end

end RouteBindings.Number.Decimal
