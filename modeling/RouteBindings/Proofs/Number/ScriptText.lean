import Mathlib.Data.List.Basic
import RouteBindings.Number.Layout
import RouteBindings.Proofs.Number.Shortest
import RouteBindings.Proofs.Number.Whole

/-! Numbers as JavaScript writes them, and which numbers are written the same way in paths. Both
texts show digits of a decimal that reads back to the number, so they differ where JavaScript turns
to an exponent, and where one of them shows other digits. -/

namespace RouteBindings.Number

theorem toDigits_injective {m n : Nat} (same : Nat.toDigits 10 m = Nat.toDigits 10 n) : m = n := by
  rw [← Nat.ofDigitChars_ten_toDigits (n := m), same, Nat.ofDigitChars_ten_toDigits]

theorem toDigits_zeros {n : Nat} (nonzero : n ≠ 0) (k : Nat) :
    Nat.toDigits 10 n ++ List.replicate k '0' = Nat.toDigits 10 (n * tenTo k) := by
  induction k generalizing n with
  | zero => simp
  | succ k ih =>
    have shifted : Nat.toDigits 10 n ++ ['0'] = Nat.toDigits 10 (10 * n) :=
      Nat.toDigits_append_toDigits (d := 0) (by decide) (Nat.pos_of_ne_zero nonzero) (by decide)
    have power : 10 * n * tenTo k = n * tenTo (k + 1) := by
      simp only [Nat.pow_eq]
      rw [Nat.pow_succ, Nat.mul_comm 10 n, Nat.mul_assoc, Nat.mul_comm 10]
    rw [List.replicate_succ, ← List.singleton_append, ← List.append_assoc, shifted,
      ih (by omega), power]

theorem not_mem_toDigits {c : Char} (other : c.isDigit = false) (n : Nat) :
    c ∉ Nat.toDigits 10 n := by
  intro member
  rw [Nat.isDigit_of_mem_toDigits (by decide) (by decide) member] at other
  cases other

namespace Decimal

def lead (d : Decimal) : Int :=
  d.power + (Nat.toDigits 10 d.digits).length

/-- From `10 ^ -6` up to `10 ^ 21` all digits are written out, without any after a whole number. -/
def script (d : Decimal) : List Char :=
  if -6 < d.lead ∧ d.lead ≤ 21 then d.positional else d.scientific

theorem positional_of_whole {d : Decimal} (whole : 0 ≤ d.power)
    (zero : d.digits = 0 → d.power = 0) :
    d.positional = Nat.toDigits 10 (d.digits * tenTo d.power.toNat) := by
  unfold positional
  rw [if_pos whole]
  by_cases nonzero : d.digits = 0
  · rw [nonzero, zero nonzero]
    rfl
  · exact toDigits_zeros nonzero _

theorem lead_of_whole {d : Decimal} (whole : 0 ≤ d.power) (nonzero : d.digits ≠ 0) :
    d.lead = (Nat.toDigits 10 (d.digits * tenTo d.power.toNat)).length := by
  have length : (Nat.toDigits 10 d.digits).length + d.power.toNat =
      (Nat.toDigits 10 (d.digits * tenTo d.power.toNat)).length := by
    simpa using congrArg List.length (toDigits_zeros nonzero d.power.toNat)
  unfold lead
  omega

/-- The digits of a decimal that has places after the point. -/
theorem digits_withPoint (n places : Nat) :
    Nat.ofDigitChars 10 ((withPoint (Nat.toDigits 10 n) places).filter (· ≠ '.')) 0 = n := by
  have plain : (Nat.toDigits 10 n).filter (· ≠ '.') = Nat.toDigits 10 n := by
    rw [List.filter_eq_self]
    intro c member
    simp only [ne_eq, decide_eq_true_eq]
    rintro rfl
    exact not_mem_toDigits (by decide) n member
  unfold withPoint
  split
  · have joined : ∀ k, (((Nat.toDigits 10 n).take k ++ '.' :: (Nat.toDigits 10 n).drop k).filter
        (· ≠ '.')) = Nat.toDigits 10 n := by
      intro k
      rw [List.filter_append, List.filter_cons_of_neg (by simp), ← List.filter_append,
        List.take_append_drop, plain]
    rw [joined, Nat.ofDigitChars_ten_toDigits]
  · rw [List.filter_append, plain, Nat.ofDigitChars_append]
    have zeros : ('0' :: '.' :: List.replicate (places - (Nat.toDigits 10 n).length) '0').filter
        (· ≠ '.') = List.replicate (places - (Nat.toDigits 10 n).length + 1) '0' := by
      simp [List.replicate_succ]
    rw [zeros, Nat.ofDigitChars_replicate_zero, Nat.mul_zero, Nat.ofDigitChars_ten_toDigits]

theorem positional_injective {m n : Nat} {power : Int}
    (same : positional ⟨m, power⟩ = positional ⟨n, power⟩) : m = n := by
  unfold positional at same
  dsimp only at same
  split at same
  · exact toDigits_injective (List.append_cancel_right same)
  · rw [← digits_withPoint m (-power).toNat, same, digits_withPoint]

theorem not_mem_positional (d : Decimal) : 'e' ∉ d.positional := by
  have digits := not_mem_toDigits (c := 'e') (by decide) d.digits
  unfold positional withPoint
  dsimp only
  split
  · simp [digits]
  · split
    · intro member
      rcases List.mem_append.mp member with front | back
      · exact digits (List.mem_of_mem_take front)
      · rcases List.mem_cons.mp back with point | back
        · cases point
        · exact digits (List.mem_of_mem_drop back)
    · simp [digits]

theorem mem_scientific (d : Decimal) : 'e' ∈ d.scientific := by
  simp [scientific]

end Decimal

namespace Double

def scriptText : Double → String
  | finite _ 0 _ => "0"
  | x => textBy .toEven Decimal.script x

/-- Numbers whose text is the same in paths and in JavaScript. Zero has no sign. A whole number
below `10 ^ 21`, of which a path shows all digits, is no other than its shortest decimal. The
shortest decimal of any other number is written out, and the number is not half-way between two
decimals that are equally short. -/
def Plain : Double → Prop
  | finite negative mantissa exponent =>
    let whole := mantissa * twoTo exponent.toNat
    let parts := twoTo (-exponent).toNat
    let d := Decimal.shortest .toEven mantissa exponent
    if mantissa = 0 then negative = false
    else if whole % parts = 0 && whole / parts < tenTo 21 then
      d.digits * tenTo d.power.toNat = whole / parts
    else -6 < d.lead ∧ d.lead ≤ 21 ∧ Decimal.shortest .up mantissa exponent = d
  | _ => True

theorem signed_inj {negative : Bool} {cs ds : List Char} :
    signed negative cs = signed negative ds ↔ cs = ds := by
  unfold signed
  cases negative <;> simp [String.ofList_inj]

theorem exactText_zero (negative : Bool) (exponent : Int) :
    exactText (finite negative 0 exponent) = signed negative ['0'] := by
  have small : 0 < tenTo 21 := by decide
  simp [exactText]

theorem scriptText_finite {mantissa : Nat} (nonzero : mantissa ≠ 0) (negative : Bool)
    (exponent : Int) :
    scriptText (finite negative mantissa exponent) =
      signed negative (Decimal.shortest .toEven mantissa exponent).script := by
  unfold scriptText
  split
  · rename_i same
    cases same
    exact absurd rfl nonzero
  · rfl

/-- A number of which a path shows all digits. -/
theorem toDigits_eq_script_iff {mantissa whole : Nat} {exponent : Int}
    (isWhole : Decimal.IsWhole mantissa exponent whole) (small : whole < tenTo 21) :
    Nat.toDigits 10 whole = (Decimal.shortest .toEven mantissa exponent).script ↔
      (Decimal.shortest .toEven mantissa exponent).digits *
        tenTo (Decimal.shortest .toEven mantissa exponent).power.toNat = whole := by
  obtain ⟨power, zero⟩ := isWhole.shortest_whole .toEven
  generalize Decimal.shortest .toEven mantissa exponent = d at power zero
  have written := Decimal.positional_of_whole power zero
  unfold Decimal.script
  split
  · rw [written]
    exact ⟨fun same => (toDigits_injective same).symm, fun same => congrArg _ same.symm⟩
  · rename_i far
    constructor
    · intro same
      have member := same ▸ Decimal.mem_scientific d
      exact absurd member (not_mem_toDigits (by decide) whole)
    · intro same
      refine absurd ?_ far
      have nonzero : d.digits ≠ 0 := by
        intro none
        rw [none, Nat.zero_mul] at same
        exact isWhole.ne_zero same.symm
      have short := (Nat.length_toDigits_le_iff (b := 10) (by decide) (by decide)).mpr small
      have positive := Nat.length_toDigits_pos (b := 10) (n := whole)
      rw [Decimal.lead_of_whole power nonzero, same]
      omega

/-- A number of which a path shows the shortest digits. -/
theorem positional_eq_script_iff {low high : Decimal} (steps : Decimal.Steps low high) :
    high.positional = low.script ↔ -6 < low.lead ∧ low.lead ≤ 21 ∧ high = low := by
  unfold Decimal.script
  split
  · rename_i near
    rw [← and_assoc, and_iff_right near]
    constructor
    · intro same
      rcases steps with equal | next
      · exact equal
      · rw [next] at same
        have := Decimal.positional_injective same
        omega
    · exact congrArg Decimal.positional
  · rename_i far
    constructor
    · intro same
      exact absurd (same ▸ Decimal.mem_scientific low) (Decimal.not_mem_positional high)
    · rintro ⟨above, below, -⟩
      exact absurd ⟨above, below⟩ far

theorem exactText_eq_scriptText_iff (x : Double) : x.exactText = x.scriptText ↔ x.Plain := by
  cases x with
  | nan => exact iff_of_true rfl trivial
  | infinite negative => exact iff_of_true rfl trivial
  | finite negative mantissa exponent =>
    by_cases nonzero : mantissa = 0
    · subst nonzero
      rw [exactText_zero]
      cases negative <;> simp [Plain, signed, scriptText]
    · rw [scriptText_finite nonzero]
      simp only [Plain, exactText, if_neg nonzero]
      split
      · rename_i shown
        rw [Bool.and_eq_true, decide_eq_true_eq, decide_eq_true_eq] at shown
        have isWhole : Decimal.IsWhole mantissa exponent
            (mantissa * twoTo exponent.toNat / twoTo (-exponent).toNat) :=
          ⟨nonzero, (Nat.div_mul_cancel (Nat.dvd_of_mod_eq_zero shown.1)).symm⟩
        rw [signed_inj, toDigits_eq_script_iff isWhole shown.2]
      · rw [text, textBy, signed_inj]
        exact positional_eq_script_iff (Decimal.shortest_steps mantissa exponent)

theorem plain_ofInt {n : Int} (small : n.natAbs < twoTo 53) : (ofInt n).Plain := by
  by_cases nonzero : n.natAbs = 0
  · rw [Int.natAbs_eq_zero.mp nonzero]
    rfl
  · have filled : n.natAbs * twoTo (52 - Nat.log2 n.natAbs) ≠ 0 :=
      Nat.mul_ne_zero nonzero (Nat.ne_of_gt (Nat.two_pow_pos _))
    rw [ofInt, round_one_of_small _ nonzero small]
    generalize 52 - Nat.log2 n.natAbs = k at filled
    have isWhole : Decimal.IsWhole (n.natAbs * twoTo k) (-(k : Int)) n.natAbs := by
      refine ⟨filled, ?_⟩
      rw [Int.neg_neg, Int.toNat_natCast, show (-(k : Int)).toNat = 0 by omega]
      exact Nat.mul_one _
    have parts : 0 < twoTo (-(-(k : Int))).toNat := Nat.two_pow_pos _
    have shown : n.natAbs * twoTo k * twoTo (-(k : Int)).toNat / twoTo (-(-(k : Int))).toNat =
        n.natAbs := by
      rw [isWhole.2, Nat.mul_div_cancel _ parts]
    have all : n.natAbs * twoTo k * twoTo (-(k : Int)).toNat % twoTo (-(-(k : Int))).toNat = 0 := by
      rw [isWhole.2, Nat.mul_mod_left]
    have written : n.natAbs < tenTo 17 := Nat.lt_trans small (by decide)
    have below : n.natAbs < tenTo 21 := Nat.lt_trans written (by decide)
    simp only [Plain, if_neg filled, shown, all, decide_true, below, Bool.and_self, if_true]
    exact isWhole.shortest_exact .toEven (by omega) written

end Double

end RouteBindings.Number
