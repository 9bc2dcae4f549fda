import RouteBindings.Json.Text
import RouteBindings.Proofs.Text.Quoted
import RouteBindings.Proofs.Text.Span

namespace RouteBindings

namespace Draft

variable {cs left rest : List Char}

def EndsNumber (cs : List Char) : Prop :=
  ∀ c ∈ cs.head?, c.isDigit = false ∧ c ≠ '.' ∧ c ≠ 'e' ∧ c ≠ 'E' ∧ c ≠ '+' ∧ c ≠ '-'

theorem span_digits (ends : EndsNumber rest) (cs : List Char) :
    (cs ++ rest).takeWhile Char.isDigit = cs.takeWhile Char.isDigit ∧
      (cs ++ rest).dropWhile Char.isDigit = cs.dropWhile Char.isDigit ++ rest :=
  Text.span_append (fun c first => (ends c first).1) cs

theorem scanFraction_append (ends : EndsNumber rest) {digits : List Char}
    (read : scanFraction cs = some (digits, left)) :
    scanFraction (cs ++ rest) = some (digits, left ++ rest) := by
  cases cs with
  | nil =>
    cases read
    cases rest with
    | nil => rfl
    | cons c tail => exact scanFraction.eq_2 _ fun _ same => (ends c rfl).2.1 (List.cons.inj same).1
  | cons c tail =>
    by_cases point : c = '.'
    · subst point
      rw [scanFraction] at read
      rw [List.cons_append, scanFraction, (span_digits ends tail).1, (span_digits ends tail).2]
      split at read
      · cases read
      · rename_i found
        cases read
        rw [if_neg found]
    · have whole : ∀ more, scanFraction (c :: more) = some ([], c :: more) := fun more =>
        scanFraction.eq_2 _ fun _ same => point (List.cons.inj same).1
      rw [whole] at read
      cases read
      exact whole _

theorem takeSign_append (ends : EndsNumber rest) (cs : List Char) :
    Number.takeSign (cs ++ rest) = ((Number.takeSign cs).1, (Number.takeSign cs).2 ++ rest) := by
  cases cs with
  | nil =>
    cases rest with
    | nil => rfl
    | cons c tail =>
      obtain ⟨-, -, -, -, plus, minus⟩ := ends c rfl
      exact Number.takeSign.eq_3 _ (fun _ same => minus (List.cons.inj same).1)
        fun _ same => plus (List.cons.inj same).1
  | cons c tail =>
    by_cases minus : c = '-'
    · subst minus
      rfl
    by_cases plus : c = '+'
    · subst plus
      rfl
    have unsigned : ∀ more, Number.takeSign (c :: more) = (false, c :: more) := fun more =>
      Number.takeSign.eq_3 _ (fun _ same => minus (List.cons.inj same).1)
        fun _ same => plus (List.cons.inj same).1
    rw [List.cons_append, unsigned, unsigned]
    rfl

theorem scanExponent_append (ends : EndsNumber rest) {exponent : Option Int}
    (read : scanExponent cs = some (exponent, left)) :
    scanExponent (cs ++ rest) = some (exponent, left ++ rest) := by
  cases cs with
  | nil =>
    cases read
    cases rest with
    | nil => rfl
    | cons c tail =>
      obtain ⟨-, -, small, large, -, -⟩ := ends c rfl
      simp [scanExponent, small, large]
  | cons c tail =>
    rw [scanExponent] at read
    rw [List.cons_append, scanExponent]
    split at read
    · rename_i mark
      rw [if_pos mark, takeSign_append ends]
      dsimp only at read ⊢
      rw [(span_digits ends _).1, (span_digits ends _).2]
      split at read
      · cases read
      · rename_i some_digits
        cases read
        rw [if_neg some_digits]
    · rename_i other
      cases read
      rw [if_neg other]
      rfl

theorem scanNumber_append (ends : EndsNumber rest) {negative : Bool} {d : Draft}
    (read : scanNumber negative cs = (d, some left)) :
    scanNumber negative (cs ++ rest) = (d, some (left ++ rest)) := by
  rw [scanNumber] at read ⊢
  rw [(span_digits ends cs).1, (span_digits ends cs).2]
  split at read
  · cases read
  rename_i proper
  rw [if_neg proper]
  split at read
  · cases read
  rename_i fraction after fractioned
  rw [scanFraction_append ends fractioned]
  dsimp only
  split at read
  · cases read
  rename_i exponent after exponented
  rw [scanExponent_append ends exponented]
  dsimp only
  split at read
  · cases read
    rfl
  · cases read
    rfl

theorem scanNumber_head {negative : Bool} {d : Draft}
    (read : scanNumber negative cs = (d, some left)) :
    ∃ c tail, cs = c :: tail ∧ c.isDigit = true := by
  cases cs with
  | nil => cases read
  | cons c tail =>
    by_cases digit : c.isDigit = true
    · exact ⟨c, tail, rfl, digit⟩
    · simp [scanNumber, digit] at read

theorem ne_of_digit {c other : Char} (digit : c.isDigit = true) (plain : other.isDigit = false) :
    c ≠ other := by
  rintro rfl
  rw [digit] at plain
  cases plain

/-- What begins like a number is scanned as one. -/
theorem scanValue_digit (fuel : Nat) {c : Char} {tail : List Char} (digit : c.isDigit = true)
    (skipped : skipBlanks cs = c :: tail) :
    scanValue (fuel + 1) cs = scanNumber false (c :: tail) := by
  rw [scanValue, skipped]
  split
  all_goals first
    | rfl
    | rename_i same
      exact (ne_of_digit digit rfl (List.cons.inj same).1).elim

theorem scanValue_minus (fuel : Nat) {tail : List Char} (skipped : skipBlanks cs = '-' :: tail) :
    scanValue (fuel + 1) cs = scanNumber true tail := by
  rw [scanValue, skipped]
  rfl

/-- A number was scanned behind a minus or at a digit. -/
theorem scanValue_number {fuel : Nat} {n : Numeral}
    (read : scanValue (fuel + 1) cs = (number n, some left)) :
    (∃ tail, skipBlanks cs = '-' :: tail ∧ scanNumber true tail = (number n, some left)) ∨
      ∃ c tail, skipBlanks cs = c :: tail ∧ c.isDigit = true ∧
        scanNumber false (c :: tail) = (number n, some left) := by
  rw [scanValue] at read
  split at read
  · cases read
  · cases read
  · cases read
  · split at read <;> cases read
  · split at read <;> cases read
  · split at read <;> cases read
  · rename_i tail skipped
    exact .inl ⟨tail, skipped, read⟩
  · obtain ⟨c, tail, skipped, digit⟩ := scanNumber_head read
    exact .inr ⟨c, tail, skipped, digit, skipped ▸ read⟩

theorem skipBlanks_append {c : Char} {tail : List Char} (skipped : skipBlanks cs = c :: tail)
    (rest : List Char) : skipBlanks (cs ++ rest) = c :: tail ++ rest := by
  unfold skipBlanks at skipped ⊢
  rw [List.dropWhile_append, skipped]
  rfl

end Draft

namespace Numeral

open Draft (EndsNumber scanValue scanNumber skipBlanks takeDigits wordLimit)

def ReadsBack (n : Numeral) : Prop :=
  Draft.scan n.text = (.number n, some [])

theorem ReadsBack.scanValue {n : Numeral} (back : n.ReadsBack) (fuel : Nat) {rest : List Char}
    (ends : EndsNumber rest) :
    scanValue (fuel + 1) (n.text.toList ++ rest) = (.number n, some rest) := by
  rcases Draft.scanValue_number back with ⟨tail, skipped, read⟩ | ⟨c, tail, skipped, digit, read⟩
  · rw [Draft.scanValue_minus fuel (Draft.skipBlanks_append skipped rest)]
    exact Draft.scanNumber_append ends read
  · rw [Draft.scanValue_digit fuel digit (Draft.skipBlanks_append skipped rest)]
    exact Draft.scanNumber_append ends read

/-- The text of a number begins with a minus or a digit. -/
theorem ReadsBack.head {n : Numeral} (back : n.ReadsBack) (rest : List Char) :
    ∃ c tail, skipBlanks (n.text.toList ++ rest) = c :: tail ∧ (c = '-' ∨ c.isDigit = true) := by
  rcases Draft.scanValue_number back with ⟨tail, skipped, -⟩ | ⟨c, tail, skipped, digit, -⟩
  · exact ⟨'-', _, Draft.skipBlanks_append skipped rest, .inl rfl⟩
  · exact ⟨c, _, Draft.skipBlanks_append skipped rest, .inr digit⟩

theorem le_ofDigitChars (ds : List Char) (n : Nat) : n ≤ Nat.ofDigitChars 10 ds n := by
  induction ds generalizing n with
  | nil => simp
  | cons d ds ih =>
    rw [Nat.ofDigitChars_cons]
    have := ih (10 * n + (d.toNat - '0'.toNat))
    omega

/-- Digits are all taken while they make up a word. -/
theorem takeDigits_of_fits (ds : List Char) (n : Nat)
    (fits : Nat.ofDigitChars 10 ds n < wordLimit) :
    takeDigits n ds = (Nat.ofDigitChars 10 ds n, []) := by
  induction ds generalizing n with
  | nil => simp [takeDigits]
  | cons d ds ih =>
    rw [Nat.ofDigitChars_cons] at fits ⊢
    have next : 10 * n + (d.toNat - 48) < wordLimit :=
      Nat.lt_of_le_of_lt (le_ofDigitChars ds _) fits
    rw [takeDigits, if_pos next]
    exact ih _ fits

theorem head_toDigits (n : Nat) (long : 1 < (Nat.toDigits 10 n).length) :
    (Nat.toDigits 10 n).head? ≠ some '0' := by
  induction n using Nat.strongRecOn with
  | _ n ih =>
    by_cases small : n < 10
    · simp [Nat.toDigits_of_lt_base small] at long
    · rw [Nat.toDigits_of_base_le (by decide) (by omega)] at long ⊢
      rw [List.head?_append, Option.or_of_isSome (by simp [Nat.toDigits_ne_nil])]
      by_cases tens : n / 10 < 10
      · rw [Nat.toDigits_of_lt_base tens]
        have lead : ∀ d < 10, d ≠ 0 → Nat.digitChar d ≠ '0' := by decide
        simpa using lead (n / 10) tens (by omega)
      · refine ih (n / 10) (by omega) ?_
        have := (Nat.length_toDigits_le_iff (b := 10) (n := n / 10) (k := 1) (by decide)
          (by decide)).not
        omega

theorem scanNumber_toDigits (negative : Bool) (n : Nat) :
    scanNumber negative (Nat.toDigits 10 n) =
      match Draft.numeral? negative (Nat.toDigits 10 n) [] none with
      | some m => (.number m, some [])
      | none => (.flawed, some []) := by
  have digits : ∀ c ∈ Nat.toDigits 10 n, c.isDigit = true := fun c member =>
    Nat.isDigit_of_mem_toDigits (by decide) (by decide) member
  have lead : ((Nat.toDigits 10 n).isEmpty ||
      ((Nat.toDigits 10 n).head? = some '0' && 1 < (Nat.toDigits 10 n).length)) = false := by
    have zero := head_toDigits n
    simp only [List.isEmpty_eq_false_iff.mpr Nat.toDigits_ne_nil, Bool.false_or,
      Bool.and_eq_false_iff, decide_eq_false_iff_not]
    by_cases long : 1 < (Nat.toDigits 10 n).length
    · exact .inl (zero long)
    · exact .inr long
  rw [scanNumber, List.takeWhile_eq_self_iff.mpr digits, List.dropWhile_eq_nil_iff.mpr digits]
  rw [lead]
  rfl

theorem takeDigits_toDigits {n : Nat} (fits : n < wordLimit) :
    takeDigits 0 (Nat.toDigits 10 n) = (n, []) := by
  have value : Nat.ofDigitChars 10 (Nat.toDigits 10 n) 0 = n := Nat.ofDigitChars_ten_toDigits
  have taken := takeDigits_of_fits (Nat.toDigits 10 n) 0 (by rwa [value])
  rwa [value] at taken

theorem readsBack_natural {n : Nat} (fits : n < wordLimit) : ReadsBack (.integer n) := by
  have text : (Numeral.integer n).text.toList = Nat.toDigits 10 n := Nat.toList_repr
  obtain ⟨c, tail, digits⟩ := List.exists_cons_of_ne_nil (Nat.toDigits_ne_nil (b := 10) (n := n))
  have digit : c.isDigit = true :=
    Nat.isDigit_of_mem_toDigits (by decide) (by decide) (digits ▸ List.mem_cons_self)
  have skipped : skipBlanks (c :: tail) = c :: tail := by
    have blank : ∀ other : Char, other.isDigit = false → c ≠ other := fun _ plain =>
      Draft.ne_of_digit digit plain
    simp [skipBlanks, blank ' ' rfl, blank '\t' rfl, blank '\n' rfl, blank '\r' rfl]
  rw [ReadsBack, Draft.scan, text, digits, Draft.scanValue_digit _ digit skipped, ← digits,
    scanNumber_toDigits, Draft.numeral?, takeDigits_toDigits fits]
  rfl

theorem readsBack_negative {n : Nat} (positive : 0 < n) (fits : n ≤ Number.twoTo 63) :
    ReadsBack (.integer (-(n : Int))) := by
  have text : (Numeral.integer (-(n : Int))).text.toList = '-' :: Nat.toDigits 10 n := by
    obtain ⟨m, rfl⟩ := Nat.exists_eq_succ_of_ne_zero positive.ne'
    exact (String.toList_append).trans (congrArg _ Nat.toList_repr)
  have small : n < wordLimit := Nat.lt_of_le_of_lt fits (by decide)
  have proper : (decide (n = 0) || decide (Number.twoTo 63 < n)) = false := by
    simp only [Bool.or_eq_false_iff, decide_eq_false_iff_not]
    omega
  rw [ReadsBack, Draft.scan, text, Draft.scanValue_minus _ rfl, scanNumber_toDigits,
    Draft.numeral?, takeDigits_toDigits small]
  dsimp only
  rw [proper]
  rfl

/-- Every integer of a word is read back. -/
theorem readsBack_integer (n : Int64) : ReadsBack (.integer n.toInt) := by
  have low := n.le_toInt
  have high := n.toInt_lt
  have word : wordLimit = 2 ^ 64 := rfl
  have half : Number.twoTo 63 = 2 ^ 63 := rfl
  by_cases negative : n.toInt < 0
  · have back := readsBack_negative (n := n.toInt.natAbs) (by omega) (by omega)
    rwa [Int.ofNat_natAbs_of_nonpos (by omega), Int.neg_neg] at back
  · have back := readsBack_natural (n := n.toInt.natAbs) (by omega)
    rwa [Int.natAbs_of_nonneg (by omega)] at back

end Numeral

end RouteBindings
