import Mathlib
import RouteBindings.Json.Scan
import RouteBindings.Number.Reading
import RouteBindings.Proofs.Number.Rounding
import RouteBindings.Proofs.Text.Span
import RouteBindings.Text.Blank

namespace RouteBindings.Number

/-- The digits of a natural in the given base, with letters for the digits from ten. -/
inductive Spells (base : Nat) : List Char → Nat → Prop
  | nil : Spells base [] 0
  | snoc {digits : List Char} {n : Nat} {c : Char} {digit : Nat} (front : Spells base digits n)
      (read : Draft.hexValue? c = some digit) (small : digit < base) :
      Spells base (digits ++ [c]) (base * n + digit)

inductive SignText : List Char → Bool → Prop
  | none : SignText [] false
  | plus : SignText ['+'] false
  | minus : SignText ['-'] true

inductive ExponentText : List Char → Int → Prop
  | none : ExponentText [] 0
  | marked {mark : Char} {sign digits : List Char} {negative : Bool} {n : Nat}
      (letter : mark = 'e' ∨ mark = 'E') (signed : SignText sign negative)
      (nonempty : digits ≠ []) (spelled : Spells 10 digits n) :
      ExponentText (mark :: (sign ++ digits)) (if negative then -n else n)

inductive DecimalText : List Char → ℚ → Prop
  | whole {digits exponent : List Char} {n : Nat} {power : Int} (nonempty : digits ≠ [])
      (spelled : Spells 10 digits n) (scaled : ExponentText exponent power) :
      DecimalText (digits ++ exponent) (n * 10 ^ power)
  | point {digits fraction exponent : List Char} {n k : Nat} {power : Int}
      (nonempty : digits ++ fraction ≠ []) (spelled : Spells 10 digits n)
      (divided : Spells 10 fraction k) (scaled : ExponentText exponent power) :
      DecimalText (digits ++ '.' :: (fraction ++ exponent))
        ((n + k / 10 ^ fraction.length) * 10 ^ power)

inductive DecimalNumeral : List Char → ℚ → Prop
  | empty : DecimalNumeral [] 0
  | signed {sign cs : List Char} {negative : Bool} {q : ℚ} (signed : SignText sign negative)
      (decimal : DecimalText cs q) : DecimalNumeral (sign ++ cs) (Double.signOf negative * q)

inductive PrefixedNumeral : List Char → ℚ → Prop
  | intro {letter : Char} {base : Nat} {digits : List Char} {n : Nat}
      (known : (letter, base) ∈
        [('x', 16), ('X', 16), ('o', 8), ('O', 8), ('b', 2), ('B', 2)])
      (nonempty : digits ≠ []) (spelled : Spells base digits n) :
      PrefixedNumeral ('0' :: letter :: digits) n

theorem spells_digit {base : Nat} {c : Char} {digit : Nat}
    (read : Draft.hexValue? c = some digit) (small : digit < base) : Spells base [c] digit := by
  simpa using Spells.snoc .nil read small

theorem isDigit_of_hexValue {c : Char} {digit : Nat} (read : Draft.hexValue? c = some digit)
    (small : digit < 10) : c.isDigit = true ∧ c.toNat - 48 = digit := by
  simp only [Draft.hexValue?, Bool.and_eq_true, decide_eq_true_eq] at read
  rw [Char.isDigit_iff_toNat]
  grind

theorem Spells.decimal {digits : List Char} {n : Nat} (spelled : Spells 10 digits n) :
    (∀ c ∈ digits, c.isDigit = true) ∧ digitsValue digits = n := by
  induction spelled with
  | nil => exact ⟨by simp, rfl⟩
  | snoc front read small ih =>
    obtain ⟨all, value⟩ := ih
    obtain ⟨isDigit, digit⟩ := isDigit_of_hexValue read small
    constructor
    · exact List.forall_mem_append.mpr ⟨all, by simpa using isDigit⟩
    · rw [digitsValue, List.foldl_append, ← digitsValue, value, ← digit]
      rfl

theorem digitsValue_append (ds es : List Char) :
    digitsValue (ds ++ es) = digitsValue ds * 10 ^ es.length + digitsValue es := by
  have opened : digitsValue (ds ++ es) = Nat.ofDigitChars 10 es (digitsValue ds) :=
    Nat.ofDigitChars_append 0
  rw [opened, Nat.ofDigitChars_eq_ofDigitChars_zero, Nat.mul_comm]
  rfl

theorem digitsValue_cons (c : Char) (ds : List Char) :
    digitsValue (c :: ds) = (c.toNat - 48) * 10 ^ ds.length + digitsValue ds := by
  rw [← List.singleton_append, digitsValue_append]
  simp [digitsValue]

theorem digitsValue_zeros (ds : List Char) :
    digitsValue (ds.dropWhile (· = '0')) = digitsValue ds := by
  induction ds with
  | nil => rfl
  | cons c rest ih =>
    by_cases zero : c = '0'
    · subst zero
      rw [List.dropWhile_cons_of_pos (by simp), ih, digitsValue_cons]
      simp
    · rw [List.dropWhile_cons_of_neg (by simpa using zero)]

theorem digitsValue_lt {ds : List Char} (all : ∀ c ∈ ds, c.isDigit = true) :
    digitsValue ds < 10 ^ ds.length := by
  induction ds with
  | nil => decide
  | cons c rest ih =>
    obtain ⟨first, others⟩ := List.forall_mem_cons.mp all
    have least := ih others
    have digit : c.toNat - 48 ≤ 9 := by
      rw [Char.isDigit_iff_toNat] at first
      grind
    have front := Nat.mul_le_mul_right (10 ^ rest.length) digit
    rw [digitsValue_cons, List.length_cons, Nat.pow_succ]
    omega

theorem ten_pow_le_digitsValue {c : Char} (digit : c.isDigit = true) (nonzero : c ≠ '0')
    (rest : List Char) : 10 ^ (c :: rest).length ≤ 10 * digitsValue (c :: rest) := by
  have least : 1 ≤ c.toNat - 48 := by
    rw [Char.isDigit_iff_toNat] at digit
    rw [ne_eq, ← Char.toNat_inj] at nonzero
    grind
  have front := Nat.mul_le_mul_right (10 ^ rest.length) least
  rw [digitsValue_cons, List.length_cons, Nat.pow_succ]
  omega

/-- A natural lies between the two powers of ten that the count of its digits says. -/
theorem digitsValue_bounds {ds : List Char} (all : ∀ c ∈ ds, c.isDigit = true) :
    digitsValue ds < 10 ^ (ds.dropWhile (· = '0')).length ∧
      (digitsValue ds ≠ 0 →
        10 ^ (ds.dropWhile (· = '0')).length ≤ 10 * digitsValue ds) := by
  have front : ∀ c ∈ (ds.dropWhile (· = '0')).head?, c ≠ '0' := by
    intro c first
    simpa using Text.ends_dropWhile ds c first
  have all' : ∀ c ∈ ds.dropWhile (· = '0'), c.isDigit = true :=
    fun c member => all c (List.dropWhile_sublist _ |>.subset member)
  rw [← digitsValue_zeros]
  generalize ds.dropWhile (· = '0') = significant at *
  refine ⟨digitsValue_lt all', fun nonzero => ?_⟩
  cases significant with
  | nil => exact absurd rfl nonzero
  | cons c rest => exact ten_pow_le_digitsValue (all' c List.mem_cons_self) (front c rfl) rest

namespace Double

theorem greatest_lt_ten_pow : (10 * (2 ^ 53 * 2 ^ (971 : Int)) : ℚ) ≤ 10 ^ (401 : Int) := by
  have limit : 10 * (2 ^ 53 * 2 ^ 971) ≤ 10 ^ 401 := by decide +kernel
  exact_mod_cast limit

theorem ten_pow_le_least : (10 ^ (-401 : Int) : ℚ) ≤ 2 ^ (-1074 : Int) / 2 := by
  have limit : 2 * 2 ^ 1074 ≤ 10 ^ 401 := by decide +kernel
  rw [div_eq_mul_inv, ← zpow_neg_one, zpow_neg, zpow_neg, zpow_neg, ← mul_inv, zpow_one]
  apply inv_anti₀ (by positivity)
  rw [mul_comm]
  exact_mod_cast limit

section

variable {digits size : Nat} {power : Int}

theorem ten_pow_mul_zpow (size : Nat) (power : Int) :
    (10 ^ size * 10 ^ power : ℚ) = 10 ^ (power + size) := by
  rw [zpow_add₀ (by norm_num), zpow_natCast, mul_comm]

theorem large_of_size (above : 10 ^ size ≤ 10 * digits) (far : 401 ≤ power + size) :
    (2 ^ 53 * 2 ^ (971 : Int) : ℚ) ≤ digits * 10 ^ power := by
  have large : (10 ^ size : ℚ) ≤ 10 * digits := by exact_mod_cast above
  have step : (0 : ℚ) < 10 ^ power := by positivity
  apply le_of_mul_le_mul_left _ (by norm_num : (0 : ℚ) < 10)
  calc
    (10 * (2 ^ 53 * 2 ^ (971 : Int)) : ℚ) ≤ 10 ^ (401 : Int) := greatest_lt_ten_pow
    _ ≤ 10 ^ (power + size) := zpow_le_zpow_right₀ (by norm_num) far
    _ = 10 ^ size * 10 ^ power := (ten_pow_mul_zpow size power).symm
    _ ≤ 10 * digits * 10 ^ power := mul_le_mul_of_nonneg_right large step.le
    _ = 10 * (digits * 10 ^ power) := mul_assoc _ _ _

theorem tiny_of_size (below : digits < 10 ^ size) (near : power + size ≤ -401) :
    (digits * 10 ^ power : ℚ) ≤ 2 ^ (-1074 : Int) / 2 := by
  have small : (digits : ℚ) ≤ 10 ^ size := by exact_mod_cast below.le
  have step : (0 : ℚ) < 10 ^ power := by positivity
  calc
    (digits * 10 ^ power : ℚ) ≤ 10 ^ size * 10 ^ power :=
      mul_le_mul_of_nonneg_right small step.le
    _ = 10 ^ (power + size) := ten_pow_mul_zpow size power
    _ ≤ 10 ^ (-401 : Int) := zpow_le_zpow_right₀ (by norm_num) near
    _ ≤ 2 ^ (-1074 : Int) / 2 := ten_pow_le_least

end

/-- Powers that are out of range need not be computed. -/
theorem ofDecimal_roundedTo (negative : Bool) {ds : List Char}
    (all : ∀ c ∈ ds, c.isDigit = true) (power : Int) :
    RoundedTo (signOf negative * (digitsValue ds * 10 ^ power))
      (ofDecimal negative (digitsValue ds) (ds.dropWhile (· = '0')).length power) := by
  obtain ⟨below, above⟩ := digitsValue_bounds all
  generalize digitsValue ds = digits at *
  generalize (ds.dropWhile (· = '0')).length = size at *
  unfold ofDecimal
  split
  · rename_i zero
    subst zero
    simpa using roundedTo_tiny (le_refl 0) (by positivity) negative
  · rename_i nonzero
    split
    · rename_i far
      exact roundedTo_infinite (large_of_size (above nonzero) (by omega)) negative
    · split
      · rename_i near
        exact roundedTo_tiny (by positivity) (tiny_of_size below (by omega)) negative
      · have denominator : 0 < tenTo (-power).toNat := Nat.pow_pos (by decide)
        have rounded := round_roundedTo negative (digits * tenTo power.toNat) denominator
        simp only [Nat.pow_eq] at rounded
        push_cast at rounded
        rwa [mul_div_assoc, ← zpow_eq_div (by norm_num)] at rounded

end Double

theorem takeSign_signed {sign cs : List Char} {negative : Bool} (signed : SignText sign negative)
    (unsigned : ∀ c ∈ cs.head?, c ≠ '+' ∧ c ≠ '-') : takeSign (sign ++ cs) = (negative, cs) := by
  cases signed with
  | plus => rfl
  | minus => rfl
  | none =>
    cases cs with
    | nil => rfl
    | cons c rest =>
      obtain ⟨plus, minus⟩ := unsigned c rfl
      exact takeSign.eq_3 _ (fun _ same => minus (List.cons.inj same).1)
        fun _ same => plus (List.cons.inj same).1

theorem not_sign_of_digit {c : Char} (digit : c.isDigit = true) : c ≠ '+' ∧ c ≠ '-' ∧ c ≠ '.' := by
  refine ⟨?_, ?_, ?_⟩ <;> rintro rfl <;> cases digit

theorem ExponentText.read {cs : List Char} {power : Int} (text : ExponentText cs power) :
    exponentOf? cs = some power ∧
      ∀ c ∈ cs.head?, c ≠ '.' ∧ c.isDigit = false ∧ c ≠ '+' ∧ c ≠ '-' := by
  cases text with
  | none => exact ⟨rfl, by simp⟩
  | @marked mark sign digits negative n letter signed nonempty spelled =>
    obtain ⟨all, value⟩ := spelled.decimal
    have unsigned : ∀ c ∈ digits.head?, c ≠ '+' ∧ c ≠ '-' := by
      intro c first
      obtain ⟨plus, minus, -⟩ := not_sign_of_digit (all c (List.mem_of_mem_head? first))
      exact ⟨plus, minus⟩
    constructor
    · have isMark : (decide (mark = 'e') || decide (mark = 'E')) = true := by simpa using letter
      have plain : (digits.isEmpty || !digits.all Char.isDigit) = false := by
        simpa [nonempty] using all
      rw [exponentOf?, if_pos isMark, takeSign_signed signed unsigned]
      dsimp only
      rw [if_neg (by simp [plain]), value]
    · rintro c ⟨⟩
      rcases letter with rfl | rfl <;> decide

section

variable {sign digits fraction rest exponent : List Char} {negative : Bool} {power : Int}

/-- What is read of a sign, digits, and a rest with a fraction and an exponent. -/
theorem decimal?_parts (signed : SignText sign negative)
    (all : ∀ c ∈ digits, c.isDigit = true)
    (ends : ∀ c ∈ rest.head?, c.isDigit = false ∧ c ≠ '+' ∧ c ≠ '-')
    (split : takeFraction rest = (fraction, exponent)) (nonempty : digits ++ fraction ≠ [])
    (read : exponentOf? exponent = some power) :
    decimal? (sign ++ (digits ++ rest)) =
      some (.ofDecimal negative (digitsValue (digits ++ fraction))
        ((digits ++ fraction).dropWhile (· = '0')).length (power - fraction.length)) := by
  have unsigned : ∀ c ∈ (digits ++ rest).head?, c ≠ '+' ∧ c ≠ '-' := by
    intro c first
    cases digits with
    | nil => exact (ends c first).2
    | cons d tail =>
      obtain ⟨plus, minus, -⟩ := not_sign_of_digit (all c (List.mem_of_mem_head? first))
      exact ⟨plus, minus⟩
  obtain ⟨taken, left⟩ := Text.span_of_ends all fun c first => (ends c first).1
  have present : (digits ++ fraction).isEmpty = false := by simpa using nonempty
  simp only [decimal?, takeSign_signed signed unsigned, taken, left, split, present, read,
    Bool.false_eq_true, if_false]

end

/-- The digits of a decimal stand for a multiple of the last one's power of ten. -/
theorem DecimalText.read {cs sign : List Char} {q : ℚ} {negative : Bool}
    (decimal : DecimalText cs q) (signed : SignText sign negative) :
    ∃ x, decimal? (sign ++ cs) = some x ∧ Double.RoundedTo (Double.signOf negative * q) x := by
  cases decimal with
  | @whole digits exponent n power nonempty spelled scaled =>
    obtain ⟨all, value⟩ := spelled.decimal
    obtain ⟨read, ends⟩ := scaled.read
    have split : takeFraction exponent = ([], exponent) := by
      cases exponent with
      | nil => rfl
      | cons c tail => exact takeFraction.eq_2 _ fun _ same => (ends c rfl).1 (List.cons.inj same).1
    have rounded := Double.ofDecimal_roundedTo negative all power
    have parts := decimal?_parts signed all (fun c first => (ends c first).2) split
      (by simpa using nonempty) read
    refine ⟨_, parts, ?_⟩
    rw [value] at rounded
    simpa [value] using rounded
  | @point digits fraction exponent n k power nonempty spelled divided scaled =>
    obtain ⟨all, value⟩ := spelled.decimal
    obtain ⟨all', value'⟩ := divided.decimal
    obtain ⟨read, ends⟩ := scaled.read
    have split : takeFraction ('.' :: (fraction ++ exponent)) = (fraction, exponent) := by
      obtain ⟨taken, left⟩ := Text.span_of_ends all' fun c first => (ends c first).2.1
      rw [takeFraction, taken, left]
    have rounded := Double.ofDecimal_roundedTo negative
      (List.forall_mem_append.mpr ⟨all, all'⟩) (power - fraction.length)
    have parts := decimal?_parts signed all
      (by rintro c ⟨⟩; decide) split nonempty read
    refine ⟨_, parts, ?_⟩
    convert rounded using 2
    rw [digitsValue_append, value, value', zpow_sub₀ (by norm_num), zpow_natCast]
    push_cast
    field_simp

/-- The digits are not read behind the letter that names their base. -/
theorem PrefixedNumeral.read {cs : List Char} {q : ℚ} (numeral : PrefixedNumeral cs q) :
    decimal? cs = none := by
  cases numeral with
  | intro known nonempty spelled =>
    simp only [List.mem_cons, Prod.mk.injEq, List.not_mem_nil, or_false] at known
    rcases known with ⟨rfl, -⟩ | ⟨rfl, -⟩ | ⟨rfl, -⟩ | ⟨rfl, -⟩ | ⟨rfl, -⟩ | ⟨rfl, -⟩ <;> rfl

/-- No numeral has a blank, nor the letter with which the infinite one begins. -/
def InNumeral (c : Char) : Prop :=
  Text.isBlank c = false ∧ c ≠ 'I'

theorem inNumeral_of_hexValue {c : Char} {digit : Nat} (read : Draft.hexValue? c = some digit) :
    InNumeral c := by
  simp only [Draft.hexValue?, Bool.and_eq_true, decide_eq_true_eq] at read
  have range : 48 ≤ c.toNat ∧ c.toNat ≤ 102 := by grind
  constructor
  · simp [Text.isBlank]
    omega
  · rintro rfl
    cases read

theorem Spells.inNumeral {base : Nat} {digits : List Char} {n : Nat}
    (spelled : Spells base digits n) : ∀ c ∈ digits, InNumeral c := by
  induction spelled with
  | nil => simp
  | snoc front read small ih =>
    exact List.forall_mem_append.mpr ⟨ih, by simpa using inNumeral_of_hexValue read⟩

theorem SignText.inNumeral {sign : List Char} {negative : Bool} (signed : SignText sign negative) :
    ∀ c ∈ sign, InNumeral c := by
  cases signed <;> simp [InNumeral, Text.isBlank]

theorem ExponentText.inNumeral {cs : List Char} {power : Int} (text : ExponentText cs power) :
    ∀ c ∈ cs, InNumeral c := by
  cases text with
  | none => simp
  | marked letter signed nonempty spelled =>
    have mark : ∀ c : Char, c = 'e' ∨ c = 'E' → InNumeral c := by
      rintro c (rfl | rfl) <;> simp [InNumeral, Text.isBlank]
    exact List.forall_mem_cons.mpr ⟨mark _ letter,
      List.forall_mem_append.mpr ⟨signed.inNumeral, spelled.inNumeral⟩⟩

theorem DecimalNumeral.inNumeral {cs : List Char} {q : ℚ} (numeral : DecimalNumeral cs q) :
    ∀ c ∈ cs, InNumeral c := by
  cases numeral with
  | empty => simp
  | signed signed decimal =>
    apply List.forall_mem_append.mpr ⟨signed.inNumeral, ?_⟩
    cases decimal with
    | whole nonempty spelled scaled =>
      exact List.forall_mem_append.mpr ⟨spelled.inNumeral, scaled.inNumeral⟩
    | point nonempty spelled divided scaled =>
      have mark : InNumeral '.' := by simp [InNumeral, Text.isBlank]
      exact List.forall_mem_append.mpr ⟨spelled.inNumeral, List.forall_mem_cons.mpr
        ⟨mark, List.forall_mem_append.mpr ⟨divided.inNumeral, scaled.inNumeral⟩⟩⟩

theorem PrefixedNumeral.inNumeral {cs : List Char} {q : ℚ} (numeral : PrefixedNumeral cs q) :
    ∀ c ∈ cs, InNumeral c := by
  cases numeral with
  | @intro letter base digits n known nonempty spelled =>
    have zero : InNumeral '0' := by simp [InNumeral, Text.isBlank]
    have mark : InNumeral letter := by
      simp only [List.mem_cons, Prod.mk.injEq, List.not_mem_nil, or_false] at known
      rcases known with ⟨rfl, -⟩ | ⟨rfl, -⟩ | ⟨rfl, -⟩ | ⟨rfl, -⟩ | ⟨rfl, -⟩ | ⟨rfl, -⟩ <;>
        simp [InNumeral, Text.isBlank]
    exact List.forall_mem_cons.mpr ⟨zero, List.forall_mem_cons.mpr ⟨mark, spelled.inNumeral⟩⟩

end RouteBindings.Number
