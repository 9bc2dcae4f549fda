import Mathlib
import RouteBindings.Proofs.Number.ScriptNumeral
import RouteBindings.Proofs.Pattern.WordUnion

namespace RouteBindings

namespace Number

def ScriptNumeral (cs : List Char) (q : ℚ) : Prop :=
  DecimalNumeral cs q ∨ PrefixedNumeral cs q

/-- Tab, line feed, vertical tab, form feed, carriage return and space. -/
def isScriptBlank (c : Char) : Bool :=
  [9, 10, 11, 12, 13, 32].contains c.toNat

/-- The text is a numeral between blanks, and the double nearest to its value is the integer. -/
def ReadsInteger (numeral : List Char → ℚ → Prop) (text : String) (n : Int) : Prop :=
  ∃ (before core after : List Char) (q : ℚ) (mantissa exponent : Int),
    text.toList = before ++ core ++ after ∧ (∀ c ∈ before ++ after, isScriptBlank c = true) ∧
      numeral core q ∧ Nearest q mantissa exponent ∧ (n : ℚ) = mantissa * 2 ^ exponent

theorem ReadsInteger.imp {numeral other : List Char → ℚ → Prop} {text : String} {n : Int}
    (weaker : ∀ cs q, numeral cs q → other cs q) :
    ReadsInteger numeral text n → ReadsInteger other text n
  | ⟨before, core, after, q, m, e, parts, blank, reads, rest⟩ =>
    ⟨before, core, after, q, m, e, parts, blank, weaker core q reads, rest⟩

theorem isBlank_of_isScriptBlank {c : Char} (blank : isScriptBlank c = true) :
    Text.isBlank c = true := by
  simp [isScriptBlank] at blank
  simp [Text.isBlank]
  omega

/-- A small integer to which a number is rounded is the value of any double it is rounded to. -/
theorem Double.RoundedTo.value?_of_nearest {q : ℚ} {x : Double} {mantissa exponent n : Int}
    (rounded : RoundedTo q x) (nearest : Nearest q mantissa exponent)
    (value : (n : ℚ) = mantissa * 2 ^ exponent) (small : n.natAbs ≤ 2 ^ 53) :
    x.value? = some (n : ℚ) := by
  cases rounded with
  | finite closest value' small' =>
    rw [value', value, closest.eq_of_nearest nearest]
  | @infinite negative closest =>
    have same := closest.eq_of_nearest nearest
    have size : |(n : ℚ)| = 2 ^ 53 * 2 ^ (971 : Int) := by
      rw [value, same]
      cases negative <;> norm_num [abs_mul]
    have bound : |(n : ℚ)| ≤ 2 ^ 53 := by
      rw [← Int.cast_abs, Int.abs_eq_natAbs]
      exact_mod_cast small
    have power : (1 : ℚ) < 2 ^ (971 : Int) := one_lt_zpow₀ (by norm_num) (by norm_num)
    rw [size] at bound
    exact absurd bound (not_le.mpr (lt_mul_of_one_lt_right (by norm_num) power))

end Number

namespace Text

theorem trimBlanks_surrounded {before core after : List Char}
    (blank : ∀ c ∈ before ++ after, isBlank c = true) (plain : ∀ c ∈ core, isBlank c = false) :
    trimBlanks (before ++ core ++ after) = core := by
  obtain ⟨front, back⟩ := List.forall_mem_append.mp blank
  unfold trimBlanks
  rw [List.append_assoc, List.dropWhile_append_of_pos front]
  cases core with
  | nil =>
    rw [List.nil_append, List.dropWhile_eq_nil_iff.mpr back]
    rfl
  | cons c rest =>
    have first : isBlank c = false := plain c List.mem_cons_self
    have last : ∀ d ∈ (c :: rest).reverse.head?, isBlank d = false := fun d final =>
      plain d (List.mem_reverse.mp (List.mem_of_mem_head? final))
    rw [List.cons_append, List.dropWhile_cons_of_neg (by simp [first]), ← List.cons_append,
      List.reverse_append, (span_of_ends (by simpa using back) last).2, List.reverse_reverse]

end Text

namespace Operand

open Number

theorem textNumber_surrounded {text : String} {before core after : List Char}
    (parts : text.toList = before ++ core ++ after)
    (blank : ∀ c ∈ before ++ after, isScriptBlank c = true) (plain : ∀ c ∈ core, InNumeral c) :
    textNumber text = if core.isEmpty then .zero false else (decimal? core).getD .nan := by
  have trimmed : Text.trimBlanks text.toList = core := by
    rw [parts]
    exact Text.trimBlanks_surrounded (fun c member => isBlank_of_isScriptBlank (blank c member))
      fun c member => (plain c member).1
  have other : ∀ word : String, 'I' ∈ word.toList → core ≠ word.toList := by
    rintro word spelled rfl
    exact (plain 'I' spelled).2 rfl
  have plain := other "Infinity" (by decide +kernel)
  have plus := other "+Infinity" (by decide +kernel)
  have minus := other "-Infinity" (by decide +kernel)
  simp only [textNumber, trimmed, plain, plus, minus, decide_false, Bool.or_self,
    Bool.false_eq_true, if_false]

theorem value?_of_decimal {text : String} {n : Int}
    (reads : ReadsInteger DecimalNumeral text n) (small : n.natAbs ≤ 2 ^ 53) :
    (textNumber text).value? = some (n : ℚ) := by
  obtain ⟨before, core, after, q, m, e, parts, blank, numeral, nearest, value⟩ := reads
  have rounded : Double.RoundedTo q (textNumber text) := by
    rw [textNumber_surrounded parts blank numeral.inNumeral]
    cases numeral with
    | empty => simpa using Double.roundedTo_tiny (le_refl 0) (by positivity) false
    | @signed sign cs negative q signed decimal =>
      obtain ⟨x, read, rounded⟩ := decimal.read signed
      have present : sign ++ cs ≠ [] := by
        intro empty
        rw [empty] at read
        cases read
      rwa [if_neg (by simpa using present), read]
  exact rounded.value?_of_nearest nearest value small

theorem textNumber_of_prefixed {text : String} {n : Int}
    (reads : ReadsInteger PrefixedNumeral text n) : textNumber text = .nan := by
  obtain ⟨before, core, after, q, m, e, parts, blank, numeral, -, -⟩ := reads
  rw [textNumber_surrounded parts blank numeral.inNumeral, numeral.read]
  cases numeral
  rfl

end Operand

namespace Pattern

open Number

section

variable (params : Params) (text : String)

/-- Beside a zero a text shows its own word. -/
theorem evaluate_beside_zero :
    (alternation [literal text, literal "0"]).evaluate params =
      .ok (toString (Operand.text text).toWord.toInt) := by
  have zero : (Operand.text "0").toWord = 0 := by decide +kernel
  have several : 2 ≤ (alternation [literal text, literal "0"]).chains.length := Nat.le_refl 2
  refine (evaluate_ok_iff params several _).mpr
    ⟨[.text text, .text "0"], .cons rfl (.cons rfl .nil), ?_⟩
  simp [wordUnion, zero]

theorem evaluate_of_decimal {n : Int} (reads : ReadsInteger DecimalNumeral text n)
    (low : -2 ^ 31 ≤ n) (high : n < 2 ^ 31) :
    (alternation [literal text, literal "0"]).evaluate params = .ok (toString n) := by
  have word : (Operand.text text).toWord.toInt = n := by
    have whole := Operand.value?_of_decimal reads (by omega)
    exact (Double.toInt_toWord whole).trans (Int.bmod_eq_of_le (by omega) (by omega))
  rw [evaluate_beside_zero, word]

theorem evaluate_of_prefixed {n : Int} (reads : ReadsInteger PrefixedNumeral text n) :
    (alternation [literal text, literal "0"]).evaluate params = .ok "0" := by
  have word : (Operand.text text).toWord = 0 :=
    congrArg Double.toWord (Operand.textNumber_of_prefixed reads)
  rw [evaluate_beside_zero, word]
  rfl

end

/-- A text that is read as an integer of 32 bits is taken for it exactly if it is zero or has a
decimal numeral. A text whose digits are those of another base is taken for zero. -/
theorem evaluate_beside_zero_iff (params : Params) (text : String) (n : Int) (low : -2 ^ 31 ≤ n)
    (high : n < 2 ^ 31) (reads : ReadsInteger ScriptNumeral text n) :
    ((alternation [literal text, literal "0"]).evaluate params = .ok (toString n) ↔
      n = 0 ∨ ReadsInteger DecimalNumeral text n) ∧
    (ReadsInteger PrefixedNumeral text n →
      (alternation [literal text, literal "0"]).evaluate params = .ok "0") := by
  have either : ReadsInteger DecimalNumeral text n ∨ ReadsInteger PrefixedNumeral text n := by
    obtain ⟨before, core, after, q, m, e, parts, blank, numeral, nearest, value⟩ := reads
    exact numeral.imp
      (fun decimal => ⟨before, core, after, q, m, e, parts, blank, decimal, nearest, value⟩)
      fun based => ⟨before, core, after, q, m, e, parts, blank, based, nearest, value⟩
  refine ⟨?_, evaluate_of_prefixed params text⟩
  constructor
  · intro shown
    refine either.symm.imp_left fun based => ?_
    rw [evaluate_of_prefixed params text based] at shown
    have same : Int.repr 0 = Int.repr n := Except.ok.inj shown
    exact (Int.repr_injective same).symm
  · rintro (rfl | decimal)
    · rcases either with decimal | based
      · exact evaluate_of_decimal params text decimal low high
      · exact evaluate_of_prefixed params text based
    · exact evaluate_of_decimal params text decimal low high

/-- A decimal with a sign, a point, an exponent and blanks around it. -/
theorem evaluate_beside_zero_iff_decimal :
    (alternation [literal "\t-12.50e1 ", literal "0"]).evaluate Table.empty = .ok "-125" := by
  have one : Spells 10 ['1'] 1 := spells_digit rfl (by decide)
  have spelled : Spells 10 ['1', '2'] 12 := one.snoc (show _ = some 2 from rfl) (by decide)
  have five : Spells 10 ['5'] 5 := spells_digit rfl (by decide)
  have divided : Spells 10 ['5', '0'] 50 := five.snoc (show _ = some 0 from rfl) (by decide)
  have numeral := DecimalNumeral.signed .minus
    (.point (by simp) spelled divided (.marked (.inl rfl) .none (by simp) one))
  have canonical : Number.Canonical (-125 * 2 ^ 46) (-46) :=
    ⟨by decide, by decide, by decide, .inr (by decide)⟩
  have decimal : ReadsInteger DecimalNumeral "\t-12.50e1 " (-125) := by
    refine ⟨['\t'], _, [' '], _, -125 * 2 ^ 46, -46, ?_, ?_, numeral, ?_, by norm_num⟩
    · decide +kernel
    · simp [isScriptBlank]
    · have exact := canonical.nearest
      norm_num [Double.signOf] at exact ⊢
      exact exact
  have reads : ReadsInteger ScriptNumeral "\t-12.50e1 " (-125) := decimal.imp fun _ _ => .inl
  have exact := evaluate_beside_zero_iff Table.empty _ (-125) (by decide) (by decide) reads
  exact exact.1.mpr (.inr decimal)

/-- Sixteen with the digits of its own base is taken for zero. -/
theorem evaluate_hexadecimal :
    ReadsInteger ScriptNumeral "0x10" 16 ∧
      (alternation [literal "0x10", literal "0"]).evaluate Table.empty = .ok "0" ∧
      "0" ≠ toString (16 : Int) := by
  have one : Spells 16 ['1'] 1 := spells_digit rfl (by decide)
  have spelled : Spells 16 ['1', '0'] 16 := one.snoc (show _ = some 0 from rfl) (by decide)
  have canonical : Number.Canonical (2 ^ 52) (-48) :=
    ⟨by decide, by decide, by decide, .inr (by decide)⟩
  have known : ('x', 16) ∈ [('x', 16), ('X', 16), ('o', 8), ('O', 8), ('b', 2), ('B', 2)] := by simp
  have numeral := PrefixedNumeral.intro known (by simp) spelled
  have reads : ReadsInteger PrefixedNumeral "0x10" 16 := by
    refine ⟨[], _, [], _, 2 ^ 52, -48, ?_, by simp, numeral, ?_, by norm_num⟩
    · decide +kernel
    · have exact := canonical.nearest
      norm_num at exact ⊢
      exact exact
  refine ⟨reads.imp fun _ _ => .inr, evaluate_of_prefixed _ _ reads, by decide⟩

end Pattern

end RouteBindings
