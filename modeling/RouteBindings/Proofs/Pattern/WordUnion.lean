import Mathlib
import RouteBindings.Proofs.Error
import RouteBindings.Proofs.Number.Value
import RouteBindings.Proofs.Pattern.Scope

namespace RouteBindings

open Number

def wordUnion (words : List (BitVec 32)) : BitVec 32 :=
  words.foldr (· ||| ·) 0

theorem getLsbD_wordUnion (words : List (BitVec 32)) (i : Nat) :
    (wordUnion words).getLsbD i = words.any fun word => word.getLsbD i := by
  induction words with
  | nil => exact BitVec.getLsbD_zero
  | cons word rest ih =>
    rw [List.any_cons, ← ih]
    exact BitVec.getLsbD_or

theorem wordUnion_congr {as bs : List (BitVec 32)} (same : ∀ word, word ∈ as ↔ word ∈ bs) :
    wordUnion as = wordUnion bs := by
  apply BitVec.eq_of_getLsbD_eq
  intro i _
  rw [Bool.eq_iff_iff, getLsbD_wordUnion, getLsbD_wordUnion]
  simp only [List.any_eq_true, same]

namespace Operand

def toWord (operand : Operand) : BitVec 32 :=
  operand.toNumber.toWord

/-- A word that was made a number and is a word again has lost no bit. -/
theorem foldl_bitOr (start : BitVec 32) (operands : List Operand) :
    operands.foldl bitOr (number (.ofWord start)) =
      number (.ofWord (start ||| wordUnion (operands.map toWord))) := by
  induction operands generalizing start with
  | nil => simp [wordUnion]
  | cons operand rest ih =>
    have step : bitOr (number (.ofWord start)) operand =
        number (.ofWord (start ||| operand.toWord)) := by
      unfold bitOr toNumber
      rw [Double.toWord_ofWord]
      rfl
    rw [List.foldl_cons, step, ih, BitVec.or_assoc]
    rfl

/-- The first operand stays what it is until there is a second one. -/
theorem foldl_bitOr_cons (first second : Operand) (rest : List Operand) :
    (second :: rest).foldl bitOr first =
      number (.ofWord (wordUnion ((first :: second :: rest).map toWord))) := by
  have start : bitOr first second = number (.ofWord (first.toWord ||| second.toWord)) := rfl
  rw [List.foldl_cons, start, foldl_bitOr, BitVec.or_assoc]
  rfl

theorem toText_ofWord (word : BitVec 32) : (number (.ofWord word)).toText = toString word.toInt :=
  Double.exactText_ofInt (Double.natAbs_toInt_lt word)

end Operand

namespace Pattern

section

variable (params : Params)

def chainOutcome (chain : List Pattern) : Outcome :=
  runChain (chain.map (value params))

theorem runScope_singleton (outcome : Outcome) : runScope [[outcome]] = outcome := by
  cases outcome <;> rfl

theorem itemValue_value (blank : Outcome) (p : Pattern) :
    itemValue blank (value params) params p = p.value params := by
  cases p with
  | literal text => rw [itemValue, value, outcomes, runScope_singleton]
  | symbol name wildcard => rw [itemValue, value, outcomes, runScope_singleton]
  | group body =>
    rw [itemValue_group, scopeValue_eq, value, value, outcomes, runScope_singleton]
  | concat left right => rw [itemValue]
  | alternation children => rw [itemValue]

theorem outcomes_eq_chains (p : Pattern) :
    p.outcomes params = p.chains.map (List.map (value params)) := by
  have items : itemValue (.ok (.text "")) (value params) params = value params :=
    funext (itemValue_value params _)
  rw [outcomes_chains (.ok (.text "")) (value params) params p, items]

/-- Making all sums first and then taking their bits together changes nothing. -/
theorem foldlM_bitOr (chains : List (List Outcome)) (start : Operand) :
    chains.foldlM (fun word chain => (runChain chain).map word.bitOr) start =
      (chains.mapM runChain).map (·.foldl Operand.bitOr start) := by
  induction chains generalizing start with
  | nil => rfl
  | cons chain rest ih =>
    rw [List.foldlM_cons, List.mapM_cons]
    cases runChain chain with
    | error missing => rfl
    | ok operand =>
      refine (ih (start.bitOr operand)).trans ?_
      cases rest.mapM runChain <;> rfl

theorem runScope_of_several {chains : List (List Outcome)} (several : 2 ≤ chains.length) :
    runScope chains = (chains.mapM runChain).map fun operands =>
      .number (.ofWord (wordUnion (operands.map Operand.toWord))) := by
  match chains, several with
  | first :: second :: rest, _ =>
    rw [runScope, List.mapM_cons]
    cases runChain first with
    | error missing => rfl
    | ok start =>
      refine (foldlM_bitOr (second :: rest) start).trans ?_
      rw [List.mapM_cons]
      cases runChain second with
      | error missing => rfl
      | ok next =>
        cases rest.mapM runChain with
        | error missing => rfl
        | ok operands => exact congrArg Except.ok (Operand.foldl_bitOr_cons start next operands)

/-- A scope of several chains gives the union of their words, in decimal digits. -/
theorem evaluate_ok_iff {p : Pattern} (several : 2 ≤ p.chains.length) (path : String) :
    p.evaluate params = .ok path ↔
      ∃ operands, List.Forall₂ (fun chain operand => chainOutcome params chain = .ok operand)
        p.chains operands ∧ path = toString (wordUnion (operands.map Operand.toWord)).toInt := by
  have run : (p.outcomes params).mapM runChain = p.chains.mapM (chainOutcome params) := by
    rw [outcomes_eq_chains, List.mapM_map]
    rfl
  have length : 2 ≤ (p.outcomes params).length := by
    rwa [outcomes_eq_chains, List.length_map]
  rw [evaluate, value, runScope_of_several length, run]
  simp only [← mapM_ok_iff]
  cases p.chains.mapM (chainOutcome params) with
  | error missing => simp [Except.map]
  | ok operands => simp [Except.map, Operand.toText_ofWord, eq_comm]

theorem chainsOf_eq_flatMap (children : List Pattern) :
    chainsOf children = children.flatMap chains := by
  induction children with
  | nil => rfl
  | cons child rest ih => rw [chainsOf, ih, List.flatMap_cons]

theorem length_chains_le {children others : List Pattern} (sub : List.Subperm children others) :
    (alternation children).chains.length ≤ (alternation others).chains.length := by
  obtain ⟨front, permuted, listed⟩ := sub
  simp only [chains, chainsOf_eq_flatMap]
  calc
    (children.flatMap chains).length = (front.flatMap chains).length :=
      (permuted.symm.flatMap_right chains).length_eq
    _ ≤ (others.flatMap chains).length := (listed.flatMap chains).length_le

/-- A path does not tell in which order its chains came, nor which of them came more than once. -/
theorem evaluate_of_same_chains {p q : Pattern} (front : 2 ≤ p.chains.length)
    (back : 2 ≤ q.chains.length) (same : ∀ chain, chain ∈ p.chains ↔ chain ∈ q.chains)
    {path : String} (ran : p.evaluate params = .ok path) : q.evaluate params = .ok path := by
  obtain ⟨operands, each, shown⟩ := (evaluate_ok_iff params front path).mp ran
  obtain ⟨others, made⟩ : ∃ others, q.chains.mapM (chainOutcome params) = .ok others := by
    apply (ok_or_error _).resolve_right
    intro failed
    obtain ⟨chain, member, missing, failed⟩ := mapM_error_iff.mp failed
    have earlier := mapM_error_iff.mpr ⟨chain, (same chain).mpr member, missing, failed⟩
    rw [mapM_ok_iff.mpr each] at earlier
    cases earlier.choose_spec
  have eachOther := mapM_ok_iff.mp made
  refine (evaluate_ok_iff params back path).mpr ⟨others, eachOther, ?_⟩
  have words : ∀ operand, operand ∈ operands ↔ operand ∈ others := by
    intro operand
    rw [mem_of_mapM_ok each, mem_of_mapM_ok eachOther]
    simp only [same]
  have same : wordUnion (operands.map Operand.toWord) = wordUnion (others.map Operand.toWord) := by
    apply wordUnion_congr
    simp only [List.mem_map, words, implies_true]
  rw [shown, same]

end

/-- A scope of several chains gives the union of the words of its chains, whatever their values are.
Its branches may change places and come again. The number that stands for a word between two chains
is that word, also a negative one; a whole number counts as its remainder in 32 bits, and what is
not finite as zero. -/
theorem evaluate_union (params : Params) :
    (∀ (p : Pattern) (operands : List Operand), 2 ≤ p.chains.length →
      List.Forall₂ (fun chain operand => chainOutcome params chain = .ok operand)
        p.chains operands →
      p.evaluate params = .ok (toString (wordUnion (operands.map Operand.toWord)).toInt)) ∧
    (∀ (children others : List Pattern) (path : String),
      2 ≤ (alternation children).chains.length →
      List.Subperm children others → others ⊆ children →
      (alternation children).evaluate params = .ok path →
      (alternation others).evaluate params = .ok path) ∧
    (∀ word : BitVec 32, (Double.ofWord word).value? = some (word.toInt : ℚ) ∧
      (Double.ofWord word).toWord = word) ∧
    (∀ (x : Double) (n : Int), x.value? = some (n : ℚ) →
      x.toWord.toInt = n.bmod (2 ^ 32)) ∧
    ∀ x : Double, x.value? = none → x.toWord = 0 := by
  refine ⟨?_, ?_, ?_, fun _ _ => Double.toInt_toWord, fun _ => Double.toWord_of_endless⟩
  · intro p operands several each
    exact (evaluate_ok_iff params several _).mpr ⟨operands, each, rfl⟩
  · intro children others path several sub back ran
    refine evaluate_of_same_chains params several ?_ ?_ ran
    · apply Nat.le_trans several
      exact length_chains_le sub
    · intro chain
      have same : ∀ child, child ∈ children ↔ child ∈ others :=
        fun child => ⟨fun member => sub.subset member, fun member => back member⟩
      simp only [chains, chainsOf_eq_flatMap, List.mem_flatMap, same]
  · intro word
    exact ⟨Double.value?_ofInt (Double.natAbs_toInt_lt word), Double.toWord_ofWord word⟩

/-- The sign bit comes from a text and the others from a parameter. -/
theorem evaluate_union_sign :
    (alternation [literal "2147483648", symbol "n" false]).evaluate
        (Table.empty.put "n" (.number (.integer 5))) = .ok "-2147483643" ∧
      (alternation [symbol "n" false, literal "2147483648", symbol "n" false]).evaluate
        (Table.empty.put "n" (.number (.integer 5))) = .ok "-2147483643" ∧
      (Double.finite true 3 31).toWord.toInt = -2 ^ 31 ∧ Double.nan.toWord = 0 := by
  obtain ⟨union, reordered, -, remainder, endless⟩ :=
    evaluate_union (Table.empty.put "n" (.number (.integer 5)))
  have first := union (alternation [literal "2147483648", symbol "n" false])
    [.text "2147483648", .number (.ofInt 5)] (by decide) (.cons rfl (.cons rfl .nil))
  have shown : (alternation [literal "2147483648", symbol "n" false]).evaluate
      (Table.empty.put "n" (.number (.integer 5))) = .ok "-2147483643" := by
    rw [first]
    decide +kernel
  refine ⟨shown, ?_, ?_, endless _ rfl⟩
  · have sub : List.Subperm [literal "2147483648", symbol "n" false]
        [symbol "n" false, literal "2147483648", symbol "n" false] :=
      (List.sublist_append_right [symbol "n" false] _).subperm
    exact reordered _ _ _ (by decide) sub (by simp) shown
  · have whole : (Double.finite true 3 31).value? = some ((-3 * 2 ^ 31 : Int) : ℚ) := by
      norm_num [Double.value?, Double.signOf]
    rw [remainder _ _ whole]
    decide

end Pattern

end RouteBindings
