import RouteBindings.Proofs.Number.Whole
import RouteBindings.Proofs.Pattern.Chains

namespace RouteBindings

/-- A value that counts as missing. No JSON text holds `nan`. -/
inductive Json.IsFalsy : Json → Prop
  | null : IsFalsy .null
  | bool : IsFalsy (.bool false)
  | integer : IsFalsy (.number (.integer 0))
  | double (negative : Bool) (exponent : Int) :
      IsFalsy (.number (.double (.finite negative 0 exponent)))
  | nan : IsFalsy (.number (.double .nan))
  | string : IsFalsy (.string "")

theorem Json.isTruthy_ofInt (n : Int) :
    (Json.number (.integer n)).isTruthy = !(Number.Double.ofInt n).isZero := by
  have number := Number.Double.round_ne_nan (n < 0) n.natAbs 1
  simp only [isTruthy, Numeral.toDouble]
  cases whole : Number.Double.ofInt n with
  | nan => exact absurd whole number
  | infinite | finite => rfl

theorem Json.isTruthy_eq_false_iff {value : Json} : value.isTruthy = false ↔ value.IsFalsy := by
  constructor
  · intro falsy
    cases value with
    | null => exact .null
    | bool b =>
      cases falsy
      exact .bool
    | number n =>
      cases n with
      | integer n =>
        rw [isTruthy_ofInt, Bool.not_eq_false', Number.Double.ofInt_isZero_iff] at falsy
        exact falsy ▸ .integer
      | double x =>
        cases x with
        | nan => exact .nan
        | infinite negative => cases falsy
        | finite negative mantissa exponent =>
          obtain rfl : mantissa = 0 := by simpa [isTruthy, Numeral.toDouble,
            Number.Double.isZero] using falsy
          exact .double negative exponent
    | string s =>
      obtain rfl : s = "" := by simpa [isTruthy] using falsy
      exact .string
    | array items => cases falsy
    | object entries => cases falsy
  · intro falsy
    cases falsy with
    | integer => rw [isTruthy_ofInt, Number.Double.ofInt_isZero_iff.mpr rfl, Bool.not_true]
    | null | bool | double | nan | string => rfl

def Params.Lacks (params : Params) (name : String) : Prop :=
  ∀ value, params.get? name = some value → value.IsFalsy

theorem Params.lacks_iff {params : Params} {name : String} :
    params.Lacks name ↔ (params.get? name).any Json.isTruthy = false := by
  unfold Lacks
  cases params.get? name with
  | none => simp
  | some value => simp [← Json.isTruthy_eq_false_iff]

instance (params : Params) : DecidablePred params.Lacks :=
  fun _ => decidable_of_iff _ Params.lacks_iff.symm

namespace Pattern

mutual
/-- The required symbols outside every group, from left to right. -/
def required : Pattern → List String
  | literal _ => []
  | symbol name wildcard => if wildcard then [] else [name]
  | group _ => []
  | concat left right => left.required ++ right.required
  | alternation children => requiredOf children

def requiredOf : List Pattern → List String
  | [] => []
  | child :: rest => child.required ++ requiredOf rest
end

def fault? : Outcome → Option MissingSegment
  | .ok _ => none
  | .error missing => some missing

theorem fault?_eq_some_iff {outcome : Outcome} {missing : MissingSegment} :
    fault? outcome = some missing ↔ outcome = .error missing := by
  cases outcome <;> simp [fault?]

theorem fault?_eq_none_iff {outcome : Outcome} :
    fault? outcome = none ↔ ∃ value, outcome = .ok value := by
  cases outcome <;> simp [fault?]

/-- Items that are taken in one after the other: the first fault ends it all. -/
theorem fault?_foldlM {α : Type} (item : α → Outcome) (combine : Operand → Operand → Operand)
    (items : List α) (start : Operand) :
    fault? (items.foldlM (fun x a => (item a).map (combine x)) start) =
      items.findSome? fun a => fault? (item a) := by
  induction items generalizing start with
  | nil => rfl
  | cons a rest ih =>
    rw [List.foldlM_cons, List.findSome?_cons]
    cases item a with
    | ok value => exact ih (combine start value)
    | error missing => rfl

theorem fault?_runChain (chain : List Outcome) :
    fault? (runChain chain) = chain.findSome? fault? := by
  cases chain with
  | nil => rfl
  | cons first rest =>
    rw [runChain, List.findSome?_cons]
    cases first with
    | ok value => exact fault?_foldlM id Operand.add rest value
    | error missing => rfl

/-- A scope runs all its chains, so that the first fault of any of them is its own. -/
theorem fault?_runScope (chains : List (List Outcome)) :
    fault? (runScope chains) = chains.flatten.findSome? fault? := by
  have each : ∀ chains : List (List Outcome),
      chains.flatten.findSome? fault? = chains.findSome? fun chain => fault? (runChain chain) := by
    intro chains
    induction chains with
    | nil => rfl
    | cons chain rest ih =>
      rw [List.flatten_cons, List.findSome?_append, ih, List.findSome?_cons, fault?_runChain]
      cases chain.findSome? fault? <;> rfl
  rw [each]
  cases chains with
  | nil => rfl
  | cons first rest =>
    rw [runScope, List.findSome?_cons]
    cases runChain first with
    | ok value => exact fault?_foldlM runChain Operand.bitOr rest value
    | error missing => rfl

section

variable (params : Params)

theorem fault?_symbolOutcome (name : String) (wildcard : Bool) :
    fault? (symbolOutcome params name wildcard) =
      if wildcard = false ∧ params.Lacks name then some ⟨name⟩ else none := by
  simp only [Params.lacks_iff]
  unfold symbolOutcome
  cases found : params.get? name with
  | none => cases wildcard <;> simp [fault?]
  | some value =>
    cases wildcard with
    | true => cases value <;> simp [fault?]
    | false => cases truthy : value.isTruthy <;> simp [truthy, fault?]

theorem fault?_groupOutcome (body : Outcome) : fault? (groupOutcome body) = none := by
  cases body <;> rfl

mutual
/-- The first fault among all items of a pattern is its first required symbol without a value. -/
theorem findSome?_outcomes : (p : Pattern) →
    (p.outcomes params).flatten.findSome? fault? =
      (p.required.find? fun name => params.Lacks name).map MissingSegment.mk
  | literal _ => rfl
  | symbol name wildcard => by
    simp only [outcomes, List.flatten_singleton, List.findSome?_singleton, fault?_symbolOutcome]
    cases wildcard with
    | true => rfl
    | false => by_cases lacks : params.Lacks name <;> simp [required, lacks]
  | group body => by
    simp only [outcomes, List.flatten_singleton, List.findSome?_singleton, fault?_groupOutcome]
    rfl
  | concat left right => by
    rw [outcomes, flatten_joinChains, List.findSome?_append, findSome?_outcomes left,
      findSome?_outcomes right, required, List.find?_append, Option.map_or]
  | alternation children => findSome?_outcomesOf children

theorem findSome?_outcomesOf : (ps : List Pattern) →
    (outcomesOf params ps).flatten.findSome? fault? =
      ((requiredOf ps).find? fun name => params.Lacks name).map MissingSegment.mk
  | [] => rfl
  | child :: rest => by
    rw [outcomesOf, List.flatten_append, List.findSome?_append, findSome?_outcomes child,
      findSome?_outcomesOf rest, requiredOf, List.find?_append, Option.map_or]
end

theorem fault?_value (p : Pattern) :
    fault? (p.value params) =
      (p.required.find? fun name => params.Lacks name).map MissingSegment.mk := by
  rw [value, fault?_runScope, findSome?_outcomes]

theorem exists_value_iff (p : Pattern) :
    (∃ value, p.value params = .ok value) ↔ ∀ name ∈ p.required, ¬ params.Lacks name := by
  rw [← fault?_eq_none_iff, fault?_value, Option.map_eq_none_iff, List.find?_eq_none]
  simp only [decide_eq_true_eq]

/-- The first required symbol outside the groups of the pattern that has no value. -/
def FirstLacking (p : Pattern) (name : String) : Prop :=
  ∃ before after, p.required = before ++ name :: after ∧ params.Lacks name ∧
    ∀ other ∈ before, ¬ params.Lacks other

/-- There is no path exactly if a required symbol outside every group has no value; the first such
symbol is then reported. Nothing else in the pattern can keep a path from being made. -/
theorem evaluate_error_iff_firstLacking (p : Pattern) :
    (∀ name, p.evaluate params = .error ⟨name⟩ ↔ p.FirstLacking params name) ∧
      ((∃ path, p.evaluate params = .ok path) ↔ ∀ name ∈ p.required, ¬ params.Lacks name) := by
  constructor
  · intro name
    have reported : p.evaluate params = .error ⟨name⟩ ↔ p.value params = .error ⟨name⟩ := by
      rw [evaluate]
      cases p.value params <;> simp [Except.map]
    rw [reported, ← fault?_eq_some_iff, fault?_value, Option.map_eq_some_iff]
    simp only [MissingSegment.mk.injEq, exists_eq_right, List.find?_eq_some_iff_append,
      decide_eq_true_eq, Bool.not_eq_true', decide_eq_false_iff_not]
    constructor
    · rintro ⟨lacks, before, after, split, present⟩
      exact ⟨before, after, split, lacks, present⟩
    · rintro ⟨before, after, split, lacks, present⟩
      exact ⟨lacks, before, after, split, present⟩
  · rw [← exists_value_iff, evaluate]
    cases p.value params <;> simp [Except.map]

end

/-- The symbol in the group and the wildcard have no value either, and `:e` comes too late. -/
theorem evaluate_error_iff_firstLacking_zero :
    (concat (group (symbol "b" false)) (concat (symbol "c" true)
      (alternation [literal "/", concat (symbol "d" false) (symbol "e" false)]))).evaluate
        (Table.empty.put "d" (.number (.integer 0))) = .error ⟨"d"⟩ := by
  refine ((evaluate_error_iff_firstLacking _ _).1 "d").mpr ⟨[], ["e"], rfl, ?_, by simp⟩
  intro value found
  cases found
  exact .integer

end Pattern

end RouteBindings
