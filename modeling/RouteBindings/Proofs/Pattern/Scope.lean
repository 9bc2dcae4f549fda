import RouteBindings.Proofs.Pattern.Emission

/-! The scope of a pattern is one list of chains for the text and for the value: the expression is
written from them with a bar between any two, and the value is run from them. A chain is never empty
and holds literals, symbols and groups only. -/

namespace RouteBindings.Pattern

mutual
def HasBranches : Pattern → Prop
  | literal _ => True
  | symbol _ _ => True
  | group body => body.HasBranches
  | concat left right => left.HasBranches ∧ right.HasBranches
  | alternation children => children ≠ [] ∧ HasBranchesAll children

def HasBranchesAll : List Pattern → Prop
  | [] => True
  | child :: rest => child.HasBranches ∧ HasBranchesAll rest
end

mutual
def items : Pattern → List Pattern
  | literal text => [literal text]
  | symbol name wildcard => [symbol name wildcard]
  | group body => [group body]
  | concat left right => left.items ++ right.items
  | alternation children => itemsOf children

def itemsOf : List Pattern → List Pattern
  | [] => []
  | child :: rest => child.items ++ itemsOf rest
end

mutual
theorem flatten_chains : (p : Pattern) → p.chains.flatten = p.items
  | literal _ => rfl
  | symbol _ _ => rfl
  | group _ => rfl
  | concat left right => by
    rw [chains, flatten_joinChains, flatten_chains left, flatten_chains right, items]
  | alternation children => flatten_chainsOf children

theorem flatten_chainsOf : (ps : List Pattern) → (chainsOf ps).flatten = itemsOf ps
  | [] => rfl
  | child :: rest => by
    rw [chainsOf, List.flatten_append, flatten_chains child, flatten_chainsOf rest, itemsOf]
end

mutual
theorem item_of_items : (p : Pattern) → ∀ a ∈ p.items, a.Item ∧ sizeOf a ≤ sizeOf p
  | literal text => by simp [items, Item]
  | symbol name wildcard => by simp [items, Item]
  | group body => by simp [items, Item]
  | concat left right => by
    intro a member
    rcases List.mem_append.mp member with member | member
    · obtain ⟨item, smaller⟩ := item_of_items left a member
      exact ⟨item, by simp only [concat.sizeOf_spec]; omega⟩
    · obtain ⟨item, smaller⟩ := item_of_items right a member
      exact ⟨item, by simp only [concat.sizeOf_spec]; omega⟩
  | alternation children => by
    intro a member
    obtain ⟨item, smaller⟩ := item_of_itemsOf children a member
    exact ⟨item, by simp only [alternation.sizeOf_spec]; omega⟩

theorem item_of_itemsOf : (ps : List Pattern) → ∀ a ∈ itemsOf ps, a.Item ∧ sizeOf a ≤ sizeOf ps
  | [] => by simp [itemsOf]
  | child :: rest => by
    intro a member
    rcases List.mem_append.mp member with member | member
    · obtain ⟨item, smaller⟩ := item_of_items child a member
      exact ⟨item, by simp only [List.cons.sizeOf_spec]; omega⟩
    · obtain ⟨item, smaller⟩ := item_of_itemsOf rest a member
      exact ⟨item, by simp only [List.cons.sizeOf_spec]; omega⟩
end

mutual
theorem chain_ne_nil : (p : Pattern) → ∀ chain ∈ p.chains, chain ≠ []
  | literal _ => by simp [chains]
  | symbol _ _ => by simp [chains]
  | group _ => by simp [chains]
  | concat left right =>
    forall_joinChains (chain_ne_nil left) (chain_ne_nil right) fun _ _ front _ =>
      List.append_ne_nil_of_left_ne_nil front _
  | alternation children => chain_ne_nil_of children

theorem chain_ne_nil_of : (ps : List Pattern) → ∀ chain ∈ chainsOf ps, chain ≠ []
  | [] => by simp [chainsOf]
  | child :: rest => by
    rw [chainsOf]
    exact List.forall_mem_append.mpr ⟨chain_ne_nil child, chain_ne_nil_of rest⟩
end

mutual
theorem chains_ne_nil : (p : Pattern) → p.HasBranches → p.chains ≠ []
  | literal _, _ => by simp [chains]
  | symbol _ _, _ => by simp [chains]
  | group _, _ => by simp [chains]
  | concat left right, branches => joinChains_ne_nil (chains_ne_nil left branches.1)
  | alternation children, branches => chainsOf_ne_nil children branches.1 branches.2

theorem chainsOf_ne_nil : (ps : List Pattern) → ps ≠ [] → HasBranchesAll ps → chainsOf ps ≠ []
  | [], present, _ => absurd rfl present
  | child :: rest, _, branches => by
    rw [chainsOf]
    exact List.append_ne_nil_of_left_ne_nil (chains_ne_nil child branches.1) _
end

def chainText (chain : List Pattern) : String :=
  " + ".intercalate (chain.map fun item => item.expression "")

def scopeText (chains : List (List Pattern)) : String :=
  "|".intercalate (chains.map chainText)

theorem chainText_append {a b : List Pattern} (ha : a ≠ []) (hb : b ≠ []) :
    chainText (a ++ b) = chainText a ++ " + " ++ chainText b := by
  rw [chainText, List.map_append, String.intercalate_append_of_ne_nil (by simpa) (by simpa)]
  rfl

theorem scopeText_append {a b : List (List Pattern)} (ha : a ≠ []) (hb : b ≠ []) :
    scopeText (a ++ b) = scopeText a ++ "|" ++ scopeText b := by
  rw [scopeText, List.map_append, String.intercalate_append_of_ne_nil (by simpa) (by simpa)]
  rfl

/-- At the seam the last chain goes on in the first one behind it, as the plus says in the text. -/
theorem scopeText_joinChains {a b : List (List Pattern)} (ha : a ≠ []) (hb : b ≠ [])
    (full : ∀ chain ∈ a, chain ≠ []) (full' : ∀ chain ∈ b, chain ≠ []) :
    scopeText (joinChains a b) = scopeText a ++ " + " ++ scopeText b := by
  fun_induction joinChains a b with
  | case1 => exact absurd rfl ha
  | case2 => exact absurd rfl hb
  | case3 last first rest =>
    have seam := chainText_append (full last List.mem_cons_self) (full' first List.mem_cons_self)
    simp only [scopeText, List.map_cons, List.map_nil, seam, String.intercalate_cons_append,
      String.intercalate_singleton, String.append_assoc]
  | case4 chain left right other lone ih =>
    -- the seam is further back: the first chain stays as it is
    have more : left ≠ [] := by
      rintro rfl
      cases right with
      | nil => exact hb rfl
      | cons first rest => exact lone first rest rfl rfl
    have joined := joinChains_ne_nil (b := right) more
    have others := ih more hb (fun c member => full c (List.mem_cons_of_mem _ member)) full'
    simp only [scopeText, List.map_cons] at others ⊢
    rw [String.intercalate_cons_of_ne_nil (by simpa), others,
      String.intercalate_cons_of_ne_nil (by simpa)]
    simp only [String.append_assoc]

mutual
theorem expression_eq_scopeText : (p : Pattern) → p.HasBranches →
    p.expression "" = scopeText p.chains
  | literal _, _ => by simp [chains, scopeText, chainText]
  | symbol _ _, _ => by simp [chains, scopeText, chainText]
  | group _, _ => by simp [chains, scopeText, chainText]
  | concat left right, ⟨front, back⟩ => by
    rw [expression, expression_seed, expression_eq_scopeText left front,
      expression_eq_scopeText right back, chains, scopeText_joinChains (chains_ne_nil left front)
        (chains_ne_nil right back) (chain_ne_nil left) (chain_ne_nil right)]
  | alternation children, ⟨present, branches⟩ =>
    expressionOf_eq_scopeText children present branches

theorem expressionOf_eq_scopeText : (ps : List Pattern) → ps ≠ [] → HasBranchesAll ps →
    expressionOf "" ps = scopeText (chainsOf ps)
  | [], present, _ => absurd rfl present
  | [child], _, ⟨branches, _⟩ => by
    rw [chainsOf, chainsOf, List.append_nil]
    exact expression_eq_scopeText child branches
  | child :: next :: rest, _, ⟨branches, others⟩ => by
    rw [expressionOf_cons, expressionOf_seed, chainsOf,
      scopeText_append (chains_ne_nil child branches) (chainsOf_ne_nil _ (by simp) others),
      expression_eq_scopeText child branches,
      expressionOf_eq_scopeText (next :: rest) (by simp) others]
end

section

variable (blank : Outcome) (fallback : Pattern → Outcome) (params : Params)

/-- The sum of a chain, and `blank` where there is nothing to add. -/
def chainSum : List Outcome → Outcome
  | [] => blank
  | first :: rest => first >>= fun start => addAll start rest

def scopeWord : List (List Outcome) → Outcome
  | [] => .ok (.text "")
  | first :: rest => do
    let start ← chainSum blank first
    rest.foldlM (fun word chain => (chainSum blank chain).map word.bitOr) start

/-- What becomes of an item, and the `fallback` for patterns that are none. -/
def itemValue : Pattern → Outcome
  | literal text => .ok (.text text)
  | symbol name wildcard => symbolOutcome params name wildcard
  | group body =>
    groupOutcome (scopeWord blank (body.chains.attach.map fun ⟨chain, _⟩ =>
      chain.attach.map fun ⟨item, _⟩ => itemValue item))
  | concat left right => fallback (concat left right)
  | alternation children => fallback (alternation children)
termination_by p => sizeOf p
decreasing_by
  -- an item of the body is no larger than the body
  have listed : item ∈ body.items := flatten_chains body ▸ List.mem_flatten_of_mem ‹_› ‹_›
  have smaller := (item_of_items body item listed).2
  simp only [group.sizeOf_spec]
  omega

def scopeValue (p : Pattern) : Outcome :=
  scopeWord blank (p.chains.map (List.map (itemValue blank fallback params)))

theorem itemValue_group (body : Pattern) :
    itemValue blank fallback params (group body) =
      groupOutcome (body.scopeValue blank fallback params) := by
  rw [itemValue, scopeValue]
  simp

theorem chainSum_eq {chain : List Outcome} (nonempty : chain ≠ []) :
    chainSum blank chain = runChain chain := by
  cases chain with
  | nil => exact absurd rfl nonempty
  | cons => rfl

theorem foldlM_chainSum {chains : List (List Outcome)} (full : ∀ chain ∈ chains, chain ≠ [])
    (start : Operand) :
    chains.foldlM (fun word chain => (chainSum blank chain).map word.bitOr) start =
      chains.foldlM (fun word chain => (runChain chain).map word.bitOr) start := by
  induction chains generalizing start with
  | nil => rfl
  | cons chain rest ih =>
    obtain ⟨now, later⟩ := List.forall_mem_cons.mp full
    rw [List.foldlM_cons, List.foldlM_cons, chainSum_eq blank now]
    exact congrArg _ (funext (ih later))

theorem scopeWord_eq {chains : List (List Outcome)} (full : ∀ chain ∈ chains, chain ≠ []) :
    scopeWord blank chains = runScope chains := by
  cases chains with
  | nil => rfl
  | cons first rest =>
    obtain ⟨front, back⟩ := List.forall_mem_cons.mp full
    simp only [scopeWord, runScope, chainSum_eq blank front, foldlM_chainSum blank back]

/-- No chain of a pattern is empty, so the blank chain is never asked for. -/
theorem scopeValue_eq_runScope (p : Pattern) :
    p.scopeValue blank fallback params =
      runScope (p.chains.map (List.map (itemValue blank fallback params))) :=
  scopeWord_eq blank (by simpa using chain_ne_nil p)

mutual
/-- The chains are run item by item, whatever the fallback and the blank chain are worth. -/
theorem outcomes_chains : (p : Pattern) →
    p.outcomes params = p.chains.map (List.map (itemValue blank fallback params))
  | literal _ => by simp [outcomes, chains, itemValue]
  | symbol _ _ => by simp [outcomes, chains, itemValue]
  | group body => by
    rw [chains, List.map_singleton, List.map_singleton, itemValue_group, scopeValue_eq_runScope,
      outcomes, outcomes_chains body]
  | concat left right => by
    rw [outcomes, chains, map_joinChains (fun _ _ => List.map_append), outcomes_chains left,
      outcomes_chains right]
  | alternation children => outcomesOf_chains children

theorem outcomesOf_chains : (ps : List Pattern) →
    outcomesOf params ps = (chainsOf ps).map (List.map (itemValue blank fallback params))
  | [] => rfl
  | child :: rest => by
    rw [outcomesOf, chainsOf, List.map_append, outcomes_chains child, outcomesOf_chains rest]
end

theorem scopeValue_eq (p : Pattern) : p.scopeValue blank fallback params = p.value params := by
  rw [scopeValue_eq_runScope, value, outcomes_chains blank fallback params p]

end

/-- The text and the value of a scope are made from its chains alone. Whatever precedes it, the text
has the items of a chain joined by pluses and the chains joined by bars, as long as no alternation
is empty. The chains are the items of the scope in their order, none is empty, and no answer given
for an empty chain or for an item that is a sum or an alternation itself is ever used. -/
theorem scope_exact (p : Pattern) :
    (p.HasBranches → ∀ seed, p.expression seed = seed ++ scopeText p.chains) ∧
      (∀ chain ∈ p.chains, chain ≠ [] ∧ ∀ item ∈ chain, item.Item) ∧
      p.chains.flatten = p.items ∧
      ∀ blank fallback params, p.scopeValue blank fallback params = p.value params := by
  refine ⟨?_, ?_, flatten_chains p, fun _ _ _ => scopeValue_eq _ _ _ p⟩
  · intro branches seed
    rw [expression_seed, expression_eq_scopeText p branches]
  · intro chain member
    refine ⟨chain_ne_nil p chain member, fun item inside => ?_⟩
    have listed : item ∈ p.items := flatten_chains p ▸ List.mem_flatten_of_mem member inside
    exact (item_of_items p item listed).1

/-- The middle chain runs over the seam between two alternations. -/
theorem scope_exact_seam :
    (concat (alternation [literal "a", symbol "b" true])
      (alternation [group (literal "c"), literal "d"])).expression "x = " =
        "x = " ++
          scopeText [[literal "a"], [symbol "b" true, group (literal "c")], [literal "d"]] :=
  (scope_exact _).1 (by simp [HasBranches, HasBranchesAll]) "x = "

end RouteBindings.Pattern
