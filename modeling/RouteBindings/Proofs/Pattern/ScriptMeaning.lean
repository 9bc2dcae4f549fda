import RouteBindings.Proofs.Pattern.Emission

namespace RouteBindings

open Text (Token)

namespace Script

section

variable {begins continues : Char → Bool}

theorem ReadsSum.plus_sum : ∀ {ts r mid rest : List Token} {es fs : List Script},
    ReadsSum begins continues ts r es → r = .mark "+" :: mid →
    ReadsSum begins continues mid rest fs → ReadsSum begins continues ts rest (es ++ fs)
  | _, _, _, _, _, _, .last operand, same, back => .plus (same ▸ operand) back
  | _, _, _, _, _, _, .plus operand tail, same, back => .plus operand (tail.plus_sum same back)
termination_by structural _ _ _ _ _ _ front => front

/-- The first of the sums that follow goes on with a sum. -/
theorem ReadsSums.plus_first {ts mid rest : List Token} {es : List Script}
    {sums : List (List Script)} (front : ReadsSum begins continues ts (.mark "+" :: mid) es)
    (back : ReadsSums begins continues mid rest sums) :
    ReadsSums begins continues ts rest (Pattern.joinChains [es] sums) := by
  cases back with
  | last sum => exact .last (front.plus_sum rfl sum)
  | bar sum tail => exact .bar (front.plus_sum rfl sum) tail

theorem ReadsSums.nonempty {ts rest : List Token} {sums : List (List Script)}
    (reading : ReadsSums begins continues ts rest sums) : sums ≠ [] := by
  cases reading <;> simp

/-- A `+` takes only the last of the sums before it and the first of those behind it. -/
theorem ReadsSums.plus : ∀ {ts r mid rest : List Token} {sums others : List (List Script)},
    ReadsSums begins continues ts r sums → r = .mark "+" :: mid →
    ReadsSums begins continues mid rest others →
    ReadsSums begins continues ts rest (Pattern.joinChains sums others)
  | _, _, _, _, _, _, .last sum, same, back => .plus_first (same ▸ sum) back
  | _, _, _, _, _, _, .bar sum tail, same, back => by
    rw [Pattern.joinChains_cons _ tail.nonempty]
    exact .bar sum (tail.plus same back)
termination_by structural _ _ _ _ _ _ front => front

theorem ReadsSums.bar_sums : ∀ {ts r mid rest : List Token} {sums others : List (List Script)},
    ReadsSums begins continues ts r sums → r = .mark "|" :: mid →
    ReadsSums begins continues mid rest others →
    ReadsSums begins continues ts rest (sums ++ others)
  | _, _, _, _, _, _, .last sum, same, back => .bar (same ▸ sum) back
  | _, _, _, _, _, _, .bar sum tail, same, back => .bar sum (tail.bar_sums same back)
termination_by structural _ _ _ _ _ _ front => front

end

/-- What becomes of an expression; a thrown text is the name of a missing segment. -/
def outcome (params : Params) (e : Script) : Outcome :=
  (e.run params).mapError MissingSegment.mk

variable (params : Params)

theorem outcome_add (a b : Script) :
    (add a b).outcome params =
      a.outcome params >>= fun x => (b.outcome params).map x.add := by
  unfold outcome
  rw [run]
  cases a.run params with
  | error => rfl
  | ok x => cases b.run params <;> rfl

theorem outcome_bitOr (a b : Script) :
    (bitOr a b).outcome params =
      a.outcome params >>= fun x => (b.outcome params).map x.bitOr := by
  unfold outcome
  rw [run]
  cases a.run params with
  | error => rfl
  | ok x => cases b.run params <;> rfl

theorem outcome_attempt (body : Script) :
    (attempt body).outcome params = Pattern.groupOutcome (body.outcome params) := by
  unfold outcome
  rw [run]
  cases body.run params <;> rfl

theorem outcome_orEmpty (name : String) :
    (orEmpty name).outcome params = Pattern.symbolOutcome params name true := by
  unfold outcome Pattern.symbolOutcome
  rw [run]
  split <;> simp_all [Except.mapError]

theorem outcome_demand (name : String) :
    (demand name name).outcome params = Pattern.symbolOutcome params name false := by
  unfold outcome Pattern.symbolOutcome
  rw [run]
  cases params.get? name with
  | none => rfl
  | some value => cases h : value.isTruthy <;> simp [h, Except.mapError]

/-- Operands grouped from the left are run one after the other. -/
theorem outcome_foldl {operator : Script → Script → Script} {combine : Operand → Operand → Operand}
    (step : ∀ a b, (operator a b).outcome params =
      a.outcome params >>= fun x => (b.outcome params).map (combine x))
    (first : Script) (rest : List Script) :
    (rest.foldl operator first).outcome params =
      first.outcome params >>= fun start =>
        rest.foldlM (fun x e => (e.outcome params).map (combine x)) start := by
  induction rest generalizing first with
  | nil => cases h : first.outcome params <;> simp [h, bind, Except.bind, pure, Except.pure]
  | cons e others ih =>
    rw [List.foldl_cons, ih, step, bind_assoc]
    rfl

theorem outcome_sum (es : List Script) :
    (grouped add es).outcome params = Pattern.runChain (es.map (outcome params)) := by
  cases es with
  | nil => rfl
  | cons first rest =>
    rw [grouped, outcome_foldl params (outcome_add params), List.map_cons, Pattern.runChain]
    simp only [List.foldlM_map]

theorem outcome_ofSums (sums : List (List Script)) :
    (ofSums sums).outcome params =
      Pattern.runScope (sums.map (List.map (outcome params))) := by
  cases sums with
  | nil => rfl
  | cons first rest =>
    rw [ofSums, List.map_cons, grouped, outcome_foldl params (outcome_bitOr params), outcome_sum,
      List.map_cons, Pattern.runScope]
    simp only [List.foldlM_map, outcome_sum]

end Script

namespace Pattern

open Script (ReadsSums ofSums outcome)

mutual
/-- The chains of the pattern, with each item as the expression that it is written as. -/
def operands : Pattern → List (List Script)
  | literal text => [[.text text]]
  | symbol name true => [[.orEmpty name]]
  | symbol name false => [[.demand name name]]
  | group body => [[.attempt (ofSums body.operands)]]
  | concat left right => joinChains left.operands right.operands
  | alternation children => operandsOf children

def operandsOf : List Pattern → List (List Script)
  | [] => []
  | child :: rest => child.operands ++ operandsOf rest
end

section

variable {begins continues : Char → Bool}

mutual
theorem reads_tokens : (p : Pattern) → p.Emittable begins continues → (rest : List Token) →
    ReadsSums begins continues (p.tokens ++ rest) rest p.operands
  | literal text, _, rest => .last (.last .text)
  | symbol name true, valid, rest => .last (.last (.orEmpty valid))
  | symbol name false, valid, rest => .last (.last (.demand valid))
  | group body, emittable, rest => by
    have inner := reads_tokens body emittable (Script.attemptBack ++ (Script.callBack ++ rest))
    have operand := Script.ReadsOperand.attempt (.sums inner)
    rw [tokens]
    simp only [List.append_assoc]
    exact .last (.last operand)
  | concat left right, ⟨hl, hr⟩, rest => by
    have front := reads_tokens left hl (.mark "+" :: (right.tokens ++ rest))
    rw [tokens, List.append_assoc]
    exact front.plus rfl (reads_tokens right hr rest)
  | alternation children, ⟨nonempty, emittable⟩, rest =>
    reads_tokensOf children nonempty emittable rest

theorem reads_tokensOf : (ps : List Pattern) → ps ≠ [] → EmittableAll begins continues ps →
    (rest : List Token) → ReadsSums begins continues (tokensOf ps ++ rest) rest (operandsOf ps)
  | [], nonempty, _, _ => absurd rfl nonempty
  | [child], _, ⟨emittable, _⟩, rest => by
    rw [operandsOf, operandsOf, List.append_nil]
    exact reads_tokens child emittable rest
  | child :: next :: others, _, ⟨emittable, tail⟩, rest => by
    have front := reads_tokens child emittable (.mark "|" :: (tokensOf (next :: others) ++ rest))
    rw [tokensOf, List.append_assoc]
    exact front.bar_sums rfl (reads_tokensOf (next :: others) (by simp) tail rest)
    simp
end

end

mutual
theorem outcomes_eq (params : Params) : (p : Pattern) →
    p.outcomes params = p.operands.map (List.map (outcome params))
  | literal text => rfl
  | symbol name true => by
    rw [outcomes, operands, ← Script.outcome_orEmpty]
    rfl
  | symbol name false => by
    rw [outcomes, operands, ← Script.outcome_demand]
    rfl
  | group body => by
    rw [outcomes, operands, outcomes_eq params body, ← Script.outcome_ofSums,
      ← Script.outcome_attempt]
    rfl
  | concat left right => by
    rw [outcomes, operands, outcomes_eq params left, outcomes_eq params right,
      map_joinChains fun _ _ => List.map_append]
  | alternation children => outcomesOf_eq params children

theorem outcomesOf_eq (params : Params) : (ps : List Pattern) →
    outcomesOf params ps = (operandsOf ps).map (List.map (outcome params))
  | [] => rfl
  | child :: rest => by
    rw [outcomesOf, operandsOf, outcomes_eq params child, outcomesOf_eq params rest,
      List.map_append]
end

theorem reads_expression {begins continues : Char → Bool} {p : Pattern}
    (emittable : p.Emittable begins continues) :
    Script.Reads begins continues (p.expression "") (ofSums p.operands) := by
  refine ⟨p.tokens, ?_, .sums ?_⟩
  · have lexed := lexes_script p emittable []
    rw [List.append_nil, script] at lexed
    simpa [Text.Lexicon.tokens] using lexed
  · have read := reads_tokens p emittable []
    rwa [List.append_nil] at read

/-- The written expression can be read in one way. It returns what the pattern evaluates to, and it
throws the name of the missing segment where the pattern reports one. -/
theorem expression_exact {begins continues : Char → Bool} {p : Pattern}
    (emittable : p.Emittable begins continues) :
    (∃ e, Script.Reads begins continues (p.expression "") e) ∧
      ∀ e, Script.Reads begins continues (p.expression "") e → ∀ params : Params,
        (∀ s, (∃ v, e.run params = .ok v ∧ v.toText = s) ↔ p.evaluate params = .ok s) ∧
        ∀ name, e.run params = .error name ↔ p.evaluate params = .error ⟨name⟩ := by
  have written := reads_expression emittable
  refine ⟨⟨_, written⟩, ?_⟩
  intro e reading params
  obtain rfl := reading.unique written
  have same : p.evaluate params =
      ((ofSums p.operands).outcome params).map Operand.toText := by
    unfold evaluate value
    rw [outcomes_eq, Script.outcome_ofSums]
  rw [same, outcome]
  cases (ofSums p.operands).run params with
  | ok v => simp [Except.mapError, Except.map]
  | error name => simp [Except.mapError, Except.map]

theorem isName_id : Script.IsName (fun _ => false) (fun _ => false) "id" :=
  ⟨⟨'i', ['d'], by decide, by decide⟩, by simp [Text.Lexicon.isPart], by decide⟩

/-- Without parameters, the expression of `/x/` and then `a` or `:id` throws. -/
theorem expression_exact_missing :
    ∃ e, Script.Reads (fun _ => false) (fun _ => false)
        ((concat (literal "/x/") (alternation [literal "a", symbol "id" false])).expression "") e ∧
      e.run Table.empty = .error "id" := by
  obtain ⟨⟨e, reading⟩, runs⟩ := expression_exact
    (p := concat (literal "/x/") (alternation [literal "a", symbol "id" false]))
    ⟨trivial, by simp, trivial, isName_id, trivial⟩
  exact ⟨e, reading, ((runs e reading Table.empty).2 "id").mpr rfl⟩

end Pattern

end RouteBindings
