import RouteBindings.Proofs.Signature.Recoverable
import RouteBindings.Proofs.Signature.SignatureTable

/-! Every action that a controller lists is accounted for once. It is left out if its method is not
declared, reported if it cannot be bound and stored otherwise, and of several that are stored under
one address the last one stays, at the place of the first. -/

namespace RouteBindings

/-- An action where a controller lists it. -/
structure Occurrence where
  controller : Controller
  action : String

namespace Occurrence

def key (o : Occurrence) : String :=
  Names.controllerKey o.controller.name

def address (o : Occurrence) : String × String :=
  (o.key, o.action)

def outcome (o : Occurrence) : Except Error (Option ActionSignature) :=
  Collection.convert o.controller o.key o.action

def signature? (o : Occurrence) : Option ActionSignature :=
  match o.outcome with
  | .ok signature => signature
  | .error _ => none

def diagnostic? (o : Occurrence) : Option Diagnostic :=
  match o.outcome with
  | .ok _ => none
  | .error error => some ⟨o.controller.name ++ "#" ++ o.action, error.message⟩

/-- The types of the signature are the projections of the only overload of the method. -/
inductive Projects (o : Occurrence) : ActionSignature → Prop
  | overload {method : Method} {overload : Overload} {callable : Callable TypeExpr}
      {params returns : String} : o.controller.methods.get? o.action = some method →
      method.overloads = [overload] → overload.plain = .ok callable →
      callable.paramsText = .ok params → callable.returnText = .ok returns →
      Projects o ⟨o.key, o.action, Collection.orEmptyObject params,
        Collection.orEmptyObject returns⟩

/-- The error is that of the first stage that fails. -/
inductive Fails (o : Occurrence) : Error → Prop
  | overloads {method : Method} : o.controller.methods.get? o.action = some method →
      method.overloads.length ≠ 1 → Fails o (.ambiguousOverload method.overloads.length)
  | form {method : Method} {overload : Overload} {error : Error} :
      o.controller.methods.get? o.action = some method → method.overloads = [overload] →
      overload.plain = .error error → Fails o error
  | params {method : Method} {overload : Overload} {callable : Callable TypeExpr} {error : Error} :
      o.controller.methods.get? o.action = some method → method.overloads = [overload] →
      overload.plain = .ok callable → callable.paramsText = .error error → Fails o error
  | returns {method : Method} {overload : Overload} {callable : Callable TypeExpr}
      {params : String} {error : Error} : o.controller.methods.get? o.action = some method →
      method.overloads = [overload] → overload.plain = .ok callable →
      callable.paramsText = .ok params → callable.returnText = .error error → Fails o error

/-- What an occurrence adds to a collection. Only a declared method is stored or reported. -/
inductive Contributes (o : Occurrence) : Option ActionSignature → Option Diagnostic → Prop
  | undeclared : o.controller.methods.get? o.action = none → Contributes o none none
  | failed {error : Error} : o.Fails error →
      Contributes o none (some ⟨o.controller.name ++ "#" ++ o.action, error.message⟩)
  | converted {signature : ActionSignature} : o.Projects signature →
      Contributes o (some signature) none

theorem outcome_of_ok {o : Occurrence} {result : Option ActionSignature}
    (outcome : o.outcome = .ok result) :
    (o.controller.methods.get? o.action = none ∧ result = none) ∨
      ∃ signature, result = some signature ∧ o.Projects signature := by
  rw [Occurrence.outcome, Collection.convert] at outcome
  split at outcome
  · rename_i undeclared
    cases outcome
    exact .inl ⟨undeclared, rfl⟩
  · rename_i method declared
    split at outcome
    · rename_i overload only
      obtain ⟨callable, plain, outcome⟩ := bind_ok outcome
      obtain ⟨params, hp, outcome⟩ := bind_ok outcome
      obtain ⟨returns, hr, outcome⟩ := bind_ok outcome
      cases outcome
      exact .inr ⟨_, rfl, .overload declared only plain hp hr⟩
    · cases outcome

theorem Projects.address {o : Occurrence} {signature : ActionSignature}
    (projects : o.Projects signature) : signature.address = o.address := by
  cases projects
  rfl

theorem fails_of_outcome {o : Occurrence} {error : Error} (outcome : o.outcome = .error error) :
    o.Fails error := by
  unfold Occurrence.outcome Collection.convert at outcome
  split at outcome
  · cases outcome
  · rename_i method declared
    split at outcome
    · rename_i overload only
      rcases bind_error outcome with failed | ⟨callable, plain, outcome⟩
      · exact .form declared only failed
      rcases bind_error outcome with failed | ⟨params, hp, outcome⟩
      · exact .params declared only plain failed
      rcases bind_error outcome with failed | ⟨returns, hr, outcome⟩
      · exact .returns declared only plain hp failed
      · cases outcome
    · rename_i several
      cases outcome
      apply Fails.overloads declared
      intro one
      obtain ⟨overload, only⟩ := List.length_eq_one_iff.mp one
      exact several overload only

theorem contributes (o : Occurrence) : o.Contributes o.signature? o.diagnostic? := by
  unfold signature? diagnostic?
  split
  · rename_i result outcome
    rcases outcome_of_ok outcome with ⟨undeclared, rfl⟩ | ⟨signature, rfl, projects⟩
    · exact .undeclared undeclared
    · exact .converted projects
  · rename_i error outcome
    exact .failed (fails_of_outcome outcome)

theorem projects_of_signature {o : Occurrence} {signature : ActionSignature}
    (converted : o.signature? = some signature) : o.Projects signature := by
  unfold signature? at converted
  split at converted
  · rename_i outcome
    rcases outcome_of_ok outcome with ⟨-, rfl⟩ | ⟨made, rfl, projects⟩
    · cases converted
    · cases converted
      exact projects
  · cases converted

theorem address_of_signature {o : Occurrence} {signature : ActionSignature}
    (converted : o.signature? = some signature) : signature.address = o.address :=
  (projects_of_signature converted).address

end Occurrence

namespace Environment

def occurrences (env : Environment) : List Occurrence :=
  env.controllers.flatMap fun controller => controller.actions.map (⟨controller, ·⟩)

def convertible (env : Environment) : List Occurrence :=
  env.occurrences.filter fun o => o.signature?.isSome

def converted (env : Environment) : List ActionSignature :=
  env.occurrences.filterMap Occurrence.signature?

end Environment

namespace Collection

def extend (c : Collection) (occurrences : List Occurrence) : Collection :=
  ⟨(occurrences.filterMap Occurrence.signature?).foldl SignatureTable.insert c.signatures,
    c.diagnostics ++ occurrences.filterMap Occurrence.diagnostic?⟩

theorem extend_append (c : Collection) (first second : List Occurrence) :
    c.extend (first ++ second) = (c.extend first).extend second := by
  simp only [extend, List.filterMap_append, List.foldl_append, List.append_assoc]

theorem extend_cons (c : Collection) (o : Occurrence) (rest : List Occurrence) :
    c.extend (o :: rest) = (c.extend [o]).extend rest :=
  extend_append c [o] rest

theorem addAction_eq (controller : Controller) (c : Collection) (action : String) :
    addAction controller c action = .ok (c.extend [⟨controller, action⟩]) := by
  -- no error of a conversion ends the run
  have recoverable := recoverable_convert controller (Names.controllerKey controller.name) action
  simp only [addAction, extend, List.filterMap_cons, List.filterMap_nil, Occurrence.signature?,
    Occurrence.diagnostic?, Occurrence.outcome, Occurrence.key]
  cases outcome : convert controller (Names.controllerKey controller.name) action with
  | error error =>
    have skipped := recoverable error outcome
    simp [skipped]
  | ok signature =>
    cases signature with
    | none => simp
    | some signature => simp

theorem addController_eq (c : Collection) (controller : Controller) :
    addController c controller = .ok (c.extend (controller.actions.map (⟨controller, ·⟩))) := by
  rw [addController]
  induction controller.actions generalizing c with
  | nil => simp [extend, pure, Except.pure]
  | cons action rest ih =>
    rw [List.foldlM_cons, addAction_eq, List.map_cons,
      extend_cons c _ (List.map _ rest)]
    exact ih _

theorem foldlM_addController (controllers : List Controller) (c : Collection) :
    controllers.foldlM addController c =
      .ok (c.extend (Environment.occurrences ⟨none, controllers⟩)) := by
  induction controllers generalizing c with
  | nil => simp [Environment.occurrences, extend, pure, Except.pure]
  | cons controller rest ih =>
    rw [List.foldlM_cons, addController_eq, Environment.occurrences, List.flatMap_cons,
      extend_append]
    exact ih _

/-- A run over a valid environment always ends with a collection, which the occurrences alone
determine. -/
theorem ofEnvironment_eq {env : Environment} (valid : env.validate = .ok ()) :
    ofEnvironment env =
      .ok ⟨.ofList env.converted, env.occurrences.filterMap Occurrence.diagnostic?⟩ := by
  rw [ofEnvironment, valid]
  exact foldlM_addController env.controllers _

end Collection

theorem filter_signatures (occurrences : List Occurrence) (chosen : String × String → Bool) :
    (occurrences.filterMap Occurrence.signature?).filter (fun s => chosen s.address) =
      (occurrences.filter fun o => chosen o.address).filterMap Occurrence.signature? := by
  induction occurrences with
  | nil => rfl
  | cons o rest ih =>
    cases converted : o.signature? with
    | none => cases pick : chosen o.address <;> simp [converted, pick, ih]
    | some signature =>
      have same := Occurrence.address_of_signature converted
      cases pick : chosen o.address <;> simp [converted, same, pick, ih]

theorem addresses_signatures (occurrences : List Occurrence) :
    (occurrences.filterMap Occurrence.signature?).map ActionSignature.address =
      (occurrences.filter fun o => o.signature?.isSome).map Occurrence.address := by
  induction occurrences with
  | nil => rfl
  | cons o rest ih =>
    cases converted : o.signature? with
    | none => simp [converted, ih]
    | some signature => simp [converted, ih, Occurrence.address_of_signature converted]

namespace Environment

theorem filter_converted (env : Environment) (key action : String) :
    (env.converted.filter fun s => s.controller = key ∧ s.action = action) =
      (env.occurrences.filter fun o => o.address = (key, action)).filterMap
        Occurrence.signature? := by
  have chosen := filter_signatures env.occurrences fun address => address = (key, action)
  simpa only [converted, ActionSignature.address, Prod.mk.injEq] using chosen

theorem keys_converted (env : Environment) :
    env.converted.map (·.controller) = env.convertible.map Occurrence.key := by
  have addresses := congrArg (List.map Prod.fst) (addresses_signatures env.occurrences)
  rwa [List.map_map, List.map_map] at addresses

theorem actions_converted (env : Environment) (key : String) :
    (env.converted.filter fun s => s.controller = key).map (·.action) =
      (env.convertible.filter fun o => o.key = key).map (·.action) := by
  have chosen := filter_signatures env.occurrences fun address => address.1 = key
  have addresses := congrArg (List.map Prod.snd)
    (addresses_signatures (env.occurrences.filter fun o => o.address.1 = key))
  rw [← chosen, List.map_map, List.map_map, List.filter_filter] at addresses
  rw [convertible, List.filter_filter]
  simp only [Bool.and_comm] at addresses ⊢
  exact addresses

theorem exists_occurrence {env : Environment} {key action : String} {signature : ActionSignature}
    (found : (SignatureTable.ofList env.converted).get? key action = some signature) :
    ∃ o ∈ env.occurrences, o.address = (key, action) ∧ o.Projects signature := by
  rw [SignatureTable.get?_ofList, filter_converted] at found
  obtain ⟨o, chosen, converted⟩ := List.mem_filterMap.mp (List.mem_of_getLast? found)
  obtain ⟨listed, same⟩ := List.mem_filter.mp chosen
  exact ⟨o, listed, of_decide_eq_true same, Occurrence.projects_of_signature converted⟩

end Environment

structure Accounts (env : Environment) (c : Collection) : Prop where
  reported : c.diagnostics = env.occurrences.filterMap Occurrence.diagnostic?
  latest : ∀ key action, c.signatures.get? key action =
    ((env.occurrences.filter fun o => o.address = (key, action)).filterMap
      Occurrence.signature?).getLast?
  addressed : ∀ key action signature, c.signatures.get? key action = some signature →
    signature.address = (key, action)
  listed : c.signatures.toList.map ActionSignature.address =
    (env.convertible.map Occurrence.key).eraseDups.flatMap fun key =>
      ((env.convertible.filter fun o => o.key = key).map (·.action)).eraseDups.map (key, ·)
  once : (c.signatures.toList.map ActionSignature.address).Nodup
  stored : ∀ signature, signature ∈ c.signatures.toList ↔
    c.signatures.get? signature.controller signature.action = some signature
  counted : c.signatures.size = c.signatures.toList.length

/-- Over a valid environment the collection is made, every occurrence contributes in one of three
ways, and what the collection holds is what the occurrences contributed. -/
theorem accounts_of_valid {env : Environment} (valid : env.validate = .ok ()) :
    (∀ o ∈ env.occurrences, o.Contributes o.signature? o.diagnostic?) ∧
      ∃ c, Collection.ofEnvironment env = .ok c ∧ Accounts env c := by
  refine ⟨fun o _ => o.contributes, _, Collection.ofEnvironment_eq valid, ?_⟩
  exact {
    reported := rfl
    latest := by
      intro key action
      rw [SignatureTable.get?_ofList, Environment.filter_converted]
    addressed := fun _ _ _ found => SignatureTable.address_of_get? found
    listed := by
      rw [SignatureTable.addresses_ofList, Environment.keys_converted]
      simp only [Environment.actions_converted]
    once := SignatureTable.nodup_addresses _
    stored := fun _ => SignatureTable.mem_toList_iff
    counted := SignatureTable.size_eq _ }

/-- Two classes with one key. The first lists an action that it does not declare, and the second one
of the first, without an overload. -/
def reopened : Environment where
  vocabulary := some Vocabulary.known
  controllers := [
    ⟨"X", ["list", "go"], .ofRows [("go", ⟨[⟨[], none, ⟨[], .base .void⟩⟩]⟩)]⟩,
    ⟨"XController", ["go"], .ofRows [("go", ⟨[]⟩)]⟩]

/-- The undeclared action leaves no trace, and the failing one does not remove the signature. -/
theorem accounts_of_valid_reopened :
    reopened.validate = .ok () ∧
      (∀ o ∈ reopened.occurrences, o.Contributes o.signature? o.diagnostic?) ∧
      ∃ c, Collection.ofEnvironment reopened = .ok c ∧
        c.signatures.get? "x" "list" = none ∧
        c.signatures.get? "x" "go" = some ⟨"x", "go", "\x7b\x7d", "void"⟩ ∧
        c.diagnostics = [⟨"XController#go", "expected exactly one overload, found 0"⟩] := by
  have valid : reopened.validate = .ok () := rfl
  obtain ⟨contribute, c, made, accounts⟩ := accounts_of_valid valid
  refine ⟨valid, contribute, c, made, ?_, ?_, ?_⟩
  · rw [accounts.latest]
    decide +kernel
  · rw [accounts.latest]
    decide +kernel
  · rw [accounts.reported]
    decide +kernel

end RouteBindings
