import RouteBindings.Proofs.Bindings.Declarations
import RouteBindings.Proofs.Signature.Vocabulary

namespace RouteBindings

namespace Generated

theorem ofEnvironment_error_iff {env : Environment} {routes : List Route} {error : Error} :
    ofEnvironment env routes = .error error ↔ env.validate = .error error := by
  cases checked : env.validate with
  | ok =>
    obtain ⟨g, made⟩ := exists_ofEnvironment checked routes
    simp [made]
  | error raised =>
    have stopped : ofEnvironment env routes = .error raised := by
      rw [ofEnvironment, Collection.ofEnvironment, checked]
      rfl
    rw [stopped, Except.error.injEq, Except.error.injEq]

/-- Bindings fail exactly when the vocabulary does, and with its error. What is raised while an
action is converted is always an unsupported construct or an ambiguous overload, so that adding an
action to a collection never fails. -/
theorem fails_only_for_vocabulary (env : Environment) (routes : List Route) :
    (∀ error, ofEnvironment env routes = .error error ↔ env.validate = .error error) ∧
    (∀ error, env.validate = .error error ↔
      (env.vocabulary = none ∧ error = .missingVocabulary) ∨
        ∃ v, env.vocabulary = some v ∧ v.validate ≠ .ok () ∧
          error = .vocabularyMismatch v.unknownNames v.missingNames) ∧
    (∀ error : Error, error.isRecoverable = true ↔
      (∃ construct, error = .unsupported construct) ∨ ∃ found, error = .ambiguousOverload found) ∧
    (∀ (type : TypeExpr) level, Recoverable (type.text level)) ∧
    (∀ callable : Callable TypeExpr,
      Recoverable callable.paramsText ∧ Recoverable callable.returnText) ∧
    (∀ overload : Overload, Recoverable overload.plain) ∧
    (∀ controller key action, Recoverable (Collection.convert controller key action)) ∧
    ∀ controller c action, ∃ next, Collection.addAction controller c action = .ok next := by
  refine ⟨fun _ => ofEnvironment_error_iff, fun _ => Environment.validate_error_iff,
    fun _ => Error.isRecoverable_iff, ?_, ?_, recoverable_plain, recoverable_convert, ?_⟩
  · intro type level
    exact type.recoverable_text level
  · intro callable
    exact ⟨recoverable_paramsText callable, callable.returns.recoverable_text 0⟩
  · intro controller c action
    exact ⟨_, Collection.addAction_eq controller c action⟩

/-- A base type too many in the vocabulary, and an action that cannot be bound. -/
def drifted : Environment where
  vocabulary := some { Vocabulary.known with bases := "never" :: Vocabulary.known.bases }
  controllers := [⟨"WidgetsController", ["index"], .ofRows [("index", ⟨[]⟩)]⟩]

theorem fails_only_for_vocabulary_drifted :
    ofEnvironment drifted [widgetsRoute] = .error (.vocabularyMismatch ["base.never"] []) ∧
      ∃ error, (TypeExpr.tuple [.optional (.variable "T")]).text 0 = .error error ∧
        error.isRecoverable = true := by
  have drift : drifted.validate = .error (.vocabularyMismatch ["base.never"] []) := rfl
  have refused : (TypeExpr.tuple [.optional (.variable "T")]).text 0 =
      .error (.unsupported (.typeVariable "T")) := rfl
  obtain ⟨fails, -, -, types, -⟩ := fails_only_for_vocabulary drifted [widgetsRoute]
  exact ⟨(fails _).mpr drift, _, refused, types _ 0 _ refused⟩

end Generated

end RouteBindings
