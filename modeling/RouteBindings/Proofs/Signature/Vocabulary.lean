import RouteBindings.Proofs.Text.Order
import RouteBindings.Signature.Environment

/-! What the check of a vocabulary fails with: either no vocabulary was given, or the one that was
given differs from the known one, and then the error says in what. Only the sets of the names count,
not in which order or how often a name is given. -/

namespace RouteBindings

namespace Vocabulary

theorem validate_error_iff {v : Vocabulary} {error : Error} :
    v.validate = .error error ↔
      v.validate ≠ .ok () ∧ error = .vocabularyMismatch v.unknownNames v.missingNames := by
  rw [validate]
  split
  · simp
  · simp [eq_comm]

def SameNames (v w : Vocabulary) : Prop :=
  v.types.toFinset = w.types.toFinset ∧ v.bases.toFinset = w.bases.toFinset

instance (v w : Vocabulary) : Decidable (v.SameNames w) :=
  inferInstanceAs (Decidable (_ ∧ _))

/-- The names that only the first vocabulary has: its types in order, and behind them its bases. -/
def surplus (v w : Vocabulary) : List String :=
  (v.types.toFinset \ w.types.toFinset).sort ++
    ((v.bases.toFinset \ w.bases.toFinset).sort).map ("base." ++ ·)

theorem difference_eq_sort (names others : List String) :
    difference names others = (names.toFinset \ others.toFinset).sort := by
  have same : (names.filter fun name => !others.contains name).toFinset =
      names.toFinset \ others.toFinset := by
    ext name
    simp
  rw [difference, Text.sortedNames_eq_sort, same]

theorem unknownNames_eq_surplus (v : Vocabulary) : v.unknownNames = v.surplus known := by
  rw [unknownNames, surplus, difference_eq_sort, difference_eq_sort]

theorem missingNames_eq_surplus (v : Vocabulary) : v.missingNames = known.surplus v := by
  rw [missingNames, surplus, difference_eq_sort, difference_eq_sort]

theorem surplus_eq_nil_iff {v w : Vocabulary} : v.surplus w = [] ↔
    v.types.toFinset ⊆ w.types.toFinset ∧ v.bases.toFinset ⊆ w.bases.toFinset := by
  have sort_eq_nil : ∀ names : Finset String, names.sort = [] ↔ names = ∅ := by
    intro names
    constructor
    · intro none
      rw [← Finset.sort_toFinset names (· ≤ ·), none, List.toFinset_nil]
    · rintro rfl
      exact Finset.sort_empty (· ≤ ·)
  rw [surplus, List.append_eq_nil_iff, List.map_eq_nil_iff, sort_eq_nil, sort_eq_nil,
    Finset.sdiff_eq_empty_iff_subset, Finset.sdiff_eq_empty_iff_subset]

theorem sameNames_iff {v w : Vocabulary} :
    v.SameNames w ↔ v.surplus w = [] ∧ w.surplus v = [] := by
  rw [SameNames, surplus_eq_nil_iff, surplus_eq_nil_iff, Finset.Subset.antisymm_iff,
    Finset.Subset.antisymm_iff]
  exact and_and_and_comm

theorem validate_eq_ok_iff {v : Vocabulary} : v.validate = .ok () ↔ v.SameNames known := by
  rw [validate, sameNames_iff, unknownNames_eq_surplus, missingNames_eq_surplus]
  simp

/-- A vocabulary is valid exactly if its names are the known ones. Otherwise the error holds those
that are not known and those that are missing, and two vocabularies with the same names have the
same outcome. -/
theorem validate_exact (v : Vocabulary) :
    (v.validate = .ok () ↔ v.SameNames known) ∧
    (¬ v.SameNames known →
      v.validate = .error (.vocabularyMismatch (v.surplus known) (known.surplus v))) ∧
    ∀ w, v.SameNames w → v.validate = w.validate := by
  refine ⟨validate_eq_ok_iff, fun differs => ?_, fun w same => ?_⟩
  · rw [← unknownNames_eq_surplus, ← missingNames_eq_surplus, validate_error_iff]
    exact ⟨mt validate_eq_ok_iff.mp differs, rfl⟩
  · have unknown : v.surplus known = w.surplus known := by
      rw [surplus, surplus, same.1, same.2]
    have missing : known.surplus v = known.surplus w := by
      rw [surplus, surplus, same.1, same.2]
    simp only [validate, unknownNames_eq_surplus, missingNames_eq_surplus, unknown, missing]

/-- Known names turned round, one of them missing and others given twice, among unknown ones. -/
def drifted : Vocabulary :=
  ⟨"refinement" :: (known.types.erase "proc").reverse ++ ["alias", "refinement"],
    ["never", "class"] ++ known.bases.reverse⟩

theorem validate_exact_drifted :
    ¬ drifted.SameNames known ∧
      drifted.validate = .error (.vocabularyMismatch ["refinement", "base.never"] ["proc"]) ∧
      drifted.validate = validate ⟨drifted.types.reverse, "any" :: drifted.bases.reverse⟩ := by
  have differs : ¬ drifted.SameNames known := by decide +kernel
  refine ⟨differs, ?_, (validate_exact _).2.2 _ (by decide +kernel)⟩
  rw [(validate_exact drifted).2.1 differs, ← unknownNames_eq_surplus, ← missingNames_eq_surplus]
  have unknown : drifted.unknownNames = ["refinement", "base.never"] := by decide +kernel
  have missing : drifted.missingNames = ["proc"] := by decide +kernel
  rw [unknown, missing]

end Vocabulary

namespace Environment

theorem validate_error_iff {env : Environment} {error : Error} :
    env.validate = .error error ↔
      (env.vocabulary = none ∧ error = .missingVocabulary) ∨
        ∃ v, env.vocabulary = some v ∧ v.validate ≠ .ok () ∧
          error = .vocabularyMismatch v.unknownNames v.missingNames := by
  rw [validate]
  cases env.vocabulary with
  | none => simp [eq_comm]
  | some v => simp [Vocabulary.validate_error_iff]

end Environment

end RouteBindings
