import RouteBindings.Proofs.Error
import RouteBindings.Proofs.Signature.Vocabulary

/-! Documents merged one after the other and then checked. A vocabulary that stands alone is kept
unchecked and a later one is thrown away, but no invalid vocabulary gets past the final check, and
the first one of them is the one that is reported. -/

namespace RouteBindings.Environment

def vocabularies (documents : List Environment) : List Vocabulary :=
  documents.filterMap Environment.vocabulary

theorem vocabularies_cons (document : Environment) (rest : List Environment) :
    vocabularies (document :: rest) = document.vocabulary.toList ++ vocabularies rest := by
  cases carries : document.vocabulary <;> simp [vocabularies, carries]

def checked (env : Environment) : Except Error Environment := do
  env.validate
  return env

def mergeChecked (documents : List Environment) : Except Error Environment := do
  let env ← mergeAll documents
  env.checked

def extend (controllers : List Controller) : ExceptT Error (StateM Environment) Unit :=
  modify fun env => { env with controllers := env.controllers ++ controllers }

/-- The merge as an update in place, one assignment after the other. -/
def absorb (other : Environment) : ExceptT Error (StateM Environment) Unit := do
  match (← get).vocabulary, other.vocabulary with
  | _, none => extend other.controllers
  | none, some theirs =>
    modify fun env => { env with vocabulary := some theirs }
    extend other.controllers
  | some ours, some theirs =>
    MonadExcept.ofExcept ours.validate
    MonadExcept.ofExcept theirs.validate
    extend other.controllers

/-- Wherever the update in place breaks off, nothing has been assigned before. -/
theorem run_absorb (env other : Environment) :
    (absorb other).run env =
      match env.merge other with
      | .ok merged => (.ok (), merged)
      | .error error => (.error error, env) := by
  obtain ⟨vocabulary, controllers⟩ := env
  obtain ⟨carried, others⟩ := other
  cases carried with
  | none => cases vocabulary <;> rfl
  | some theirs =>
    cases vocabulary with
    | none => rfl
    | some ours =>
      change ExceptT.run (do
        MonadExcept.ofExcept ours.validate
        MonadExcept.ofExcept theirs.validate
        extend others) (⟨some ours, controllers⟩ : Environment) = _
      simp only [merge]
      cases ours.validate with
      | error => rfl
      | ok =>
        cases theirs.validate with
        | error => rfl
        | ok => rfl

/-- One vocabulary stands for all of them if each is valid. -/
def agreed (controllers : List Controller) : List Vocabulary → Except Error Environment
  | [] => .error .missingVocabulary
  | ours :: others => do
    ours.validate
    forM others Vocabulary.validate
    return ⟨some ours, controllers⟩

/- The first vocabulary is checked again with each one that is merged behind it. -/
theorem agreed_cons_cons (controllers : List Controller) (ours theirs : Vocabulary)
    (rest : List Vocabulary) :
    agreed controllers (ours :: theirs :: rest) = (do
      ours.validate
      theirs.validate
      agreed controllers (ours :: rest)) := by
  simp only [agreed, List.forM_cons]
  cases ours.validate with
  | error => rfl
  | ok => cases theirs.validate <;> rfl

/-- Merging a document first makes no difference to what is agreed on in the end, although its
vocabulary may be thrown away. -/
theorem agreed_merge (env document : Environment) (rest : List Vocabulary)
    (controllers : List Controller) :
    (do
      let merged ← env.merge document
      agreed (merged.controllers ++ controllers) (merged.vocabulary.toList ++ rest)) =
    agreed (env.controllers ++ document.controllers ++ controllers)
      (env.vocabulary.toList ++ (document.vocabulary.toList ++ rest)) := by
  obtain ⟨vocabulary, own⟩ := env
  obtain ⟨carried, added⟩ := document
  cases carried with
  | none => rfl
  | some theirs =>
    cases vocabulary with
    | none => rfl
    | some ours =>
      simp only [Option.toList_some, List.singleton_append, agreed_cons_cons, merge]
      cases ours.validate with
      | error => rfl
      | ok => cases theirs.validate <;> rfl

/-- The environment that was merged so far counts like a document in front of the others. -/
theorem foldlM_merge (documents : List Environment) (env : Environment) :
    (documents.foldlM merge env >>= checked) =
      agreed (env.controllers ++ documents.flatMap Environment.controllers)
        (env.vocabulary.toList ++ vocabularies documents) := by
  induction documents generalizing env with
  | nil =>
    obtain ⟨vocabulary, controllers⟩ := env
    rw [List.flatMap_nil, List.append_nil]
    cases vocabulary <;> rfl
  | cons document rest ih =>
    rw [List.flatMap_cons, vocabularies_cons, ← List.append_assoc, ← agreed_merge, List.foldlM_cons,
      bind_assoc]
    simp only [ih]

theorem mergeChecked_eq (documents : List Environment) :
    mergeChecked documents =
      agreed (documents.flatMap Environment.controllers) (vocabularies documents) :=
  foldlM_merge documents empty

theorem forM_validate_ok_iff {vocabularies : List Vocabulary} :
    forM vocabularies Vocabulary.validate = .ok () ↔
      ∀ v ∈ vocabularies, v.validate = .ok () := by
  induction vocabularies with
  | nil => simp [pure, Except.pure]
  | cons v rest ih =>
    rw [List.forM_cons, List.forall_mem_cons, ← ih]
    cases v.validate with
    | error => simp [bind, Except.bind]
    | ok => simp [bind, Except.bind]

theorem agreed_ok_iff {controllers : List Controller} {vocabularies : List Vocabulary}
    {env : Environment} :
    agreed controllers vocabularies = .ok env ↔
      vocabularies ≠ [] ∧ (∀ v ∈ vocabularies, v.validate = .ok ()) ∧
        env = ⟨vocabularies.head?, controllers⟩ := by
  cases vocabularies with
  | nil => simp [agreed]
  | cons ours others =>
    rw [agreed, List.forall_mem_cons]
    constructor
    · intro succeeded
      obtain ⟨result, first, succeeded⟩ := bind_ok succeeded
      obtain ⟨result, rest, succeeded⟩ := bind_ok succeeded
      cases succeeded
      exact ⟨List.cons_ne_nil _ _, ⟨first, forM_validate_ok_iff.mp rest⟩, rfl⟩
    · rintro ⟨-, ⟨first, rest⟩, rfl⟩
      rw [first, forM_validate_ok_iff.mpr rest]
      rfl

theorem forM_validate_error {earlier later : List Vocabulary} {v : Vocabulary} {error : Error}
    (valid : ∀ u ∈ earlier, u.validate = .ok ()) (invalid : v.validate = .error error) :
    forM (earlier ++ v :: later) Vocabulary.validate = .error error := by
  rw [List.forM_append, forM_validate_ok_iff.mpr valid, List.forM_cons, invalid]
  rfl

theorem agreed_error {controllers : List Controller} {earlier later : List Vocabulary}
    {v : Vocabulary} {error : Error} (valid : ∀ u ∈ earlier, u.validate = .ok ())
    (invalid : v.validate = .error error) :
    agreed controllers (earlier ++ v :: later) = .error error := by
  cases earlier with
  | nil =>
    rw [List.nil_append, agreed, invalid]
    rfl
  | cons ours others =>
    rw [List.forall_mem_cons] at valid
    rw [List.cons_append, agreed, valid.1, forM_validate_error valid.2 invalid]
    rfl

/-- Merging and checking succeeds exactly if some document carries a vocabulary and all those that
are carried are valid. Otherwise the error is that of the first invalid one, whether a merge or the
final check finds it. A merge that fails has assigned nothing. -/
theorem mergeChecked_exact (documents : List Environment) :
    ((∃ env, mergeChecked documents = .ok env) ↔
      vocabularies documents ≠ [] ∧ ∀ v ∈ vocabularies documents, v.validate = .ok ()) ∧
    (vocabularies documents = [] → mergeChecked documents = .error .missingVocabulary) ∧
    (∀ earlier v later, vocabularies documents = earlier ++ v :: later →
      (∀ u ∈ earlier, u.validate = .ok ()) → v.validate ≠ .ok () →
        mergeChecked documents = .error (.vocabularyMismatch v.unknownNames v.missingNames)) ∧
    (∀ env, mergeChecked documents = .ok env →
      env.controllers = documents.flatMap Environment.controllers ∧
        env.vocabulary = (vocabularies documents).head?) ∧
    ∀ env other,
      (∀ merged, env.merge other = .ok merged → (absorb other).run env = (.ok (), merged)) ∧
      ∀ error, env.merge other = .error error → (absorb other).run env = (.error error, env) := by
  rw [mergeChecked_eq]
  refine ⟨?_, ?_, ?_, ?_, ?_⟩
  · simp only [agreed_ok_iff]
    constructor
    · rintro ⟨env, carried, valid, -⟩
      exact ⟨carried, valid⟩
    · rintro ⟨carried, valid⟩
      exact ⟨_, carried, valid, rfl⟩
  · intro none
    rw [none, agreed]
  · intro earlier v later split valid invalid
    rw [split]
    exact agreed_error valid (Vocabulary.validate_error_iff.mpr ⟨invalid, rfl⟩)
  · intro env succeeded
    obtain ⟨-, -, rfl⟩ := agreed_ok_iff.mp succeeded
    exact ⟨rfl, rfl⟩
  · intro env other
    rw [run_absorb]
    constructor
    · intro merged succeeded
      rw [succeeded]
    · intro error failed
      rw [failed]

def refined : Vocabulary :=
  { Vocabulary.known with types := "refinement" :: Vocabulary.known.types }

/-- Alone the vocabulary passes the merge and is refused at the end; behind another one the merge
itself refuses it. -/
theorem mergeChecked_exact_refined :
    mergeAll [empty, ⟨some refined, []⟩] = .ok ⟨some refined, []⟩ ∧
      mergeChecked [empty, ⟨some refined, []⟩] = .error (.vocabularyMismatch ["refinement"] []) ∧
      (absorb ⟨some refined, []⟩).run ⟨some Vocabulary.known, []⟩ =
        (.error (.vocabularyMismatch ["refinement"] []), ⟨some Vocabulary.known, []⟩) := by
  have invalid : refined.validate = .error (.vocabularyMismatch ["refinement"] []) := rfl
  obtain ⟨-, -, refused, -, updates⟩ := mergeChecked_exact [empty, ⟨some refined, []⟩]
  refine ⟨rfl, refused [] refined [] rfl ?_ ?_, (updates _ _).2 _ rfl⟩
  · intro u nothing
    cases nothing
  · rw [invalid]
    intro impossible
    cases impossible

end RouteBindings.Environment
