import Mathlib.Data.List.Perm.Basic
import RouteBindings.Proofs.Document.Signatures
import RouteBindings.Proofs.Files.GlobOrder
import RouteBindings.Proofs.Signature.Merging

/-! The order in which signature documents are merged: argument by argument, and for a glob in the
order of its paths. Another order of the arguments makes no difference but in the order of what they
bring. -/

namespace RouteBindings

namespace Environment

/-- Vocabularies that can be merged. One alone is not looked at. -/
def Mergeable (vocabularies : List Vocabulary) : Prop :=
  vocabularies.length ≤ 1 ∨ ∀ v ∈ vocabularies, v.validate = .ok ()

theorem Mergeable.perm {vs ws : List Vocabulary} (mergeable : Mergeable vs) (perm : vs.Perm ws) :
    Mergeable ws :=
  mergeable.imp (fun few => perm.length_eq ▸ few) fun valid v member =>
    valid v (perm.mem_iff.mpr member)

theorem mergeable_cons_cons {ours theirs : Vocabulary} {rest : List Vocabulary} :
    Mergeable (ours :: theirs :: rest) ↔
      ours.validate = .ok () ∧ theirs.validate = .ok () ∧ Mergeable (ours :: rest) := by
  constructor
  · rintro (few | valid)
    · exact absurd few (by simp)
    · rw [List.forall_mem_cons, List.forall_mem_cons] at valid
      exact ⟨valid.1, valid.2.1, .inr (List.forall_mem_cons.mpr ⟨valid.1, valid.2.2⟩)⟩
  · rintro ⟨first, second, others⟩
    have rest_valid : ∀ v ∈ rest, v.validate = .ok () := by
      rcases others with few | valid
      · have none : rest = [] := by simpa using few
        simp [none]
      · exact (List.forall_mem_cons.mp valid).2
    exact .inr (List.forall_mem_cons.mpr ⟨first, List.forall_mem_cons.mpr ⟨second, rest_valid⟩⟩)

theorem foldlM_merge_ok_iff {documents : List Environment} {env result : Environment} :
    documents.foldlM merge env = .ok result ↔
      Mergeable (env.vocabulary.toList ++ vocabularies documents) ∧
        result = ⟨(env.vocabulary.toList ++ vocabularies documents).head?,
          env.controllers ++ documents.flatMap Environment.controllers⟩ := by
  induction documents generalizing env with
  | nil =>
    obtain ⟨vocabulary, controllers⟩ := env
    cases vocabulary <;> simp [vocabularies, Mergeable, pure, Except.pure, eq_comm]
  | cons document rest ih =>
    obtain ⟨vocabulary, controllers⟩ := env
    obtain ⟨carried, added⟩ := document
    rw [List.foldlM_cons, vocabularies_cons, List.flatMap_cons, ← List.append_assoc,
      ← List.append_assoc]
    cases carried with
    | none =>
      have merged : merge ⟨vocabulary, controllers⟩ ⟨none, added⟩ =
          .ok ⟨vocabulary, controllers ++ added⟩ := by
        cases vocabulary <;> rfl
      rw [merged, Option.toList_none, List.append_nil]
      exact ih
    | some theirs =>
      cases vocabulary with
      | none => exact ih
      | some ours =>
        change (ours.validate >>= fun _ => theirs.validate >>= fun _ =>
            Except.ok (⟨some ours, controllers ++ added⟩ : Environment)) >>=
          (fun env => rest.foldlM merge env) = _ ↔
            Mergeable (ours :: theirs :: vocabularies rest) ∧ _
        rw [mergeable_cons_cons]
        constructor
        · intro succeeded
          obtain ⟨merged, step, succeeded⟩ := bind_ok succeeded
          obtain ⟨_, first, step⟩ := bind_ok step
          obtain ⟨_, second, step⟩ := bind_ok step
          cases step
          obtain ⟨mergeable, same⟩ := ih.mp succeeded
          exact ⟨⟨first, second, mergeable⟩, same⟩
        · rintro ⟨⟨first, second, mergeable⟩, same⟩
          rw [first, second]
          exact ih.mpr ⟨mergeable, same⟩

/-- The documents are merged if their vocabularies can be, and what they hold comes in their
order. -/
theorem mergeAll_ok_iff {documents : List Environment} {env : Environment} :
    mergeAll documents = .ok env ↔
      Mergeable (vocabularies documents) ∧
        env = ⟨(vocabularies documents).head?, documents.flatMap Environment.controllers⟩ :=
  foldlM_merge_ok_iff

end Environment

namespace Sources

open Environment (Mergeable vocabularies)

variable {t : FileTree}

inductive StandsFor (t : FileTree) : String → List String → Prop
  | plain {pattern} : isGlob pattern = false → StandsFor t pattern [pattern]
  | glob {pattern glob} : isGlob pattern = true → Glob.parse pattern = .ok glob →
      globPaths t glob ≠ [] → StandsFor t pattern (globPaths t glob)

theorem pathsOf_eq_ok_iff {pattern : String} {paths : List String} :
    pathsOf t pattern = .ok paths ↔ StandsFor t pattern paths := by
  rw [pathsOf_ok_iff]
  constructor
  · rintro (⟨plain, rfl⟩ | ⟨isGlob, glob, parsed, rfl, some_⟩)
    · exact .plain plain
    · exact .glob isGlob parsed some_
  · intro stands
    cases stands with
    | plain plain => exact .inl ⟨plain, rfl⟩
    | glob isGlob parsed some_ => exact .inr ⟨isGlob, _, parsed, rfl, some_⟩

theorem resolved_eq_ok_iff {patterns paths : List String} :
    resolved t patterns = .ok paths ↔
      ∃ groups, List.Forall₂ (StandsFor t) patterns groups ∧ groups.flatten = paths := by
  rw [resolved_ok_iff]
  simp only [mapM_ok_iff, pathsOf_eq_ok_iff]

def IsOrderly (pattern : String) : Prop :=
  ∀ glob, isGlob pattern = true → Glob.parse pattern = .ok glob → Glob.Orderly glob.segments

theorem ascending_of_standsFor (wellNamed : t.WellNamed) {pattern : String} {paths : List String}
    (stands : StandsFor t pattern paths) (orderly : IsOrderly pattern) :
    paths.Pairwise Path.Before := by
  cases stands with
  | plain => exact List.pairwise_singleton _ _
  | glob isGlob parsed => exact Glob.ascending_globPaths wellNamed (orderly _ isGlob parsed)

theorem resolved_perm {patterns patterns' paths : List String} (perm : patterns.Perm patterns')
    (found : resolved t patterns = .ok paths) :
    ∃ paths', resolved t patterns' = .ok paths' ∧ paths.Perm paths' := by
  obtain ⟨groups, each, rfl⟩ := resolved_eq_ok_iff.mp found
  obtain ⟨groups', each', same⟩ := List.perm_comp_forall₂ perm.symm each
  exact ⟨groups'.flatten, resolved_eq_ok_iff.mpr ⟨groups', each', rfl⟩, same.symm.flatten⟩

theorem documents_perm {paths paths' : List String} {documents : List Environment}
    (perm : paths.Perm paths') (loadable : paths.mapM (document t) = .ok documents) :
    ∃ documents', paths'.mapM (document t) = .ok documents' ∧ documents.Perm documents' := by
  obtain ⟨documents', each, same⟩ := List.perm_comp_forall₂ perm.symm (mapM_ok_iff.mp loadable)
  exact ⟨documents', mapM_ok_iff.mpr each, same.symm⟩

theorem loadSignatures_eq_ok_iff {paths : List String} {documents : List Environment}
    (loadable : paths.mapM (document t) = .ok documents) (env : Environment) :
    Id.run (loadSignatures t.view paths) = .ok env ↔
      Mergeable (vocabularies documents) ∧
        env = ⟨(vocabularies documents).head?, documents.flatMap Environment.controllers⟩ := by
  rw [loadSignatures_ok_iff, ← Environment.mergeAll_ok_iff]
  simp [loadable]

structure MergedInOrder (t : FileTree) (patterns paths : List String)
    (documents : List Environment) : Prop where
  listed : ∃ groups, List.Forall₂ (StandsFor t) patterns groups ∧ groups.flatten = paths ∧
    (t.WellNamed → List.Forall₂ (fun pattern group =>
      IsOrderly pattern → group.Pairwise Path.Before) patterns groups)
  merged : ∀ env, Id.run (loadSignatures t.view paths) = .ok env ↔
    Mergeable (vocabularies documents) ∧
      env = ⟨(vocabularies documents).head?, documents.flatMap Environment.controllers⟩
  sorted : (paths.Pairwise Path.Before ∨
      t.WellNamed ∧ ∃ pattern, patterns = [pattern] ∧ IsOrderly pattern) →
    Id.run (loadSignatures t.view (paths.mergeSort Path.atMost)) =
      Id.run (loadSignatures t.view paths)
  permuted : ∀ patterns', patterns.Perm patterns' →
    ∃ paths', resolved t patterns' = .ok paths' ∧ paths.Perm paths' ∧
      ((∃ env, Id.run (loadSignatures t.view paths) = .ok env) ↔
        ∃ env, Id.run (loadSignatures t.view paths') = .ok env) ∧
      ∀ env env', Id.run (loadSignatures t.view paths) = .ok env →
        Id.run (loadSignatures t.view paths') = .ok env' →
        env.controllers.Perm env'.controllers

/-- Signature documents are merged in the order of the patterns that name them, the paths of an
orderly glob in order. So the documents of one orderly glob are merged in the order of their paths,
and so are all documents if their paths ascend as the patterns name them. Patterns in another order
name the same paths in another order; their documents can be merged as well, and bring the same
controllers in another order. -/
theorem signatures_in_order (t : FileTree) {patterns paths : List String}
    {documents : List Environment} (found : resolved t patterns = .ok paths)
    (loadable : paths.mapM (document t) = .ok documents) :
    MergedInOrder t patterns paths documents := by
  have merged := loadSignatures_eq_ok_iff loadable
  obtain ⟨groups, each, flat⟩ := resolved_eq_ok_iff.mp found
  refine ⟨⟨groups, each, flat, fun wellNamed => ?_⟩, merged, ?_, ?_⟩
  · exact each.imp fun pattern group stands orderly =>
      ascending_of_standsFor wellNamed stands orderly
  · rintro (ascending | ⟨wellNamed, pattern, rfl, orderly⟩)
    · rw [Path.mergeSort_atMost ascending]
    · cases each with
      | cons stands rest =>
        cases rest
        rw [List.flatten_singleton] at flat
        subst flat
        rw [Path.mergeSort_atMost (ascending_of_standsFor wellNamed stands orderly)]
  · intro patterns' perm
    obtain ⟨paths', found', paths_perm⟩ := resolved_perm perm found
    obtain ⟨documents', loadable', documents_perm⟩ := documents_perm paths_perm loadable
    have merged' := loadSignatures_eq_ok_iff loadable'
    have carried : (vocabularies documents).Perm (vocabularies documents') :=
      documents_perm.filterMap _
    refine ⟨paths', found', paths_perm, ?_, ?_⟩
    · simp only [merged, merged']
      constructor
      · rintro ⟨_, mergeable, -⟩
        exact ⟨_, mergeable.perm carried, rfl⟩
      · rintro ⟨_, mergeable, -⟩
        exact ⟨_, mergeable.perm carried.symm, rfl⟩
    · intro env env' loaded loaded'
      obtain ⟨-, rfl⟩ := (merged env).mp loaded
      obtain ⟨-, rfl⟩ := (merged' env').mp loaded'
      exact documents_perm.flatMap_right _

def bare (name : String) : Environment :=
  ⟨none, [⟨name, [], .empty⟩]⟩

def bareDocument (name : String) : Json :=
  .object [("controllers", .array [.object [("name", .string name)]])]

theorem ofDocument_bare (file name : String) :
    Environment.ofDocument file (bareDocument name).text = .ok (bare name) := by
  have reads : Read.Reads .streamed Read.environment (bareDocument name) (bare name) :=
    Read.reads_record _ (by decide : ["vocabulary", "controllers"].Nodup)
      (.skip rfl (.take (Read.reads_list (.cons
        (Read.reads_record _ (by decide : ["name", "actions", "methods"].Nodup)
          (.take (Read.reads_text name) (.skip rfl (.skip rfl .done)))) .nil)) .done))
  exact Read.document_text reads (fun n member => nomatch member) file

def bareFile (name : String) : Entry :=
  .file (some (bareDocument name).text)

def engines : FileTree :=
  ⟨.directory [("sig", .directory [("b.json", bareFile "B"), ("a.json", bareFile "A"),
    ("sub", .directory [("c.json", bareFile "C")])]), ("main.json", bareFile "M")], []⟩

theorem document_engines {path name : String}
    (read : engines.read path = .ok (bareDocument name).text) :
    document engines path = .ok (bare name) :=
  (document_of_read read).trans (ofDocument_bare path name)

/-- The documents of the glob are merged in the order of their paths, and before the last one, whose
path comes before theirs. -/
theorem signatures_in_order_engines :
    engines.WellNamed ∧ IsOrderly "sig/**/*.json" ∧
      resolved engines ["sig/**/*.json", "main.json"] =
        .ok ["sig/a.json", "sig/b.json", "sig/sub/c.json", "main.json"] ∧
      ["sig/a.json", "sig/b.json", "sig/sub/c.json", "main.json"].mapM (document engines) =
        .ok (["A", "B", "C", "M"].map bare) ∧
      MergedInOrder engines ["sig/**/*.json", "main.json"]
        ["sig/a.json", "sig/b.json", "sig/sub/c.json", "main.json"]
        (["A", "B", "C", "M"].map bare) := by
  have orderly : IsOrderly "sig/**/*.json" := by
    intro glob _ parsed
    have whole : Glob.parse "sig/**/*.json" = .ok ⟨false, [.name "sig", .directories,
      .wildcards [.anyChars, .char '.', .char 'j', .char 's', .char 'o', .char 'n']], false⟩ := rfl
    rw [whole] at parsed
    cases parsed
    decide
  have found : resolved engines ["sig/**/*.json", "main.json"] =
      .ok ["sig/a.json", "sig/b.json", "sig/sub/c.json", "main.json"] := rfl
  have loadable : ["sig/a.json", "sig/b.json", "sig/sub/c.json", "main.json"].mapM
      (document engines) = .ok (["A", "B", "C", "M"].map bare) :=
    mapM_ok_iff.mpr (.cons (document_engines rfl) (.cons (document_engines rfl)
      (.cons (document_engines rfl) (.cons (document_engines rfl) .nil))))
  exact ⟨by decide, orderly, found, loadable, signatures_in_order engines found loadable⟩

/-- Plain paths are not sorted: the documents come in the order in which they are named. -/
theorem signatures_as_named :
    Path.Before "sig/a.json" "sig/b.json" ∧
      resolved engines ["sig/b.json", "sig/a.json"] = .ok ["sig/b.json", "sig/a.json"] ∧
      (Id.run (loadSignatures engines.view ["sig/b.json", "sig/a.json"])).map
        (fun env => env.controllers.map Controller.name) = .ok ["B", "A"] ∧
      (Id.run (loadSignatures engines.view ["sig/a.json", "sig/b.json"])).map
        (fun env => env.controllers.map Controller.name) = .ok ["A", "B"] := by
  have a : document engines "sig/a.json" = .ok (bare "A") := document_engines rfl
  have b : document engines "sig/b.json" = .ok (bare "B") := document_engines rfl
  have backward : Id.run (loadSignatures engines.view ["sig/b.json", "sig/a.json"]) =
      .ok ⟨none, [⟨"B", [], .empty⟩, ⟨"A", [], .empty⟩]⟩ :=
    loadSignatures_ok_iff.mpr ⟨_, mapM_ok_iff.mpr (.cons b (.cons a .nil)), rfl⟩
  have forward : Id.run (loadSignatures engines.view ["sig/a.json", "sig/b.json"]) =
      .ok ⟨none, [⟨"A", [], .empty⟩, ⟨"B", [], .empty⟩]⟩ :=
    loadSignatures_ok_iff.mpr ⟨_, mapM_ok_iff.mpr (.cons a (.cons b .nil)), rfl⟩
  rw [backward, forward]
  exact ⟨by decide, rfl, rfl, rfl⟩

end Sources

end RouteBindings
