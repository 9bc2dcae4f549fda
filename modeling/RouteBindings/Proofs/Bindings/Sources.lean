import RouteBindings.Bindings.Sources
import RouteBindings.Proofs.Error
import RouteBindings.Proofs.Log

namespace RouteBindings.Sources

variable {t : FileTree}

def pathsOf (t : FileTree) (pattern : String) : Except SourceFault (List String) :=
  Id.run (resolveOne t.view pattern)

def resolved (t : FileTree) (patterns : List String) : Except SourceFault (List String) :=
  Id.run (resolve t.view patterns)

def document (t : FileTree) (path : String) : Except Error Environment := do
  let text ← (t.read path).mapError (.file path)
  Environment.ofDocument path text

theorem document_of_read {path text : String} (read : t.read path = .ok text) :
    document t path = Environment.ofDocument path text := by
  rw [document, read]
  rfl

def routeTable (t : FileTree) (path : String) : Except Error (List Route) := do
  let text ← (t.read path).mapError (.file path)
  Route.ofDocument path text

def globPaths (t : FileTree) (glob : Glob) : List String :=
  Id.run (glob.paths t.view)

theorem pathsOf_ok_iff {pattern : String} {paths : List String} :
    pathsOf t pattern = .ok paths ↔
      (isGlob pattern = false ∧ paths = [pattern]) ∨
        isGlob pattern = true ∧ ∃ glob, Glob.parse pattern = .ok glob ∧
          globPaths t glob = paths ∧ paths ≠ [] := by
  unfold pathsOf resolveOne
  cases isGlob pattern with
  | false =>
    change Except.ok [pattern] = Except.ok paths ↔ _
    simp [eq_comm]
  | true =>
    cases Glob.parse pattern with
    | error fault =>
      change Except.error (SourceFault.badPattern fault) = Except.ok paths ↔ _
      simp
    | ok glob =>
      change (if (globPaths t glob).isEmpty then Except.error (SourceFault.noMatch pattern)
        else Except.ok (globPaths t glob)) = Except.ok paths ↔ _
      cases found : globPaths t glob with
      | nil => simp [found, eq_comm]
      | cons path others =>
        constructor
        · intro same
          cases same
          exact .inr ⟨rfl, glob, rfl, found, List.cons_ne_nil _ _⟩
        · rintro (⟨wrong, -⟩ | ⟨-, _, same, rfl, -⟩)
          · cases wrong
          · cases same
            rw [found]
            rfl

theorem resolved_cons (pattern : String) (rest : List String) :
    resolved t (pattern :: rest) = match pathsOf t pattern with
      | .error fault => .error fault
      | .ok paths =>
        match resolved t rest with
        | .error fault => .error fault
        | .ok others => .ok (paths ++ others) :=
  rfl

/-- The patterns are resolved one by one, in their order. -/
theorem resolved_eq (patterns : List String) :
    resolved t patterns = (patterns.mapM (pathsOf t)).map List.flatten := by
  induction patterns with
  | nil => rfl
  | cons pattern rest ih =>
    rw [resolved_cons, ih, List.mapM_cons]
    cases pathsOf t pattern with
    | error => rfl
    | ok paths => cases rest.mapM (pathsOf t) <;> rfl

theorem resolved_ok_iff {patterns paths : List String} :
    resolved t patterns = .ok paths ↔
      ∃ groups, patterns.mapM (pathsOf t) = .ok groups ∧ groups.flatten = paths := by
  rw [resolved_eq]
  cases patterns.mapM (pathsOf t) <;> simp [Except.map]

theorem runs_readText (path : String) :
    Logged.Runs (readText t.view path) [] ((t.read path).mapError (.file path)) :=
  (Logged.runs_lift (t.read path)).bind (Logged.runs_except _)

/-- What is logged of the documents has no part in the environment that they are merged to. -/
theorem yields_loadOnto (env : Environment) (paths : List String) :
    Logged.Yields (loadOnto t.view env paths)
      (paths.foldlM (fun env path => document t path >>= env.merge) env) := by
  induction paths generalizing env with
  | nil => exact ⟨[], Logged.runs_pure env⟩
  | cons path rest ih =>
    rw [List.foldlM_cons, document, bind_assoc, bind_assoc]
    apply Logged.Yields.bind ⟨[], runs_readText path⟩
    intro text
    apply Logged.Yields.bind ⟨[], Logged.runs_except _⟩
    intro part
    apply Logged.Yields.behind
    exact Logged.Yields.bind ⟨[], Logged.runs_except _⟩ ih

theorem yields_loadSignatures (paths : List String) :
    Logged.Yields (loadOnto t.view .empty paths) (Id.run (loadSignatures t.view paths)) := by
  rw [loadSignatures, (yields_loadOnto .empty paths).result_eq]
  exact yields_loadOnto .empty paths

theorem yields_loadTable (path : String) :
    Logged.Yields (loadTable t.view path) (routeTable t path) := by
  apply Logged.Yields.bind ⟨[], runs_readText path⟩
  intro text
  exact Logged.Yields.followed ⟨[], Logged.runs_except _⟩ _

/-- Loading succeeds if each document does by itself and all of them can be merged. -/
theorem loadSignatures_ok_iff {paths : List String} {env : Environment} :
    Id.run (loadSignatures t.view paths) = .ok env ↔
      ∃ documents, paths.mapM (document t) = .ok documents ∧
        Environment.mergeAll documents = .ok env := by
  rw [loadSignatures, (yields_loadOnto .empty paths).result_eq, foldlM_bind_ok_iff]
  rfl

end RouteBindings.Sources
