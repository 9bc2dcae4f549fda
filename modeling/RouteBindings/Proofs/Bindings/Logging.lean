import RouteBindings.Bindings.Generation
import RouteBindings.Proofs.Log
import RouteBindings.Proofs.Route.Groups
import RouteBindings.Proofs.Signature.Collection

/-! What is logged while bindings are made has no part in them. The warnings are the reports of the
run: one for each action that is skipped, and then one for each name that is omitted. -/

namespace RouteBindings

open Logged (Runs Yields)

namespace LogEvent

def warnings (events : List LogEvent) : List LogEvent :=
  events.filter fun event => event.level = .warn

theorem warnings_append (first second : List LogEvent) :
    warnings (first ++ second) = warnings first ++ warnings second :=
  List.filter_append first second

theorem warnings_flatMap {α : Type} (items : List α) (events : α → List LogEvent) :
    warnings (items.flatMap events) = items.flatMap fun a => warnings (events a) :=
  List.filter_flatMap

end LogEvent

open LogEvent (warnings warnings_append warnings_flatMap)

namespace Collection

theorem runs_takeAction (controller : Controller) (c : Collection) (action : String) :
    Runs (takeAction controller c action) (actionEvents controller action)
      (addAction controller c action) := by
  have runs : Runs (takeAction controller c action) (actionEvents controller action ++ [])
      (addAction controller c action) := .behind _ (Logged.runs_except _)
  rwa [List.append_nil] at runs

theorem yields_collect (env : Environment) : Yields (collect env) (ofEnvironment env) := by
  apply Yields.bind ⟨[], Logged.runs_except env.validate⟩
  intro _
  apply Yields.followed
  apply Logged.yields_foldlM
  intro c controller
  apply Logged.yields_foldlM
  intro c action
  exact ⟨_, runs_takeAction controller c action⟩

theorem runs_takeController (c : Collection) (controller : Controller) :
    Runs (takeController c controller) (controller.actions.flatMap (actionEvents controller))
      (addController c controller) := by
  have passed := addController_eq c controller
  rw [passed]
  exact Logged.runs_foldlM (runs_takeAction controller) passed

/-- Over a valid environment every action is logged, in the order of the controllers. -/
theorem runs_collect {env : Environment} (valid : env.validate = .ok ()) {c : Collection}
    (made : ofEnvironment env = .ok c) :
    Runs (collect env)
      (env.occurrences.flatMap (fun o => actionEvents o.controller o.action) ++ [done c])
      (.ok c) := by
  have listed : env.occurrences.flatMap (fun o => actionEvents o.controller o.action) =
      env.controllers.flatMap fun controller =>
        controller.actions.flatMap (actionEvents controller) := by
    simp only [Environment.occurrences, List.flatMap_assoc, List.flatMap_map]
  rw [ofEnvironment, valid] at made
  rw [listed, collect, valid]
  have each := Logged.runs_foldlM runs_takeController made
  exact (Logged.runs_except (.ok ())).bind (each.bind ((Logged.runs_log (done c)).bind
    (Logged.runs_pure c)))

theorem warnings_actionEvents (o : Occurrence) :
    warnings (actionEvents o.controller o.action) = o.diagnostic?.toList.map skipping := by
  simp only [actionEvents, Occurrence.diagnostic?, Occurrence.outcome, Occurrence.key]
  cases outcome : convert o.controller (Names.controllerKey o.controller.name) o.action with
  | error error =>
    have skipped := recoverable_convert _ _ _ error outcome
    dsimp only
    rw [if_pos skipped]
    rfl
  | ok signature => cases signature <;> rfl

theorem warnings_occurrences {env : Environment} (valid : env.validate = .ok ()) {c : Collection}
    (made : ofEnvironment env = .ok c) :
    warnings (env.occurrences.flatMap fun o => actionEvents o.controller o.action) =
      c.diagnostics.map skipping := by
  rw [ofEnvironment_eq valid] at made
  cases made
  rw [warnings_flatMap, List.filterMap_eq_flatMap_toList, List.map_flatMap]
  exact List.flatMap_congr fun o _ => warnings_actionEvents o

end Collection

namespace Aggregation

variable {signatures : SignatureTable}

theorem dropping_level (last : Option (String × Route)) (route : Route) :
    (Route.dropping last route).level = .debug := by
  unfold Route.dropping
  cases last <;> rfl

theorem warnings_droppingsFrom (last : Option (String × Route)) (routes : List Route) :
    warnings (Route.droppingsFrom last routes) = [] := by
  induction routes generalizing last with
  | nil => rfl
  | cons route rest ih =>
    unfold Route.droppingsFrom
    split
    · exact ih last
    · split
      · rw [warnings, List.filter_cons, dropping_level]
        exact ih last
      · exact ih _

theorem warnings_verbEvents (name : String) (members : List Route) :
    warnings (members.flatMap (verbEvents signatures name)) = [] := by
  rw [warnings_flatMap, List.flatMap_eq_nil_iff]
  intro route _
  unfold verbEvents
  split
  · split <;> rfl
  · rfl

/-- What is warned of are the names that are omitted. -/
theorem warnings_events (routes : List Route) (signatures : SignatureTable) :
    ∃ names : List String, (ofRoutes routes signatures).omitted = names.map noVerb ∧
      warnings (events routes signatures) = names.map omitting := by
  refine ⟨_, omitted_eq, ?_⟩
  have each : ∀ name ∈ Route.names routes,
      warnings (groupEvents signatures (name, Route.members routes name)) =
        (Option.guard (fun name => !(resourceOf signatures routes name).isSome) name).toList.map
          omitting := by
    intro name known
    obtain ⟨first, rest, split⟩ := Route.exists_members known
    rw [Option.guard, resourceOf, split, groupEvents, warnings_append, warnings_verbEvents,
      resource?]
    cases (verbs signatures (first :: rest)).rows.isEmpty <;> rfl
  unfold events
  rw [warnings_append, warnings_append, warnings_droppingsFrom, rows_groups, warnings_flatMap,
    List.flatMap_map, ← List.filterMap_eq_filter, List.filterMap_eq_flatMap_toList,
    List.map_flatMap]
  exact (List.append_nil _).trans (List.flatMap_congr each)

end Aggregation

namespace Generated

theorem yields_generate (env : Environment) (routes : List Route) :
    Yields (generate env routes) (ofEnvironment env routes) := by
  apply (Collection.yields_collect env).bind
  intro collection
  apply Yields.behind
  exact Yields.behind [_] ⟨[], Logged.runs_pure _⟩

/-- Making the bindings warns of every action that it skips, and then of every name that it omits,
and of nothing else. -/
theorem warnings_generate {env : Environment} {routes : List Route} {g : Generated}
    (made : ofEnvironment env routes = .ok g) :
    ∃ (events : List LogEvent) (names : List String), Runs (generate env routes) events (.ok g) ∧
      g.omitted = names.map Aggregation.noVerb ∧ warnings events =
        g.diagnostics.map Collection.skipping ++ names.map Aggregation.omitting := by
  obtain ⟨c, collected, gathered⟩ := bind_ok made
  obtain ⟨⟨⟩, valid, -⟩ := bind_ok collected
  cases gathered
  obtain ⟨names, omitted, warned⟩ := Aggregation.warnings_events routes c.signatures
  have runs : Runs (generate env routes) _ (.ok (ofCollection c routes)) :=
    (Collection.runs_collect valid collected).bind
      (.behind (Aggregation.events routes c.signatures)
        (.behind [(ofCollection c routes).made] (Logged.runs_pure (ofCollection c routes))))
  refine ⟨_, names, runs, omitted, ?_⟩
  have done : warnings [Collection.done c] = [] := rfl
  have finished : warnings [(ofCollection c routes).made] = [] := rfl
  simp only [warnings_append, Collection.warnings_occurrences valid collected, warned, done,
    finished, List.append_nil]
  rfl

end Generated

end RouteBindings
