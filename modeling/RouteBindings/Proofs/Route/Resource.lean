import RouteBindings.Proofs.Table.Puts
import RouteBindings.Route.Resource

namespace RouteBindings.Aggregation

theorem getD_groups (routes : List (String × Route)) (name : String) :
    ((groups routes).get? name).getD [] =
      (routes.filter fun entry => entry.1 = name).map Prod.snd := by
  induction routes using List.reverseRecOn with
  | nil => rfl
  | append_singleton routes entry ih =>
    rw [groups] at ih ⊢
    rw [List.foldl_append, List.foldl_cons, List.foldl_nil, Table.get?_put, List.filter_append,
      List.map_append, ← ih]
    by_cases same : entry.1 = name
    · simp [same]
    · have apart : name ≠ entry.1 := fun e => same e.symm
      simp [same, apart]

theorem members_of_group {routes : List (String × Route)} {name : String} {members : List Route}
    (group : (name, members) ∈ (groups routes).rows) :
    members = (routes.filter fun entry => entry.1 = name).map Prod.snd := by
  rw [← getD_groups, Table.get?_eq_some_iff.mpr group, Option.getD_some]

variable (signatures : SignatureTable)

def bound (members : List Route) : List (String × ActionSignature) :=
  members.filterMap fun route => (signature? signatures route).map (route.verb, ·)

theorem verbs_eq (members : List Route) :
    verbs signatures members = .ofRows (bound signatures members) := by
  rw [verbs, Table.ofRows, bound, List.foldl_filterMap]
  congr 1
  funext t route
  cases signature? signatures route <;> rfl

theorem get?_verbs (members : List Route) (verb : String) :
    (verbs signatures members).get? verb =
      (((bound signatures members).filter fun row => row.1 = verb).getLast?).map Prod.snd := by
  rw [verbs_eq]
  exact Table.get?_foldl_put Prod.fst Prod.snd (bound signatures members) verb

variable {signatures}

theorem exists_route_of_verb {members : List Route} {verb : String} {signature : ActionSignature}
    (binds : (verbs signatures members).get? verb = some signature) :
    ∃ route ∈ members, route.verb = verb ∧ signature? signatures route = some signature := by
  rw [get?_verbs] at binds
  obtain ⟨row, last, rfl⟩ := Option.map_eq_some_iff.mp binds
  obtain ⟨member, same⟩ := List.mem_filter.mp (List.mem_of_getLast? last)
  obtain ⟨route, inside, paired⟩ := List.mem_filterMap.mp member
  obtain ⟨found, known, rfl⟩ := Option.map_eq_some_iff.mp paired
  exact ⟨route, inside, of_decide_eq_true same, known⟩

theorem get?_of_signature {route : Route} {signature : ActionSignature}
    (found : signature? signatures route = some signature) :
    ∃ controller action, route.controller = some controller ∧ route.action = some action ∧
      signatures.get? controller action = some signature := by
  unfold signature? at found
  split at found
  · rename_i controller action hc ha
    exact ⟨controller, action, hc, ha, found⟩
  · cases found

variable (signatures)

def resource? : String × List Route → Option Resource
  | (_, []) => none
  | (name, first :: rest) =>
    let verbs := verbs signatures (first :: rest)
    if verbs.rows.isEmpty then none else some ⟨name, first.parts, first.pattern, verbs⟩

def omission? : String × List Route → Option Diagnostic
  | (_, []) => none
  | (name, first :: rest) =>
    if (verbs signatures (first :: rest)).rows.isEmpty then some (noVerb name) else none

theorem addGroup_eq (a : Aggregation) (group : String × List Route) :
    addGroup signatures a group =
      ⟨a.resources ++ (resource? signatures group).toList,
        a.omitted ++ (omission? signatures group).toList⟩ := by
  obtain ⟨name, members⟩ := group
  cases members with
  | nil => simp [addGroup, resource?, omission?]
  | cons first rest =>
    simp only [addGroup, resource?, omission?]
    split <;> simp

theorem foldl_addGroup (rows : List (String × List Route)) (a : Aggregation) :
    rows.foldl (addGroup signatures) a =
      ⟨a.resources ++ rows.filterMap (resource? signatures),
        a.omitted ++ rows.filterMap (omission? signatures)⟩ := by
  induction rows generalizing a with
  | nil => simp
  | cons group rest ih =>
    rw [List.foldl_cons, ih, addGroup_eq, List.append_assoc, List.append_assoc]
    cases made : resource? signatures group <;> cases left : omission? signatures group <;>
      simp [made, left]

theorem resources_ofRoutes (routes : List Route) :
    (ofRoutes routes signatures).resources =
      (groups (Route.named routes)).rows.filterMap (resource? signatures) :=
  congrArg Aggregation.resources (foldl_addGroup signatures _ ⟨[], []⟩)

theorem omitted_ofRoutes (routes : List Route) :
    (ofRoutes routes signatures).omitted =
      (groups (Route.named routes)).rows.filterMap (omission? signatures) :=
  congrArg Aggregation.omitted (foldl_addGroup signatures _ ⟨[], []⟩)

variable {signatures}

theorem resource_of_group {group : String × List Route} {resource : Resource}
    (made : resource? signatures group = some resource) :
    resource.name = group.1 ∧ resource.verbs = verbs signatures group.2 := by
  obtain ⟨name, members⟩ := group
  cases members with
  | nil => cases made
  | cons first rest =>
    simp only [resource?] at made
    split at made
    · cases made
    · cases made
      exact ⟨rfl, rfl⟩

/-- A verb is bound through a route that takes part under the name of the resource. -/
theorem exists_route_of_resource {routes : List Route} {resource : Resource} {verb : String}
    {signature : ActionSignature} (member : resource ∈ (ofRoutes routes signatures).resources)
    (binds : resource.verbs.get? verb = some signature) :
    ∃ route, (resource.name, route) ∈ Route.named routes ∧ route.verb = verb ∧
      signature? signatures route = some signature := by
  rw [resources_ofRoutes] at member
  obtain ⟨⟨name, members⟩, group, made⟩ := List.mem_filterMap.mp member
  obtain ⟨named, verbs⟩ := resource_of_group made
  rw [verbs] at binds
  obtain ⟨route, inside, same, found⟩ := exists_route_of_verb binds
  rw [members_of_group group] at inside
  obtain ⟨entry, listed, rfl⟩ := List.mem_map.mp inside
  obtain ⟨listed, entitled⟩ := List.mem_filter.mp listed
  have entitled : entry.1 = resource.name := (of_decide_eq_true entitled).trans named.symm
  exact ⟨entry.2, entitled ▸ listed, same, found⟩

end RouteBindings.Aggregation
