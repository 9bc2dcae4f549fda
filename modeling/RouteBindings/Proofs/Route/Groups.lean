import Mathlib.Data.List.Basic
import RouteBindings.Proofs.Route.Resource

namespace RouteBindings

namespace Route

/-- The names under which routes take part, in the order in which they first come. -/
def names (routes : List Route) : List String :=
  ((named routes).map Prod.fst).eraseDups

def members (routes : List Route) (name : String) : List Route :=
  ((named routes).filter fun entry => entry.1 = name).map Prod.snd

/-- No route takes part under the name before this one. -/
def IsFirst (routes : List Route) (name : String) (first : Route) : Prop :=
  ∃ before after, named routes = before ++ (name, first) :: after ∧
    ∀ entry ∈ before, entry.1 ≠ name

def Refers (signatures : SignatureTable) (route : Route) : Prop :=
  ∃ controller action signature, route.controller = some controller ∧
    route.action = some action ∧ signatures.get? controller action = some signature

def Bound (signatures : SignatureTable) (routes : List Route) (name : String) : Prop :=
  ∃ route, (name, route) ∈ named routes ∧ route.Refers signatures

def Requires (route : Route) (address : String × String) : Prop :=
  route.controller = some address.1 ∧ route.action = some address.2

theorem mem_members {routes : List Route} {name : String} {route : Route} :
    route ∈ members routes name ↔ (name, route) ∈ named routes := by
  rw [members, List.mem_map]
  constructor
  · rintro ⟨⟨own, route⟩, member, rfl⟩
    obtain ⟨listed, same⟩ := List.mem_filter.mp member
    obtain rfl : own = name := of_decide_eq_true same
    exact listed
  · intro listed
    exact ⟨(name, route), List.mem_filter.mpr ⟨listed, decide_eq_true rfl⟩, rfl⟩

theorem mem_names {routes : List Route} {name : String} :
    name ∈ names routes ↔ ∃ route, (name, route) ∈ named routes := by
  rw [names, List.mem_eraseDups, List.mem_map]
  constructor
  · rintro ⟨⟨name, route⟩, listed, rfl⟩
    exact ⟨route, listed⟩
  · rintro ⟨route, listed⟩
    exact ⟨(name, route), listed, rfl⟩

theorem exists_members {routes : List Route} {name : String} (known : name ∈ names routes) :
    ∃ first rest, members routes name = first :: rest := by
  obtain ⟨route, listed⟩ := mem_names.mp known
  exact List.exists_cons_of_ne_nil (List.ne_nil_of_mem (mem_members.mpr listed))

theorem isFirst_of_members {routes : List Route} {name : String} {first : Route}
    {rest : List Route} (split : members routes name = first :: rest) :
    IsFirst routes name first := by
  rw [members, List.map_eq_cons_iff] at split
  obtain ⟨⟨own, route⟩, others, split, rfl, -⟩ := split
  obtain ⟨before, after, whole, absent, same, -⟩ := List.filter_eq_cons_iff.mp split
  obtain rfl : own = name := of_decide_eq_true same
  exact ⟨before, after, whole, fun entry member same => absent entry member (decide_eq_true same)⟩

theorem Bound.known {signatures : SignatureTable} {routes : List Route} {name : String}
    (bound : Bound signatures routes name) : name ∈ names routes := by
  obtain ⟨route, listed, -⟩ := bound
  exact mem_names.mpr ⟨route, listed⟩

end Route

namespace Aggregation

theorem keys_groups (routes : List Route) :
    (groups (Route.named routes)).keys = Route.names routes :=
  Table.keys_foldl_put Prod.fst (fun t entry => (t.get? entry.1).getD [] ++ [entry.2]) _

theorem rows_groups (routes : List Route) :
    (groups (Route.named routes)).rows =
      (Route.names routes).map fun name => (name, Route.members routes name) := by
  rw [Table.rows_eq _ [], keys_groups]
  simp only [getD_groups, Route.members]

theorem distinct_names (routes : List Route) : (Route.names routes).Nodup := by
  rw [← keys_groups]
  exact (groups (Route.named routes)).distinct

variable {signatures : SignatureTable}

theorem refers_iff {route : Route} :
    route.Refers signatures ↔ ∃ signature, signature? signatures route = some signature := by
  constructor
  · rintro ⟨controller, action, signature, hc, ha, found⟩
    rw [signature?, hc, ha]
    exact ⟨signature, found⟩
  · rintro ⟨signature, found⟩
    obtain ⟨controller, action, hc, ha, found⟩ := get?_of_signature found
    exact ⟨controller, action, signature, hc, ha, found⟩

theorem signature?_congr {s t : SignatureTable} {route : Route} {address : String × String}
    (same : ∀ key other, (key, other) ≠ address → t.get? key other = s.get? key other)
    (free : ¬ route.Requires address) :
    signature? t route = signature? s route := by
  unfold signature?
  split
  · rename_i controller action hc ha
    apply same
    intro e
    exact free ⟨hc.trans (congrArg (some ·.1) e), ha.trans (congrArg (some ·.2) e)⟩
  · rfl

theorem verbs_ne_nil_iff {members : List Route} :
    (verbs signatures members).rows ≠ [] ↔ ∃ route ∈ members, route.Refers signatures := by
  constructor
  · intro nonempty
    obtain ⟨⟨verb, signature⟩, row⟩ := List.exists_mem_of_ne_nil _ nonempty
    obtain ⟨route, member, -, found⟩ :=
      exists_route_of_verb (Table.get?_eq_some_iff.mpr row)
    exact ⟨route, member, refers_iff.mpr ⟨signature, found⟩⟩
  · rintro ⟨route, member, refers⟩
    obtain ⟨signature, found⟩ := refers_iff.mp refers
    have row : (route.verb, signature) ∈ bound signatures members :=
      List.mem_filterMap.mpr ⟨route, member, by rw [found]; rfl⟩
    have key : route.verb ∈ (verbs signatures members).keys := by
      rw [verbs_eq, Table.ofRows, Table.keys_foldl_put Prod.fst fun _ row => row.2,
        List.mem_eraseDups]
      exact List.mem_map_of_mem row
    obtain ⟨bound, present, -⟩ := List.mem_map.mp key
    exact List.ne_nil_of_mem present

def resourceOf (signatures : SignatureTable) (routes : List Route) (name : String) :
    Option Resource :=
  resource? signatures (name, Route.members routes name)

variable {routes : List Route}

theorem resourceOf_name {name : String} {resource : Resource}
    (made : resourceOf signatures routes name = some resource) : resource.name = name :=
  (resource_of_group made).1

theorem resourceOf_cases (signatures : SignatureTable) (routes : List Route) (name : String) :
    (¬ Route.Bound signatures routes name ∧ resourceOf signatures routes name = none) ∨
      ∃ first, Route.Bound signatures routes name ∧ Route.IsFirst routes name first ∧
        resourceOf signatures routes name = some ⟨name, first.parts, first.pattern,
          verbs signatures (Route.members routes name)⟩ := by
  have bound : Route.Bound signatures routes name ↔
      (verbs signatures (Route.members routes name)).rows ≠ [] := by
    simp only [verbs_ne_nil_iff, Route.mem_members, Route.Bound]
  cases split : Route.members routes name with
  | nil =>
    refine .inl ⟨?_, by rw [resourceOf, split, resource?]⟩
    rw [bound, split]
    exact fun nonempty => nonempty rfl
  | cons first rest =>
    rw [bound, resourceOf, split]
    by_cases empty : (verbs signatures (first :: rest)).rows = []
    · exact .inl ⟨fun nonempty => nonempty empty, by simp [resource?, empty]⟩
    · exact .inr ⟨first, empty, Route.isFirst_of_members split, by simp [resource?, empty]⟩

theorem resourceOf_isSome {name : String} :
    (resourceOf signatures routes name).isSome = true ↔ Route.Bound signatures routes name := by
  rcases resourceOf_cases signatures routes name with ⟨unbound, nothing⟩ | ⟨first, bound, -, made⟩
  · rw [nothing, Option.isSome_none]
    exact ⟨fun made => absurd made Bool.false_ne_true, fun bound => absurd bound unbound⟩
  · rw [made, Option.isSome_some]
    exact ⟨fun _ => bound, fun _ => rfl⟩

/-- The resource depends only on the signatures that the routes of the name refer to. -/
theorem resourceOf_congr {s t : SignatureTable} {name : String}
    (same : ∀ route, (name, route) ∈ Route.named routes → signature? t route = signature? s route) :
    resourceOf t routes name = resourceOf s routes name := by
  have verbs : verbs t (Route.members routes name) = verbs s (Route.members routes name) := by
    rw [verbs_eq, verbs_eq, bound, bound]
    congr 1
    apply List.filterMap_congr
    intro route member
    rw [same route (Route.mem_members.mp member)]
  rw [resourceOf, resourceOf]
  cases members : Route.members routes name with
  | nil => rfl
  | cons first rest =>
    rw [members] at verbs
    rw [resource?, resource?, verbs]

theorem resources_eq :
    (ofRoutes routes signatures).resources =
      (Route.names routes).filterMap (resourceOf signatures routes) := by
  rw [resources_ofRoutes, rows_groups, List.filterMap_map]
  rfl

theorem names_resources :
    (ofRoutes routes signatures).resources.map Resource.name =
      (Route.names routes).filter fun name => (resourceOf signatures routes name).isSome := by
  rw [resources_eq, List.map_filterMap, ← List.filterMap_eq_filter]
  apply List.filterMap_congr
  intro name _
  cases made : resourceOf signatures routes name with
  | none => rw [Option.map_none, Option.guard, made, Option.isSome_none, if_neg Bool.false_ne_true]
  | some resource =>
    rw [Option.map_some, resourceOf_name made, Option.guard, made, Option.isSome_some, if_pos rfl]

theorem nodup_names (routes : List Route) :
    ((ofRoutes routes signatures).resources.map Resource.name).Nodup := by
  rw [names_resources]
  exact (distinct_names routes).filter _

theorem omitted_eq :
    (ofRoutes routes signatures).omitted =
      ((Route.names routes).filter fun name =>
        !(resourceOf signatures routes name).isSome).map noVerb := by
  rw [omitted_ofRoutes, rows_groups, List.filterMap_map, ← List.filterMap_eq_filter,
    List.map_filterMap]
  apply List.filterMap_congr
  intro name known
  obtain ⟨first, rest, split⟩ := Route.exists_members known
  rw [Function.comp_apply, Option.guard, resourceOf, split, omission?, resource?]
  split <;> simp

theorem omitted_of_none {name : String} (known : name ∈ Route.names routes)
    (nothing : resourceOf signatures routes name = none) :
    noVerb name ∈ (ofRoutes routes signatures).omitted := by
  rw [omitted_eq]
  refine List.mem_map_of_mem (List.mem_filter.mpr ⟨known, ?_⟩)
  rw [nothing]
  rfl

theorem mem_resources {resource : Resource} :
    resource ∈ (ofRoutes routes signatures).resources ↔
      resourceOf signatures routes resource.name = some resource := by
  rw [resources_eq, List.mem_filterMap]
  constructor
  · rintro ⟨name, -, made⟩
    rwa [resourceOf_name made]
  · intro made
    have bound := resourceOf_isSome.mp (Option.isSome_iff_exists.mpr ⟨resource, made⟩)
    exact ⟨resource.name, bound.known, made⟩

theorem find?_resources (name : String) :
    (ofRoutes routes signatures).resources.find? (·.name = name) =
      resourceOf signatures routes name := by
  cases found : (ofRoutes routes signatures).resources.find? (·.name = name) with
  | some resource =>
    have same := List.find?_some found
    simp only [decide_eq_true_eq] at same
    rw [← same, mem_resources.mp (List.mem_of_find?_eq_some found)]
  | none =>
    cases made : resourceOf signatures routes name with
    | none => rfl
    | some resource =>
      have same := resourceOf_name made
      subst same
      have apart := List.find?_eq_none.mp found resource (mem_resources.mpr made)
      exact absurd (decide_eq_true rfl) apart

end Aggregation

end RouteBindings
