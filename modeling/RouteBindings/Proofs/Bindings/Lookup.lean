import RouteBindings.Proofs.Bindings.Declarations
import RouteBindings.Proofs.Route.Groups

namespace RouteBindings

/-- What aggregation owes to the names of a route table: some are bound, the others are reported as
omitted, and both stand in the order of the table. -/
structure Aggregation.Partitions (routes : List Route) (signatures : SignatureTable)
    (a : Aggregation) (omitted : List String) : Prop where
  reported : a.omitted.map Diagnostic.subject = omitted.map fun name => "route `" ++ name ++ "`"
  whole : (a.resources.map Resource.name ++ omitted).Perm (Route.names routes)
  once : (a.resources.map Resource.name ++ omitted).Nodup
  boundOrdered : (a.resources.map Resource.name).Sublist (Route.names routes)
  omittedOrdered : omitted.Sublist (Route.names routes)
  unbound : ∀ name ∈ Route.names routes,
    name ∈ omitted ↔ ¬ Route.Bound signatures routes name
  described : ∀ resource ∈ a.resources, ∃ first, Route.IsFirst routes resource.name first ∧
    resource.names = first.parts ∧ resource.pattern = first.pattern

theorem Aggregation.partitions_ofRoutes (routes : List Route) (signatures : SignatureTable) :
    ∃ omitted, (ofRoutes routes signatures).Partitions routes signatures omitted := by
  have whole := List.filter_append_perm
    (fun name => (resourceOf signatures routes name).isSome) (Route.names routes)
  rw [← names_resources] at whole
  exact ⟨_, {
    reported := by
      rw [omitted_eq, List.map_map]
      rfl
    whole := whole
    once := whole.nodup_iff.mpr (distinct_names routes)
    boundOrdered := by
      rw [names_resources]
      exact List.filter_sublist
    omittedOrdered := List.filter_sublist
    unbound := by
      intro name known
      rw [List.mem_filter, Bool.not_eq_true', ← Bool.not_eq_true, resourceOf_isSome]
      exact and_iff_right known
    described := by
      intro resource member
      rcases resourceOf_cases signatures routes resource.name with
        ⟨-, nothing⟩ | ⟨first, -, isFirst, made⟩
      · cases nothing.symm.trans (mem_resources.mp member)
      · have same := Option.some.inj (made.symm.trans (mem_resources.mp member))
        exact ⟨first, isFirst, by rw [← same], by rw [← same]⟩ }⟩

namespace Generated

theorem resource?_eq {env : Environment} {routes : List Route} {g : Generated}
    (made : ofEnvironment env routes = .ok g) (name : String) :
    g.resource? name = Aggregation.resourceOf g.signatures routes name := by
  rw [resource?, (ofEnvironment_eq made).2.1, Aggregation.find?_resources]

/-- The names under which routes take part are divided between the resources and the reports of
omitted routes. A name that has a resource has the path of the first route under it, any other name
has none. -/
theorem names_divided (routes : List Route) :
    (∀ signatures, ∃ omitted,
      (Aggregation.ofRoutes routes signatures).Partitions routes signatures omitted) ∧
    ∀ env g, ofEnvironment env routes = .ok g → ∀ name params,
      (g.evaluate? name params = none ↔ ¬ Route.Bound g.signatures routes name) ∧
      (Route.Bound g.signatures routes name → ∃ first, Route.IsFirst routes name first ∧
        g.evaluate? name params = some (first.pattern.evaluate params)) := by
  refine ⟨Aggregation.partitions_ofRoutes routes, ?_⟩
  intro env g made name params
  rw [evaluate?, resource?_eq made]
  rcases Aggregation.resourceOf_cases g.signatures routes name with
    ⟨unbound, nothing⟩ | ⟨first, bound, isFirst, found⟩
  · rw [nothing]
    exact ⟨⟨fun _ => unbound, fun _ => rfl⟩, fun bound => absurd bound unbound⟩
  · rw [found]
    refine ⟨⟨fun impossible => ?_, fun unbound => absurd bound unbound⟩, fun _ => ?_⟩
    · cases impossible
    · exact ⟨first, isFirst, rfl⟩

/-- The first route of the name binds nothing, and the route that binds a verb has another
pattern. -/
def scattered : List Route := [
  { widgetsRoute with controller := none, pattern := .literal "/first" },
  { widgetsRoute with name := some "health", action := some "show" },
  { widgetsRoute with verb := "POST" }]

theorem named_scattered :
    Route.named scattered = [
      ("widgets", { widgetsRoute with controller := none, pattern := .literal "/first" }),
      ("health", { widgetsRoute with name := some "health", action := some "show" }),
      ("widgets", { widgetsRoute with verb := "POST" })] :=
  rfl

theorem names_divided_scattered :
    ∃ g, ofEnvironment widgets scattered = .ok g ∧
      g.evaluate? "widgets" .empty = some (.ok "/first") ∧ g.evaluate? "health" .empty = none := by
  have valid : widgets.validate = .ok () := rfl
  obtain ⟨g, made⟩ := exists_ofEnvironment valid scattered
  have lookup := (names_divided scattered).2 widgets g made
  refine ⟨g, made, ?_, (lookup "health" .empty).1.mpr ?_⟩
  · have collected : g.signatures.get? "widgets" "index" =
        some ⟨"widgets", "index", "\x7b\x7d", "void"⟩ := by
      rw [(ofEnvironment_eq made).1]
      decide +kernel
    have listed : ("widgets", { widgetsRoute with verb := "POST" }) ∈ Route.named scattered := by
      simp [named_scattered]
    obtain ⟨first, ⟨before, after, split, absent⟩, path⟩ :=
      (lookup "widgets" .empty).2 ⟨_, listed, _, _, _, rfl, rfl, collected⟩
    rw [named_scattered] at split
    cases before with
    | nil =>
      cases split
      exact path
    | cons entry before =>
      obtain ⟨rfl, -⟩ := List.cons.inj split
      exact absurd rfl (absent _ List.mem_cons_self)
  · have missing : g.signatures.get? "widgets" "show" = none := by
      rw [(ofEnvironment_eq made).1]
      decide +kernel
    rintro ⟨route, listed, controller, action, signature, hc, ha, found⟩
    simp only [named_scattered, List.mem_cons, Prod.mk.injEq, List.not_mem_nil, or_false] at listed
    rcases listed with ⟨other, -⟩ | ⟨-, rfl⟩ | ⟨other, -⟩
    · exact absurd other (by decide)
    · cases hc
      cases ha
      cases missing.symm.trans found
    · exact absurd other (by decide)

end Generated

end RouteBindings
