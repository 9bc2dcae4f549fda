import RouteBindings.Proofs.Route.Groups

namespace RouteBindings

namespace Route

/-- The route of this entry takes part under the name, for the verb, and refers to a signature. -/
def Binds (signatures : SignatureTable) (name verb : String) (entry : String × Route) : Prop :=
  entry.1 = name ∧ entry.2.verb = verb ∧ entry.2.Refers signatures

/-- The last route that binds the verb of the name refers to this signature. -/
def BoundLast (signatures : SignatureTable) (routes : List Route) (name verb : String)
    (signature : ActionSignature) : Prop :=
  ∃ before route after controller action,
    named routes = before ++ (name, route) :: after ∧ route.verb = verb ∧
    route.controller = some controller ∧ route.action = some action ∧
    signatures.get? controller action = some signature ∧
    ∀ entry ∈ after, ¬ Binds signatures name verb entry

instance (signatures : SignatureTable) : DecidablePred (Refers signatures) :=
  fun _ => decidable_of_iff _ (Option.isSome_iff_exists.trans Aggregation.refers_iff.symm)

/-- The verbs of a name in the order of the routes that bind them, one for each of these routes. -/
def boundVerbs (signatures : SignatureTable) (routes : List Route) (name : String) :
    List String :=
  ((named routes).filter fun entry => entry.1 = name ∧ entry.2.Refers signatures).map
    fun entry => entry.2.verb

end Route

namespace Aggregation

variable {signatures : SignatureTable} {routes : List Route}

structure BindsVerbs (signatures : SignatureTable) (routes : List Route) (resource : Resource) :
    Prop where
  bound : ∀ verb, verb ∈ resource.verbs.keys ↔
    ∃ entry ∈ Route.named routes, Route.Binds signatures resource.name verb entry
  last : ∀ verb signature, resource.verbs.get? verb = some signature ↔
    Route.BoundLast signatures routes resource.name verb signature
  ordered : resource.verbs.keys = (Route.boundVerbs signatures routes resource.name).eraseDups
  once : resource.verbs.keys.Nodup

def given? (signatures : SignatureTable) (name verb : String) (entry : String × Route) :
    Option ActionSignature :=
  if entry.1 = name ∧ entry.2.verb = verb then signature? signatures entry.2 else none

theorem given?_eq_none_iff {name verb : String} {entry : String × Route} :
    given? signatures name verb entry = none ↔ ¬ Route.Binds signatures name verb entry := by
  unfold given? Route.Binds
  rw [refers_iff, ← Option.isSome_iff_exists, ← Option.not_isSome_iff_eq_none]
  split <;> simp_all

theorem bound_members (name : String) :
    bound signatures (Route.members routes name) =
      (Route.named routes).filterMap fun entry =>
        if entry.1 = name then (signature? signatures entry.2).map (entry.2.verb, ·) else none := by
  rw [bound, Route.members, List.filterMap_map, List.filterMap_filter]
  simp only [decide_eq_true_eq, Function.comp_apply]

theorem verbs_bound (name : String) :
    (bound signatures (Route.members routes name)).map Prod.fst =
      Route.boundVerbs signatures routes name := by
  rw [bound_members, List.map_filterMap, Route.boundVerbs, ← List.filterMap_eq_filter,
    List.map_filterMap]
  refine List.filterMap_congr fun entry _ => ?_
  have refers : entry.2.Refers signatures ↔
      ∃ signature, signature? signatures entry.2 = some signature := refers_iff
  cases found : signature? signatures entry.2 <;> simp_all [Option.guard]

theorem signature_bound (name verb : String) :
    (((bound signatures (Route.members routes name)).filter fun row => row.1 = verb).getLast?).map
        Prod.snd =
      (Route.named routes).reverse.findSome? (given? signatures name verb) := by
  rw [bound_members, List.filter_filterMap, ← List.getLast?_map, List.map_filterMap,
    List.getLast?_filterMap]
  congr 1
  funext entry
  unfold given?
  cases signature? signatures entry.2 <;> by_cases entry.1 = name <;>
    by_cases entry.2.verb = verb <;> simp_all [Option.filter]

theorem findSome?_given_iff {name verb : String} {signature : ActionSignature} :
    (Route.named routes).reverse.findSome? (given? signatures name verb) = some signature ↔
      Route.BoundLast signatures routes name verb signature := by
  rw [List.findSome?_eq_some_iff]
  constructor
  · rintro ⟨later, ⟨own, route⟩, earlier, split, gives, rest⟩
    unfold given? at gives
    split at gives
    · rename_i same
      obtain ⟨rfl, same⟩ := same
      obtain ⟨controller, action, hc, ha, found⟩ := get?_of_signature gives
      refine ⟨earlier.reverse, route, later.reverse, controller, action, ?_, same, hc, ha, found, ?_⟩
      · rw [← List.reverse_inj, split]
        simp
      · intro entry member
        exact given?_eq_none_iff.mp (rest entry (List.mem_reverse.mp member))
    · cases gives
  · rintro ⟨before, route, after, controller, action, split, same, hc, ha, found, rest⟩
    refine ⟨after.reverse, (name, route), before.reverse, ?_, ?_, ?_⟩
    · rw [split]
      simp
    · rw [given?, if_pos ⟨rfl, same⟩, signature?, hc, ha]
      exact found
    · intro entry member
      exact given?_eq_none_iff.mpr (rest entry (List.mem_reverse.mp member))

theorem verbs_resource {resource : Resource}
    (member : resource ∈ (ofRoutes routes signatures).resources) :
    resource.verbs = verbs signatures (Route.members routes resource.name) := by
  have made := mem_resources.mp member
  rcases resourceOf_cases signatures routes resource.name with ⟨-, nothing⟩ | ⟨_, -, -, built⟩
  · cases nothing.symm.trans made
  · rw [← Option.some.inj (built.symm.trans made)]

theorem mem_boundVerbs {name verb : String} :
    verb ∈ Route.boundVerbs signatures routes name ↔
      ∃ entry ∈ Route.named routes, Route.Binds signatures name verb entry := by
  simp only [Route.boundVerbs, List.mem_map, List.mem_filter, decide_eq_true_eq, Route.Binds]
  constructor
  · rintro ⟨entry, ⟨listed, entitled, refers⟩, same⟩
    exact ⟨entry, listed, entitled, same, refers⟩
  · rintro ⟨entry, listed, entitled, same, refers⟩
    exact ⟨entry, ⟨listed, entitled, refers⟩, same⟩

theorem keys_resource {resource : Resource}
    (member : resource ∈ (ofRoutes routes signatures).resources) :
    resource.verbs.keys = (Route.boundVerbs signatures routes resource.name).eraseDups := by
  rw [verbs_resource member, verbs_eq, ← verbs_bound]
  exact Table.keys_foldl_put Prod.fst (fun _ row => row.2) _

theorem mem_keys_resource {resource : Resource} {verb : String}
    (member : resource ∈ (ofRoutes routes signatures).resources) :
    verb ∈ resource.verbs.keys ↔
      ∃ entry ∈ Route.named routes, Route.Binds signatures resource.name verb entry := by
  rw [keys_resource member, List.mem_eraseDups, mem_boundVerbs]

/-- A resource binds the verbs for which a route of its name refers to a signature. Of several such
routes for one verb the last decides, and the verbs stand in the order in which they were first
bound. -/
theorem bindsVerbs_of_mem {resource : Resource}
    (member : resource ∈ (ofRoutes routes signatures).resources) :
    BindsVerbs signatures routes resource where
  bound := fun _ => mem_keys_resource member
  last := by
    intro verb signature
    rw [verbs_resource member, get?_verbs, signature_bound, findSome?_given_iff]
  ordered := keys_resource member
  once := resource.verbs.distinct

/-- `GET` is bound twice; the third route for it refers to nothing. -/
def rebound : List Route :=
  let index : Route :=
    { verb := "GET", name := some "widgets", parts := [], controller := some "widgets",
      action := some "index", internal := false, engine := false, pattern := .literal "/widgets" }
  [index, { index with verb := "POST", action := some "create" },
    { index with action := some "list" }, { index with action := some "lost" }]

def reboundSignatures : SignatureTable :=
  (["index", "create", "list"].map fun action => ⟨"widgets", action, "\x7b\x7d", "void"⟩).foldl
    SignatureTable.insert .empty

theorem bindsVerbs_of_mem_rebound :
    ∃ resource ∈ (ofRoutes rebound reboundSignatures).resources,
      resource.verbs.get? "GET" = some ⟨"widgets", "list", "\x7b\x7d", "void"⟩ ∧
      resource.verbs.keys = ["GET", "POST"] := by
  have made : (ofRoutes rebound reboundSignatures).resources =
      [⟨"widgets", [], .literal "/widgets", verbs reboundSignatures rebound⟩] := rfl
  have member := made ▸ List.mem_singleton_self _
  have binds := bindsVerbs_of_mem member
  refine ⟨_, member, (binds.last _ _).mpr ?_, binds.ordered.trans rfl⟩
  refine ⟨(Route.named rebound).take 2, rebound[2], (Route.named rebound).drop 3, "widgets", "list",
    rfl, rfl, rfl, rfl, rfl, ?_⟩
  intro entry later
  obtain rfl := List.mem_singleton.mp later
  rw [← given?_eq_none_iff]
  rfl

end Aggregation

end RouteBindings
