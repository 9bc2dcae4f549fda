import RouteBindings.Proofs.Bindings.Lookup
import RouteBindings.Proofs.Signature.Replacement

/-! One action concerns only itself. Two environments that declare different methods for one action
of one controller give the same signature to every other action, the same reports of all other
occurrences, and the same resource to every name of which no route requires that action. -/

namespace RouteBindings

namespace Generated

structure Emits (g : Generated) (resource : Resource) : Prop where
  found : g.resource? resource.name = some resource
  written : ∃ earlier later, g.resources = earlier ++ resource :: later ∧
    g.text = g.signatures.paramsBlock ++ "\n" ++ (g.signatures.returnsBlock ++ "\n" ++
      (Resource.block earlier ++ (resource.text ++ Resource.block later)))

structure Omits (g : Generated) (name : String) : Prop where
  reported : Aggregation.noVerb name ∈ g.omitted
  absent : g.resource? name = none

variable {env : Environment} {routes : List Route} {g : Generated}

theorem reports_eq (made : ofEnvironment env routes = .ok g) :
    g.diagnostics = Controller.reports env.controllers ∧
      g.omitted = (Aggregation.ofRoutes routes g.signatures).omitted := by
  rw [eq_ofValid made]
  exact ⟨Environment.filterMap_occurrences _ env, rfl⟩

theorem emits_of_resourceOf (made : ofEnvironment env routes = .ok g) {name : String}
    {resource : Resource}
    (bound : Aggregation.resourceOf g.signatures routes name = some resource) :
    resource.name = name ∧ g.Emits resource := by
  obtain ⟨-, resources, text⟩ := ofEnvironment_eq made
  have own := Aggregation.resourceOf_name bound
  subst own
  have member : resource ∈ g.resources := by
    rw [resources]
    exact Aggregation.mem_resources.mpr bound
  obtain ⟨earlier, later, split⟩ := List.append_of_mem member
  refine ⟨rfl, (resource?_eq made _).trans bound, earlier, later, split, ?_⟩
  rw [text, fileText_eq, split, Resource.block, List.map_append, String.join_append, List.map_cons,
    String.join_cons]
  rfl

theorem omits_of_none (made : ofEnvironment env routes = .ok g) {name : String}
    (known : name ∈ Route.names routes)
    (nothing : Aggregation.resourceOf g.signatures routes name = none) : g.Omits name := by
  refine ⟨?_, (resource?_eq made name).trans nothing⟩
  rw [(reports_eq made).2]
  exact Aggregation.omitted_of_none known nothing

structure Spares (routes : List Route) (address : String × String) (g h : Generated) : Prop where
  signatures : ∀ key other, (key, other) ≠ address →
    h.signatures.get? key other = g.signatures.get? key other
  groups : ∀ name ∈ Route.names routes,
    (∀ route, (name, route) ∈ Route.named routes → ¬ route.Requires address) →
      (∃ resource, resource.name = name ∧ g.Emits resource ∧ h.Emits resource) ∨
        (g.Omits name ∧ h.Omits name)

theorem spares_of_signatures {env other : Environment} {h : Generated}
    (made : ofEnvironment env routes = .ok g) (remade : ofEnvironment other routes = .ok h)
    {address : String × String}
    (same : ∀ key other, (key, other) ≠ address →
      h.signatures.get? key other = g.signatures.get? key other) :
    Spares routes address g h := by
  refine ⟨same, fun name known free => ?_⟩
  have kept : Aggregation.resourceOf h.signatures routes name =
      Aggregation.resourceOf g.signatures routes name :=
    Aggregation.resourceOf_congr fun route listed =>
      Aggregation.signature?_congr same (free route listed)
  cases bound : Aggregation.resourceOf g.signatures routes name with
  | none =>
    have omits := omits_of_none remade known (kept.trans bound)
    exact .inr ⟨omits_of_none made known bound, omits⟩
  | some resource =>
    obtain ⟨own, emits⟩ := emits_of_resourceOf made bound
    exact .inl ⟨resource, own, emits, (emits_of_resourceOf remade (kept.trans bound)).2⟩

/-- If one controller declares another method for one action, both runs succeed, every other action
keeps its signature, all reports but those of the action in this controller stay the same and where
they stand, and every name of which no route requires the action keeps its resource with its text or
stays omitted. -/
theorem replaced_method_spares {vocabulary : Option Vocabulary} {before after : List Controller}
    {c d : Controller} {action : String} (agrees : c.AgreesBesides action d)
    (valid : Environment.validate ⟨vocabulary, before ++ c :: after⟩ = .ok ())
    (routes : List Route) :
    ∃ g h, ofEnvironment ⟨vocabulary, before ++ c :: after⟩ routes = .ok g ∧
      ofEnvironment ⟨vocabulary, before ++ d :: after⟩ routes = .ok h ∧
      Spares routes (Names.controllerKey c.name, action) g h ∧
      g.diagnostics = Controller.reports before ++ c.actions.filterMap c.report? ++
        Controller.reports after ∧
      h.diagnostics = Controller.reports before ++ c.actions.filterMap d.report? ++
        Controller.reports after ∧
      ∀ other, other ≠ action → d.report? other = c.report? other := by
  have validAgain : Environment.validate ⟨vocabulary, before ++ d :: after⟩ = .ok () := valid
  obtain ⟨g, made⟩ := exists_ofEnvironment valid routes
  obtain ⟨h, remade⟩ := exists_ofEnvironment validAgain routes
  refine ⟨g, h, made, remade, spares_of_signatures made remade ?_, ?_, ?_, ?_⟩
  · intro key other apart
    rw [(ofEnvironment_eq made).1, (ofEnvironment_eq remade).1]
    exact Environment.get?_converted_congr agrees apart
  · rw [(reports_eq made).1]
    simp only [Controller.reports, List.flatMap_append, List.flatMap_cons, List.append_assoc]
  · rw [(reports_eq remade).1, ← agrees.actions]
    simp only [Controller.reports, List.flatMap_append, List.flatMap_cons, List.append_assoc]
  · intro other apart
    exact agrees.report apart

def twoActions : Controller where
  name := "WidgetsController"
  actions := ["index", "show"]
  methods := .ofRows [
    ("index", ⟨[⟨[], none, ⟨[], .base .void⟩⟩]⟩), ("show", ⟨[⟨[], none, ⟨[], .base .void⟩⟩]⟩)]

def oneBroken : Controller :=
  { twoActions with methods := twoActions.methods.put "show" ⟨[]⟩ }

theorem replaced_method_spares_index :
    ∃ g h, ofEnvironment ⟨some Vocabulary.known, [twoActions]⟩ [widgetsRoute] = .ok g ∧
      ofEnvironment ⟨some Vocabulary.known, [oneBroken]⟩ [widgetsRoute] = .ok h ∧
      h.signatures.get? "widgets" "index" = g.signatures.get? "widgets" "index" ∧
      (∃ resource, resource.name = "widgets" ∧ g.Emits resource ∧ h.Emits resource) ∧
      g.diagnostics = [] ∧ h.diagnostics.map Diagnostic.subject = ["WidgetsController#show"] := by
  have agrees : twoActions.AgreesBesides "show" oneBroken := by
    refine ⟨rfl, rfl, fun other apart => ?_⟩
    rw [oneBroken, Table.get?_put, if_neg apart]
  have key : Names.controllerKey twoActions.name = "widgets" := by decide +kernel
  have valid : Environment.validate ⟨some Vocabulary.known, [] ++ [twoActions]⟩ = .ok () := rfl
  obtain ⟨g, h, made, remade, ⟨signatures, groups⟩, reports, rereports, -⟩ :=
    replaced_method_spares agrees valid [widgetsRoute]
  rw [key] at signatures groups
  have named : Route.named [widgetsRoute] = [("widgets", widgetsRoute)] := rfl
  have listed : ("widgets", widgetsRoute) ∈ Route.named [widgetsRoute] := by simp [named]
  refine ⟨g, h, made, remade, signatures _ _ (by decide), ?_, ?_, ?_⟩
  · have free : ∀ route, ("widgets", route) ∈ Route.named [widgetsRoute] →
        ¬ route.Requires ("widgets", "show") := by
      intro route member required
      obtain ⟨-, rfl⟩ := Prod.mk.inj (List.mem_singleton.mp member)
      exact absurd required.2 (by decide)
    rcases groups "widgets" (Route.mem_names.mpr ⟨_, listed⟩) free with emitted | ⟨omits, -⟩
    · exact emitted
    · have collected : g.signatures.get? "widgets" "index" =
          some ⟨"widgets", "index", "\x7b\x7d", "void"⟩ := by
        rw [(ofEnvironment_eq made).1]
        decide +kernel
      have bound : Route.Bound g.signatures [widgetsRoute] "widgets" :=
        ⟨_, listed, _, _, _, rfl, rfl, collected⟩
      have found := Aggregation.resourceOf_isSome.mpr bound
      rw [← resource?_eq made, omits.absent, Option.isSome_none] at found
      exact absurd found Bool.false_ne_true
  · rw [reports]
    decide +kernel
  · rw [rereports]
    decide +kernel

end Generated

end RouteBindings
