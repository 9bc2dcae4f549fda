import RouteBindings.Bindings.Generation
import RouteBindings.Proofs.Route.Resource
import RouteBindings.Proofs.Signature.Collection

namespace RouteBindings

namespace Text

/-- The line stands in the text from its beginning or the end of another line up to its own end. -/
def HasLine (text line : String) : Prop :=
  ∃ before after, text = before ++ line ++ "\n" ++ after ∧
    (before = "" ∨ ∃ earlier, before = earlier ++ "\n")

variable {α : Type} (line : α → String)

theorem join_lines_ends (items : List α) :
    String.join (items.map fun a => line a ++ "\n") = "" ∨
      ∃ earlier, String.join (items.map fun a => line a ++ "\n") = earlier ++ "\n" := by
  induction items using List.reverseRecOn with
  | nil => exact .inl rfl
  | append_singleton items a _ =>
    refine .inr ⟨String.join (items.map fun a => line a ++ "\n") ++ line a, ?_⟩
    rw [List.map_append, String.join_append, List.map_singleton, String.join_cons,
      String.join_nil, String.append_empty, String.append_assoc]

theorem hasLine_join {items : List α} {a : α} (member : a ∈ items) :
    HasLine (String.join (items.map fun a => line a ++ "\n")) (line a) := by
  obtain ⟨before, after, rfl⟩ := List.append_of_mem member
  refine ⟨_, String.join (after.map fun a => line a ++ "\n"), ?_, join_lines_ends line before⟩
  rw [List.map_append, String.join_append, List.map_cons, String.join_cons, String.append_assoc,
    String.append_assoc, String.append_assoc]

end Text

namespace ActionSignature

def paramsDeclaration (s : ActionSignature) : String :=
  "type " ++ s.paramsAlias ++ " = " ++ s.paramsType

def returnDeclaration (s : ActionSignature) : String :=
  "type " ++ s.returnAlias ++ " = Exclude<" ++ s.returnType ++ ", void>"

end ActionSignature

namespace SignatureTable

theorem paramsBlock_eq (t : SignatureTable) :
    t.paramsBlock = String.join (t.toList.map fun s => s.paramsDeclaration ++ "\n") :=
  rfl

theorem returnsBlock_eq (t : SignatureTable) :
    t.returnsBlock = String.join (t.toList.map fun s => s.returnDeclaration ++ "\n") := by
  have ending : ", void>\n" = ", void>" ++ "\n" := by decide
  simp only [returnsBlock, ActionSignature.returnDeclaration, ending, String.append_assoc]

end SignatureTable

namespace Resource

def objectType (name : String) (aliases : List (String × String)) : String :=
  "  " ++ name ++ "?: \x7b\n" ++
    String.intercalate ",\n" (aliases.map fun (verb, used) => "    " ++ verb ++ ": " ++ used) ++
    "\n" ++ "  \x7d\n"

def aliases (resource : Resource) (aliasOf : ActionSignature → String) :
    List (String × String) :=
  resource.verbs.rows.map fun row => (row.1, aliasOf row.2)

theorem verbProperties_eq (resource : Resource) (aliasOf : ActionSignature → String) :
    resource.verbProperties aliasOf =
      String.intercalate ",\n"
        ((resource.aliases aliasOf).map fun (verb, used) => "    " ++ verb ++ ": " ++ used) := by
  rw [verbProperties, aliases, List.map_map]
  rfl

def heading (resource : Resource) : String :=
  "export const " ++ resource.exportName ++ " = \x7b\n" ++
  "  path: " ++ resource.pattern.pathFunction resource.names ++ ",\n" ++
  "  names: [" ++ Text.commaQuoted resource.names ++ "]\n" ++
  "\x7d as \x7b\n" ++
  "  path: (args: any) => string\n" ++
  "  names: [" ++ Text.commaQuoted resource.names ++ "]\n" ++
  "  Methods?: " ++ resource.methods ++ "\n"

theorem text_eq (resource : Resource) :
    resource.text = resource.heading ++
      objectType "Params" (resource.aliases ActionSignature.paramsAlias) ++
      objectType "Return" (resource.aliases ActionSignature.returnAlias) ++ "\x7d\n" := by
  have params : "  Params?: \x7b\n" = "  " ++ ("Params" ++ "?: \x7b\n") := by decide
  have returns : "  Return?: \x7b\n" = "  " ++ ("Return" ++ "?: \x7b\n") := by decide
  unfold text heading objectType
  rw [params, returns]
  -- the literals of the object types must not be joined again
  simp only [-String.reduceAppend, verbProperties_eq, String.append_assoc]

theorem verbs_aliases (resource : Resource) (aliasOf : ActionSignature → String) :
    (resource.aliases aliasOf).map Prod.fst = resource.verbs.keys := by
  rw [aliases, List.map_map]
  rfl

theorem mem_aliases {resource : Resource} {aliasOf : ActionSignature → String}
    {verb used : String} :
    (verb, used) ∈ resource.aliases aliasOf ↔
      ∃ signature, resource.verbs.get? verb = some signature ∧ used = aliasOf signature := by
  rw [aliases, List.mem_map]
  constructor
  · rintro ⟨⟨verb, signature⟩, row, same⟩
    obtain ⟨rfl, rfl⟩ := Prod.mk.inj same
    exact ⟨signature, Table.get?_eq_some_iff.mpr row, rfl⟩
  · rintro ⟨signature, binds, rfl⟩
    exact ⟨(verb, signature), Table.get?_eq_some_iff.mp binds, rfl⟩

end Resource

namespace Generated

def ofValid (env : Environment) (routes : List Route) : Generated :=
  let signatures := SignatureTable.ofList env.converted
  let aggregation := Aggregation.ofRoutes routes signatures
  { text := fileText signatures aggregation.resources
    signatures := signatures
    resources := aggregation.resources
    diagnostics := env.occurrences.filterMap Occurrence.diagnostic?
    omitted := aggregation.omitted }

theorem ofEnvironment_of_valid {env : Environment} (valid : env.validate = .ok ())
    (routes : List Route) : ofEnvironment env routes = .ok (ofValid env routes) := by
  rw [ofEnvironment, Collection.ofEnvironment_eq valid]
  rfl

theorem exists_ofEnvironment {env : Environment} (valid : env.validate = .ok ())
    (routes : List Route) : ∃ g, ofEnvironment env routes = .ok g :=
  ⟨_, ofEnvironment_of_valid valid routes⟩

theorem eq_ofValid {env : Environment} {routes : List Route} {g : Generated}
    (made : ofEnvironment env routes = .ok g) : g = ofValid env routes := by
  obtain ⟨c, collected, -⟩ := bind_ok made
  obtain ⟨valid, validated, -⟩ := bind_ok collected
  rw [ofEnvironment_of_valid validated] at made
  exact (Except.ok.inj made).symm

theorem ofEnvironment_eq {env : Environment} {routes : List Route} {g : Generated}
    (made : ofEnvironment env routes = .ok g) :
    g.signatures = .ofList env.converted ∧
      g.resources = (Aggregation.ofRoutes routes g.signatures).resources ∧
      g.text = fileText g.signatures g.resources := by
  rw [eq_ofValid made]
  exact ⟨rfl, rfl, rfl⟩

theorem fileText_eq (signatures : SignatureTable) (resources : List Resource) :
    fileText signatures resources = signatures.paramsBlock ++ "\n" ++
      (signatures.returnsBlock ++ "\n" ++ Resource.block resources) := by
  rw [fileText, String.intercalate_cons_cons, String.intercalate_cons_cons,
    String.intercalate_singleton]

/-- The aliases of every resource are declared, with the types of the signature that was collected
for what a route under the name of the resource refers to. -/
theorem declares_aliases {env : Environment} {routes : List Route} {g : Generated}
    (made : ofEnvironment env routes = .ok g) :
    g.text = g.signatures.paramsBlock ++ "\n" ++
      (g.signatures.returnsBlock ++ "\n" ++ String.join (g.resources.map Resource.text)) ∧
    ∀ resource ∈ g.resources,
      resource.text = resource.heading ++
        Resource.objectType "Params" (resource.aliases ActionSignature.paramsAlias) ++
        Resource.objectType "Return" (resource.aliases ActionSignature.returnAlias) ++ "\x7d\n" ∧
      (resource.aliases ActionSignature.paramsAlias).map Prod.fst = resource.verbs.keys ∧
      (resource.aliases ActionSignature.returnAlias).map Prod.fst = resource.verbs.keys ∧
      ∀ verb p r, (verb, p) ∈ resource.aliases ActionSignature.paramsAlias →
        (verb, r) ∈ resource.aliases ActionSignature.returnAlias →
        ∃ (route : Route) (controller action : String) (signature : ActionSignature),
          (resource.name, route) ∈ Route.named routes ∧ route.verb = verb ∧
          route.controller = some controller ∧ route.action = some action ∧
          g.signatures.get? controller action = some signature ∧
          (∃ o ∈ env.occurrences, o.address = (controller, action) ∧ o.Projects signature) ∧
          Text.HasLine g.signatures.paramsBlock ("type " ++ p ++ " = " ++ signature.paramsType) ∧
          Text.HasLine g.signatures.returnsBlock
            ("type " ++ r ++ " = Exclude<" ++ signature.returnType ++ ", void>") := by
  obtain ⟨signatures, resources, text⟩ := ofEnvironment_eq made
  refine ⟨text.trans (fileText_eq _ _), fun resource member => ?_⟩
  refine ⟨resource.text_eq, resource.verbs_aliases _, resource.verbs_aliases _, ?_⟩
  intro verb p r inParams inReturns
  obtain ⟨signature, binds, rfl⟩ := Resource.mem_aliases.mp inParams
  obtain ⟨same, bindsSame, rfl⟩ := Resource.mem_aliases.mp inReturns
  obtain rfl : signature = same := Option.some.inj (binds.symm.trans bindsSame)
  rw [resources] at member
  obtain ⟨route, named, rfl, found⟩ := Aggregation.exists_route_of_resource member binds
  obtain ⟨controller, action, hc, ha, found⟩ := Aggregation.get?_of_signature found
  refine ⟨route, controller, action, signature, named, rfl, hc, ha, found, ?_⟩
  rw [signatures] at found ⊢
  obtain ⟨o, occurs, address, projects⟩ := Environment.exists_occurrence found
  have listed : signature ∈ (SignatureTable.ofList env.converted).toList := by
    obtain ⟨rfl, rfl⟩ := Prod.mk.inj (SignatureTable.address_of_get? found)
    exact SignatureTable.mem_toList_iff.mpr found
  refine ⟨⟨o, occurs, address, projects⟩, ?_, ?_⟩
  · rw [SignatureTable.paramsBlock_eq]
    exact Text.hasLine_join ActionSignature.paramsDeclaration listed
  · rw [SignatureTable.returnsBlock_eq]
    exact Text.hasLine_join ActionSignature.returnDeclaration listed

def widgets : Environment where
  vocabulary := some Vocabulary.known
  controllers := [
    ⟨"WidgetsController", ["index"],
      .ofRows [("index", ⟨[⟨[], none, ⟨[], .base .void⟩⟩]⟩)]⟩]

def widgetsRoute : Route where
  verb := "GET"
  name := some "widgets"
  parts := []
  controller := some "widgets"
  action := some "index"
  internal := false
  engine := false
  pattern := .literal "/widgets"

theorem declares_aliases_widgets :
    ∃ g, ofEnvironment widgets [widgetsRoute] = .ok g ∧ ∃ resource ∈ g.resources,
      ("GET", "WidgetsIndexParams") ∈ resource.aliases ActionSignature.paramsAlias ∧
      Text.HasLine g.signatures.paramsBlock "type WidgetsIndexParams = \x7b\x7d" ∧
      Text.HasLine g.signatures.returnsBlock "type WidgetsIndexReturn = Exclude<void, void>" := by
  have valid : widgets.validate = .ok () := rfl
  obtain ⟨g, made⟩ := exists_ofEnvironment valid [widgetsRoute]
  obtain ⟨signatures, resources, -⟩ := ofEnvironment_eq made
  have aliases : g.resources.map (fun resource => (resource.aliases ActionSignature.paramsAlias,
      resource.aliases ActionSignature.returnAlias)) =
      [([("GET", "WidgetsIndexParams")], [("GET", "WidgetsIndexReturn")])] := by
    rw [resources, signatures]
    decide +kernel
  obtain ⟨resource, only, aliases⟩ := List.map_eq_singleton_iff.mp aliases
  obtain ⟨params, returns⟩ := Prod.mk.inj aliases
  have member : resource ∈ g.resources := by simp [only]
  obtain ⟨-, declared⟩ := declares_aliases made
  obtain ⟨-, -, -, declared⟩ := declared resource member
  rw [params, returns] at declared
  obtain ⟨route, controller, action, signature, named, -, hc, ha, found, -, lines⟩ :=
    declared "GET" _ _ (List.mem_singleton_self _) (List.mem_singleton_self _)
  obtain ⟨-, rfl⟩ := Prod.mk.inj (List.mem_singleton.mp named)
  cases hc
  cases ha
  have collected : g.signatures.get? "widgets" "index" =
      some ⟨"widgets", "index", "\x7b\x7d", "void"⟩ := by
    rw [signatures]
    decide +kernel
  obtain rfl := Option.some.inj (found.symm.trans collected)
  refine ⟨g, made, resource, member, ?_, lines⟩
  rw [params]
  exact List.mem_singleton_self _

end Generated

end RouteBindings
