import RouteBindings.Proofs.Bindings.Declarations
import RouteBindings.Proofs.Pattern.Script
import RouteBindings.Proofs.Route.VerbBinding
import RouteBindings.Proofs.Text.Property

/-! The verbs in the text of a resource: the union of its methods quotes them, and the object types
of its parameters and of what it returns have them as keys, as they stand. All three lists are the
same exactly if every verb is an identifier. -/

namespace RouteBindings

namespace Resource

open Text (Lexicon Token)

def properties (aliases : List (String × String)) : String :=
  String.intercalate ",\n" (aliases.map fun (verb, used) => "    " ++ verb ++ ": " ++ used)

theorem keys?_properties (lexicon : Lexicon) (aliases : List (String × String))
    (after : String) :
    lexicon.keys? (aliases.map Prod.snd) (properties aliases ++ "\n" ++ after).toList =
        some (aliases.map Prod.fst) ↔
      ∀ verb ∈ aliases.map Prod.fst, lexicon.IsIdentifier verb.toList := by
  induction aliases with
  | nil => simp [Lexicon.keys?]
  | cons entry others ih =>
    obtain ⟨verb, used⟩ := entry
    cases others with
    | nil =>
      have text : properties [(verb, used)] ++ "\n" ++ after =
          "    " ++ verb ++ ": " ++ used ++ "\n" ++ after := by simp [properties]
      simp only [text, List.map_cons, List.map_nil, Lexicon.keys?, List.forall_mem_singleton,
        Option.map_eq_some_iff]
      constructor
      · rintro ⟨⟨key, rest⟩, read, same⟩
        cases same
        exact (Lexicon.property?_eq_some_iff.mp read).1
      · intro identifier
        exact ⟨_, Lexicon.property?_eq_some_iff.mpr ⟨identifier, rfl⟩, rfl⟩
    | cons next rest =>
      have text : properties ((verb, used) :: next :: rest) ++ "\n" ++ after =
          "    " ++ verb ++ ": " ++ used ++ ",\n" ++
            (properties (next :: rest) ++ "\n" ++ after) := by
        simp only [properties, List.map_cons, String.intercalate_cons_cons, String.append_assoc]
      rw [text]
      refine Lexicon.keys?_eq_some_iff.trans (Iff.trans ?_ List.forall_mem_cons.symm)
      constructor
      · rintro ⟨behind, read, later⟩
        obtain ⟨identifier, rfl⟩ := Lexicon.property?_eq_some_iff.mp read
        exact ⟨identifier, ih.mp later⟩
      · rintro ⟨identifier, later⟩
        exact ⟨_, Lexicon.property?_eq_some_iff.mpr ⟨identifier, rfl⟩, ih.mpr later⟩

def members? : List Token → Option (List String)
  | [.text s] => some [s]
  | .text s :: .mark "|" :: rest => (members? rest).map (s :: ·)
  | _ => none

section

variable (begins continues : Char → Bool)

open Script (lexicon)

theorem lexes_bar : (lexicon begins continues).Lexes " | ".toList [.mark "|"] := by
  intro rest
  simp [Lexicon.tokens, Lexicon.isPart, lexicon]

theorem members?_quoted {strings : List String} (present : strings ≠ []) :
    ((lexicon begins continues).tokens
      (String.intercalate " | " (strings.map Text.quote)).toList).bind members? = some strings := by
  induction strings with
  | nil => exact absurd rfl present
  | cons s rest ih =>
    cases rest with
    | nil =>
      have text : (String.intercalate " | " ([s].map Text.quote)).toList =
          Text.quotedChars s.toList ++ [] := by simp [Text.quote]
      rw [text, Lexicon.lexes_text, Lexicon.tokens]
      rfl
    | cons next others =>
      have text : (String.intercalate " | " ((s :: next :: others).map Text.quote)).toList =
          Text.quotedChars s.toList ++ (" | ".toList ++
            (String.intercalate " | " ((next :: others).map Text.quote)).toList) := by
        simp [Text.quote]
      obtain ⟨ts, read, listed⟩ := Option.bind_eq_some_iff.mp (ih (by simp))
      rw [text, Lexicon.lexes_text, lexes_bar, read]
      simp [members?, listed]

def paramsPlace (resource : Resource) : String :=
  properties (resource.aliases ActionSignature.paramsAlias) ++ "\n" ++
    ("  \x7d\n" ++ objectType "Return" (resource.aliases ActionSignature.returnAlias) ++ "\x7d\n")

def returnsPlace (resource : Resource) : String :=
  properties (resource.aliases ActionSignature.returnAlias) ++ "\n" ++ ("  \x7d\n" ++ "\x7d\n")

/-- The strings of the union are what the keys of both object types denote, in the same order. -/
def ListsVerbs (resource : Resource) : Prop :=
  ∃ strings,
    ((lexicon begins continues).tokens resource.methods.toList).bind members? = some strings ∧
    (lexicon begins continues).keys? ((resource.aliases ActionSignature.paramsAlias).map Prod.snd)
      resource.paramsPlace.toList = some strings ∧
    (lexicon begins continues).keys? ((resource.aliases ActionSignature.returnAlias).map Prod.snd)
      resource.returnsPlace.toList = some strings

theorem text_eq_paramsPlace (resource : Resource) :
    resource.text = resource.heading ++ "  Params?: \x7b\n" ++ resource.paramsPlace := by
  rw [text_eq, objectType, paramsPlace, properties]
  simp only [String.append_assoc]
  rfl

theorem text_eq_returnsPlace (resource : Resource) :
    resource.text = resource.heading ++
      objectType "Params" (resource.aliases ActionSignature.paramsAlias) ++
      "  Return?: \x7b\n" ++ resource.returnsPlace := by
  rw [text_eq, returnsPlace, properties]
  simp only [objectType, String.append_assoc]
  rfl

theorem listsVerbs_iff {resource : Resource} (bound : resource.verbs.keys ≠ []) :
    resource.ListsVerbs begins continues ↔
      ∀ verb ∈ resource.verbs.keys, (lexicon begins continues).IsIdentifier verb.toList := by
  have union := members?_quoted begins continues bound
  have params := keys?_properties (lexicon begins continues)
    (resource.aliases ActionSignature.paramsAlias)
  have returns := keys?_properties (lexicon begins continues)
    (resource.aliases ActionSignature.returnAlias)
  simp only [verbs_aliases] at params returns
  constructor
  · rintro ⟨strings, listed, read, -⟩
    obtain rfl := Option.some.inj (union.symm.trans listed)
    exact (params _).mp read
  · intro identifiers
    exact ⟨_, union, (params _).mpr identifiers, (returns _).mpr identifiers⟩

end

end Resource

namespace Aggregation

variable {signatures : SignatureTable} {routes : List Route}

theorem keys_ne_nil {resource : Resource}
    (member : resource ∈ (ofRoutes routes signatures).resources) : resource.verbs.keys ≠ [] := by
  have made := Option.isSome_iff_exists.mpr ⟨_, mem_resources.mp member⟩
  obtain ⟨route, named, refers⟩ := resourceOf_isSome.mp made
  exact List.ne_nil_of_mem ((mem_keys_resource member).mpr ⟨_, named, rfl, rfl, refers⟩)

theorem exists_resource_of_refers {name : String} {route : Route}
    (named : (name, route) ∈ Route.named routes) (refers : route.Refers signatures) :
    ∃ resource ∈ (ofRoutes routes signatures).resources, route.verb ∈ resource.verbs.keys := by
  have bound : Route.Bound signatures routes name := ⟨route, named, refers⟩
  obtain ⟨resource, made⟩ := Option.isSome_iff_exists.mp (resourceOf_isSome.mpr bound)
  obtain rfl := resourceOf_name made
  have member := mem_resources.mpr made
  exact ⟨resource, member, (mem_keys_resource member).mpr ⟨_, named, rfl, rfl, refers⟩⟩

variable (signatures routes)

open Script (lexicon)
open Resource (objectType members?)

/-- The text of a resource names its verbs three times. Each time the same ones are read from it, in
the same order, exactly if all of them are identifiers. So the keys agree with the methods in all
bindings of a route table exactly if no route binds any other verb. -/
theorem listsVerbs_exact (begins continues : Char → Bool) :
    (∀ resource ∈ (ofRoutes routes signatures).resources,
      resource.text = resource.heading ++ "  Params?: \x7b\n" ++ resource.paramsPlace ∧
      resource.text = resource.heading ++
        objectType "Params" (resource.aliases ActionSignature.paramsAlias) ++
        "  Return?: \x7b\n" ++ resource.returnsPlace ∧
      ((lexicon begins continues).tokens resource.methods.toList).bind members? =
        some resource.verbs.keys ∧
      (resource.ListsVerbs begins continues ↔
        ∀ verb ∈ resource.verbs.keys, (lexicon begins continues).IsIdentifier verb.toList)) ∧
    ((∀ resource ∈ (ofRoutes routes signatures).resources,
        resource.ListsVerbs begins continues) ↔
      ∀ entry ∈ Route.named routes, entry.2.Refers signatures →
        (lexicon begins continues).IsIdentifier entry.2.verb.toList) := by
  refine ⟨fun resource member => ⟨resource.text_eq_paramsPlace, resource.text_eq_returnsPlace,
    Resource.members?_quoted begins continues (keys_ne_nil member),
    resource.listsVerbs_iff begins continues (keys_ne_nil member)⟩, ?_⟩
  constructor
  · intro all entry named refers
    obtain ⟨resource, member, bound⟩ := exists_resource_of_refers named refers
    exact (resource.listsVerbs_iff begins continues (keys_ne_nil member)).mp (all resource member)
      _ bound
  · intro all resource member
    refine (resource.listsVerbs_iff begins continues (keys_ne_nil member)).mpr fun verb bound => ?_
    obtain ⟨entry, named, -, rfl, refers⟩ := (mem_keys_resource member).mp bound
    exact all entry named refers

def routesFor (verbs : List String) : List Route :=
  verbs.map fun verb =>
    { verb := verb, name := some "widgets", parts := [], controller := some "widgets",
      action := some "index", internal := false, engine := false, pattern := .literal "/widgets" }

def indexSignature : SignatureTable :=
  .ofList [⟨"widgets", "index", "\x7b\x7d", "void"⟩]

/-- A reserved word is an identifier too where a key is expected. -/
theorem listsVerbs_exact_words :
    ∃ resource ∈ (ofRoutes (routesFor ["GET", "delete"]) indexSignature).resources,
      resource.verbs.keys = ["GET", "delete"] ∧
      resource.ListsVerbs (fun _ => false) (fun _ => false) := by
  have made : (ofRoutes (routesFor ["GET", "delete"]) indexSignature).resources =
      [⟨"widgets", [], .literal "/widgets",
        verbs indexSignature (routesFor ["GET", "delete"])⟩] := rfl
  have member := made ▸ List.mem_singleton_self _
  have words : ∀ verb ∈ ["GET", "delete"],
      (lexicon (fun _ => false) (fun _ => false)).IsIdentifier verb.toList := by decide
  have named : (Route.named (routesFor ["GET", "delete"])).map (fun entry => entry.2.verb) =
      ["GET", "delete"] := rfl
  refine ⟨_, member, by decide +kernel, ?_⟩
  exact (listsVerbs_exact _ _ _ _).2.mpr
    (fun entry listed _ => words _ (named ▸ List.mem_map_of_mem listed)) _ member

/-- The union quotes both verbs; one key is no identifier, and the other is missing. -/
theorem not_listsVerbs_combined :
    ∃ resource ∈ (ofRoutes (routesFor ["GET|POST", ""]) indexSignature).resources,
      resource.methods = "\"GET|POST\" | \"\"" ∧
      resource.verbProperties ActionSignature.paramsAlias =
        "    GET|POST: WidgetsIndexParams,\n    : WidgetsIndexParams" ∧
      ∀ begins continues, ¬ resource.ListsVerbs begins continues := by
  have made : (ofRoutes (routesFor ["GET|POST", ""]) indexSignature).resources =
      [⟨"widgets", [], .literal "/widgets",
        verbs indexSignature (routesFor ["GET|POST", ""])⟩] := rfl
  have member := made ▸ List.mem_singleton_self _
  refine ⟨_, member, by decide +kernel, by decide +kernel, fun begins continues lists => ?_⟩
  have identifiers := (Resource.listsVerbs_iff begins continues (keys_ne_nil member)).mp lists
  have bar := (identifiers "GET|POST" (by decide +kernel)).parts '|' (by decide)
  simp [Text.Lexicon.isPart] at bar

end Aggregation

end RouteBindings
