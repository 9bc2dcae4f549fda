import RouteBindings.Proofs.Bindings.Declarations
import RouteBindings.Proofs.Names.Words
import RouteBindings.Proofs.Route.Groups

/-! When two declarations of the bindings clash. The signatures and the resources are distinct, but
their declarations go by camelized names, which do not tell a slash from an underscore or the end of
the controller from the beginning of the action. -/

namespace RouteBindings

namespace ActionSignature

def stem (s : ActionSignature) : String :=
  Names.camelize s.controller ++ Names.camelize s.action

def words (s : ActionSignature) : List (List Char) :=
  Names.nonemptyWords s.controller ++ Names.nonemptyWords s.action

def Plain (s : ActionSignature) : Prop :=
  Names.Plain s.controller ∧ Names.Plain s.action

instance (s : ActionSignature) : Decidable s.Plain :=
  inferInstanceAs (Decidable (_ ∧ _))

theorem paramsAlias_eq_iff {s t : ActionSignature} :
    s.paramsAlias = t.paramsAlias ↔ s.stem = t.stem :=
  String.append_left_inj _

theorem returnAlias_eq_iff {s t : ActionSignature} :
    s.returnAlias = t.returnAlias ↔ s.stem = t.stem :=
  String.append_left_inj _

theorem paramsAlias_ne_returnAlias (s t : ActionSignature) : s.paramsAlias ≠ t.returnAlias := by
  intro same
  have apart : "Params".toList ≠ "Return".toList := by decide +kernel
  have same : (s.stem ++ "Params").toList = (t.stem ++ "Return").toList :=
    congrArg String.toList same
  rw [String.toList_append, String.toList_append] at same
  exact apart (List.append_inj_right' same (by decide +kernel))

theorem stem_eq (s : ActionSignature) :
    s.stem = String.ofList (s.words.flatMap Names.upperFirst) := by
  rw [stem, words, List.flatMap_append, String.ofList_append, Names.camelize_eq_ofList,
    Names.camelize_eq_ofList]

theorem stem_eq_iff {s t : ActionSignature} (left : s.Plain) (right : t.Plain) :
    s.stem = t.stem ↔ s.words = t.words := by
  have plain : ∀ {r : ActionSignature}, r.Plain → r.words.all Names.isPlainWord = true := by
    intro r plain
    rw [words, List.all_append, Bool.and_eq_true]
    exact plain
  rw [stem_eq, stem_eq, String.ofList_inj]
  constructor
  · exact Names.plainWords_unique (plain left) (plain right)
  · intro same
    rw [same]

theorem nodup_aliases (signatures : List ActionSignature) :
    (signatures.map paramsAlias ++ signatures.map returnAlias).Nodup ↔
      (signatures.map stem).Nodup := by
  have aliases : ∀ aliasOf : ActionSignature → String,
      (∀ s t, aliasOf s = aliasOf t ↔ s.stem = t.stem) →
        ((signatures.map aliasOf).Nodup ↔ (signatures.map stem).Nodup) := by
    intro aliasOf same
    simp only [List.nodup_iff_pairwise_ne, List.pairwise_map, ne_eq, same]
  rw [List.nodup_append, aliases paramsAlias fun _ _ => paramsAlias_eq_iff,
    aliases returnAlias fun _ _ => returnAlias_eq_iff]
  constructor
  · exact fun distinct => distinct.1
  · intro distinct
    refine ⟨distinct, distinct, ?_⟩
    intro params inParams returns inReturns
    obtain ⟨s, -, rfl⟩ := List.mem_map.mp inParams
    obtain ⟨t, -, rfl⟩ := List.mem_map.mp inReturns
    exact paramsAlias_ne_returnAlias s t

end ActionSignature

namespace Generated

/-- The aliases of a file are distinct exactly when the camelized names of the signatures are. Those
of plain names agree exactly when the names have the same words in the same order, and so do the
names of the constants. -/
theorem nodup_aliases_iff {env : Environment} {routes : List Route} {g : Generated}
    (made : ofEnvironment env routes = .ok g) :
    (g.signatures.toList.map ActionSignature.address).Nodup ∧
    (g.resources.map Resource.name).Nodup ∧
    ((g.signatures.toList.map ActionSignature.paramsAlias ++
        g.signatures.toList.map ActionSignature.returnAlias).Nodup ↔
      (g.signatures.toList.map ActionSignature.stem).Nodup) ∧
    (∀ s ∈ g.signatures.toList, ∀ t ∈ g.signatures.toList, s.Plain → t.Plain →
      (s.stem = t.stem ↔ s.words = t.words)) ∧
    ∀ q ∈ g.resources, ∀ r ∈ g.resources, Names.Plain q.name → Names.Plain r.name →
      (q.exportName = r.exportName ↔ Names.nonemptyWords q.name = Names.nonemptyWords r.name) := by
  obtain ⟨signatures, resources, -⟩ := ofEnvironment_eq made
  refine ⟨?_, ?_, ActionSignature.nodup_aliases _, ?_, ?_⟩
  · rw [signatures]
    exact SignatureTable.nodup_addresses _
  · rw [resources]
    exact Aggregation.nodup_names _
  · intro s _ t _ left right
    exact ActionSignature.stem_eq_iff left right
  · intro q _ r _ left right
    exact Names.camelizeLower_eq_iff left right

/-- An action whose name begins with the word that ends the name of the other controller. -/
def crowded : Environment where
  vocabulary := some Vocabulary.known
  controllers := [
    ⟨"AdminController", ["users_show"],
      .ofRows [("users_show", ⟨[⟨[], none, ⟨[], .base .void⟩⟩]⟩)]⟩,
    ⟨"Admin::UsersController", ["show"], .ofRows [("show", ⟨[⟨[], none, ⟨[], .base .void⟩⟩]⟩)]⟩]

def crowdedRoute (name controller action : String) : Route where
  verb := "GET"
  name := some name
  parts := []
  controller := some controller
  action := some action
  internal := false
  engine := false
  pattern := .literal "/users"

def crowdedRoutes : List Route :=
  [crowdedRoute "new_user" "admin" "users_show", crowdedRoute "newUser" "admin/users" "show"]

theorem signatures_crowded {g : Generated} (made : ofEnvironment crowded crowdedRoutes = .ok g) :
    g.signatures.toList =
      [⟨"admin", "users_show", "\x7b\x7d", "void"⟩,
        ⟨"admin/users", "show", "\x7b\x7d", "void"⟩] := by
  rw [(ofEnvironment_eq made).1]
  decide +kernel

theorem exportNames_crowded {g : Generated} (made : ofEnvironment crowded crowdedRoutes = .ok g) :
    g.resources.map Resource.exportName = ["newUser", "newUser"] := by
  obtain ⟨signatures, resources, -⟩ := ofEnvironment_eq made
  rw [resources, signatures]
  decide +kernel

theorem aliases_clash_crowded :
    ∃ g, ofEnvironment crowded crowdedRoutes = .ok g ∧
      ¬ (g.signatures.toList.map ActionSignature.paramsAlias).Nodup ∧
      ¬ (g.signatures.toList.map ActionSignature.returnAlias).Nodup ∧
      ¬ (g.resources.map Resource.exportName).Nodup := by
  have valid : crowded.validate = .ok () := rfl
  obtain ⟨g, made⟩ := exists_ofEnvironment valid crowdedRoutes
  refine ⟨g, made, ?_⟩
  rw [signatures_crowded made, exportNames_crowded made]
  decide +kernel

theorem nodup_aliases_iff_crowded :
    ∃ g, ofEnvironment crowded crowdedRoutes = .ok g ∧
      ∃ s ∈ g.signatures.toList, ∃ t ∈ g.signatures.toList, s.address ≠ t.address ∧
        s.stem = t.stem := by
  have valid : crowded.validate = .ok () := rfl
  obtain ⟨g, made⟩ := exists_ofEnvironment valid crowdedRoutes
  obtain ⟨-, -, -, agree, -⟩ := nodup_aliases_iff made
  rw [signatures_crowded made] at agree
  refine ⟨g, made, ?_⟩
  rw [signatures_crowded made]
  have same := (agree _ List.mem_cons_self _ (List.mem_cons_of_mem _ List.mem_cons_self)
    (by decide +kernel) (by decide +kernel)).mpr (by decide +kernel)
  exact ⟨_, List.mem_cons_self, _, List.mem_cons_of_mem _ List.mem_cons_self, by decide, same⟩

end Generated

end RouteBindings
