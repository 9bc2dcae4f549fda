import RouteBindings.Proofs.Signature.Collection
import RouteBindings.Proofs.Signature.Supported

namespace RouteBindings

namespace Param

/-- The parameter can be listed: it has a name and a type that can be written. -/
structure Plain (param : Param TypeExpr) : Prop where
  single : param.kind ≠ .restPositional ∧ param.kind ≠ .restKeyword
  named : ∃ name, param.name = some name
  typed : param.type.Supported

def obstacles (param : Param TypeExpr) : List Construct :=
  (if param.kind = .restPositional then [.restPositional] else []) ++
    ((if param.kind = .restKeyword then [.restKeyword] else []) ++
      ((if param.name = none then [.unnamedParameter] else []) ++ param.type.obstacles))

/-- How the parameter stands in the list: a mark behind the name says that it may be left out. -/
inductive Lists (param : Param TypeExpr) : String → Prop
  | item {name type : String} : param.name = some name → param.type.text 0 = .ok type →
      Lists param (name ++
        (if param.kind ∈ [.optionalPositional, .optionalKeyword] then "?" else "") ++ ": " ++ type)

theorem plain_iff (param : Param TypeExpr) : param.Plain ↔ param.obstacles = [] := by
  have named : (∃ name, param.name = some name) ↔ param.name ≠ none :=
    Option.ne_none_iff_exists'.symm
  constructor
  · rintro ⟨⟨positional, keyword⟩, name, typed⟩
    simp [obstacles, positional, keyword, named.mp name, (TypeExpr.supported_iff _).mp typed]
  · intro free
    simp only [obstacles, List.append_eq_nil_iff, ite_eq_right_iff, reduceCtorEq, imp_false] at free
    obtain ⟨positional, keyword, name, typed⟩ := free
    exact ⟨⟨positional, keyword⟩, named.mpr name, (TypeExpr.supported_iff _).mpr typed⟩

theorem failure?_chars (param : Param TypeExpr) :
    failure? param.chars = param.obstacles.head?.map .unsupported := by
  obtain ⟨name, type, kind⟩ := param
  cases kind with
  | restPositional => rfl
  | restKeyword => rfl
  | _ =>
    cases name with
    | none => rfl
    | some name => exact (failure?_bind_pure _ _).trans (type.failure?_chars 0)

theorem lists_of_chars {param : Param TypeExpr} {cs : List Char} (listed : param.chars = .ok cs) :
    param.Lists (String.ofList cs) := by
  obtain ⟨isOptional, kind, listed⟩ := bind_ok listed
  split at listed
  · cases listed
  · rename_i name named
    obtain ⟨type, written, listed⟩ := bind_ok listed
    cases listed
    have text : param.type.text 0 = .ok (String.ofList type) := by
      rw [TypeExpr.text, written]
      rfl
    have mark : String.ofList (if isOptional then "?: ".toList else ": ".toList) =
        (if param.kind ∈ [.optionalPositional, .optionalKeyword] then "?" else "") ++ ": " := by
      cases same : param.kind <;> rw [same] at kind <;> cases kind <;> rfl
    rw [String.ofList_append, String.ofList_append, String.ofList_toList, mark,
      ← String.append_assoc]
    exact .item named text

end Param

structure ListsParams (params : List (Param TypeExpr)) (text : String) : Prop where
  listed : ∃ items, List.Forall₂ Param.Lists params items ∧
    text = if params = [] then "\x7b\x7d" else "\x7b " ++ "; ".intercalate items ++ " \x7d"
  empty : text = "\x7b\x7d" ↔ params = []

namespace Text

theorem ofList_joined (separator : String) (items : List (List Char)) :
    String.ofList (joined separator.toList items) =
      separator.intercalate (items.map String.ofList) := by
  fun_induction joined separator.toList items with
  | case1 => rfl
  | case2 item => simp
  | case3 item rest other ih =>
    cases rest with
    | nil => exact absurd rfl other
    | cons next others =>
      rw [String.ofList_append, String.ofList_append, ih, String.ofList_toList]
      simp only [List.map_cons, String.intercalate_cons_cons]

end Text

namespace Collection

theorem listsParams {callable : Callable TypeExpr} {s : String}
    (written : callable.paramsText = .ok s) : ListsParams callable.params (orEmptyObject s) := by
  obtain ⟨texts, each, written⟩ := bind_ok written
  have each := mapM_ok_iff.mp each
  have listed : List.Forall₂ Param.Lists callable.params (texts.map String.ofList) :=
    List.forall₂_map_right_iff.mpr (each.imp fun _ _ => Param.lists_of_chars)
  split at written
  · rename_i none
    cases written
    obtain rfl := List.isEmpty_iff.mp none
    have none := List.forall₂_nil_right_iff.mp each
    exact ⟨⟨[], listed, by rw [if_pos none]; rfl⟩, fun _ => none, fun _ => rfl⟩
  · rename_i some
    cases written
    have present : callable.params ≠ [] := by
      intro none
      rw [none, List.forall₂_nil_left_iff] at each
      exact some (List.isEmpty_iff.mpr each)
    have text : String.ofList ("\x7b ".toList ++ Text.joined "; ".toList texts ++ " \x7d".toList) =
        "\x7b " ++ "; ".intercalate (texts.map String.ofList) ++ " \x7d" := by
      rw [String.ofList_append, String.ofList_append, Text.ofList_joined, String.ofList_toList,
        String.ofList_toList]
    have longer :
        "\x7b " ++ "; ".intercalate (texts.map String.ofList) ++ " \x7d" ≠ "\x7b\x7d" := by
      simp [String.ext_iff]
    have nonempty : "\x7b " ++ "; ".intercalate (texts.map String.ofList) ++ " \x7d" ≠ "" := by
      simp [String.ext_iff]
    rw [text, orEmptyObject, if_neg nonempty]
    exact ⟨⟨_, listed, by rw [if_neg present]⟩, fun same => absurd same longer,
      fun none => absurd none present⟩

end Collection

namespace Overload

structure Plain (overload : Overload) : Prop where
  concrete : overload.typeParams = []
  blockless : overload.block = none
  listed : ∀ param ∈ overload.callable.params, param.Plain
  returned : overload.callable.returns.Supported

/-- Everything that keeps the overload from being bound, in the order in which it is looked for. -/
def obstacles (overload : Overload) : List Construct :=
  (if overload.typeParams = [] then [] else [.typeParameters overload.typeParams]) ++
    ((overload.block.toList.map fun block => .block block.required) ++
      (overload.callable.params.flatMap Param.obstacles ++ overload.callable.returns.obstacles))

theorem plain_iff (overload : Overload) : overload.Plain ↔ overload.obstacles = [] := by
  have listed : (∀ param ∈ overload.callable.params, param.Plain) ↔
      overload.callable.params.flatMap Param.obstacles = [] := by
    rw [List.flatMap_eq_nil_iff]
    exact forall₂_congr fun param _ => param.plain_iff
  constructor
  · rintro ⟨concrete, blockless, params, returned⟩
    simp [obstacles, concrete, blockless, listed.mp params, (TypeExpr.supported_iff _).mp returned]
  · intro free
    simp only [obstacles, List.append_eq_nil_iff, ite_eq_left_iff, List.cons_ne_nil, imp_false,
      not_not, List.map_eq_nil_iff, Option.toList_eq_nil_iff] at free
    obtain ⟨concrete, blockless, params, returned⟩ := free
    exact ⟨concrete, blockless, listed.mpr params, (TypeExpr.supported_iff _).mpr returned⟩

theorem failure?_params (callable : Callable TypeExpr) :
    failure? callable.paramsText =
      (callable.params.flatMap Param.obstacles).head?.map .unsupported := by
  have shaped : ∀ items : List (List Char), failure? (do
      if items.isEmpty then return ""
      return String.ofList ("\x7b ".toList ++ Text.joined "; ".toList items ++ " \x7d".toList) :
        Except Error String) = none := by
    intro items
    split <;> rfl
  rw [Callable.paramsText]
  refine (failure?_bind (failure?_mapM Param.chars callable.params) shaped).trans ?_
  rw [Option.or_none, List.head?_flatMap, List.map_findSome?]
  congr 1
  funext param
  exact param.failure?_chars

/-- What the overload fails with, whatever is made of its two types. -/
theorem failure?_types {α : Type} (overload : Overload) (f : String → String → α) :
    failure? (do
      let callable ← overload.plain
      let params ← callable.paramsText
      let returns ← callable.returnText
      return f params returns : Except Error α) = overload.obstacles.head?.map .unsupported := by
  obtain ⟨typeParams, block, callable⟩ := overload
  cases typeParams with
  | cons name others => rfl
  | nil =>
    cases block with
    | some block => rfl
    | none =>
      have returned : failure? callable.returnText =
          callable.returns.obstacles.head?.map .unsupported :=
        (failure?_map _ _).trans (callable.returns.failure?_chars 0)
      refine (failure?_bind (failure?_params callable) fun params =>
        (failure?_bind_pure _ _).trans returned).trans ?_
      rw [← Option.map_or, ← List.head?_append]
      rfl

theorem callable_of_plain {overload : Overload} {callable : Callable TypeExpr}
    (plain : overload.plain = .ok callable) : overload.callable = callable := by
  unfold Overload.plain at plain
  split at plain
  · split at plain
    · cases plain
    · exact Except.ok.inj plain
  · cases plain

end Overload

namespace Method

def Plain (method : Method) : Prop :=
  ∃ overload, method.overloads = [overload] ∧ overload.Plain

def errors (method : Method) : List Error :=
  match method.overloads with
  | [overload] => overload.obstacles.map .unsupported
  | overloads => [.ambiguousOverload overloads.length]

theorem plain_iff (method : Method) : method.Plain ↔ method.errors = [] := by
  unfold Plain errors
  split
  · rename_i overload only
    rw [only, List.map_eq_nil_iff, ← overload.plain_iff]
    simp
  · rename_i overloads other
    constructor
    · rintro ⟨overload, only, -⟩
      exact absurd only (other overload)
    · nofun

end Method

namespace Occurrence

theorem failure?_outcome {o : Occurrence} {method : Method}
    (declared : o.controller.methods.get? o.action = some method) :
    failure? o.outcome = method.errors.head? := by
  rw [outcome, Collection.convert, declared]
  obtain ⟨overloads⟩ := method
  cases overloads with
  | nil => rfl
  | cons overload others =>
    cases others with
    | nil =>
      refine (overload.failure?_types _).trans ?_
      rw [Method.errors, List.head?_map]
    | cons => rfl

/-- The action of a declared method can be bound exactly if the method is plain. Otherwise the first
of its errors is reported, and nothing but that; what can be bound lists its parameters. -/
theorem outcome_exact {o : Occurrence} {method : Method}
    (declared : o.controller.methods.get? o.action = some method) :
    ((∃ signature, o.outcome = .ok (some signature)) ↔ method.Plain) ∧
      (∀ error, o.outcome = .error error ↔ method.errors.head? = some error) ∧
      o.diagnostic? = method.errors.head?.map (fun error =>
        ⟨o.controller.name ++ "#" ++ o.action, error.message⟩) ∧
      ∀ signature, o.outcome = .ok (some signature) → ∃ overload,
        method.overloads = [overload] ∧
          ListsParams overload.callable.params signature.paramsType := by
  have fails := failure?_outcome declared
  have converted : ∀ {result}, o.outcome = .ok result →
      ∃ signature, result = some signature ∧ o.Projects signature := by
    intro result succeeded
    rcases outcome_of_ok succeeded with ⟨undeclared, -⟩ | found
    · cases undeclared.symm.trans declared
    · exact found
  refine ⟨?_, ?_, ?_, ?_⟩
  · rw [method.plain_iff, ← List.head?_eq_none_iff, ← fails, failure?_eq_none_iff]
    constructor
    · rintro ⟨signature, succeeded⟩
      exact ⟨_, succeeded⟩
    · rintro ⟨result, succeeded⟩
      obtain ⟨signature, rfl, -⟩ := converted succeeded
      exact ⟨signature, succeeded⟩
  · intro error
    rw [← fails, failure?_eq_some_iff]
  · rw [← fails, diagnostic?]
    cases o.outcome <;> rfl
  · intro signature succeeded
    obtain ⟨made, same, projects⟩ := converted succeeded
    cases same
    cases projects with
    | overload found only plain params returns =>
      cases found.symm.trans declared
      refine ⟨_, only, ?_⟩
      rw [Overload.callable_of_plain plain]
      exact Collection.listsParams params

/-- The second method has three errors: an unnamed parameter, its type and the return type. -/
def search : Controller where
  name := "SearchController"
  actions := ["index", "show"]
  methods := .ofRows [
    ("index", ⟨[⟨[], none, ⟨[⟨some "q", .base .any, .requiredPositional⟩,
      ⟨some "page", .classInstance "::Integer" [], .optionalKeyword⟩], .base .void⟩⟩]⟩),
    ("show", ⟨[⟨[], none, ⟨[⟨some "q", .base .any, .requiredPositional⟩,
      ⟨none, .variable "T", .requiredPositional⟩], .base .top⟩⟩]⟩)]

theorem outcome_exact_search :
    (∃ signature, (⟨search, "index"⟩ : Occurrence).outcome = .ok (some signature)) ∧
      (⟨search, "show"⟩ : Occurrence).outcome = .error (.unsupported .unnamedParameter) := by
  have q : Param.Plain ⟨some "q", .base .any, .requiredPositional⟩ :=
    ⟨⟨nofun, nofun⟩, ⟨_, rfl⟩, .base (by decide)⟩
  have page : Param.Plain ⟨some "page", .classInstance "::Integer" [], .optionalKeyword⟩ :=
    ⟨⟨nofun, nofun⟩, ⟨_, rfl⟩, .integer (by decide)⟩
  constructor
  · refine (outcome_exact rfl).1.mpr ⟨_, rfl, rfl, rfl, ?_, .base (by decide)⟩
    simpa using ⟨q, page⟩
  · exact ((outcome_exact rfl).2.1 _).mpr rfl

end Occurrence

end RouteBindings
