import RouteBindings.Proofs.Error
import RouteBindings.Proofs.Signature.Normal

namespace RouteBindings

namespace TypeExpr

mutual
/-- The type and all types inside it, from left to right, each before its own parts. -/
def nodes : TypeExpr → List TypeExpr
  | tuple types => tuple types :: nodesOf types
  | record fields => record fields :: fieldNodes fields
  | union types => union types :: nodesOf types
  | intersection types => intersection types :: nodesOf types
  | optional type => optional type :: type.nodes
  | classInstance name args => classInstance name args :: nodesOf args
  | interface name args => interface name args :: nodesOf args
  | function ⟨params, returns⟩ =>
    function ⟨params, returns⟩ :: (paramNodes params ++ returns.nodes)
  | proc ⟨params, returns⟩ => proc ⟨params, returns⟩ :: (paramNodes params ++ returns.nodes)
  | type => [type]

def nodesOf : List TypeExpr → List TypeExpr
  | [] => []
  | type :: rest => type.nodes ++ nodesOf rest

def fieldNodes : List (RecordField TypeExpr) → List TypeExpr
  | [] => []
  | ⟨_, type⟩ :: rest => type.nodes ++ fieldNodes rest

def paramNodes : List (Param TypeExpr) → List TypeExpr
  | [] => []
  | ⟨_, type, _⟩ :: rest => type.nodes ++ paramNodes rest
end

def plainBases : List BaseType :=
  [.any, .void, .nil, .bool]

def knownClasses : List (List Char × Nat) :=
  [("Integer".toList, 0), ("String".toList, 0), ("Array".toList, 1)]

/-- What keeps the type itself from being written, whatever its parts are. -/
def obstacle? : TypeExpr → Option Construct
  | base name => if name ∈ plainBases then none else some (.base name)
  | literal (.float x) => some (.floatLiteral x)
  | classInstance name args =>
    if (classPath name.toList, args.length) ∈ knownClasses then none
    else some (.classUse name args.length)
  | function _ => some .functionValue
  | interface name _ => some (.interface name)
  | classSingleton name => some (.singleton name)
  | .variable name => some (.typeVariable name)
  | typeAlias name => some (.typeAlias name)
  | proc _ => some .proc
  | _ => none

def obstacles (type : TypeExpr) : List Construct :=
  type.nodes.filterMap obstacle?

inductive Supported : TypeExpr → Prop
  | base {name : BaseType} : name ∈ plainBases → Supported (.base name)
  | literal {value : LiteralType} : (∀ x, value ≠ .float x) → Supported (.literal value)
  | tuple {types : List TypeExpr} : (∀ type ∈ types, Supported type) → Supported (.tuple types)
  | record {fields : List (RecordField TypeExpr)} : (∀ field ∈ fields, Supported field.type) →
      Supported (.record fields)
  | union {types : List TypeExpr} : (∀ type ∈ types, Supported type) → Supported (.union types)
  | intersection {types : List TypeExpr} : (∀ type ∈ types, Supported type) →
      Supported (.intersection types)
  | optional {type : TypeExpr} : Supported type → Supported (.optional type)
  | integer {name : String} : classPath name.toList = "Integer".toList →
      Supported (.classInstance name [])
  | string {name : String} : classPath name.toList = "String".toList →
      Supported (.classInstance name [])
  | array {name : String} {item : TypeExpr} : classPath name.toList = "Array".toList →
      Supported item → Supported (.classInstance name [item])

def obstaclesOf (types : List TypeExpr) : List Construct :=
  (nodesOf types).filterMap obstacle?

def fieldObstacles (fields : List (RecordField TypeExpr)) : List Construct :=
  (fieldNodes fields).filterMap obstacle?

theorem obstaclesOf_cons (type : TypeExpr) (rest : List TypeExpr) :
    obstaclesOf (type :: rest) = type.obstacles ++ obstaclesOf rest := by
  rw [obstaclesOf, nodesOf, List.filterMap_append]
  rfl

theorem fieldObstacles_cons (field : RecordField TypeExpr) (rest : List (RecordField TypeExpr)) :
    fieldObstacles (field :: rest) = field.type.obstacles ++ fieldObstacles rest := by
  rw [fieldObstacles, fieldNodes, List.filterMap_append]
  rfl

/-- A class of the right name and arity has the obstacles of its arguments only. -/
theorem obstacles_class (name : String) (args : List TypeExpr) :
    (classInstance name args).obstacles =
      if (classPath name.toList, args.length) ∈ knownClasses then obstaclesOf args
      else .classUse name args.length :: obstaclesOf args := by
  rw [obstacles, nodes, List.filterMap_cons, obstacle?]
  by_cases known : (classPath name.toList, args.length) ∈ knownClasses
  · rw [if_pos known, if_pos known]
    rfl
  · rw [if_neg known, if_neg known]
    rfl

theorem failure?_base (name : BaseType) :
    failure? name.chars = (base name).obstacles.head?.map .unsupported := by
  cases name <;> rfl

theorem failure?_literal (value : LiteralType) :
    failure? value.chars = (literal value).obstacles.head?.map .unsupported := by
  cases value <;> rfl

theorem failure?_class (level : Nat) (name : String) (args : List TypeExpr)
    (inside : ∀ item ∈ args, failure? (item.chars 0) = item.obstacles.head?.map .unsupported) :
    failure? ((classInstance name args).chars level) =
      (classInstance name args).obstacles.head?.map .unsupported := by
  rw [obstacles_class]
  match args with
  | [] =>
    rw [chars]
    by_cases integer : classPath name.toList = "Integer".toList
    · simp [integer, knownClasses, failure?, obstaclesOf, nodesOf]
    by_cases string : classPath name.toList = "String".toList
    · simp [string, knownClasses, failure?, obstaclesOf, nodesOf]
    · rw [if_neg integer, if_neg string, if_neg (by simpa [knownClasses] using ⟨integer, string⟩)]
      rfl
  | [item] =>
    rw [chars]
    by_cases array : classPath name.toList = "Array".toList
    · rw [if_pos array, failure?_bind_pure, inside item List.mem_cons_self, array,
        if_pos (by simp [knownClasses]), obstaclesOf_cons]
      simp [obstaclesOf, nodesOf]
    · rw [if_neg array, if_neg (by simpa [knownClasses] using array)]
      rfl
  | first :: second :: rest =>
    rw [chars, if_neg (by simp [knownClasses])]
    rfl

mutual
theorem failure?_chars (level : Nat) : (type : TypeExpr) →
    failure? (type.chars level) = type.obstacles.head?.map .unsupported
  | base name => failure?_base name
  | literal value => failure?_literal value
  | tuple [] => rfl
  | tuple (type :: types) => by
    rw [chars, failure?_bind_pure]
    exact failure?_charsOf 0 (type :: types)
  | record [] => rfl
  | record (field :: fields) => by
    rw [chars, failure?_bind_pure]
    exact failure?_fieldChars (field :: fields)
  | union types => by
    rw [chars, failure?_bind_pure]
    exact failure?_charsOf 0 types
  | intersection types => by
    rw [chars, failure?_bind_pure]
    exact failure?_charsOf 2 types
  | optional type => by
    rw [chars, failure?_bind_pure]
    exact failure?_chars 1 type
  | classInstance name args => failure?_class level name args (failure?_each args)
  | function _ => rfl
  | interface _ _ => rfl
  | classSingleton _ => rfl
  | .variable _ => rfl
  | typeAlias _ => rfl
  | proc _ => rfl

theorem failure?_charsOf (level : Nat) : (types : List TypeExpr) →
    failure? (charsOf level types) = (obstaclesOf types).head?.map .unsupported
  | [] => rfl
  | type :: rest => by
    rw [charsOf, obstaclesOf_cons, List.head?_append, Option.map_or]
    exact failure?_bind (failure?_chars level type) fun _ =>
      (failure?_bind_pure _ _).trans (failure?_charsOf level rest)

theorem failure?_fieldChars : (fields : List (RecordField TypeExpr)) →
    failure? (fieldChars fields) = (fieldObstacles fields).head?.map .unsupported
  | [] => rfl
  | ⟨key, type⟩ :: rest => by
    rw [fieldChars, fieldObstacles_cons, List.head?_append, Option.map_or]
    exact failure?_bind (failure?_chars 0 type) fun _ =>
      (failure?_bind_pure _ _).trans (failure?_fieldChars rest)

theorem failure?_each : (args : List TypeExpr) → ∀ item ∈ args,
    failure? (item.chars 0) = item.obstacles.head?.map .unsupported
  | [], _, member => nomatch member
  | first :: rest, item, member => by
    rcases List.mem_cons.mp member with same | member
    · rw [same]
      exact failure?_chars 0 first
    · exact failure?_each rest item member
end

theorem obstaclesOf_eq_nil_iff {types : List TypeExpr} :
    obstaclesOf types = [] ↔ ∀ type ∈ types, type.obstacles = [] := by
  induction types with
  | nil => simp [obstaclesOf, nodesOf]
  | cons type rest ih =>
    rw [obstaclesOf_cons, List.append_eq_nil_iff, ih, List.forall_mem_cons]

theorem fieldObstacles_eq_nil_iff {fields : List (RecordField TypeExpr)} :
    fieldObstacles fields = [] ↔ ∀ field ∈ fields, field.type.obstacles = [] := by
  induction fields with
  | nil => simp [fieldObstacles, fieldNodes]
  | cons field rest ih =>
    rw [fieldObstacles_cons, List.append_eq_nil_iff, ih, List.forall_mem_cons]

theorem supported_base (name : BaseType) :
    (base name).Supported ↔ (base name).obstacles = [] := by
  constructor
  · intro supported
    cases supported with
    | base plain => simp [obstacles, nodes, obstacle?, plain]
  · intro free
    refine .base ?_
    by_contra other
    simp [obstacles, nodes, obstacle?, other] at free

theorem supported_literal (value : LiteralType) :
    (literal value).Supported ↔ (literal value).obstacles = [] := by
  constructor
  · intro supported
    cases supported with
    | literal exact' =>
      cases value with
      | float x => exact absurd rfl (exact' x)
      | _ => rfl
  · intro free
    refine .literal fun x same => ?_
    rw [same] at free
    cases free

theorem supported_class {name : String} {args : List TypeExpr}
    (inside : ∀ item ∈ args, item.Supported ↔ item.obstacles = []) :
    (classInstance name args).Supported ↔ (classInstance name args).obstacles = [] := by
  rw [obstacles_class]
  constructor
  · intro supported
    cases supported with
    | integer same => simp [same, knownClasses, obstaclesOf, nodesOf]
    | string same => simp [same, knownClasses, obstaclesOf, nodesOf]
    | array same item =>
      have free := (inside _ (by simp)).mp item
      have none : obstaclesOf [] = [] := rfl
      simp [same, knownClasses, obstaclesOf_cons, free, none]
  · intro free
    split at free
    · rename_i known
      simp only [knownClasses, List.mem_cons, Prod.mk.injEq, List.not_mem_nil, or_false] at known
      rcases known with ⟨same, arity⟩ | ⟨same, arity⟩ | ⟨same, arity⟩
      · obtain rfl := List.length_eq_zero_iff.mp arity
        exact .integer same
      · obtain rfl := List.length_eq_zero_iff.mp arity
        exact .string same
      · obtain ⟨item, rfl⟩ := List.length_eq_one_iff.mp arity
        rw [obstaclesOf_cons, List.append_eq_nil_iff] at free
        exact .array same ((inside item (by simp)).mpr free.1)
    · cases free

theorem all_supported_iff {types : List TypeExpr}
    (inside : ∀ type ∈ types, (type.Supported ↔ type.obstacles = [])) :
    (∀ type ∈ types, type.Supported) ↔ obstaclesOf types = [] := by
  rw [obstaclesOf_eq_nil_iff]
  exact forall₂_congr inside

theorem fields_supported_iff {fields : List (RecordField TypeExpr)}
    (inside : ∀ field ∈ fields, (field.type.Supported ↔ field.type.obstacles = [])) :
    (∀ field ∈ fields, field.type.Supported) ↔ fieldObstacles fields = [] := by
  rw [fieldObstacles_eq_nil_iff]
  exact forall₂_congr inside

mutual
theorem supported_iff : (type : TypeExpr) → (type.Supported ↔ type.obstacles = [])
  | base name => supported_base name
  | literal value => supported_literal value
  | tuple types => by
    have inside := all_supported_iff (supported_each types)
    exact ⟨fun | .tuple all => inside.mp all, fun free => .tuple (inside.mpr free)⟩
  | record fields => by
    have inside := fields_supported_iff (supported_fields fields)
    exact ⟨fun | .record all => inside.mp all, fun free => .record (inside.mpr free)⟩
  | union types => by
    have inside := all_supported_iff (supported_each types)
    exact ⟨fun | .union all => inside.mp all, fun free => .union (inside.mpr free)⟩
  | intersection types => by
    have inside := all_supported_iff (supported_each types)
    exact ⟨fun | .intersection all => inside.mp all, fun free => .intersection (inside.mpr free)⟩
  | optional type => by
    have inside := supported_iff type
    exact ⟨fun | .optional inner => inside.mp inner, fun free => .optional (inside.mpr free)⟩
  | classInstance name args => supported_class (supported_each args)
  | function ⟨_, _⟩ => ⟨nofun, nofun⟩
  | interface _ _ => ⟨nofun, nofun⟩
  | classSingleton _ => ⟨nofun, nofun⟩
  | .variable _ => ⟨nofun, nofun⟩
  | typeAlias _ => ⟨nofun, nofun⟩
  | proc ⟨_, _⟩ => ⟨nofun, nofun⟩

theorem supported_each : (types : List TypeExpr) → ∀ type ∈ types,
    (type.Supported ↔ type.obstacles = [])
  | [], _, member => nomatch member
  | first :: rest, type, member => by
    rcases List.mem_cons.mp member with same | member
    · rw [same]
      exact supported_iff first
    · exact supported_each rest type member

theorem supported_fields : (fields : List (RecordField TypeExpr)) → ∀ field ∈ fields,
    (field.type.Supported ↔ field.type.obstacles = [])
  | [], _, member => nomatch member
  | ⟨key, type⟩ :: rest, field, member => by
    rcases List.mem_cons.mp member with same | member
    · rw [same]
      exact supported_iff type
    · exact supported_fields rest field member
end

instance : DecidablePred IsSum := fun type =>
  decidable_of_iff (type.kind = .union ∨ type.kind = .intersection)
    (by cases type <;> simp [kind, IsSum])

theorem chars_level {type : TypeExpr} (plain : ¬ type.IsSum) (level : Nat) :
    type.chars level = type.chars 0 := by
  cases type with
  | union types => exact absurd trivial plain
  | intersection types => exact absurd trivial plain
  | tuple types => cases types <;> rfl
  | record fields => cases fields <;> rfl
  | classInstance name args =>
    match args with
    | [] | [_] | _ :: _ :: _ => rfl
  | _ => rfl

theorem chars_sum {type : TypeExpr} (sum : type.IsSum) (level : Nat) :
    type.chars (level + 1) = (type.chars 0).map fun body => '(' :: body ++ [')'] := by
  cases type with
  | union types =>
    rw [chars, chars]
    cases charsOf 0 types <;> rfl
  | intersection types =>
    rw [chars, chars]
    cases charsOf 2 types <;> rfl
  | _ => cases sum

theorem text_succ (level : Nat) (type : TypeExpr) :
    type.text (level + 1) =
      (type.text 0).map fun s => if type.IsSum then "(" ++ s ++ ")" else s := by
  unfold text
  by_cases sum : type.IsSum
  · rw [chars_sum sum]
    cases type.chars 0 with
    | error error => rfl
    | ok body => simp [Except.map, sum, String.ext_iff]
  · rw [chars_level sum]
    cases type.chars 0 <;> simp [Except.map, sum]

/-- A type has a text exactly if it is supported. Otherwise the first of its nodes that cannot be
written is reported. The level decides about parentheses only, and only unions and intersections
take them. -/
theorem text_exact (type : TypeExpr) (level : Nat) :
    ((∃ s, type.text level = .ok s) ↔ type.Supported) ∧
      (∀ error, type.text level = .error error ↔
        ∃ construct, type.obstacles.head? = some construct ∧ error = .unsupported construct) ∧
      type.text (level + 1) =
        (type.text 0).map fun s => if type.IsSum then "(" ++ s ++ ")" else s := by
  have fails : failure? (type.text level) = type.obstacles.head?.map .unsupported :=
    (failure?_map _ _).trans (failure?_chars level type)
  refine ⟨?_, ?_, text_succ level type⟩
  · rw [← failure?_eq_none_iff, fails, Option.map_eq_none_iff, List.head?_eq_none_iff,
      supported_iff]
  · intro error
    rw [← failure?_eq_some_iff, fails, Option.map_eq_some_iff]
    simp only [eq_comm]

example : (tuple [union [base .any, optional (.variable "T")], base .top]).text 1 =
    .error (.unsupported (.typeVariable "T")) := rfl

end TypeExpr

end RouteBindings
