import RouteBindings.Proofs.Document.Signatures

/-! Signatures that are written and loaded again come back as they were, unless their document nests
too deep. A document that leaves fields out may be loaded where the whole document is not. -/

namespace RouteBindings

namespace Environment

def variedTypes : List TypeExpr :=
  [.base .selfClass, .literal (.symbol "a\"b"), .literal (.integer (-7)),
    .literal (.float (.finite false 6755399441055744 (-52))),
    .record [⟨.symbol "id", .optional (.classInstance "Array" [.classInstance "Integer" []])⟩,
      ⟨.string "kind", .union [.base .nil, .literal (.bool true)]⟩],
    .intersection [.interface "_Each" [.variable "T"], .classSingleton "Job"],
    .function
      ⟨[⟨none, .base .any, .restPositional⟩, ⟨some "kind", .base .void, .optionalKeyword⟩],
        .typeAlias "json"⟩,
    .proc ⟨[], .base .top⟩]

def varied : Environment :=
  ⟨some ⟨["base"], []⟩,
    [⟨"JobsController", ["show", "index"],
      ⟨[("show", ⟨[⟨["T"], some ⟨true⟩, ⟨[], .tuple variedTypes⟩⟩]⟩), ("index", ⟨[]⟩)],
        by decide⟩⟩]⟩

def returning (type : TypeExpr) : Overload :=
  ⟨[], none, ⟨[], type⟩⟩

def controllerOf (type : TypeExpr) : Controller :=
  ⟨"Jobs", [], .ofRows [("show", ⟨[returning type]⟩)]⟩

def ofReturns (type : TypeExpr) : Environment :=
  ⟨none, [controllerOf type]⟩

def sparseOverload (type : Json) : Json :=
  .object [("type", .object [("returns", type)])]

def sparseMethod (type : Json) : Json :=
  .object [("overloads", .array [sparseOverload type])]

def sparseController (type : Json) : Json :=
  .object [("name", .string "Jobs"), ("methods", .object [("show", sparseMethod type)])]

/-- A document of such an environment that leaves out what need not be said. -/
def sparse (type : Json) : Json :=
  .object [("controllers", .array [sparseController type])]

theorem depth_sparse (type : Json) : (sparse type).depth = type.depth + 8 := by
  simp [sparse, sparseController, sparseMethod, sparseOverload, Json.depth, Json.itemDepth,
    Json.entryDepth]

theorem numerals_sparse (type : Json) : (sparse type).numerals = type.numerals := by
  simp [sparse, sparseController, sparseMethod, sparseOverload, Json.numerals, Json.itemNumerals,
    Json.entryNumerals]

theorem toJson_ofReturns (type : TypeExpr) :
    (ofReturns type).toJson = .object [("vocabulary", .null), ("controllers",
      .array [.object [("name", .string "Jobs"), ("actions", .array []),
        ("methods", .object [("show", .object [("overloads",
          .array [.object [("type_params", .array []), ("block", .null),
            ("type", .object [("params", .array []), ("returns", type.toJson)])]])])])]])] :=
  rfl

theorem depth_ofReturns (type : TypeExpr) :
    (ofReturns type).toJson.depth = max 1 (type.toJson.depth) + 8 := by
  rw [toJson_ofReturns]
  simp only [Json.depth, Json.itemDepth, Json.entryDepth]
  omega

theorem numerals_ofReturns (type : TypeExpr) :
    (ofReturns type).toJson.numerals = type.toJson.numerals := by
  rw [toJson_ofReturns]
  simp [Json.numerals, Json.itemNumerals, Json.entryNumerals]

end Environment

namespace TypeExpr

def optionals : Nat → TypeExpr
  | 0 => classInstance "String" []
  | n + 1 => optional (optionals n)

/-- The same, with no word of the arguments that the string type does not have. -/
def sparseOptionals : Nat → Json
  | 0 => .object [("kind", .string "class_instance"), ("name", .string "String")]
  | n + 1 => .object [("kind", .string "optional"), ("type", sparseOptionals n)]

theorem depth_optionals (n : Nat) : (optionals n).toJson.depth = n + 2 := by
  induction n with
  | zero => rfl
  | succ n ih => simp [optionals, toJson, Json.depth, Json.entryDepth, ih]

theorem depth_sparseOptionals (n : Nat) : (sparseOptionals n).depth = n + 1 := by
  induction n with
  | zero => rfl
  | succ n ih => simp [sparseOptionals, Json.depth, Json.entryDepth, ih]

theorem numerals_optionals (n : Nat) :
    (optionals n).toJson.numerals = [] ∧ (sparseOptionals n).numerals = [] := by
  induction n with
  | zero => exact ⟨rfl, rfl⟩
  | succ n ih =>
    simpa [optionals, sparseOptionals, toJson, Json.numerals, Json.entryNumerals] using ih

end TypeExpr

namespace Read

open TypeExpr (optionals sparseOptionals)

theorem heldType_sparseOptionals (n fuel : Nat) (enough : n < fuel) :
    heldType fuel (sparseOptionals n).draft = .ok (optionals n) := by
  induction n generalizing fuel with
  | zero =>
    obtain ⟨fuel, rfl⟩ := Nat.exists_eq_add_of_lt enough
    rfl
  | succ n ih =>
    obtain ⟨fuel, rfl⟩ := Nat.exists_eq_succ_of_ne_zero (Nat.ne_of_gt (Nat.zero_lt_of_lt enough))
    have inner := ih fuel (Nat.lt_of_succ_lt_succ enough)
    exact heldType_object .optional (by simp) (optional_held inner)

theorem reads_sparseOptionals (n : Nat) :
    Reads .streamed type (sparseOptionals n) (optionals n) := by
  cases n with
  | zero => exact reads_type_of_held .classInstance (by simp) fun _ => rfl
  | succ n =>
    refine reads_type_of_held .optional (by simp) fun bounded => ?_
    rw [Json.entryDepth, TypeExpr.depth_sparseOptionals] at bounded
    exact optional_held (heldType_sparseOptionals n Draft.nestingLimit (by omega))

theorem reads_sparseOverload {v : Json} {t : TypeExpr} (reads : Reads .streamed type v t) :
    Reads .streamed overload (Environment.sparseOverload v) (Environment.returning t) :=
  reads_record _ (by decide : ["type_params", "block", "type"].Nodup)
    (.skip rfl (.skip rfl (.take (reads_record _ (by decide : ["params", "returns"].Nodup)
      (.skip rfl (.take reads .done))) .done)))

theorem reads_sparseController {v : Json} {t : TypeExpr} (reads : Reads .streamed type v t) :
    Reads .streamed controller (Environment.sparseController v) (Environment.controllerOf t) := by
  have overloads := reads_list (.cons (reads_sparseOverload reads) .nil)
  have only : Reads .streamed method (Environment.sparseMethod v) ⟨[Environment.returning t]⟩ :=
    reads_record _ (by decide : ["overloads"].Nodup) (.take overloads .done)
  exact reads_record _ (by decide : ["name", "actions", "methods"].Nodup)
    (.take (reads_text "Jobs") (.skip rfl (.take (reads_table (.cons ⟨rfl, only⟩ .nil)) .done)))

theorem reads_sparse {v : Json} {t : TypeExpr} (reads : Reads .streamed type v t) :
    Reads .streamed environment (Environment.sparse v) (.ofReturns t) :=
  reads_record _ (by decide : ["vocabulary", "controllers"].Nodup)
    (.skip rfl (.take (reads_list (.cons (reads_sparseController reads) .nil)) .done))

end Read

namespace Environment

open TypeExpr (optionals sparseOptionals)

theorem ofDocument_sparse (n : Nat) (file : String) :
    ofDocument file (sparse (sparseOptionals n)).text =
      if n + 9 ≤ Draft.nestingLimit then .ok (ofReturns (optionals n))
      else .error (.load file .malformed) := by
  have depth : (sparse (sparseOptionals n)).depth = n + 9 := by
    rw [depth_sparse, TypeExpr.depth_sparseOptionals]
  have numerals : (sparse (sparseOptionals n)).numerals = [] :=
    (numerals_sparse _).trans (TypeExpr.numerals_optionals n).2
  rw [← depth]
  exact Read.document_text (Read.reads_sparse (Read.reads_sparseOptionals n)) (by simp [numerals])
    file

theorem floatsReadBack_ofReturns (n : Nat) : (ofReturns (optionals n)).FloatsReadBack := by
  intro x member
  rw [numerals_ofReturns, (TypeExpr.numerals_optionals n).1] at member
  cases member

theorem ofDocument_ofReturns (n : Nat) (file : String) :
    ofDocument file (ofReturns (optionals n)).toJson.text =
      if n + 10 ≤ Draft.nestingLimit then .ok (ofReturns (optionals n))
      else .error (.load file .malformed) := by
  have depth : (ofReturns (optionals n)).toJson.depth = n + 10 := by
    rw [depth_ofReturns, TypeExpr.depth_optionals]
    omega
  rw [← depth]
  exact ofDocument_toJson (floatsReadBack_ofReturns n) file

end Environment

end RouteBindings
