import RouteBindings.Log
import RouteBindings.Names
import RouteBindings.Signature.Environment

namespace RouteBindings

structure ActionSignature where
  controller : String
  action : String
  paramsType : String
  returnType : String
  deriving DecidableEq, Repr

namespace ActionSignature

def paramsAlias (s : ActionSignature) : String :=
  Names.paramsAlias s.controller s.action

def returnAlias (s : ActionSignature) : String :=
  Names.returnAlias s.controller s.action

end ActionSignature

structure SignatureTable where
  controllers : Table String (Table String ActionSignature)

namespace SignatureTable

def empty : SignatureTable := ⟨.empty⟩

def get? (t : SignatureTable) (controller action : String) : Option ActionSignature :=
  (t.controllers.get? controller).bind (·.get? action)

def toList (t : SignatureTable) : List ActionSignature :=
  t.controllers.values.flatMap Table.values

def size (t : SignatureTable) : Nat :=
  t.controllers.values.foldr (fun actions count => actions.rows.length + count) 0

def insert (t : SignatureTable) (s : ActionSignature) : SignatureTable :=
  let actions := (t.controllers.get? s.controller).getD .empty
  ⟨t.controllers.put s.controller (actions.put s.action s)⟩

end SignatureTable

structure Collection where
  signatures : SignatureTable
  diagnostics : List Diagnostic

namespace Collection

def orEmptyObject (type : String) : String :=
  if type = "" then "\x7b\x7d" else type

/-- The signature of one action; none if its method is not declared. -/
def convert (controller : Controller) (key action : String) :
    Except Error (Option ActionSignature) :=
  match controller.methods.get? action with
  | none => .ok none
  | some method =>
    match method.overloads with
    | [overload] => do
      let callable ← overload.plain
      let paramsType ← callable.paramsText
      let returnType ← callable.returnText
      return some ⟨key, action, orEmptyObject paramsType, orEmptyObject returnType⟩
    | overloads => .error (.ambiguousOverload overloads.length)

def addAction (controller : Controller) (c : Collection) (action : String) :
    Except Error Collection :=
  match convert controller (Names.controllerKey controller.name) action with
  | .ok (some signature) => .ok { c with signatures := c.signatures.insert signature }
  | .ok none => .ok c
  | .error error =>
    if error.isRecoverable then
      let subject := controller.name ++ "#" ++ action
      .ok { c with diagnostics := c.diagnostics ++ [⟨subject, error.message⟩] }
    else .error error

def addController (c : Collection) (controller : Controller) : Except Error Collection :=
  controller.actions.foldlM (addAction controller) c

def ofEnvironment (env : Environment) : Except Error Collection := do
  env.validate
  env.controllers.foldlM addController ⟨.empty, []⟩

def event (level : LogLevel) (message : String) (fields : List (String × String)) : LogEvent :=
  ⟨level, "routes_ts::signatures", message, fields⟩

def skipping (d : Diagnostic) : LogEvent :=
  event .warn "skipping action" [("subject", d.subject), ("error", d.reason)]

/-- What is logged of one action. An error that ends the run is not. -/
def actionEvents (controller : Controller) (action : String) : List LogEvent :=
  let key := Names.controllerKey controller.name
  match convert controller key action with
  | .ok (some _) => [event .debug "collected signature" [("controller", key), ("action", action)]]
  | .ok none =>
    [event .debug "no signature declared" [("controller", controller.name), ("action", action)]]
  | .error error =>
    if error.isRecoverable then [skipping ⟨controller.name ++ "#" ++ action, error.message⟩] else []

def done (c : Collection) : LogEvent :=
  event .info "signature collection done"
    [("actions", toString c.signatures.size), ("skipped", toString c.diagnostics.length)]

variable {m : Type → Type} [Monad m]

def takeAction (controller : Controller) (c : Collection) (action : String) :
    Logged m Error Collection := do
  Logged.logAll (actionEvents controller action)
  addAction controller c action

def takeController (c : Collection) (controller : Controller) : Logged m Error Collection :=
  controller.actions.foldlM (takeAction controller) c

/-- The steps to the collection of an environment, with what they log. -/
def collect (env : Environment) : Logged m Error Collection := do
  env.validate
  let c ← env.controllers.foldlM takeController ⟨.empty, []⟩
  Logged.log (done c)
  return c

end Collection

end RouteBindings
