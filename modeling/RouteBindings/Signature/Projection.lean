import RouteBindings.Signature.TypeText

namespace RouteBindings

structure Block where
  required : Bool
  deriving DecidableEq, Repr

structure Overload where
  typeParams : List String
  block : Option Block
  callable : Callable TypeExpr

/-- Whether the parameter may be left out. Rest parameters have no place in an object type. -/
def ParamKind.isOptional : ParamKind → Except Error Bool
  | requiredPositional => .ok false
  | optionalPositional => .ok true
  | trailingPositional => .ok false
  | requiredKeyword => .ok false
  | optionalKeyword => .ok true
  | restPositional => .error (.unsupported .restPositional)
  | restKeyword => .error (.unsupported .restKeyword)

def Param.chars (param : Param TypeExpr) : Except Error (List Char) := do
  let isOptional ← param.kind.isOptional
  match param.name with
  | none => .error (.unsupported .unnamedParameter)
  | some name =>
    let type ← param.type.chars 0
    return name.toList ++ (if isOptional then "?: ".toList else ": ".toList) ++ type

namespace Callable

def paramsText (callable : Callable TypeExpr) : Except Error String := do
  let items ← callable.params.mapM Param.chars
  if items.isEmpty then return ""
  return String.ofList ("\x7b ".toList ++ Text.joined "; ".toList items ++ " \x7d".toList)

def returnText (callable : Callable TypeExpr) : Except Error String :=
  callable.returns.text 0

end Callable

/-- Generic overloads and overloads that take a block cannot be bound. -/
def Overload.plain (overload : Overload) : Except Error (Callable TypeExpr) :=
  if overload.typeParams.isEmpty then
    match overload.block with
    | some block => .error (.unsupported (.block block.required))
    | none => .ok overload.callable
  else .error (.unsupported (.typeParameters overload.typeParams))

end RouteBindings
