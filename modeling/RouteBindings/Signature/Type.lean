import RouteBindings.Number.Double

namespace RouteBindings

inductive BaseType where
  | any
  | void
  | nil
  | bool
  | top
  | bottom
  | self
  | selfInstance
  | selfClass
  deriving DecidableEq, Repr

def BaseType.all : List BaseType :=
  [any, void, nil, bool, top, bottom, self, selfInstance, selfClass]

def BaseType.name : BaseType → String
  | any => "any"
  | void => "void"
  | nil => "nil"
  | bool => "bool"
  | top => "top"
  | bottom => "bottom"
  | self => "self"
  | selfInstance => "instance"
  | selfClass => "class"

inductive LiteralType where
  | string (s : String)
  | symbol (s : String)
  | integer (n : Int64)
  | bool (b : Bool)
  | float (x : Number.Double)
  deriving DecidableEq, Repr

inductive FieldKey where
  | symbol (s : String)
  | string (s : String)
  deriving DecidableEq, Repr

def FieldKey.text : FieldKey → String
  | symbol s => s
  | string s => s

structure RecordField (τ : Type) where
  key : FieldKey
  type : τ
  deriving DecidableEq, Repr

inductive ParamKind where
  | requiredPositional
  | optionalPositional
  | trailingPositional
  | requiredKeyword
  | optionalKeyword
  | restPositional
  | restKeyword
  deriving DecidableEq, Repr

def ParamKind.all : List ParamKind :=
  [requiredPositional, optionalPositional, trailingPositional, requiredKeyword, optionalKeyword,
    restPositional, restKeyword]

def ParamKind.name : ParamKind → String
  | requiredPositional => "required_positional"
  | optionalPositional => "optional_positional"
  | trailingPositional => "trailing_positional"
  | requiredKeyword => "required_keyword"
  | optionalKeyword => "optional_keyword"
  | restPositional => "rest_positional"
  | restKeyword => "rest_keyword"

/-- A positional parameter may have no name. -/
structure Param (τ : Type) where
  name : Option String
  type : τ
  kind : ParamKind
  deriving DecidableEq, Repr

structure Callable (τ : Type) where
  params : List (Param τ)
  returns : τ
  deriving DecidableEq, Repr

inductive TypeExpr where
  | base (name : BaseType)
  | literal (value : LiteralType)
  | tuple (types : List TypeExpr)
  | record (fields : List (RecordField TypeExpr))
  | union (types : List TypeExpr)
  | intersection (types : List TypeExpr)
  | optional (type : TypeExpr)
  | classInstance (name : String) (args : List TypeExpr)
  | function (callable : Callable TypeExpr)
  | interface (name : String) (args : List TypeExpr)
  | classSingleton (name : String)
  | variable (name : String)
  | typeAlias (name : String)
  | proc (callable : Callable TypeExpr)
  deriving Inhabited

inductive TypeKind where
  | base
  | literal
  | tuple
  | record
  | union
  | intersection
  | optional
  | classInstance
  | function
  | interface
  | classSingleton
  | variable
  | typeAlias
  | proc
  deriving DecidableEq, Repr

def TypeKind.all : List TypeKind :=
  [base, literal, tuple, record, union, intersection, optional, classInstance, function, interface,
    classSingleton, .variable, typeAlias, proc]

def TypeKind.name : TypeKind → String
  | base => "base"
  | literal => "literal"
  | tuple => "tuple"
  | record => "record"
  | union => "union"
  | intersection => "intersection"
  | optional => "optional"
  | classInstance => "class_instance"
  | function => "function"
  | interface => "interface"
  | classSingleton => "class_singleton"
  | .variable => "variable"
  | typeAlias => "alias"
  | proc => "proc"

def TypeExpr.kind : TypeExpr → TypeKind
  | base _ => .base
  | literal _ => .literal
  | tuple _ => .tuple
  | record _ => .record
  | union _ => .union
  | intersection _ => .intersection
  | optional _ => .optional
  | classInstance _ _ => .classInstance
  | function _ => .function
  | interface _ _ => .interface
  | classSingleton _ => .classSingleton
  | .variable _ => .variable
  | typeAlias _ => .typeAlias
  | proc _ => .proc

end RouteBindings
