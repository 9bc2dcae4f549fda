import RouteBindings.Number.Layout
import RouteBindings.Signature.Type

namespace RouteBindings

inductive Construct where
  | functionValue
  | interface (name : String)
  | singleton (name : String)
  | typeVariable (name : String)
  | typeAlias (name : String)
  | proc
  | base (type : BaseType)
  | floatLiteral (x : Number.Double)
  | classUse (name : String) (arguments : Nat)
  | restPositional
  | restKeyword
  | unnamedParameter
  | typeParameters (names : List String)
  | block (required : Bool)
  deriving DecidableEq, Repr

def Construct.description : Construct → String
  | functionValue => "function type used as a value type"
  | .interface name => "interface `" ++ name ++ "`"
  | singleton name => "singleton(`" ++ name ++ "`)"
  | typeVariable name => "type variable `" ++ name ++ "`"
  | typeAlias name => "type alias `" ++ name ++ "`"
  | proc => "proc type"
  | base type => type.name ++ " type"
  | floatLiteral x => "literal " ++ x.text
  | classUse name arguments =>
    "class `" ++ name ++ "` with " ++ toString arguments ++ " type argument(s)"
  | restPositional => "rest positional parameter"
  | restKeyword => "rest keyword parameter"
  | unnamedParameter => "unnamed parameter"
  | typeParameters names => "type parameters [" ++ String.intercalate ", " names ++ "]"
  | block required => if required then "required block" else "optional block"

end RouteBindings
