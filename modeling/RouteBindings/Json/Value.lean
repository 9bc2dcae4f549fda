import RouteBindings.Number.Double
import RouteBindings.Table

namespace RouteBindings

/-- A number without point or exponent that fits a 64-bit word stays an integer. -/
inductive Numeral where
  | integer (n : Int)
  | double (x : Number.Double)
  deriving DecidableEq, Repr

def Numeral.toDouble : Numeral → Number.Double
  | integer n => .ofInt n
  | double x => x

inductive Json where
  | null
  | bool (b : Bool)
  | number (n : Numeral)
  | string (s : String)
  | array (items : List Json)
  | object (entries : List (String × Json))

namespace Json

mutual
def unique : Json → Json
  | array items => array (uniqueItems items)
  | object entries => object (Table.ofRows (uniqueValues entries)).rows
  | other => other

def uniqueItems : List Json → List Json
  | [] => []
  | item :: rest => item.unique :: uniqueItems rest

def uniqueValues : List (String × Json) → List (String × Json)
  | [] => []
  | (name, value) :: rest => (name, value.unique) :: uniqueValues rest
end

end Json

end RouteBindings
