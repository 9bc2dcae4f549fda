import RouteBindings.Json.Value
import RouteBindings.Number.Layout
import RouteBindings.Text.Quoted

namespace RouteBindings

def Numeral.text : Numeral → String
  | integer n => toString n
  | double x => x.jsonText

namespace Json

mutual
def text : Json → String
  | null => "null"
  | bool b => if b then "true" else "false"
  | number n => n.text
  | string s => Text.quote s
  | array items => "[" ++ String.intercalate "," (itemTexts items) ++ "]"
  | object entries => "\x7b" ++ String.intercalate "," (entryTexts entries) ++ "\x7d"

def itemTexts : List Json → List String
  | [] => []
  | item :: rest => item.text :: itemTexts rest

def entryTexts : List (String × Json) → List String
  | [] => []
  | (name, value) :: rest => (Text.quote name ++ ":" ++ value.text) :: entryTexts rest
end

end Json

end RouteBindings
