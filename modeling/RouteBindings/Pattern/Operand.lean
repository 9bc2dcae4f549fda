import RouteBindings.Json.Value
import RouteBindings.Number.Layout
import RouteBindings.Number.Reading
import RouteBindings.Text.Blank
import RouteBindings.Text.Join

namespace RouteBindings

inductive Operand where
  | null
  | bool (b : Bool)
  | number (x : Number.Double)
  | text (s : String)
  deriving DecidableEq, Repr

def truthText (b : Bool) : String :=
  if b then "true" else "false"

mutual
/-- Lists join the texts of their items by commas, and a null in them is empty. -/
def Json.plainText : Json → String
  | .null => "null"
  | .bool b => truthText b
  | .number n => n.toDouble.exactText
  | .string s => s
  | .array items => String.ofList (Text.joined [','] (Json.plainItems items))
  | .object _ => "[object Object]"

def Json.plainItems : List Json → List (List Char)
  | [] => []
  | .null :: rest => [] :: Json.plainItems rest
  | item :: rest => item.plainText.toList :: Json.plainItems rest
end

namespace Operand

def ofJson : Json → Operand
  | .null => null
  | .bool b => bool b
  | .number n => number n.toDouble
  | .string s => text s
  | other => text other.plainText

def toText : Operand → String
  | null => "null"
  | bool b => truthText b
  | number x => x.exactText
  | text s => s

/-- Blank text is zero. Besides decimals only the spelled infinities are numbers. -/
def textNumber (s : String) : Number.Double :=
  let cs := Text.trimBlanks s.toList
  if cs.isEmpty then .zero false
  else if cs = "Infinity".toList || cs = "+Infinity".toList then .infinite false
  else if cs = "-Infinity".toList then .infinite true
  else (Number.decimal? cs).getD .nan

def toNumber : Operand → Number.Double
  | null => .zero false
  | bool b => .ofInt (if b then 1 else 0)
  | number x => x
  | text s => textNumber s

def add : Operand → Operand → Operand
  | text s, b => text (s ++ b.toText)
  | a, text t => text (a.toText ++ t)
  | a, b => number (a.toNumber.add b.toNumber)

def bitOr (a b : Operand) : Operand :=
  number (.ofWord (a.toNumber.toWord ||| b.toNumber.toWord))

end Operand

end RouteBindings
