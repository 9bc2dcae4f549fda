import RouteBindings.Number.Shortest

/-!
How numbers are written: without an exponent wherever people read them, with one in JSON text. A
number half-way between two shortest decimals is shown by the upper one to people, and by the even
one in JSON text.
-/

namespace RouteBindings.Number

namespace Decimal

def withPoint (ds : List Char) (places : Nat) : List Char :=
  if places < ds.length then
    ds.take (ds.length - places) ++ '.' :: ds.drop (ds.length - places)
  else '0' :: '.' :: List.replicate (places - ds.length) '0' ++ ds

def positional (d : Decimal) : List Char :=
  let ds := Nat.toDigits 10 d.digits
  if d.power ≥ 0 then ds ++ List.replicate d.power.toNat '0'
  else withPoint ds (-d.power).toNat

def exponent (n : Int) : List Char :=
  (if n < 0 then '-' else '+') :: Nat.toDigits 10 n.natAbs

def scientific (d : Decimal) : List Char :=
  let ds := Nat.toDigits 10 d.digits
  let tail := ds.drop 1
  ds.take 1 ++ (if tail.isEmpty then [] else '.' :: tail) ++ 'e' :: exponent (d.power + tail.length)

/-- Numbers from `10 ^ -5` up to `10 ^ 16` are written out, with at least one decimal place. -/
def json (d : Decimal) : List Char :=
  let lead := d.power + (Nat.toDigits 10 d.digits).length
  if 0 ≤ d.power && lead ≤ 16 then d.positional ++ ['.', '0']
  else if -5 < lead && lead ≤ 16 then d.positional
  else d.scientific

end Decimal

namespace Double

def signed (negative : Bool) (cs : List Char) : String :=
  String.ofList (if negative then '-' :: cs else cs)

def textBy (halfway : Halfway) (layout : Decimal → List Char) : Double → String
  | nan => "NaN"
  | infinite s => signed s "Infinity".toList
  | finite s m e => signed s (layout (Decimal.shortest halfway m e))

def text : Double → String :=
  textBy .up Decimal.positional

def jsonText : Double → String :=
  textBy .toEven Decimal.json

/-- A whole number below `10 ^ 21` shows all its digits; other numbers show their shortest ones. -/
def exactText : Double → String
  | finite s m e =>
    let whole := m * twoTo e.toNat
    let parts := twoTo (-e).toNat
    if whole % parts = 0 && whole / parts < tenTo 21 then signed s (Nat.toDigits 10 (whole / parts))
    else text (.finite s m e)
  | x => text x

end Double

end RouteBindings.Number
