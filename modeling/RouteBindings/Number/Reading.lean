import RouteBindings.Number.Double

namespace RouteBindings.Number

def digitsValue (ds : List Char) : Nat :=
  ds.foldl (fun n c => 10 * n + (c.toNat - 48)) 0

def takeSign : List Char → Bool × List Char
  | '-' :: cs => (true, cs)
  | '+' :: cs => (false, cs)
  | cs => (false, cs)

def takeFraction : List Char → List Char × List Char
  | '.' :: cs => (cs.takeWhile Char.isDigit, cs.dropWhile Char.isDigit)
  | cs => ([], cs)

def exponentOf? : List Char → Option Int
  | [] => some 0
  | c :: cs =>
    if c = 'e' || c = 'E' then
      let (negative, ds) := takeSign cs
      if ds.isEmpty || !ds.all Char.isDigit then none
      else some (if negative then -(digitsValue ds : Int) else digitsValue ds)
    else none

/-- Digits with an optional sign, point and exponent. The point may come first or last, but not
alone. -/
def decimal? (cs : List Char) : Option Double :=
  let (negative, cs) := takeSign cs
  let whole := cs.takeWhile Char.isDigit
  let (fraction, rest) := takeFraction (cs.dropWhile Char.isDigit)
  let ds := whole ++ fraction
  if ds.isEmpty then none
  else
    match exponentOf? rest with
    | none => none
    | some exponent =>
      let significant := ds.dropWhile (· = '0')
      some (Double.ofDecimal negative (digitsValue ds) significant.length
        (exponent - fraction.length))

end RouteBindings.Number
