import RouteBindings.Number.Double

/-!
The shortest decimal of a number: of all decimals that read back to it, one with the fewest digits,
and of those the nearest. Where two are equally near, the caller says which one is taken.
-/

namespace RouteBindings.Number

structure Decimal where
  digits : Nat
  power : Int
  deriving DecidableEq, Repr

/-- Which decimal stands for a number that lies half-way between two of them. -/
inductive Halfway where
  | toEven
  | up
  deriving DecidableEq, Repr

def Halfway.takesLower (halfway : Halfway) (num den : Nat) : Bool :=
  let twice := 2 * (num % den)
  if twice = den then
    match halfway with
    | toEven => num / den % 2 = 0
    | up => false
  else twice < den

namespace Decimal

def decimalLog (num den : Nat) : Int :=
  let k := ((Nat.toDigits 10 num).length : Int) - (Nat.toDigits 10 den).length
  if den * tenTo k.toNat ≤ num * tenTo (-k).toNat then k else k - 1

def besideQuarters (d : Decimal) (quarters : Nat) (exponent : Int) : Nat × Nat :=
  (d.digits * tenTo d.power.toNat * twoTo (2 - exponent).toNat,
    quarters * tenTo (-d.power).toNat * twoTo (exponent - 2).toNat)

/- The neighbour below a power of two is only half as far away as the one above. The two ends round
to the number itself when its mantissa is even. -/
def readsBack (mantissa : Nat) (exponent : Int) (d : Decimal) : Bool :=
  let below := if mantissa = twoTo 52 && Double.leastExponent < exponent then 1 else 2
  let (fromLow, low) := d.besideQuarters (4 * mantissa - below) exponent
  let (fromHigh, high) := d.besideQuarters (4 * mantissa + 2) exponent
  if mantissa % 2 = 0 then low ≤ fromLow && fromHigh ≤ high
  else low < fromLow && fromHigh < high

/-- The nearer of the number's two neighbours on the grid of decimals with `size` digits, of those
that read back. -/
def onGrid (halfway : Halfway) (mantissa : Nat) (exponent : Int) (size : Nat) : Option Decimal :=
  let num := mantissa * twoTo exponent.toNat
  let den := twoTo (-exponent).toNat
  let power := decimalLog num den - (size - 1 : Nat)
  let scaledNum := num * tenTo (-power).toNat
  let scaledDen := den * tenTo power.toNat
  let lower : Decimal := ⟨scaledNum / scaledDen, power⟩
  let upper : Decimal :=
    if lower.digits + 1 = tenTo size then ⟨1, power + size⟩ else ⟨lower.digits + 1, power⟩
  match readsBack mantissa exponent lower, readsBack mantissa exponent upper with
  | true, true =>
    if halfway.takesLower scaledNum scaledDen then some lower else some upper
  | true, false => some lower
  | false, true => some upper
  | false, false => none

/-- Seventeen digits always suffice. -/
def shortest (halfway : Halfway) (mantissa : Nat) (exponent : Int) : Decimal :=
  if mantissa = 0 then ⟨0, 0⟩
  else ((List.range' 1 17).findSome? (onGrid halfway mantissa exponent)).getD ⟨0, 0⟩

end Decimal

end RouteBindings.Number
