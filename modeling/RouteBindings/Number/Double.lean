import RouteBindings.Number.Power

/-!
Floating point numbers of 53 significant bits. Every operation works exactly on naturals and rounds
once at the end, to the nearest number and a tie to the even mantissa.
-/

namespace RouteBindings.Number

/-- A finite number is `mantissa * 2 ^ exponent`; zero keeps its sign. -/
inductive Double where
  | nan
  | infinite (negative : Bool)
  | finite (negative : Bool) (mantissa : Nat) (exponent : Int)
  deriving DecidableEq, Repr

namespace Double

def leastExponent : Int := -1074

def greatestExponent : Int := 971

def zero (negative : Bool) : Double :=
  .finite negative 0 leastExponent

def binaryLog (num den : Nat) : Int :=
  let k := (Nat.log2 num : Int) - Nat.log2 den
  if den * twoTo k.toNat ≤ num * twoTo (-k).toNat then k else k - 1

/-- The natural nearest to `num / den`, a tie going to the even one. -/
def nearest (num den : Nat) : Nat :=
  let quotient := num / den
  let twice := 2 * (num % den)
  if twice < den then quotient
  else if den < twice then quotient + 1
  else quotient + quotient % 2

def round (negative : Bool) (num den : Nat) : Double :=
  if num = 0 then zero negative
  else
    let scale := binaryLog num den - 52
    let exponent := if scale < leastExponent then leastExponent else scale
    let mantissa := nearest (num * twoTo (-exponent).toNat) (den * twoTo exponent.toNat)
    if mantissa = twoTo 53 then
      if exponent + 1 > greatestExponent then .infinite negative
      else .finite negative (twoTo 52) (exponent + 1)
    else if exponent > greatestExponent then .infinite negative
    else .finite negative mantissa exponent

def ofInt (n : Int) : Double :=
  round (n < 0) n.natAbs 1

/-- The number nearest to `digits * 10 ^ power`, where `size` is the count of decimal digits. Beyond
the range of the exponent the power itself is not computed. -/
def ofDecimal (negative : Bool) (digits : Nat) (size : Nat) (power : Int) : Double :=
  if digits = 0 then zero negative
  else if power + size > 400 then .infinite negative
  else if power + size < -400 then zero negative
  else round negative (digits * tenTo power.toNat) (tenTo (-power).toNat)

def neg : Double → Double
  | nan => nan
  | infinite s => .infinite !s
  | finite s m e => .finite (!s) m e

def isZero : Double → Bool
  | finite _ m _ => m = 0
  | _ => false

def scaled (negative : Bool) (mantissa : Nat) (shift : Nat) : Int :=
  let n : Int := (mantissa * twoTo shift : Nat)
  if negative then -n else n

def add : Double → Double → Double
  | nan, _ => nan
  | _, nan => nan
  | infinite s, infinite t => if s = t then .infinite s else nan
  | infinite s, finite _ _ _ => .infinite s
  | finite _ _ _, infinite t => .infinite t
  | finite s m e, finite t n f =>
    let least := if e < f then e else f
    let sum := scaled s m (e - least).toNat + scaled t n (f - least).toNat
    if sum = 0 then zero (s && t)
    else round (sum < 0) (sum.natAbs * twoTo least.toNat) (twoTo (-least).toNat)

def timesTen (power : Nat) : Double → Double
  | finite s m e =>
    match round false (tenTo power) 1 with
    | finite _ n f => round s (m * n * twoTo (e + f).toNat) (twoTo (-(e + f)).toNat)
    | _ => .infinite s
  | x => x

def overTen (power : Nat) : Double → Double
  | finite s m e =>
    match round false (tenTo power) 1 with
    | finite _ n f => round s (m * twoTo (e - f).toNat) (n * twoTo (f - e).toNat)
    | _ => zero s
  | x => x

def truncate? : Double → Option Int
  | finite s m e =>
    let n : Int := (m * twoTo e.toNat / twoTo (-e).toNat : Nat)
    some (if s then -n else n)
  | _ => none

/-- The whole part read as a 32-bit word; what is not finite counts as zero. -/
def toWord (x : Double) : BitVec 32 :=
  BitVec.ofInt 32 ((truncate? x).getD 0)

def ofWord (w : BitVec 32) : Double :=
  ofInt w.toInt

end Double

end RouteBindings.Number
