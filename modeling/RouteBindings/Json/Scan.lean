import RouteBindings.Json.Draft
import RouteBindings.Number.Reading

namespace RouteBindings

namespace Draft

def skipBlanks (cs : List Char) : List Char :=
  cs.dropWhile fun c => c = ' ' || c = '\t' || c = '\n' || c = '\r'

def hexValue? (c : Char) : Option Nat :=
  let n := c.toNat
  if 48 ≤ n && n ≤ 57 then some (n - 48)
  else if 97 ≤ n && n ≤ 102 then some (n - 87)
  else if 65 ≤ n && n ≤ 70 then some (n - 55)
  else none

def hexUnit? (a b c d : Char) : Option Nat :=
  match hexValue? a, hexValue? b, hexValue? c, hexValue? d with
  | some a, some b, some c, some d => some (((a * 16 + b) * 16 + c) * 16 + d)
  | _, _, _, _ => none

def escape? (c : Char) : Option Char :=
  if c = '"' || c = '\\' || c = '/' then some c
  else if c = 'b' then some (Char.ofNat 8)
  else if c = 'f' then some (Char.ofNat 12)
  else if c = 'n' then some '\n'
  else if c = 'r' then some '\r'
  else if c = 't' then some '\t'
  else none

inductive TextUnit where
  | whole (c : Char)
  | half (unit : Nat)

def unitOf (n : Nat) : TextUnit :=
  if 0xd800 ≤ n && n < 0xe000 then .half n else .whole (Char.ofNat n)

/-- Half a pair that stands alone leaves the text without meaning. -/
def joinUnits : List TextUnit → Option (List Char)
  | [] => some []
  | .whole c :: rest => (joinUnits rest).map (c :: ·)
  | .half high :: .half low :: rest =>
    if high < 0xdc00 && 0xdc00 ≤ low then
      (joinUnits rest).map (Char.ofNat (0x10000 + (high - 0xd800) * 1024 + (low - 0xdc00)) :: ·)
    else none
  | .half _ :: _ => none

def scanUnits : List Char → Option (List TextUnit × List Char)
  | [] => none
  | '"' :: rest => some ([], rest)
  | '\\' :: 'u' :: a :: b :: c :: d :: rest =>
    match hexUnit? a b c d, scanUnits rest with
    | some n, some (units, rest) => some (unitOf n :: units, rest)
    | _, _ => none
  | '\\' :: c :: rest =>
    match escape? c, scanUnits rest with
    | some c, some (units, rest) => some (.whole c :: units, rest)
    | _, _ => none
  | c :: rest =>
    if c.toNat < 32 then none
    else (scanUnits rest).map fun (units, rest) => (.whole c :: units, rest)

def scanText (cs : List Char) : Option (Option String × List Char) :=
  (scanUnits cs).map fun (units, rest) => ((joinUnits units).map String.ofList, rest)

def wordLimit : Nat := Number.twoTo 64

/-- Takes digits into a significand while it fits a word, and hands back those that do not. -/
def takeDigits (significand : Nat) : List Char → Nat × List Char
  | [] => (significand, [])
  | c :: rest =>
    let next := 10 * significand + (c.toNat - 48)
    if next < wordLimit then takeDigits next rest else (significand, c :: rest)

/-- The significand times a power of ten, rounded after each step; none beyond the range. -/
def scale? (negative : Bool) (significand : Nat) (power : Int) : Option Number.Double :=
  let x := Number.Double.round negative significand 1
  if 0 ≤ power then
    if significand = 0 then some x
    else if power ≤ 308 then
      match x.timesTen power.toNat with
      | .finite s m e => some (.finite s m e)
      | _ => none
    else none
  else
    let places := (-power).toNat
    if places ≤ 308 then some (x.overTen places)
    else if places ≤ 616 then some ((x.overTen 308).overTen (places - 308))
    else some (.zero negative)

/-- An integer stays one if it fits; a negative zero is no integer. -/
def numeral? (negative : Bool) (whole fraction : List Char) (exponent : Option Int) :
    Option Numeral :=
  let (significand, dropped) := takeDigits 0 whole
  if fraction.isEmpty && exponent.isNone && dropped.isEmpty then
    if !negative then some (.integer significand)
    else if significand = 0 || Number.twoTo 63 < significand then
      some (.double (.round true significand 1))
    else some (.integer (-(significand : Int)))
  else
    let (significand, ignored) := takeDigits significand fraction
    let places : Int := dropped.length - (fraction.length - ignored.length : Nat)
    (scale? negative significand (places + exponent.getD 0)).map .double

def scanFraction : List Char → Option (List Char × List Char)
  | '.' :: rest =>
    let digits := rest.takeWhile Char.isDigit
    if digits.isEmpty then none else some (digits, rest.dropWhile Char.isDigit)
  | rest => some ([], rest)

def scanExponent : List Char → Option (Option Int × List Char)
  | [] => some (none, [])
  | c :: rest =>
    if c = 'e' || c = 'E' then
      let (negative, rest) := Number.takeSign rest
      let digits := rest.takeWhile Char.isDigit
      let n : Int := Number.digitsValue digits
      if digits.isEmpty then none
      else some (some (if negative then -n else n), rest.dropWhile Char.isDigit)
    else some (none, c :: rest)

def scanNumber (negative : Bool) (cs : List Char) : Draft × Option (List Char) :=
  let whole := cs.takeWhile Char.isDigit
  let leadingZero := whole.head? = some '0' && 1 < whole.length
  if whole.isEmpty || leadingZero then (broken, none)
  else
    match scanFraction (cs.dropWhile Char.isDigit) with
    | none => (broken, none)
    | some (fraction, rest) =>
      match scanExponent rest with
      | none => (broken, none)
      | some (exponent, rest) =>
        match numeral? negative whole fraction exponent with
        | some n => (number n, some rest)
        | none => (flawed, some rest)

mutual
/-- One value, and the characters after it unless the text breaks inside. The fuel counts calls: an
opening bracket needs two, one for itself and one for the first thing inside. -/
def scanValue : Nat → List Char → Draft × Option (List Char)
  | 0, _ => (broken, none)
  | fuel + 1, cs =>
    match skipBlanks cs with
    | 'n' :: 'u' :: 'l' :: 'l' :: rest => (null, some rest)
    | 't' :: 'r' :: 'u' :: 'e' :: rest => (bool true, some rest)
    | 'f' :: 'a' :: 'l' :: 's' :: 'e' :: rest => (bool false, some rest)
    | '"' :: rest =>
      match scanText rest with
      | none => (broken, none)
      | some (none, rest) => (flawed, some rest)
      | some (some text, rest) => (string text, some rest)
    | '[' :: rest =>
      match skipBlanks rest with
      | ']' :: rest => (array [] true, some rest)
      | rest =>
        let (items, rest) := scanItems fuel rest
        (array items rest.isSome, rest)
    | '{' :: rest =>
      match skipBlanks rest with
      | '}' :: rest => (object [] true, some rest)
      | rest =>
        let (entries, rest) := scanEntries fuel rest
        (object entries rest.isSome, rest)
    | '-' :: rest => scanNumber true rest
    | rest => scanNumber false rest

def scanItems : Nat → List Char → List Draft × Option (List Char)
  | 0, _ => ([], none)
  | fuel + 1, cs =>
    match scanValue fuel cs with
    | (item, none) => ([item], none)
    | (item, some rest) =>
      match skipBlanks rest with
      | ']' :: rest => ([item], some rest)
      | ',' :: rest =>
        let (items, rest) := scanItems fuel rest
        (item :: items, rest)
      | _ => ([item], none)

def scanEntries : Nat → List Char → List (Option String × Draft) × Option (List Char)
  | 0, _ => ([], none)
  | fuel + 1, cs =>
    match skipBlanks cs with
    | '"' :: rest =>
      match scanText rest with
      | none => ([], none)
      | some (name, rest) =>
        match skipBlanks rest with
        | ':' :: rest =>
          match scanValue fuel rest with
          | (value, none) => ([(name, value)], none)
          | (value, some rest) =>
            match skipBlanks rest with
            | '}' :: rest => ([(name, value)], some rest)
            | ',' :: rest =>
              let (entries, rest) := scanEntries fuel rest
              ((name, value) :: entries, rest)
            | _ => ([(name, value)], none)
        | _ => ([(name, broken)], none)
    | _ => ([], none)
end

/-- No character needs more than two calls. -/
def scan (text : String) : Draft × Option (List Char) :=
  scanValue (2 * text.length + 2) text.toList

def ofText (text : String) : Draft :=
  (scan text).1

end Draft

def Json.ofText? (text : String) : Option Json :=
  match Draft.scan text with
  | (draft, some rest) =>
    if (Draft.skipBlanks rest).isEmpty then (draft.value? Draft.nestingLimit).map unique else none
  | (_, none) => none

end RouteBindings
