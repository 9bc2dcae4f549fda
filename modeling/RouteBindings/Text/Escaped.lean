import RouteBindings.Text.Escaped.Table

namespace RouteBindings.Text

def isShapeless (c : Char) : Bool :=
  c.toNat < 32 || shapelessRanges.any fun (first, last) => first ≤ c.toNat && c.toNat ≤ last

def codePoint (c : Char) : List Char :=
  '\\' :: 'u' :: '{' :: Nat.toDigits 16 c.toNat ++ ['}']

def escapedChar (c : Char) : List Char :=
  if c = '"' then ['\\', '"']
  else if c = '\\' then ['\\', '\\']
  else if c.toNat = 0 then ['\\', '0']
  else if c.toNat = 9 then ['\\', 't']
  else if c.toNat = 10 then ['\\', 'n']
  else if c.toNat = 13 then ['\\', 'r']
  else if isShapeless c then codePoint c
  else [c]

def escaped (s : String) : String :=
  String.ofList ('"' :: s.toList.flatMap escapedChar ++ ['"'])

end RouteBindings.Text
