namespace RouteBindings.Text

def comesBefore : List Char → List Char → Bool
  | [], [] => false
  | [], _ :: _ => true
  | _ :: _, [] => false
  | c :: cs, d :: ds => c.toNat < d.toNat || (c.toNat = d.toNat && comesBefore cs ds)

def insertName (name : String) : List String → List String
  | [] => [name]
  | other :: rest =>
    if name = other then other :: rest
    else if comesBefore name.toList other.toList then name :: other :: rest
    else other :: insertName name rest

def sortedNames (names : List String) : List String :=
  names.foldr insertName []

end RouteBindings.Text
