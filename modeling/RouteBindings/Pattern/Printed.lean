import RouteBindings.Pattern.Tree

namespace RouteBindings.Pattern

mutual
def chars : Pattern → List Char
  | literal text => text.toList
  | symbol name wildcard => (if wildcard then '*' else ':') :: name.toList
  | group body => '(' :: body.chars ++ [')']
  | concat left right => left.chars ++ right.chars
  | alternation children => charsOf children

def charsOf : List Pattern → List Char
  | [] => []
  | [child] => child.chars
  | child :: rest => child.chars ++ '|' :: charsOf rest
end

def written (p : Pattern) : String :=
  String.ofList p.chars

end RouteBindings.Pattern
