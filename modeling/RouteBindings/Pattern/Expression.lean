import RouteBindings.Pattern.Tree
import RouteBindings.Text.Quoted

/-!
Patterns as expressions that build the path from destructured parameters. A required segment throws
its name when it is missing, and a group answers the empty text when anything inside it throws.
-/

namespace RouteBindings.Pattern

mutual
def expression (seed : String) : Pattern → String
  | literal text => seed ++ Text.quote text
  | symbol name wildcard =>
    if wildcard then seed ++ "(" ++ name ++ " ?? \"\")"
    else
      seed ++ "(() => \x7b if (" ++ name ++ ") return " ++ name ++ "; throw " ++ Text.quote name ++
        " \x7d)()"
  | group body =>
    body.expression (seed ++ "(() => \x7b try \x7b return ") ++
      " \x7d catch \x7b return \"\" \x7d \x7d)()"
  | concat left right => right.expression (left.expression seed ++ " + ")
  | alternation children => expressionOf seed children

def expressionOf (seed : String) : List Pattern → String
  | [] => seed
  | [child] => child.expression seed
  | child :: rest => expressionOf (child.expression seed ++ "|") rest
end

def pathFunction (p : Pattern) (names : List String) : String :=
  let parameters :=
    if names.isEmpty then "" else "\x7b " ++ String.intercalate ", " names ++ " \x7d: any"
  "(" ++ parameters ++ ") => " ++ p.expression ""

end RouteBindings.Pattern
