import RouteBindings.Pattern.Expression
import RouteBindings.Route.Resource

namespace RouteBindings

def Text.commaQuoted (names : List String) : String :=
  String.intercalate "," (names.map Text.quote)

namespace SignatureTable

def paramsBlock (t : SignatureTable) : String :=
  String.join (t.toList.map fun s => "type " ++ s.paramsAlias ++ " = " ++ s.paramsType ++ "\n")

def returnsBlock (t : SignatureTable) : String :=
  String.join (t.toList.map fun s =>
    "type " ++ s.returnAlias ++ " = Exclude<" ++ s.returnType ++ ", void>\n")

end SignatureTable

namespace Resource

def verbProperties (resource : Resource) (aliasOf : ActionSignature → String) : String :=
  String.intercalate ",\n"
    (resource.verbs.rows.map fun (verb, s) => "    " ++ verb ++ ": " ++ aliasOf s)

def methods (resource : Resource) : String :=
  String.intercalate " | " (resource.verbs.keys.map Text.quote)

def exportName (resource : Resource) : String :=
  Names.camelizeLower resource.name

def text (resource : Resource) : String :=
  let names := Text.commaQuoted resource.names
  "export const " ++ resource.exportName ++ " = \x7b\n" ++
  "  path: " ++ resource.pattern.pathFunction resource.names ++ ",\n" ++
  "  names: [" ++ names ++ "]\n" ++
  "\x7d as \x7b\n" ++
  "  path: (args: any) => string\n" ++
  "  names: [" ++ names ++ "]\n" ++
  "  Methods?: " ++ resource.methods ++ "\n" ++
  "  Params?: \x7b\n" ++
  resource.verbProperties ActionSignature.paramsAlias ++ "\n" ++
  "  \x7d\n" ++
  "  Return?: \x7b\n" ++
  resource.verbProperties ActionSignature.returnAlias ++ "\n" ++
  "  \x7d\n" ++
  "\x7d\n"

def block (resources : List Resource) : String :=
  String.join (resources.map text)

end Resource

end RouteBindings
