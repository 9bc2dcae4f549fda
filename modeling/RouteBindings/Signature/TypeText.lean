import RouteBindings.Error
import RouteBindings.Text.Join
import RouteBindings.Text.Quoted

/-!
Type expressions as text. The level is the place of a type: zero where it stands alone, one under an
optional, two in an intersection. Unions and intersections take parentheses at every level but zero.
-/

namespace RouteBindings

/-- Words that signatures reserve; as record keys they are quoted. -/
def reservedWords : List String :=
  ["bool", "bot", "class", "instance", "interface", "nil", "self", "singleton", "top", "void",
    "type", "unchecked", "in", "out", "end", "def", "include", "extend", "prepend", "alias",
    "module", "attr_reader", "attr_writer", "attr_accessor", "public", "private", "untyped", "true",
    "false"]

def isIdentifier (s : String) : Bool :=
  match s.toList with
  | [] => false
  | c :: rest => (c.isAlpha || c = '_') && rest.all fun d => d.isAlphanum || d = '_'

def FieldKey.chars : FieldKey → List Char
  | symbol s =>
    if isIdentifier s && !reservedWords.contains s then s.toList else Text.quotedChars s.toList
  | string s => Text.quotedChars s.toList

def BaseType.chars : BaseType → Except Error (List Char)
  | any => .ok "any".toList
  | void => .ok "void".toList
  | nil => .ok "null".toList
  | bool => .ok "boolean".toList
  | other => .error (.unsupported (.base other))

def LiteralType.chars : LiteralType → Except Error (List Char)
  | string s => .ok (Text.quotedChars s.toList)
  | symbol s => .ok (Text.quotedChars s.toList)
  | integer n => .ok (toString n.toInt).toList
  | bool b => .ok (if b then "true".toList else "false".toList)
  | float x => .error (.unsupported (.floatLiteral x))

def classPath : List Char → List Char
  | ':' :: ':' :: rest => classPath rest
  | name => name

def parenthesized (level : Nat) (body : List Char) : List Char :=
  if level = 0 then body else '(' :: body ++ [')']

/-- The mark of an optional type; a symbol keeps a blank before it. -/
def optionalMark : TypeExpr → List Char
  | .literal (.symbol _) => [' ', '?']
  | _ => ['?']

namespace TypeExpr

mutual
def chars (level : Nat) : TypeExpr → Except Error (List Char)
  | base name => name.chars
  | literal value => value.chars
  | tuple [] => .ok "[ ]".toList
  | tuple (type :: types) => do
    let items ← charsOf 0 (type :: types)
    return "[ ".toList ++ Text.joined ", ".toList items ++ " ]".toList
  | record [] => .ok "\x7b \x7d".toList
  | record (field :: fields) => do
    let items ← fieldChars (field :: fields)
    return "\x7b ".toList ++ Text.joined "; ".toList items ++ " \x7d".toList
  | union types => do
    let items ← charsOf 0 types
    return parenthesized level (Text.joined " | ".toList items)
  | intersection types => do
    let items ← charsOf 2 types
    return parenthesized level (Text.joined " & ".toList items)
  | optional type => do
    let body ← type.chars 1
    return body ++ optionalMark type
  | classInstance name args =>
    let path := classPath name.toList
    match args with
    | [] =>
      if path = "Integer".toList then .ok "number".toList
      else if path = "String".toList then .ok "string".toList
      else .error (.unsupported (.classUse name 0))
    | [item] =>
      if path = "Array".toList then do
        let body ← item.chars 0
        return body ++ ['[', ']']
      else .error (.unsupported (.classUse name 1))
    | _ :: _ :: rest => .error (.unsupported (.classUse name (rest.length + 2)))
  | function _ => .error (.unsupported .functionValue)
  | interface name _ => .error (.unsupported (.interface name))
  | classSingleton name => .error (.unsupported (.singleton name))
  | .variable name => .error (.unsupported (.typeVariable name))
  | typeAlias name => .error (.unsupported (.typeAlias name))
  | proc _ => .error (.unsupported .proc)

def charsOf (level : Nat) : List TypeExpr → Except Error (List (List Char))
  | [] => .ok []
  | type :: rest => do
    let first ← type.chars level
    let others ← charsOf level rest
    return first :: others

def fieldChars : List (RecordField TypeExpr) → Except Error (List (List Char))
  | [] => .ok []
  | ⟨key, type⟩ :: rest => do
    let body ← type.chars 0
    let others ← fieldChars rest
    return (key.chars ++ ": ".toList ++ body) :: others
end

def text (level : Nat) (type : TypeExpr) : Except Error String :=
  (type.chars level).map String.ofList

end TypeExpr

end RouteBindings
