import RouteBindings.Document.PatternTree
import RouteBindings.Signature.Projection

namespace RouteBindings

inductive LiteralKind where
  | string
  | symbol
  | integer
  | bool
  | float
  deriving DecidableEq, Repr

def LiteralKind.all : List LiteralKind :=
  [string, symbol, integer, bool, float]

def LiteralKind.name : LiteralKind → String
  | string => "string"
  | symbol => "symbol"
  | integer => "integer"
  | bool => "bool"
  | float => "float"

namespace Read

def int64 : Draft → Read Int64
  | .number (.integer n) =>
    if Int64.minValue.toInt ≤ n ∧ n ≤ Int64.maxValue.toInt then .ok (Int64.ofInt n)
    else fail (.invalidValue (.integer n) .integer)
  | d => mismatch .integer d

def double : Draft → Read Number.Double
  | .number n => .ok n.toDouble
  | d => mismatch .float d

def baseTags : List (String × BaseType) :=
  BaseType.all.map fun base => (base.name, base)

def literalTags : List (String × LiteralKind) :=
  LiteralKind.all.map fun kind => (kind.name, kind)

def paramTags : List (String × ParamKind) :=
  ParamKind.all.map fun kind => (kind.name, kind)

def typeTags : List (String × TypeKind) :=
  TypeKind.all.map fun kind => (kind.name, kind)

def literalValue (d : Draft) : LiteralKind → Read LiteralType
  | .string => (text d).map .string
  | .symbol => (text d).map .symbol
  | .integer => (int64 d).map .integer
  | .bool => (boolean d).map .bool
  | .float => (double d).map .float

def literalEntries (es : List (Option String × Draft)) : List (String × Draft) :=
  es.filterMap fun (name, d) =>
    match name with
    | some name => if name = "type" || name = "value" then some (name, d) else none
    | none => none

def nothingMore (value : LiteralType) : List (String × Draft) → Read LiteralType
  | [] => .ok value
  | (name, _) :: _ => fail (.duplicateField name)

def literalFromEntries : List (String × Draft) → Read LiteralType
  | [] => fail (.missingField "type")
  | (first, d) :: rest =>
    if first = "type" then do
      let kind ← plainChoice literalTags heldPlace d
      match rest with
      | [] => fail (.missingField "value")
      | (second, e) :: rest =>
        if second = "type" then fail (.duplicateField "type")
        else do
          let value ← literalValue e kind
          nothingMore value rest
    else
      match rest with
      | [] => fail (.missingField "type")
      | (second, e) :: rest =>
        if second = "type" then do
          let kind ← plainChoice literalTags heldPlace e
          let value ← literalValue d kind
          nothingMore value rest
        else fail (.duplicateField "value")

def literal : Draft → Read LiteralType
  | .object es _ => literalFromEntries (literalEntries es)
  | .array [] _ => fail (.invalidLength 0 (.pair "Literal"))
  | .array (d :: rest) _ => do
    let kind ← tag literalTags heldPlace d
    match rest with
    | [] => fail (.invalidLength 1 (.pair "Literal"))
    | e :: more => do
      let value ← literalValue e kind
      if more.isEmpty then return value
      else fail (.invalidLength (more.length + 2) (.exactly 2))
  | d => mismatch (.paired "Literal") d

def fieldKeyTags : List (String × (String → FieldKey)) :=
  [("symbol", .symbol), ("string", .string)]

def fieldKey (d : Draft) : Read FieldKey := do
  let (key, value) ← choice fieldKeyTags heldPlace d
  match value with
  | none => fail (.invalidType .bareTag .tagWithValue)
  | some d => (text d).map key

def paramKind (place : Place) (d : Draft) : Read ParamKind :=
  match place.delivery with
  | .held => plainChoice paramTags place d
  | _ => streamedChoice paramTags place d

def param (type : Place → Draft → Read TypeExpr) (place : Place) (d : Draft) :
    Read (Param TypeExpr) :=
  record "struct ParamSpec"
    [.of "name" false (fun _ => optional text) fun p name => { p with name := name },
      .of "type" true type fun p type => { p with type := type },
      .of "kind" true paramKind fun p kind => { p with kind := kind }]
    ⟨none, default, .requiredPositional⟩ place d

def callable (type : Place → Draft → Read TypeExpr) (place : Place) (d : Draft) :
    Read (Callable TypeExpr) :=
  record "struct FunctionSignature"
    [.of "params" false (fun place => list place (param type)) fun c ps => { c with params := ps },
      .of "returns" true type fun c type => { c with returns := type }]
    ⟨[], default⟩ place d

def recordField (read : Draft → Read TypeExpr) (d : Draft) : Read (RecordField TypeExpr) :=
  record "struct RecordField"
    [.of "key" true (fun _ => fieldKey) fun f key => { f with key := key },
      .of "type" true (fun _ => read) fun f type => { f with type := type }]
    ⟨.symbol "", default⟩ heldPlace d

def applied (label : String) (read : Draft → Read TypeExpr) (content : Draft) :
    Read (String × List TypeExpr) :=
  record label
    [.of "name" true (fun _ => text) fun r s => (s, r.2),
      .of "args" false (fun place => list place fun _ => read) fun r ts => (r.1, ts)]
    ("", []) heldPlace content

def members (label : String) (read : Draft → Read TypeExpr) (content : Draft) :
    Read (List TypeExpr) :=
  record label [.of "types" true (fun place => list place fun _ => read) fun _ ts => ts] []
    heldPlace content

def nameOnly (label : String) (content : Draft) : Read String :=
  record label [.of "name" true (fun _ => text) fun _ s => s] "" heldPlace content

def typeFields (read : Draft → Read TypeExpr) (content : Draft) : TypeKind → Read TypeExpr
  | .base =>
    (record "struct variant TypeNode::Base"
      [.of "name" true (plainChoice baseTags) fun _ base => base] .any heldPlace content).map .base
  | .literal =>
    (record "struct variant TypeNode::Literal"
      [.of "literal" true (fun _ => literal) fun _ value => value] (.bool false) heldPlace
      content).map .literal
  | .tuple => (members "struct variant TypeNode::Tuple" read content).map .tuple
  | .record =>
    (record "struct variant TypeNode::Record"
      [.of "fields" true (fun place => list place fun _ => recordField read) fun _ fs => fs] []
      heldPlace content).map .record
  | .union => (members "struct variant TypeNode::Union" read content).map .union
  | .intersection =>
    (members "struct variant TypeNode::Intersection" read content).map .intersection
  | .optional =>
    (record "struct variant TypeNode::Optional"
      [.of "type" true (fun _ => read) fun _ type => type] default heldPlace content).map .optional
  | .classInstance =>
    (applied "struct variant TypeNode::ClassInstance" read content).map fun (name, args) =>
      .classInstance name args
  | .function => (callable (fun _ => read) heldPlace content).map .function
  | .interface =>
    (applied "struct variant TypeNode::Interface" read content).map fun (name, args) =>
      .interface name args
  | .classSingleton =>
    (nameOnly "struct variant TypeNode::ClassSingleton" content).map .classSingleton
  | .variable => (nameOnly "struct variant TypeNode::Variable" content).map .variable
  | .typeAlias => (nameOnly "struct variant TypeNode::Alias" content).map .typeAlias
  | .proc =>
    (record "struct variant TypeNode::Proc"
      [.of "type" true (callable fun _ => read) fun _ c => c] ⟨[], default⟩ heldPlace
      content).map .proc

def heldType : Nat → Draft → Read TypeExpr
  | 0, _ => malformed
  | fuel + 1, d => do
    let (kind, content) ← tagged "TypeNode" typeTags heldPlace d
    typeFields (heldType fuel) content kind

def type (place : Place) (d : Draft) : Read TypeExpr := do
  let (kind, content) ← tagged "TypeNode" typeTags place d
  here (typeFields (heldType Draft.nestingLimit) content kind)

def block (place : Place) (d : Draft) : Read Block :=
  record "struct Block"
    [.of "required" false (fun _ => boolean) fun _ required => ⟨required⟩] ⟨false⟩ place d

def overload (place : Place) (d : Draft) : Read Overload :=
  record "struct MethodType"
    [.of "type_params" false (fun place => list place fun _ => text)
        fun o names => { o with typeParams := names },
      .of "block" false (fun place => optional (block place)) fun o b => { o with block := b },
      .of "type" true (callable type) fun o c => { o with callable := c }]
    ⟨[], none, ⟨[], default⟩⟩ place d

end Read

def LiteralType.toJson : LiteralType → Json
  | string s => .object [("type", .string "string"), ("value", .string s)]
  | symbol s => .object [("type", .string "symbol"), ("value", .string s)]
  | integer n => .object [("type", .string "integer"), ("value", .number (.integer n.toInt))]
  | bool b => .object [("type", .string "bool"), ("value", .bool b)]
  | float x => .object [("type", .string "float"), ("value", .number (.double x))]

def FieldKey.toJson : FieldKey → Json
  | symbol s => .object [("symbol", .string s)]
  | string s => .object [("string", .string s)]

def Json.ofOption {α : Type} (write : α → Json) : Option α → Json
  | none => .null
  | some x => write x

def Json.ofStrings (items : List String) : Json :=
  .array (items.map .string)

namespace TypeExpr

mutual
def toJson : TypeExpr → Json
  | base name => .object [("kind", .string "base"), ("name", .string name.name)]
  | literal value => .object [("kind", .string "literal"), ("literal", value.toJson)]
  | tuple types => .object [("kind", .string "tuple"), ("types", .array (toJsonAll types))]
  | record fields => .object [("kind", .string "record"), ("fields", .array (fieldsToJson fields))]
  | union types => .object [("kind", .string "union"), ("types", .array (toJsonAll types))]
  | intersection types =>
    .object [("kind", .string "intersection"), ("types", .array (toJsonAll types))]
  | optional type => .object [("kind", .string "optional"), ("type", type.toJson)]
  | classInstance name args =>
    .object [("kind", .string "class_instance"), ("name", .string name),
      ("args", .array (toJsonAll args))]
  | function ⟨params, returns⟩ =>
    .object [("kind", .string "function"), ("params", .array (paramsToJson params)),
      ("returns", returns.toJson)]
  | interface name args =>
    .object [("kind", .string "interface"), ("name", .string name),
      ("args", .array (toJsonAll args))]
  | classSingleton name => .object [("kind", .string "class_singleton"), ("name", .string name)]
  | .variable name => .object [("kind", .string "variable"), ("name", .string name)]
  | typeAlias name => .object [("kind", .string "alias"), ("name", .string name)]
  | proc ⟨params, returns⟩ =>
    .object [("kind", .string "proc"),
      ("type", .object [("params", .array (paramsToJson params)), ("returns", returns.toJson)])]

def toJsonAll : List TypeExpr → List Json
  | [] => []
  | type :: rest => type.toJson :: toJsonAll rest

def fieldsToJson : List (RecordField TypeExpr) → List Json
  | [] => []
  | ⟨key, type⟩ :: rest =>
    .object [("key", key.toJson), ("type", type.toJson)] :: fieldsToJson rest

def paramsToJson : List (Param TypeExpr) → List Json
  | [] => []
  | ⟨name, type, kind⟩ :: rest =>
    .object [("name", .ofOption .string name), ("type", type.toJson),
      ("kind", .string kind.name)] :: paramsToJson rest
end

end TypeExpr

def Callable.toJson (c : Callable TypeExpr) : Json :=
  .object [("params", .array (TypeExpr.paramsToJson c.params)), ("returns", c.returns.toJson)]

def Block.toJson (b : Block) : Json :=
  .object [("required", .bool b.required)]

def Overload.toJson (o : Overload) : Json :=
  .object [("type_params", .ofStrings o.typeParams), ("block", .ofOption Block.toJson o.block),
    ("type", o.callable.toJson)]

end RouteBindings
