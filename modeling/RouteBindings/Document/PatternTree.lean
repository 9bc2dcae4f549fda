import RouteBindings.Document.Reader
import RouteBindings.Pattern.Tree

namespace RouteBindings

inductive PatternKind where
  | literal
  | symbol
  | group
  | concat
  | alternation
  deriving DecidableEq, Repr

def PatternKind.all : List PatternKind :=
  [literal, symbol, group, concat, alternation]

def PatternKind.name : PatternKind → String
  | literal => "literal"
  | symbol => "symbol"
  | group => "group"
  | concat => "concat"
  | alternation => "alternation"

namespace Read

variable {α ρ : Type}

def Field.of (name : String) (required : Bool) (read : Place → Draft → Read α)
    (set : ρ → α → ρ) : Field ρ :=
  ⟨name, required, fun place d record => (read place d).map (set record)⟩

def heldPlace : Place := ⟨.held, 0⟩

def patternTags : List (String × PatternKind) :=
  PatternKind.all.map fun kind => (kind.name, kind)

def patternFields (read : Draft → Read Pattern) (content : Draft) : PatternKind → Read Pattern
  | .literal =>
    (record "struct variant PathNode::Literal"
      [.of "text" true (fun _ => text) fun _ s => s] "" heldPlace content).map .literal
  | .symbol =>
    (record "struct variant PathNode::Symbol"
      [.of "name" true (fun _ => text) fun r s => (s, r.2),
        .of "wildcard" false (fun _ => boolean) fun r b => (r.1, b)]
      ("", false) heldPlace content).map fun (name, wildcard) => .symbol name wildcard
  | .group =>
    (record "struct variant PathNode::Group"
      [.of "body" true (fun _ => read) fun _ p => p] default heldPlace content).map .group
  | .concat =>
    (record "struct variant PathNode::Concat"
      [.of "left" true (fun _ => read) fun r p => (p, r.2),
        .of "right" true (fun _ => read) fun r p => (r.1, p)]
      default heldPlace content).map fun (left, right) => .concat left right
  | .alternation =>
    (record "struct variant PathNode::Alternation"
      [.of "children" true (fun place => list place fun _ => read) fun _ ps => ps]
      [] heldPlace content).map .alternation

/-- A pattern among held parts. The fuel counts how deep patterns may nest. -/
def heldPattern : Nat → Draft → Read Pattern
  | 0, _ => malformed
  | fuel + 1, d => do
    let (kind, content) ← tagged "PathNode" patternTags heldPlace d
    patternFields (heldPattern fuel) content kind

def pattern (place : Place) (d : Draft) : Read Pattern := do
  let (kind, content) ← tagged "PathNode" patternTags place d
  here (patternFields (heldPattern Draft.nestingLimit) content kind)

end Read

namespace Pattern

mutual
def toJson : Pattern → Json
  | literal text => .object [("kind", .string "literal"), ("text", .string text)]
  | symbol name wildcard =>
    .object [("kind", .string "symbol"), ("name", .string name), ("wildcard", .bool wildcard)]
  | group body => .object [("kind", .string "group"), ("body", body.toJson)]
  | concat left right =>
    .object [("kind", .string "concat"), ("left", left.toJson), ("right", right.toJson)]
  | alternation children =>
    .object [("kind", .string "alternation"), ("children", .array (toJsonAll children))]

def toJsonAll : List Pattern → List Json
  | [] => []
  | child :: rest => child.toJson :: toJsonAll rest
end

end Pattern

end RouteBindings
