import RouteBindings.Pattern.Operand
import RouteBindings.Pattern.Tree
import RouteBindings.Table

/-!
What the expression of a pattern returns for given parameters. Since `|` binds weaker than `+`, the
whole pattern and the body of every group is a list of chains: the items of a chain are added, and
the sums are combined bit by bit.
-/

namespace RouteBindings

structure MissingSegment where
  name : String
  deriving DecidableEq, Repr

def MissingSegment.message (missing : MissingSegment) : String :=
  "missing required path segment `" ++ missing.name ++ "`"

abbrev Params := Table String Json

abbrev Outcome := Except MissingSegment Operand

/-- Nothing, false, zero and the empty text do not count as a value. -/
def Json.isTruthy : Json → Bool
  | .null => false
  | .bool b => b
  | .number n =>
    match n.toDouble with
    | .nan => false
    | x => !x.isZero
  | .string s => s ≠ ""
  | .array _ => true
  | .object _ => true

namespace Pattern

/-- Chains written one after the other: the last one runs on into the first of those that follow. -/
def joinChains {α : Type} : List (List α) → List (List α) → List (List α)
  | [], right => right
  | [last], [] => [last]
  | [last], first :: rest => (last ++ first) :: rest
  | chain :: left, right => chain :: joinChains left right

mutual
/-- The chains of the pattern; their items are literals, symbols and groups. -/
def chains : Pattern → List (List Pattern)
  | literal text => [[literal text]]
  | symbol name wildcard => [[symbol name wildcard]]
  | group body => [[group body]]
  | concat left right => joinChains left.chains right.chains
  | alternation children => chainsOf children

def chainsOf : List Pattern → List (List Pattern)
  | [] => []
  | child :: rest => child.chains ++ chainsOf rest
end

def runChain : List Outcome → Outcome
  | [] => .ok (.text "")
  | first :: rest => do
    let start ← first
    rest.foldlM (fun sum item => item.map sum.add) start

def runScope : List (List Outcome) → Outcome
  | [] => .ok (.text "")
  | first :: rest => do
    let start ← runChain first
    rest.foldlM (fun word chain => (runChain chain).map word.bitOr) start

/-- A missing segment inside a group leaves the group empty. -/
def groupOutcome (body : Outcome) : Outcome :=
  match body with
  | .ok value => .ok value
  | .error _ => .ok (.text "")

def symbolOutcome (params : Params) (name : String) (wildcard : Bool) : Outcome :=
  match params.get? name with
  | none => if wildcard then .ok (.text "") else .error ⟨name⟩
  | some value =>
    if wildcard then
      match value with
      | .null => .ok (.text "")
      | value => .ok (.ofJson value)
    else if value.isTruthy then .ok (.ofJson value)
    else .error ⟨name⟩

mutual
def outcomes (params : Params) : Pattern → List (List Outcome)
  | literal text => [[.ok (.text text)]]
  | symbol name wildcard => [[symbolOutcome params name wildcard]]
  | group body => [[groupOutcome (runScope (body.outcomes params))]]
  | concat left right => joinChains (left.outcomes params) (right.outcomes params)
  | alternation children => outcomesOf params children

def outcomesOf (params : Params) : List Pattern → List (List Outcome)
  | [] => []
  | child :: rest => child.outcomes params ++ outcomesOf params rest
end

def value (params : Params) (p : Pattern) : Outcome :=
  runScope (p.outcomes params)

def evaluate (params : Params) (p : Pattern) : Except MissingSegment String :=
  (p.value params).map Operand.toText

end Pattern

end RouteBindings
