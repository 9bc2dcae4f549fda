namespace RouteBindings

/-- A symbol is a dynamic segment; a wildcard may be left out, and takes any number of segments. A
group is an optional part of the path. -/
inductive Pattern where
  | literal (text : String)
  | symbol (name : String) (wildcard : Bool)
  | group (body : Pattern)
  | concat (left right : Pattern)
  | alternation (children : List Pattern)
  deriving Inhabited, Repr

namespace Pattern

mutual
def symbolNames : Pattern → List String
  | literal _ => []
  | symbol name _ => [name]
  | group body => body.symbolNames
  | concat left right => left.symbolNames ++ right.symbolNames
  | alternation children => symbolNamesOf children

def symbolNamesOf : List Pattern → List String
  | [] => []
  | child :: rest => child.symbolNames ++ symbolNamesOf rest
end

mutual
def same : Pattern → Pattern → Bool
  | literal s, literal t => s = t
  | symbol m v, symbol n w => m = n && v = w
  | group a, group b => a.same b
  | concat a b, concat c d => a.same c && b.same d
  | alternation as, alternation bs => sameAll as bs
  | _, _ => false

def sameAll : List Pattern → List Pattern → Bool
  | [], [] => true
  | a :: as, b :: bs => a.same b && sameAll as bs
  | _, _ => false
end

mutual
theorem same_iff : (a b : Pattern) → a.same b = true ↔ a = b
  | literal _, b => by cases b <;> simp [same]
  | symbol _ _, b => by cases b <;> simp [same]
  | group a, b => by cases b <;> simp [same, same_iff a]
  | concat a c, b => by cases b <;> simp [same, same_iff a, same_iff c]
  | alternation as, b => by cases b <;> simp [same, sameAll_iff as]

theorem sameAll_iff : (as bs : List Pattern) → sameAll as bs = true ↔ as = bs
  | [], bs => by cases bs <;> simp [sameAll]
  | a :: as, bs => by cases bs <;> simp [sameAll, same_iff a, sameAll_iff as]
end

instance : DecidableEq Pattern := fun a b =>
  decidable_of_iff (a.same b = true) (same_iff a b)

end Pattern

end RouteBindings
