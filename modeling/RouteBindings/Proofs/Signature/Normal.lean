import RouteBindings.Signature.TypeText

/-! The normal form of type expressions: what of a type its text can show. String and symbol
literals with the same text are not told apart, nor are record keys, nor are the members of a union
from those of a union among them. -/

namespace RouteBindings

namespace TypeExpr

def membersOf : TypeExpr → List TypeExpr
  | union types => types
  | type => [type]

def disjunction : List TypeExpr → TypeExpr
  | [type] => type
  | types => union types

def conjunction : List TypeExpr → TypeExpr
  | [type] => type
  | types => intersection types

mutual
def normal : TypeExpr → TypeExpr
  | literal (.symbol s) => literal (.string s)
  | tuple types => tuple (normalAll types)
  | record fields => record (normalFields fields)
  | union types => disjunction ((normalAll types).flatMap membersOf)
  | intersection types => conjunction (normalAll types)
  | optional type => optional type.normal
  | classInstance name args =>
    classInstance (String.ofList (classPath name.toList)) (normalAll args)
  | type => type

def normalAll : List TypeExpr → List TypeExpr
  | [] => []
  | type :: rest => type.normal :: normalAll rest

def normalFields : List (RecordField TypeExpr) → List (RecordField TypeExpr)
  | [] => []
  | ⟨key, type⟩ :: rest => ⟨.string key.text, type.normal⟩ :: normalFields rest
end

theorem normalAll_cons (type : TypeExpr) (rest : List TypeExpr) :
    normalAll (type :: rest) = type.normal :: normalAll rest := by
  rw [normalAll]

theorem normalFields_cons (field : RecordField TypeExpr) (rest : List (RecordField TypeExpr)) :
    normalFields (field :: rest) =
      ⟨.string field.key.text, field.type.normal⟩ :: normalFields rest := by
  rw [normalFields]

def IsSum : TypeExpr → Prop
  | union _ => True
  | intersection _ => True
  | _ => False

mutual
/-- No union or intersection is empty, and none is the argument of an array. -/
def Admissible : TypeExpr → Prop
  | tuple types => AdmissibleAll types
  | record fields => AdmissibleFields fields
  | union types => types ≠ [] ∧ AdmissibleAll types
  | intersection types => types ≠ [] ∧ AdmissibleAll types
  | optional type => type.Admissible
  | classInstance name args =>
    (classPath name.toList = "Array".toList → ∀ arg ∈ args, ¬ arg.IsSum) ∧ AdmissibleAll args
  | _ => True

def AdmissibleAll : List TypeExpr → Prop
  | [] => True
  | type :: rest => type.Admissible ∧ AdmissibleAll rest

def AdmissibleFields : List (RecordField TypeExpr) → Prop
  | [] => True
  | ⟨_, type⟩ :: rest => type.Admissible ∧ AdmissibleFields rest
end

/-- Nothing is left to splice: no member is a union, and a lone member stands for itself. -/
structure Flat (type : TypeExpr) : Prop where
  lone : ∀ member ∈ type.membersOf, member.membersOf = [member]
  whole : disjunction type.membersOf = type

theorem flat_of_lone {type : TypeExpr} (lone : type.membersOf = [type]) : Flat type := by
  refine ⟨?_, ?_⟩
  · intro member h
    rw [lone, List.mem_singleton] at h
    rw [h, lone]
  · rw [lone, disjunction]

theorem membersOf_disjunction {types : List TypeExpr}
    (lone : ∀ type ∈ types, type.membersOf = [type]) :
    (disjunction types).membersOf = types := by
  unfold disjunction
  split
  · exact lone _ (by simp)
  · rfl

theorem flat_disjunction {types : List TypeExpr}
    (lone : ∀ type ∈ types, type.membersOf = [type]) : Flat (disjunction types) := by
  have members := membersOf_disjunction lone
  exact ⟨by rwa [members], by rw [members]⟩

theorem flat_conjunction {types : List TypeExpr} (flat : ∀ type ∈ types, Flat type) :
    Flat (conjunction types) := by
  unfold conjunction
  split
  · exact flat _ (by simp)
  · exact flat_of_lone rfl

theorem lone_flatMap {types : List TypeExpr} (flat : ∀ type ∈ types, Flat type) :
    ∀ member ∈ types.flatMap membersOf, member.membersOf = [member] := by
  intro member h
  obtain ⟨type, inside, h⟩ := List.mem_flatMap.mp h
  exact (flat type inside).lone member h

mutual
theorem flat_normal : (type : TypeExpr) → Flat type.normal
  | base _ => flat_of_lone rfl
  | literal value => by cases value <;> exact flat_of_lone rfl
  | tuple _ => flat_of_lone rfl
  | record _ => flat_of_lone rfl
  | union types => flat_disjunction (lone_flatMap (flat_normalAll types))
  | intersection types => flat_conjunction (flat_normalAll types)
  | optional _ => flat_of_lone rfl
  | classInstance _ _ => flat_of_lone rfl
  | function _ => flat_of_lone rfl
  | interface _ _ => flat_of_lone rfl
  | classSingleton _ => flat_of_lone rfl
  | .variable _ => flat_of_lone rfl
  | typeAlias _ => flat_of_lone rfl
  | proc _ => flat_of_lone rfl

theorem flat_normalAll : (types : List TypeExpr) → ∀ type ∈ normalAll types, Flat type
  | [], _, member => nomatch member
  | first :: rest, type, member => by
    rcases List.mem_cons.mp member with rfl | member
    · exact flat_normal first
    · exact flat_normalAll rest type member
end

theorem membersOf_normal_union (types : List TypeExpr) :
    (union types).normal.membersOf = (normalAll types).flatMap membersOf :=
  membersOf_disjunction (lone_flatMap (flat_normalAll types))

end TypeExpr

end RouteBindings
