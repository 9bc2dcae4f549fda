import RouteBindings.Signature.Projection
import RouteBindings.Signature.Vocabulary
import RouteBindings.Table

namespace RouteBindings

structure Method where
  overloads : List Overload

structure Controller where
  name : String
  actions : List String
  methods : Table String Method

structure Environment where
  vocabulary : Option Vocabulary
  controllers : List Controller

namespace Environment

def empty : Environment := ⟨none, []⟩

/-- Where two documents carry a vocabulary, both are checked and the first is kept. -/
def merge (env other : Environment) : Except Error Environment :=
  let controllers := env.controllers ++ other.controllers
  match env.vocabulary, other.vocabulary with
  | ours, none => .ok ⟨ours, controllers⟩
  | none, some theirs => .ok ⟨some theirs, controllers⟩
  | some ours, some theirs => do
    ours.validate
    theirs.validate
    return ⟨some ours, controllers⟩

def mergeAll (documents : List Environment) : Except Error Environment :=
  documents.foldlM merge empty

def validate (env : Environment) : Except Error Unit :=
  match env.vocabulary with
  | none => .error .missingVocabulary
  | some v => v.validate

end Environment

end RouteBindings
