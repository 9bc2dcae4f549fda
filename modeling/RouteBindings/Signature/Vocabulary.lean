import RouteBindings.Error
import RouteBindings.Signature.Type
import RouteBindings.Text.Order

namespace RouteBindings

structure Vocabulary where
  types : List String
  bases : List String
  deriving DecidableEq, Repr

namespace Vocabulary

def known : Vocabulary :=
  ⟨TypeKind.all.map TypeKind.name, BaseType.all.map BaseType.name⟩

def difference (names others : List String) : List String :=
  Text.sortedNames (names.filter fun name => !others.contains name)

def unknownNames (v : Vocabulary) : List String :=
  difference v.types known.types ++ (difference v.bases known.bases).map ("base." ++ ·)

def missingNames (v : Vocabulary) : List String :=
  difference known.types v.types ++ (difference known.bases v.bases).map ("base." ++ ·)

def validate (v : Vocabulary) : Except Error Unit :=
  if v.unknownNames.isEmpty && v.missingNames.isEmpty then .ok ()
  else .error (.vocabularyMismatch v.unknownNames v.missingNames)

end Vocabulary

end RouteBindings
