import RouteBindings.Document.Fault
import RouteBindings.Files.Fault
import RouteBindings.Signature.Construct

namespace RouteBindings

inductive Error where
  | unsupported (construct : Construct)
  | ambiguousOverload (found : Nat)
  | vocabularyMismatch (unknown missing : List String)
  | missingVocabulary
  | patternSyntax (pattern : String) (fault : PatternFault)
  | load (name : String) (fault : DocumentFault)
  | file (name : String) (fault : FileFault)

namespace Error

def message : Error → String
  | unsupported construct => "unsupported construct: " ++ construct.description
  | ambiguousOverload found => "expected exactly one overload, found " ++ toString found
  | vocabularyMismatch unknown missing =>
    "signature vocabulary mismatch (unknown: [" ++ String.intercalate ", " unknown ++
      "], missing: [" ++ String.intercalate ", " missing ++ "])"
  | missingVocabulary => "no signature document carries the variant catalog (`vocabulary`)"
  | patternSyntax pattern fault => fault.message pattern
  | load name fault => "failed to load " ++ name ++ ": " ++ fault.message
  | file name fault => "IO error on " ++ name ++ ": " ++ fault.message

/-- Whether the run goes on without the action that caused the error. -/
def isRecoverable : Error → Bool
  | unsupported _ => true
  | ambiguousOverload _ => true
  | _ => false

end Error

structure Diagnostic where
  subject : String
  reason : String
  deriving DecidableEq, Repr

def Diagnostic.message (d : Diagnostic) : String :=
  d.subject ++ " not supported: " ++ d.reason

end RouteBindings
