namespace RouteBindings

inductive PatternCause where
  | expectedName
  | danglingEscape
  | emptyExpression
  | unbalanced
  | unclosed
  deriving DecidableEq, Repr

def PatternCause.message : PatternCause → String
  | expectedName => "expected a segment name"
  | danglingEscape => "dangling escape"
  | emptyExpression => "empty expression"
  | unbalanced => "unbalanced `)`"
  | unclosed => "unclosed `(`"

/-- The offset counts the bytes before the place of the fault. -/
structure PatternFault where
  offset : Nat
  cause : PatternCause
  deriving DecidableEq, Repr

def PatternFault.message (pattern : String) (fault : PatternFault) : String :=
  "path syntax error at byte " ++ toString fault.offset ++ " in `" ++ pattern ++ "`: " ++
    fault.cause.message

end RouteBindings
