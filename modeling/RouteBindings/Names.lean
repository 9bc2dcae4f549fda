import RouteBindings.Text.DecimalDigit
import RouteBindings.Text.LetterCase

namespace RouteBindings.Names

def slashes : List Char → List Char
  | [] => []
  | ':' :: ':' :: rest => '/' :: slashes rest
  | c :: rest => c :: slashes rest

def isCapital (c : Char) : Bool :=
  c.isUpper

def isSmall (c : Char) : Bool :=
  c.isLower

def isAcronymChar (c : Char) : Bool :=
  isCapital c || Text.isDecimalDigit c

/-- The last capital of a run begins the next word if a small letter follows. -/
def splitRun (run rest : List Char) : List Char :=
  match run.reverse, rest with
  | last :: before, c :: _ =>
    if isCapital last && !before.isEmpty && isSmall c then before.reverse ++ ['_', last] else run
  | _, _ => run

def splitAcronyms (cs : List Char) : List Char :=
  match cs with
  | [] => []
  | c :: rest =>
    if isAcronymChar c then
      let run := c :: rest.takeWhile isAcronymChar
      let after := rest.dropWhile isAcronymChar
      splitRun run after ++ splitAcronyms after
    else c :: splitAcronyms rest
termination_by cs.length
decreasing_by
  · have := (List.dropWhile_sublist isAcronymChar (l := rest)).length_le
    simp only [List.length_cons]
    omega
  · simp

def splitWords : List Char → List Char
  | [] => []
  | [c] => [c]
  | c :: d :: rest =>
    if (isSmall c || Text.isDecimalDigit c) && isCapital d then c :: '_' :: d :: splitWords rest
    else c :: splitWords (d :: rest)

def dashes (c : Char) : Char :=
  if c = '-' then '_' else c

def underscoreChars (cs : List Char) : List Char :=
  Text.lowerChars ((splitWords (splitAcronyms (slashes cs))).map dashes)

def underscore (s : String) : String :=
  String.ofList (underscoreChars s.toList)

def dropLeadingColons : List Char → List Char
  | ':' :: ':' :: rest => dropLeadingColons rest
  | cs => cs

def dropEnding (ending cs : List Char) : List Char :=
  if ending.isSuffixOf cs then cs.take (cs.length - ending.length) else cs

def controllerKey (className : String) : String :=
  String.ofList (underscoreChars
    (dropEnding "Controller".toList (dropLeadingColons className.toList)))

def words : List Char → List (List Char)
  | [] => [[]]
  | c :: rest =>
    if c = '/' || c = '_' then [] :: words rest
    else
      match words rest with
      | [] => [[c]]
      | word :: others => (c :: word) :: others

def upperFirst : List Char → List Char
  | [] => []
  | c :: rest => Text.upperChar c ++ rest

def lowerFirst : List Char → List Char
  | [] => []
  | c :: rest => Text.lowerChar c ++ rest

def camelizeChars (cs : List Char) : List Char :=
  (words cs).flatMap upperFirst

def camelize (s : String) : String :=
  String.ofList (camelizeChars s.toList)

def camelizeLower (s : String) : String :=
  String.ofList (lowerFirst (camelizeChars s.toList))

def paramsAlias (controller action : String) : String :=
  camelize controller ++ camelize action ++ "Params"

def returnAlias (controller action : String) : String :=
  camelize controller ++ camelize action ++ "Return"

end RouteBindings.Names
