namespace RouteBindings.Path

def segments : List Char → List (List Char)
  | [] => [[]]
  | c :: rest =>
    if c = '/' then [] :: segments rest
    else
      match segments rest with
      | [] => [[c]]
      | segment :: others => (c :: segment) :: others

/-- A step that stays only asks for a directory. -/
inductive Step where
  | stay
  | up
  | into (name : String)
  deriving DecidableEq, Repr

def stepOf (segment : List Char) : Step :=
  if segment = [] || segment = ['.'] then .stay
  else if segment = ['.', '.'] then .up
  else .into (String.ofList segment)

def steps (path : String) : List Step :=
  (segments path.toList).map stepOf

def isAbsolute (path : String) : Bool :=
  path.toList.head? = some '/'

def isHere (path : String) : Bool :=
  path ≠ "" && !isAbsolute path && (steps path).all (· = .stay)

def join (directory name : String) : String :=
  if directory = "" || directory.toList.getLast? = some '/' then directory ++ name
  else directory ++ "/" ++ name

/-- Drops what does not lead anywhere from the end of a reversed path: slashes, and points that are
whole segments. The point that a relative path starts with stays. -/
def trimEnd : List Char → List Char
  | ['/'] => ['/']
  | '/' :: rest => trimEnd rest
  | '.' :: '/' :: rest => trimEnd ('/' :: rest)
  | cs => cs

/-- The directory that a path lies in, as far as its text shows; the root has none. -/
def parent? (path : String) : Option String :=
  let whole := trimEnd path.toList.reverse
  if whole = [] || whole = ['/'] then none
  else some (String.ofList (trimEnd (whole.dropWhile (· ≠ '/'))).reverse)

end RouteBindings.Path
