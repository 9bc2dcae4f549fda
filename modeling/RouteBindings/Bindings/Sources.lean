import RouteBindings.Document.Routes
import RouteBindings.Document.Signatures
import RouteBindings.Files.Glob

/-!
The files that bindings are made from. A pattern without wildcards is the name of one file, any
other pattern stands for the paths that it matches.
-/

namespace RouteBindings

inductive SourceFault where
  | badPattern (fault : WildcardFault)
  | noMatch (pattern : String)
  deriving DecidableEq, Repr

def SourceFault.message : SourceFault → String
  | badPattern fault => fault.message
  | noMatch pattern => "glob pattern matched no files: " ++ pattern

structure Sources where
  routes : String
  signatures : List String
  deriving DecidableEq, Repr

namespace Sources

variable {m : Type → Type} [Monad m]

def isGlob (pattern : String) : Bool :=
  pattern.toList.any fun c => c = '*' || c = '?' || c = '[' || c = '{'

def resolveOne (view : FileView m) (pattern : String) : m (Except SourceFault (List String)) :=
  if isGlob pattern then
    match Glob.parse pattern with
    | .error fault => return .error (.badPattern fault)
    | .ok glob => do
      let paths ← glob.paths view
      if paths.isEmpty then return .error (.noMatch pattern) else return .ok paths
  else return .ok [pattern]

def resolve (view : FileView m) : List String → m (Except SourceFault (List String))
  | [] => return .ok []
  | pattern :: rest => do
    match ← resolveOne view pattern with
    | .error fault => return .error fault
    | .ok paths =>
      match ← resolve view rest with
      | .error fault => return .error fault
      | .ok others => return .ok (paths ++ others)

def readText (view : FileView m) (path : String) : Logged m Error String := do
  (← view.read path).mapError (Error.file path)

def loaded (what path counted : String) (count : Nat) : LogEvent :=
  ⟨.debug, "routes_ts::load", "loaded " ++ what, [("path", path), (counted, toString count)]⟩

def loadOnto (view : FileView m) (env : Environment) : List String → Logged m Error Environment
  | [] => return env
  | path :: rest => do
    let part ← Environment.ofDocument path (← readText view path)
    Logged.log (loaded "signatures" path "controllers" part.controllers.length)
    let env ← env.merge part
    loadOnto view env rest

def loadTable (view : FileView m) (path : String) : Logged m Error (List Route) := do
  let routes ← Route.ofDocument path (← readText view path)
  Logged.log (loaded "route table" path "routes" routes.length)
  return routes

def loadSignatures (view : FileView m) (paths : List String) : m (Except Error Environment) :=
  (loadOnto view .empty paths).result

def loadRoutes (view : FileView m) (path : String) : m (Except Error (List Route)) :=
  (loadTable view path).result

end Sources

end RouteBindings
