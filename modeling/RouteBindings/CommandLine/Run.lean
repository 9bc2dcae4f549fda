import RouteBindings.CommandLine.Plan

namespace RouteBindings

structure Run where
  code : ExitCode
  out : String
  err : String
  deriving DecidableEq, Repr

namespace Plan

variable {m : Type → Type} [Monad m]

def writeAll (write : String → String → m (Except Failure Unit)) :
    List (String × String) → m (Option Failure)
  | [] => return none
  | (path, text) :: rest => do
    match ← write path text with
    | .error failure => return some failure
    | .ok () => writeAll write rest

def carryOut (write : String → String → m (Except Failure Unit)) (plan : Plan) : m Run := do
  match ← writeAll write plan.writes with
  | none => return ⟨plan.code, plan.out, plan.err⟩
  | some failure => return ⟨.failure, plan.out, plan.err ++ failure.line⟩

end Plan

namespace FileTree

def makeParent (t : FileTree) (path : String) : Except Failure FileTree :=
  match Path.parent? path with
  | none => .ok t
  | some parent => (t.makeDirectories parent).mapError (.notMade parent)

/-- Writes a file after the directories that it lies in are made. They stay even if the file cannot
be written. -/
def save (path text : String) : StateM FileTree (Except Failure Unit) := fun t =>
  match t.makeParent path with
  | .error failure => (.error failure, t)
  | .ok made =>
    match made.write path text with
    | .error fault => (.error (.notWritten path fault), made)
    | .ok written => (.ok (), written)

def runLogged (logger : Logger) (clock : Clock) (t : FileTree) (arguments : List String) :
    Run × FileTree :=
  let plan : Plan := Id.run (Plan.ofArguments t.view logger clock arguments)
  Id.run ((plan.carryOut save).run t)

/-- A run of which nothing is logged. -/
def run (t : FileTree) (arguments : List String) : Run × FileTree :=
  t.runLogged .silent (fun _ => "") arguments

end FileTree

end RouteBindings
