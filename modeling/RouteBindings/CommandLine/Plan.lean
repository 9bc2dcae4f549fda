import RouteBindings.Bindings.Generation
import RouteBindings.Bindings.RequestHelper
import RouteBindings.CommandLine.Listing
import RouteBindings.Json.Text

/-!
What a run is going to do: everything that is decided by reading files alone. A plan prints, ends
with a code, and names the files that remain to be written.
-/

namespace RouteBindings

inductive Failure where
  | usage (fault : UsageFault)
  | sources (fault : SourceFault)
  | loading (error : Error)
  | generation (error : Error)
  | malformedParams
  | noObject (params : Json)
  | noResource (name : String)
  | missing (segment : MissingSegment)
  | notMade (path : String) (fault : FileFault)
  | notWritten (path : String) (fault : FileFault)

/-- The message, and after it the cause that it was made from. -/
def Error.chain : Error → String
  | file name fault => (Error.file name fault).message ++ ": " ++ fault.message
  | other => other.message

def Failure.message : Failure → String
  | usage fault => fault.message
  | sources fault => "failed to resolve signature file paths: " ++ fault.message
  | loading error => error.chain
  | generation error => "generation aborted: " ++ error.chain
  | malformedParams => "--params must be a JSON object: malformed JSON"
  | noObject params => "--params must be a JSON object, got `" ++ params.text ++ "`"
  | noResource name => "no resource was emitted for route `" ++ name ++ "`"
  | missing segment => segment.message
  | notMade path fault => "failed to create " ++ path ++ ": " ++ fault.message
  | notWritten path fault => "failed to write " ++ path ++ ": " ++ fault.message

def Failure.line (failure : Failure) : String :=
  "error: " ++ failure.message ++ "\n"

inductive ExitCode where
  | success
  | failure
  | usage
  deriving DecidableEq, Repr

def ExitCode.number : ExitCode → Nat
  | success => 0
  | failure => 1
  | usage => 2

structure Plan where
  code : ExitCode
  out : String
  err : String
  /-- Paths and the texts to write there, in order. -/
  writes : List (String × String)

namespace Plan

def failed (report : String) (failure : Failure) : Plan :=
  ⟨.failure, "", report ++ failure.line, []⟩

def write (plan : Plan) (out : Option String) (text : String) : Plan :=
  match out with
  | none => { plan with out := plan.out ++ text }
  | some path => { plan with writes := plan.writes ++ [(path, text)] }

end Plan

namespace Generated

def diagnosticLine (label : String) (d : Diagnostic) : String :=
  label ++ " " ++ d.subject ++ ": " ++ d.reason ++ "\n"

def report (g : Generated) : String :=
  String.join (g.diagnostics.map (diagnosticLine "skipped")) ++
  String.join (g.omitted.map (diagnosticLine "omitted")) ++
  "routes-ts: " ++ toString g.signatures.size ++ " action signature(s), " ++
    toString g.resources.length ++ " resource(s), " ++
    toString g.diagnostics.length ++ " action(s) skipped\n"

def isPartial (g : Generated) : Bool :=
  !g.diagnostics.isEmpty

end Generated

namespace Command

variable {m : Type → Type} [Monad m]

/-- The bindings of the sources. The signatures are read first. -/
def generated (view : FileView m) (sources : Sources) : Logged m Failure Generated := do
  let found ← (Sources.resolve view sources.signatures : m _)
  let paths ← found.mapError Failure.sources
  let env ← (Sources.loadOnto view .empty paths).adapt Failure.loading
  let routes ← (Sources.loadTable view sources.routes).adapt Failure.loading
  (Generated.generate env routes).adapt Failure.generation

def strictCode (strict : Bool) (g : Generated) : ExitCode :=
  if strict && g.isPartial then .failure else .success

def planGenerate (options : GenerateOptions) (g : Generated) : Plan :=
  let reported : Plan := ⟨strictCode options.strict g, "", g.report, []⟩
  match reported.code with
  | .success =>
    let written := reported.write options.out g.text
    match options.runtimeOut with
    | none => written
    | some path => written.write (some path) requestHelper
  | _ => reported

def paramsOf (text : String) : Except Failure Params :=
  match Json.ofText? text with
  | none => .error .malformedParams
  | some (.object entries) => .ok (.ofRows entries)
  | some other => .error (.noObject other)

def evaluation (options : CheckOptions) (g : Generated) (name : String) :
    Except Failure String := do
  let params ← paramsOf options.params
  match g.evaluate? name params with
  | none => .error (.noResource name)
  | some path => path.mapError .missing

def planCheck (options : CheckOptions) (g : Generated) : Plan :=
  let code := strictCode options.strict g
  match options.eval with
  | none => ⟨code, "", g.report, []⟩
  | some name =>
    match evaluation options g name with
    | .error failure => .failed g.report failure
    | .ok path => ⟨code, path ++ "\n", g.report, []⟩

def planWith (plan : Generated → Plan) : Except Failure Generated → Plan
  | .error failure => .failed "" failure
  | .ok g => plan g

def plan (view : FileView m) (logLevel : String) : Command → StateT (List LogEvent) m Plan
  | generate options =>
    if options.noOp then return ⟨.success, "", options.listing logLevel, []⟩
    else return planWith (planGenerate options) (← (generated view options.sources).run)
  | check options =>
    return planWith (planCheck options) (← (generated view options.sources).run)
  | runtime out => return (⟨.success, "", "", []⟩ : Plan).write out requestHelper

end Command

/-- The plan of a run with these arguments. Nothing is logged before they are understood, and all
lines of the log stand before what the command reports. -/
def Plan.ofArguments {m : Type → Type} [Monad m] (view : FileView m) (logger : Logger)
    (clock : Clock) (arguments : List String) : m Plan :=
  match Invocation.parse arguments with
  | .error fault => return ⟨.usage, "", (Failure.usage fault).line, []⟩
  | .ok ⟨level, command⟩ => do
    let (plan, events) ← (command.plan view level).run []
    return { plan with err := logger.text level clock events ++ plan.err }

end RouteBindings
