import RouteBindings.Bindings.Sources

/-!
The arguments of the command line. A setting has one value, several values, or none, which makes it
a flag. A value follows its setting, or is joined to it.
-/

namespace RouteBindings

inductive UsageFault where
  | noCommand
  | unexpected (argument : String)
  | noValue (setting : String)
  | unwantedValue (setting : String)
  | emptyValue (setting : String)
  | repeated (setting : String)
  | required (setting : String)
  deriving DecidableEq, Repr

def UsageFault.message : UsageFault → String
  | noCommand => "a command is required: generate, check or runtime"
  | unexpected argument => "unexpected argument `" ++ argument ++ "`"
  | noValue setting => "a value is required for `--" ++ setting ++ "`"
  | unwantedValue setting => "`--" ++ setting ++ "` takes no value"
  | emptyValue setting => "the value of `--" ++ setting ++ "` must not be empty"
  | repeated setting => "`--" ++ setting ++ "` must not be repeated"
  | required setting => "`--" ++ setting ++ "` is required"

inductive Arity where
  | flag
  | single
  | several
  deriving DecidableEq, Repr

inductive Setting where
  | logLevel
  | routes
  | signatures
  | out
  | runtimeOut
  | strict
  | noOp
  | eval
  | params
  deriving DecidableEq, Repr

namespace Setting

def name : Setting → String
  | logLevel => "log-level"
  | routes => "routes"
  | signatures => "signatures"
  | out => "out"
  | runtimeOut => "runtime-out"
  | strict => "strict"
  | noOp => "no-op"
  | eval => "eval"
  | params => "params"

def letter? : Setting → Option Char
  | routes => some 'r'
  | signatures => some 's'
  | out => some 'o'
  | _ => none

def arity : Setting → Arity
  | strict => .flag
  | noOp => .flag
  | signatures => .several
  | _ => .single

def isPath : Setting → Bool
  | routes => true
  | out => true
  | runtimeOut => true
  | _ => false

def splitEquals : List Char → List Char × Option (List Char)
  | [] => ([], none)
  | c :: rest =>
    if c = '=' then ([], some rest)
    else
      let (name, value) := splitEquals rest
      (c :: name, value)

def joinedValue : List Char → Option (List Char)
  | [] => none
  | c :: rest => some (if c = '=' then rest else c :: rest)

def ofArgument? (allowed : List Setting) (argument : String) :
    Option (Setting × Option String) :=
  match argument.toList with
  | '-' :: '-' :: rest =>
    let (long, value) := splitEquals rest
    (allowed.find? fun s => s.name.toList = long).map fun s => (s, value.map String.ofList)
  | '-' :: c :: rest =>
    (allowed.find? fun s => s.letter? = some c).map fun s =>
      (s, (joinedValue rest).map String.ofList)
  | _ => none

end Setting

structure Given where
  setting : Setting
  values : List String
  deriving DecidableEq, Repr

namespace Given

def looksLikeSetting (argument : String) : Bool :=
  argument.toList.head? = some '-' && argument ≠ "-"

def close : Option Given → Except UsageFault (List Given)
  | none => .ok []
  | some given =>
    if given.values.isEmpty then .error (.noValue given.setting.name) else .ok [given]

/-- The settings up to the first argument that belongs to none, and the arguments from there on.
Nothing may follow a lone `--`. -/
def scan (allowed : List Setting) (waiting : Option Given) :
    List String → Except UsageFault (List Given × List String)
  | [] => do return (← close waiting, [])
  | argument :: rest =>
    if argument = "--" then do
      let done ← close waiting
      match rest with
      | [] => return (done, [])
      | argument :: _ => .error (.unexpected argument)
    else if looksLikeSetting argument then do
      let done ← close waiting
      match Setting.ofArgument? allowed argument with
      | none => .error (.unexpected argument)
      | some (setting, value) =>
        match setting.arity, value with
        | .flag, some _ => .error (.unwantedValue setting.name)
        | .flag, none => do
          let (others, after) ← scan allowed none rest
          return (done ++ ⟨setting, []⟩ :: others, after)
        | _, some value => do
          let (others, after) ← scan allowed none rest
          return (done ++ ⟨setting, [value]⟩ :: others, after)
        | _, none => do
          let (others, after) ← scan allowed (some ⟨setting, []⟩) rest
          return (done ++ others, after)
    else
      match waiting with
      | none => .ok ([], argument :: rest)
      | some given =>
        let given : Given := ⟨given.setting, given.values ++ [argument]⟩
        if given.setting.arity = .several then scan allowed (some given) rest
        else do
          let (others, after) ← scan allowed none rest
          return (given :: others, after)

def ofSetting (givens : List Given) (setting : Setting) : List Given :=
  givens.filter (·.setting = setting)

def flag (givens : List Given) (setting : Setting) : Except UsageFault Bool :=
  match ofSetting givens setting with
  | [] => .ok false
  | [_] => .ok true
  | _ => .error (.repeated setting.name)

def single? (givens : List Given) (setting : Setting) : Except UsageFault (Option String) :=
  match (ofSetting givens setting).flatMap Given.values with
  | [] => .ok none
  | [value] =>
    if value = "" && setting.isPath then .error (.emptyValue setting.name) else .ok (some value)
  | _ => .error (.repeated setting.name)

def single (givens : List Given) (setting : Setting) : Except UsageFault String := do
  match ← single? givens setting with
  | some value => .ok value
  | none => .error (.required setting.name)

def several (givens : List Given) (setting : Setting) : Except UsageFault (List String) :=
  match (ofSetting givens setting).flatMap Given.values with
  | [] => .error (.required setting.name)
  | values => .ok values

end Given

structure GenerateOptions where
  sources : Sources
  out : Option String
  runtimeOut : Option String
  strict : Bool
  noOp : Bool
  deriving DecidableEq, Repr

structure CheckOptions where
  sources : Sources
  eval : Option String
  params : String
  strict : Bool
  deriving DecidableEq, Repr

inductive Command where
  | generate (options : GenerateOptions)
  | check (options : CheckOptions)
  | runtime (out : Option String)
  deriving DecidableEq, Repr

structure Invocation where
  logLevel : String
  command : Command
  deriving DecidableEq, Repr

namespace Invocation

def sources (givens : List Given) : Except UsageFault Sources := do
  let routes ← Given.single givens .routes
  let signatures ← Given.several givens .signatures
  return ⟨routes, signatures⟩

def generateOptions (givens : List Given) : Except UsageFault Command := do
  let sources ← sources givens
  let out ← Given.single? givens .out
  let runtimeOut ← Given.single? givens .runtimeOut
  let strict ← Given.flag givens .strict
  let noOp ← Given.flag givens .noOp
  return .generate ⟨sources, out, runtimeOut, strict, noOp⟩

def checkOptions (givens : List Given) : Except UsageFault Command := do
  let sources ← sources givens
  let eval ← Given.single? givens .eval
  let params ← Given.single? givens .params
  let strict ← Given.flag givens .strict
  return .check ⟨sources, eval, params.getD "\x7b\x7d", strict⟩

def runtimeOptions (givens : List Given) : Except UsageFault Command := do
  let out ← Given.single? givens .out
  return .runtime out

def command? (name : String) :
    Option (List Setting × (List Given → Except UsageFault Command)) :=
  if name = "generate" then
    some ([.routes, .signatures, .out, .runtimeOut, .strict, .noOp, .logLevel], generateOptions)
  else if name = "check" then
    some ([.routes, .signatures, .eval, .params, .strict, .logLevel], checkOptions)
  else if name = "runtime" then some ([.out, .logLevel], runtimeOptions)
  else none

/-- The log level may stand before the command and after it; the later one counts. -/
def parse (arguments : List String) : Except UsageFault Invocation := do
  let (before, rest) ← Given.scan [.logLevel] none arguments
  let outer ← Given.single? before .logLevel
  match rest with
  | [] => .error .noCommand
  | name :: rest =>
    match command? name with
    | none => .error (.unexpected name)
    | some (allowed, make) => do
      let (givens, after) ← Given.scan allowed none rest
      match after with
      | argument :: _ => .error (.unexpected argument)
      | [] => do
        let inner ← Given.single? givens .logLevel
        let command ← make givens
        return ⟨(inner.or outer).getD "warn", command⟩

end Invocation

end RouteBindings
