import RouteBindings.Bindings.Emission
import RouteBindings.Pattern.Evaluation

namespace RouteBindings

structure Generated where
  text : String
  signatures : SignatureTable
  resources : List Resource
  /-- The actions that could not be bound. -/
  diagnostics : List Diagnostic
  /-- The route names of which no verb is bound. -/
  omitted : List Diagnostic

namespace Generated

def fileText (signatures : SignatureTable) (resources : List Resource) : String :=
  String.intercalate "\n"
    [signatures.paramsBlock, signatures.returnsBlock, Resource.block resources]

def ofCollection (collection : Collection) (routes : List Route) : Generated :=
  let aggregation := Aggregation.ofRoutes routes collection.signatures
  { text := fileText collection.signatures aggregation.resources
    signatures := collection.signatures
    resources := aggregation.resources
    diagnostics := collection.diagnostics
    omitted := aggregation.omitted }

def ofEnvironment (env : Environment) (routes : List Route) : Except Error Generated :=
  return ofCollection (← Collection.ofEnvironment env) routes

def made (g : Generated) : LogEvent :=
  ⟨.info, "routes_ts::generate", "generated routes file", [("bytes", toString g.text.utf8ByteSize)]⟩

def generate {m : Type → Type} [Monad m] (env : Environment) (routes : List Route) :
    Logged m Error Generated := do
  let collection ← Collection.collect env
  Logged.logAll (Aggregation.events routes collection.signatures)
  let g := ofCollection collection routes
  Logged.log g.made
  return g

def resource? (g : Generated) (name : String) : Option Resource :=
  g.resources.find? (·.name = name)

def evaluate? (g : Generated) (name : String) (params : Params) :
    Option (Except MissingSegment String) :=
  (g.resource? name).map fun resource => resource.pattern.evaluate params

end Generated

end RouteBindings
