import RouteBindings.Document.PatternTree
import RouteBindings.Json.Scan
import RouteBindings.Error
import RouteBindings.Pattern.Reading
import RouteBindings.Route.Record

namespace RouteBindings

mutual
def Draft.ofJson : Json → Draft
  | .null => null
  | .bool b => bool b
  | .number n => number n
  | .string s => string s
  | .array items => array (Draft.ofItems items) true
  | .object entries => object (Draft.ofEntries entries) true

def Draft.ofItems : List Json → List Draft
  | [] => []
  | item :: rest => Draft.ofJson item :: Draft.ofItems rest

def Draft.ofEntries : List (String × Json) → List (Option String × Draft)
  | [] => []
  | (name, value) :: rest => (some name, Draft.ofJson value) :: Draft.ofEntries rest
end

namespace Read

/-- A pattern is written out, or given as its tree. Patterns nest no deeper than their draft. -/
def routePattern : Draft → Read Pattern
  | .string s =>
    match Pattern.parse s with
    | .ok p => .ok p
    | .error fault => fail (.badPattern s fault)
  | d =>
    match heldPattern d.depth d with
    | .ok p => .ok p
    | .error _ => fail .noPattern

def requirements (place : Place) (d : Draft) : Read (Option String × Option String) :=
  record "struct Requirements"
    [.of "controller" false (fun _ => optional text) fun r s => (s, r.2),
      .of "action" false (fun _ => optional text) fun r s => (r.1, s)]
    (none, none) place d

def route (place : Place) (d : Draft) : Read Route :=
  record "struct RouteRecord"
    [.of "verb" false (fun _ => text) fun r verb => { r with verb := verb },
      .of "name" false (fun _ => optional text) fun r name => { r with name := name },
      .of "parts" false (fun place => list place fun _ => text)
        fun r parts => { r with parts := parts },
      .of "requirements" false requirements
        fun r (controller, action) => { r with controller := controller, action := action },
      .of "internal" false (fun _ => boolean) fun r b => { r with internal := b },
      .of "engine" false (fun _ => boolean) fun r b => { r with engine := b },
      .of "spec" true (fun _ => routePattern) fun r p => { r with pattern := p }]
    ⟨"", none, [], none, none, false, false, default⟩ place d

def routeTable (place : Place) (d : Draft) : Read (List Route) :=
  record "struct RouteTable"
    [.of "routes" false (fun place => list place route) fun _ routes => routes] [] place d

def loadedRoot : Place := ⟨.loaded, 0⟩

def routes (d : Draft) : Read (List Route) :=
  match d with
  | .array _ _ => list loadedRoot route d
  | d => routeTable loadedRoot d

end Read

namespace Route

def readAll (text : String) : Read (List Route) :=
  match (Draft.ofText text).value? Draft.nestingLimit with
  | none => Read.malformed
  | some value => Read.routes (Draft.ofJson value.unique)

def ofDocument (file text : String) : Except Error (List Route) :=
  match readAll text with
  | .ok routes => .ok routes
  | .error fault => .error (.load file fault)

end Route

end RouteBindings
