import RouteBindings.Log
import RouteBindings.Pattern.Printed

namespace RouteBindings

structure Route where
  verb : String
  name : Option String
  /-- The names of the dynamic parameters, in the order of the pattern. -/
  parts : List String
  controller : Option String
  action : Option String
  /-- Made by the framework itself. -/
  internal : Bool
  /-- Served by a mounted application. -/
  engine : Bool
  pattern : Pattern

namespace Route

def isOutside (route : Route) : Bool :=
  route.internal || route.engine

/-- A route without a name takes that of the route kept last if their patterns are written alike;
otherwise it is dropped. -/
def effectiveName? (last : Option (String × Route)) (route : Route) : Option String :=
  match route.name, last with
  | some name, _ => some name
  | none, some (name, kept) =>
    if kept.pattern.written = route.pattern.written then some name else none
  | none, none => none

def namedFrom (last : Option (String × Route)) : List Route → List (String × Route)
  | [] => []
  | route :: rest =>
    if route.isOutside then namedFrom last rest
    else
      match effectiveName? last route with
      | none => namedFrom last rest
      | some name => (name, route) :: namedFrom (some (name, route)) rest

def named (routes : List Route) : List (String × Route) :=
  namedFrom none routes

def dropping (last : Option (String × Route)) (route : Route) : LogEvent :=
  let spec := ("spec", route.pattern.written)
  match last with
  | some (name, kept) =>
    ⟨.debug, "routes_ts::routes", "dropping nameless route",
      [spec, ("previous", name), ("previous_spec", kept.pattern.written)]⟩
  | none =>
    ⟨.debug, "routes_ts::routes", "dropping nameless route with no named predecessor", [spec]⟩

def droppingsFrom (last : Option (String × Route)) : List Route → List LogEvent
  | [] => []
  | route :: rest =>
    if route.isOutside then droppingsFrom last rest
    else
      match effectiveName? last route with
      | none => dropping last route :: droppingsFrom last rest
      | some name => droppingsFrom (some (name, route)) rest

end Route

end RouteBindings
