import RouteBindings.Route.Record
import RouteBindings.Signature.Collection

namespace RouteBindings

structure Resource where
  name : String
  names : List String
  pattern : Pattern
  verbs : Table String ActionSignature

structure Aggregation where
  resources : List Resource
  omitted : List Diagnostic

namespace Aggregation

def groups (routes : List (String × Route)) : Table String (List Route) :=
  routes.foldl (fun t (name, route) => t.put name ((t.get? name).getD [] ++ [route])) .empty

def signature? (signatures : SignatureTable) (route : Route) : Option ActionSignature :=
  match route.controller, route.action with
  | some controller, some action => signatures.get? controller action
  | _, _ => none

/-- A later route of the same verb replaces the signature. -/
def verbs (signatures : SignatureTable) (members : List Route) : Table String ActionSignature :=
  members.foldl (fun t route =>
    match signature? signatures route with
    | some signature => t.put route.verb signature
    | none => t) .empty

def noVerb (name : String) : Diagnostic :=
  ⟨"route `" ++ name ++ "`", "no verb is bound to a collected signature"⟩

def addGroup (signatures : SignatureTable) (a : Aggregation) (group : String × List Route) :
    Aggregation :=
  let (name, members) := group
  let verbs := verbs signatures members
  match members with
  | [] => a
  | first :: _ =>
    if verbs.rows.isEmpty then { a with omitted := a.omitted ++ [noVerb name] }
    else { a with resources := a.resources ++ [⟨name, first.parts, first.pattern, verbs⟩] }

def ofRoutes (routes : List Route) (signatures : SignatureTable) : Aggregation :=
  (groups (Route.named routes)).rows.foldl (addGroup signatures) ⟨[], []⟩

def event (level : LogLevel) (message : String) (fields : List (String × String)) : LogEvent :=
  ⟨level, "routes_ts::routes", message, fields⟩

/-- A route that refers to a signature which is not there is logged, one that refers to none is
not. -/
def verbEvents (signatures : SignatureTable) (name : String) (route : Route) : List LogEvent :=
  match route.controller, route.action with
  | some controller, some action =>
    match signatures.get? controller action with
    | some _ => []
    | none =>
      [event .debug "verb has no signature" [("route", name), ("verb", route.verb),
        ("controller", controller), ("action", action)]]
  | _, _ => []

def omitting (name : String) : LogEvent :=
  event .warn "no verb bound; omitting" [("route", name)]

def groupEvents (signatures : SignatureTable) (group : String × List Route) : List LogEvent :=
  let (name, members) := group
  members.flatMap (verbEvents signatures name) ++
    if (verbs signatures members).rows.isEmpty then [omitting name] else []

def events (routes : List Route) (signatures : SignatureTable) : List LogEvent :=
  let a := ofRoutes routes signatures
  Route.droppingsFrom none routes ++
    (groups (Route.named routes)).rows.flatMap (groupEvents signatures) ++
    [event .info "route aggregation done" [("descriptors", toString a.resources.length),
      ("skipped", toString a.omitted.length)]]

end Aggregation

end RouteBindings
