import Mathlib.Data.List.Basic
import Mathlib.Data.List.Induction
import RouteBindings.Route.Record

/-! Which routes take part, said of every route alone: it is kept for its own name or for that of
the nearest named route before it. The route kept last may be a nameless one, but it then has the
name of that named route and is written like it. -/

namespace RouteBindings.Route

variable {last other : Option (String × Route)} {route : Route}

/-- What the route kept last hands on: its name, and how its pattern is written. -/
def legacy (last : Option (String × Route)) : Option (String × String) :=
  last.map fun (name, kept) => (name, kept.pattern.written)

theorem effectiveName?_of_named {name : String} (named : route.name = some name) :
    effectiveName? last route = some name := by
  simp only [effectiveName?, named]

theorem effectiveName?_of_nameless (nameless : route.name = none) :
    effectiveName? last route =
      (legacy last).bind fun (name, written) =>
        if written = route.pattern.written then some name else none := by
  unfold effectiveName?
  cases last <;> simp [nameless, legacy]

theorem effectiveName?_congr (same : legacy last = legacy other) :
    effectiveName? last route = effectiveName? other route := by
  cases named : route.name with
  | some name => rw [effectiveName?_of_named named, effectiveName?_of_named named]
  | none => rw [effectiveName?_of_nameless named, effectiveName?_of_nameless named, same]

def kept? (last : Option (String × Route)) (route : Route) : Option (String × Route) :=
  if route.isOutside then none else (effectiveName? last route).map (·, route)

theorem namedFrom_cons (rest : List Route) :
    namedFrom last (route :: rest) =
      (kept? last route).toList ++ namedFrom ((kept? last route).or last) rest := by
  rw [namedFrom, kept?]
  split
  · rfl
  · cases effectiveName? last route <;> rfl

/-- A route table is read from left to right, and only the route kept last is remembered. -/
theorem namedFrom_append (front back : List Route) :
    namedFrom last (front ++ back) =
      namedFrom last front ++ namedFrom ((namedFrom last front).getLast?.or last) back := by
  induction front generalizing last with
  | nil => rfl
  | cons first rest ih =>
    rw [List.cons_append, namedFrom_cons, ih, namedFrom_cons]
    cases kept? last first with
    | none => rfl
    | some entry =>
      simp only [Option.toList_some, Option.some_or, List.cons_append, List.nil_append,
        List.getLast?_cons]
      cases (namedFrom (some entry) rest).getLast? <;> rfl

theorem named_concat (routes : List Route) (route : Route) :
    named (routes ++ [route]) = named routes ++ (kept? (named routes).getLast? route).toList := by
  rw [named, namedFrom_append, Option.or_none, namedFrom_cons]
  exact congrArg _ (List.append_nil _)

def lastNamed? (before : List Route) : Option (String × Route) :=
  before.reverse.findSome? fun kept =>
    if kept.isOutside then none else kept.name.map (·, kept)

/-- The name under which a route takes part, in view of the routes before it: a name of its own, or
else that of the nearest named route if the two are written alike. -/
def nameAfter? (before : List Route) (route : Route) : Option String :=
  if route.isOutside then none
  else
    match route.name with
    | some name => some name
    | none =>
      (lastNamed? before).bind fun (name, kept) =>
        if kept.pattern.written = route.pattern.written then some name else none

theorem lastNamed?_concat (before : List Route) (route : Route) :
    lastNamed? (before ++ [route]) =
      (if route.isOutside then none else route.name.map (·, route)).or (lastNamed? before) := by
  rw [lastNamed?, List.reverse_append, List.reverse_singleton, List.findSome?_append,
    List.findSome?_singleton]
  rfl

theorem kept?_of_legacy {before : List Route} (same : legacy last = legacy (lastNamed? before)) :
    kept? last route = (nameAfter? before route).map (·, route) := by
  rw [kept?, nameAfter?, effectiveName?_congr same]
  split
  · rfl
  · cases named : route.name with
    | some name => rw [effectiveName?_of_named named]
    | none =>
      rw [effectiveName?_of_nameless named]
      cases lastNamed? before <;> rfl

/-- However many nameless routes were kept since, the route kept last stands for the nearest named
one. -/
theorem legacy_getLast? (routes : List Route) :
    legacy (named routes).getLast? = legacy (lastNamed? routes) := by
  induction routes using List.reverseRecOn with
  | nil => rfl
  | append_singleton before route ih =>
    rw [named_concat, kept?_of_legacy ih, lastNamed?_concat, nameAfter?]
    cases outside : route.isOutside with
    | true => simpa using ih
    | false =>
      cases named : route.name with
      | some name => simp
      | none =>
        cases found : lastNamed? before with
        | none => simpa [found] using ih
        | some kept =>
          by_cases alike : kept.2.pattern.written = route.pattern.written
          · simp [legacy, alike]
          · simpa [found, alike] using ih

/-- A route takes part under the name that the routes before it leave it, and the routes that take
part keep the order of the table. A route that does not take part changes nothing for those behind
it. -/
theorem named_eq_nameAfter (routes : List Route) :
    named routes = (routes.zipIdx.filterMap fun (route, i) =>
      (nameAfter? (routes.take i) route).map (·, route)) ∧
    ∀ before dropped after, routes = before ++ dropped :: after →
      nameAfter? before dropped = none → named routes = named (before ++ after) := by
  constructor
  · induction routes using List.reverseRecOn with
    | nil => rfl
    | append_singleton before route ih =>
      rw [named_concat, kept?_of_legacy (legacy_getLast? before), ih, List.zipIdx_append,
        List.filterMap_append]
      congr 1
      · refine List.filterMap_congr fun entry member => ?_
        dsimp only
        rw [List.take_append_of_le_length (Nat.le_of_lt (List.mem_zipIdx' member).1)]
      · simp only [List.zipIdx_singleton, Nat.zero_add, List.filterMap_cons, List.take_left]
        cases nameAfter? before route <;> rfl
  · rintro before dropped after rfl nothing
    have skipped : kept? (named before).getLast? dropped = none := by
      rw [kept?_of_legacy (legacy_getLast? before), nothing, Option.map_none]
    rw [named, named, namedFrom_append, namedFrom_append, Option.or_none, ← named, namedFrom_cons,
      skipped]
    rfl

/-- Between `/widgets` and the routes that inherit its name stand a mounted one and one that is
written differently. -/
def interrupted : List Route :=
  let index : Route :=
    { verb := "GET", name := some "widgets", parts := [], controller := none, action := none,
      internal := false, engine := false, pattern := .literal "/widgets" }
  [index, { index with name := some "admin", engine := true },
    { index with name := none, pattern := .literal "/up" },
    { index with verb := "POST", name := none }, { index with verb := "PUT", name := none }]

theorem named_eq_nameAfter_interrupted :
    named interrupted = named (interrupted.take 2 ++ interrupted.drop 3) ∧
      (named interrupted).map (fun (name, route) => (name, route.verb)) =
        [("widgets", "GET"), ("widgets", "POST"), ("widgets", "PUT")] := by
  refine ⟨(named_eq_nameAfter interrupted).2 (interrupted.take 2) _ (interrupted.drop 3) rfl rfl, ?_⟩
  rw [(named_eq_nameAfter interrupted).1]
  rfl

end RouteBindings.Route
