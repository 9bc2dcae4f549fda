import RouteBindings.Proofs.Route.Inheritance
import RouteBindings.Route.Resource

/-! Routes that do not take part leave no trace. Any of them can be taken out of the table, and
outside routes can be put in anywhere: the named routes and all that is made of them stay the same.
Each route is known by its place, since one and the same route may take part at one place and be
dropped at another. -/

namespace RouteBindings.Route

open Aggregation (ofRoutes)

/-- The route at this place adds an entry to those of the routes before it. -/
def TakesPart (routes : List Route) (i : Nat) : Prop :=
  (named (routes.take i)).length < (named (routes.take (i + 1))).length

instance (routes : List Route) : DecidablePred (TakesPart routes) :=
  fun _ => inferInstanceAs (Decidable (_ < _))

def without (gone : Nat → Bool) (routes : List Route) : List Route :=
  (routes.zipIdx.filter fun placed => !gone placed.2).map Prod.fst

/-- A table, and the same with any number of outside routes put in. -/
inductive Joined : List Route → List Route → Prop
  | nil : Joined [] []
  | same {route routes more} : Joined routes more → Joined (route :: routes) (route :: more)
  | outside {route routes more} : route.isOutside = true → Joined routes more →
      Joined routes (route :: more)

/-- The two tables give the same named routes, the same resources and the same omitted names. -/
def Alike (signatures : SignatureTable) (routes other : List Route) : Prop :=
  named other = named routes ∧ ofRoutes other signatures = ofRoutes routes signatures

theorem alike_of_named {signatures : SignatureTable} {routes other : List Route}
    (same : named other = named routes) : Alike signatures routes other :=
  ⟨same, by rw [ofRoutes, ofRoutes, same]⟩

theorem takesPart_front {routes : List Route} {i : Nat} (within : i < routes.length)
    (route : Route) : TakesPart (routes ++ [route]) i ↔ TakesPart routes i := by
  rw [TakesPart, TakesPart, List.take_append_of_le_length within,
    List.take_append_of_le_length (Nat.le_of_lt within)]

theorem takesPart_last_iff (routes : List Route) (route : Route) :
    TakesPart (routes ++ [route]) routes.length ↔
      kept? (named routes).getLast? route ≠ none := by
  rw [TakesPart, List.take_left, List.take_of_length_le (by simp), named_concat]
  cases kept? (named routes).getLast? route <;> simp

theorem without_concat (gone : Nat → Bool) (routes : List Route) (route : Route) :
    without gone (routes ++ [route]) =
      without gone routes ++ if gone routes.length then [] else [route] := by
  rw [without, without, List.zipIdx_append, List.filter_append, List.map_append]
  cases gone : gone routes.length <;> simp [gone]

theorem kept?_route {last : Option (String × Route)} {route : Route} {entry : String × Route}
    (kept : kept? last route = some entry) : entry.2 = route := by
  rw [kept?] at kept
  split at kept
  · cases kept
  · obtain ⟨name, -, rfl⟩ := Option.map_eq_some_iff.mp kept
    rfl

/-- Only the places of the table decide what is taken out of it. -/
theorem without_congr {gone lost : Nat → Bool} {routes : List Route}
    (same : ∀ i < routes.length, gone i = lost i) : without gone routes = without lost routes := by
  rw [without, without]
  congr 1
  apply List.filter_congr
  intro placed member
  rw [same placed.2 (List.mem_zipIdx' member).1]

/-- The route kept last is the same with or without routes that do not take part, so that the next
route meets the same fate in both tables. -/
theorem named_without {gone : Nat → Bool} {routes : List Route}
    (idle : ∀ i < routes.length, gone i = true → ¬ TakesPart routes i) :
    named (without gone routes) = named routes := by
  induction routes using List.reverseRecOn with
  | nil => rfl
  | append_singleton routes route ih =>
    have front : named (without gone routes) = named routes := by
      apply ih
      intro i within taken
      rw [← takesPart_front within route]
      exact idle i (by simp; omega) taken
    rw [without_concat, named_concat]
    cases taken : gone routes.length with
    | false =>
      simp only [Bool.false_eq_true, if_false]
      rw [named_concat, front]
    | true =>
      have dropped := idle routes.length (by simp) taken
      rw [takesPart_last_iff, ne_eq, not_not] at dropped
      simp only [if_true, List.append_nil, dropped, Option.toList_none]
      exact front

/-- The routes that take part are those that are named. -/
theorem without_absent (routes : List Route) :
    without (fun i => !decide (TakesPart routes i)) routes = (named routes).map Prod.snd := by
  induction routes using List.reverseRecOn with
  | nil => rfl
  | append_singleton routes route ih =>
    have front : without (fun i => !decide (TakesPart (routes ++ [route]) i)) routes =
        without (fun i => !decide (TakesPart routes i)) routes := by
      apply without_congr
      intro i within
      rw [decide_eq_decide.mpr (takesPart_front within route)]
    rw [without_concat, front, ih, named_concat, List.map_append]
    by_cases taken : TakesPart (routes ++ [route]) routes.length
    · obtain ⟨entry, kept⟩ := Option.ne_none_iff_exists'.mp ((takesPart_last_iff _ _).mp taken)
      simp [taken, kept, kept?_route kept]
    · have dropped := (not_congr (takesPart_last_iff _ _)).mp taken
      rw [ne_eq, not_not] at dropped
      simp [taken, dropped]

/-- An outside route is passed over, whatever was kept before it. -/
theorem namedFrom_joined {last : Option (String × Route)} {routes more : List Route}
    (joined : Joined routes more) : namedFrom last more = namedFrom last routes := by
  induction joined generalizing last with
  | nil => rfl
  | same _ ih => rw [namedFrom_cons, namedFrom_cons, ih]
  | outside outside _ ih => rw [namedFrom, if_pos outside, ih]

/-- Neither routes that do not take part nor outside routes leave a trace, however many are taken
out and wherever others are put in. What is left without all of them is what takes part, and that
alone gives the same named routes again. -/
theorem alike_of_invisible (signatures : SignatureTable) (routes : List Route) :
    (∀ gone : Nat → Bool, (∀ i, gone i = true → ¬ TakesPart routes i) →
      Alike signatures routes (without gone routes)) ∧
    (∀ more, Joined routes more → Alike signatures routes more) ∧
    without (fun i => !decide (TakesPart routes i)) routes = (named routes).map Prod.snd ∧
    named ((named routes).map Prod.snd) = named routes := by
  refine ⟨?_, ?_, without_absent routes, ?_⟩
  · intro gone idle
    apply alike_of_named
    exact named_without fun i _ taken => idle i taken
  · intro more joined
    apply alike_of_named
    exact namedFrom_joined joined
  · rw [← without_absent routes]
    apply named_without
    intro i _ taken
    simpa using taken

/-- The mounted route and the one that is written differently can go, and two mounted routes come,
the second between the routes that inherit a name. -/
theorem alike_of_invisible_interrupted :
    (¬ TakesPart interrupted 1 ∧ ¬ TakesPart interrupted 2 ∧
      Alike .empty interrupted (without (fun i => i = 1 || i = 2) interrupted)) ∧
      ∃ mounted ∈ interrupted, mounted.isOutside = true ∧
        Alike .empty interrupted
          (mounted :: interrupted.take 4 ++ mounted :: interrupted.drop 4) := by
  obtain ⟨fewer, more, -, -⟩ := alike_of_invisible .empty interrupted
  constructor
  · refine ⟨by decide, by decide, fewer _ ?_⟩
    intro i taken
    simp only [Bool.or_eq_true, decide_eq_true_eq] at taken
    rcases taken with rfl | rfl <;> decide
  · refine ⟨interrupted[1], List.getElem_mem _, rfl, more _ ?_⟩
    exact .outside rfl (.same (.same (.same (.same (.outside rfl (.same .nil))))))

end RouteBindings.Route
