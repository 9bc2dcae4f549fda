import RouteBindings.Log
import RouteBindings.Proofs.Error

namespace RouteBindings.Logged

variable {ε ε' α β σ : Type}

/-- Behind whatever was logged before, the steps log these events and end with this result. -/
def Runs (steps : Logged Id ε α) (events : List LogEvent) (result : Except ε α) : Prop :=
  ∀ before, Id.run (steps.run.run before) = (result, before ++ events)

/-- The steps end with this result, whatever they log. -/
def Yields (steps : Logged Id ε α) (result : Except ε α) : Prop :=
  ∃ events, Runs steps events result

theorem runs_pure (a : α) : Runs (pure a : Logged Id ε α) [] (.ok a) := by
  intro before
  rw [List.append_nil]
  rfl

theorem runs_logAll (events : List LogEvent) :
    Runs (logAll events : Logged Id ε Unit) events (.ok ()) :=
  fun _ => rfl

theorem runs_log (event : LogEvent) : Runs (log event : Logged Id ε Unit) [event] (.ok ()) :=
  runs_logAll [event]

theorem runs_lift (a : Id α) : Runs (liftM a : Logged Id ε α) [] (.ok a.run) := by
  intro before
  rw [List.append_nil]
  rfl

theorem runs_except (result : Except ε α) : Runs (liftM result : Logged Id ε α) [] result := by
  intro before
  rw [List.append_nil]
  rfl

theorem run_bind (steps : Logged Id ε α) (next : α → Logged Id ε β) (before : List LogEvent) :
    Id.run ((steps >>= next).run.run before) =
      match Id.run (steps.run.run before) with
      | (.ok a, after) => Id.run ((next a).run.run after)
      | (.error error, after) => (.error error, after) := by
  change (match Id.run (steps.run.run before) with
    | (result, after) => Id.run ((ExceptT.bindCont next result).run after)) = _
  rcases Id.run (steps.run.run before) with ⟨result, after⟩
  cases result <;> rfl

namespace Runs

variable {steps : Logged Id ε α} {events more : List LogEvent}

theorem bind {a : α} {next : α → Logged Id ε β} {result : Except ε β}
    (first : Runs steps events (.ok a)) (second : Runs (next a) more result) :
    Runs (steps >>= next) (events ++ more) result := by
  intro before
  rw [run_bind, first before, ← List.append_assoc]
  exact second (before ++ events)

theorem behind (events : List LogEvent) {next : Unit → Logged Id ε α} {result : Except ε α}
    (second : Runs (next ()) more result) :
    Runs (logAll events >>= next) (events ++ more) result :=
  (runs_logAll events).bind second

theorem stop {error : ε} (first : Runs steps events (.error error))
    (next : α → Logged Id ε β) : Runs (steps >>= next) events (.error error) := by
  intro before
  rw [run_bind, first before]

theorem adapt {result : Except ε α} (first : Runs steps events result) (f : ε → ε') :
    Runs (steps.adapt f) events (result.mapError f) := by
  intro before
  change ((Id.run (steps.run.run before)).1.mapError f, (Id.run (steps.run.run before)).2) = _
  rw [first before]

theorem result_eq {result : Except ε α} (runs : Runs steps events result) :
    Id.run steps.result = result := by
  change (Id.run (steps.run.run [])).1 = result
  rw [runs []]

end Runs

namespace Yields

variable {steps : Logged Id ε α} {result : Except ε α}

theorem bind {next : α → Logged Id ε β} {after : α → Except ε β} (first : Yields steps result)
    (second : ∀ a, Yields (next a) (after a)) : Yields (steps >>= next) (result >>= after) := by
  obtain ⟨events, first⟩ := first
  cases result with
  | error error => exact ⟨events, first.stop next⟩
  | ok a =>
    obtain ⟨more, second⟩ := second a
    exact ⟨events ++ more, first.bind second⟩

theorem behind (events : List LogEvent) {next : Unit → Logged Id ε α}
    (yields : Yields (next ()) result) : Yields (logAll events >>= next) result := by
  obtain ⟨more, runs⟩ := yields
  exact ⟨events ++ more, runs.behind events⟩

theorem ask (a : Id β) {next : β → Logged Id ε α} (yields : Yields (next a.run) result) :
    Yields (liftM a >>= next) result := by
  obtain ⟨events, runs⟩ := yields
  exact ⟨[] ++ events, (runs_lift a).bind runs⟩

theorem followed (yields : Yields steps result) (event : α → LogEvent) :
    Yields (steps >>= fun a => log (event a) >>= fun _ => pure a) result := by
  have ended : ∀ a, Yields (log (event a) >>= fun _ => pure a : Logged Id ε α) (pure a) := by
    intro a
    apply behind
    exact ⟨[], runs_pure a⟩
  have whole := yields.bind ended
  rwa [bind_pure] at whole

theorem adapt (yields : Yields steps result) (f : ε → ε') :
    Yields (steps.adapt f) (result.mapError f) := by
  obtain ⟨events, runs⟩ := yields
  exact ⟨events, runs.adapt f⟩

theorem result_eq (yields : Yields steps result) : Id.run steps.result = result := by
  obtain ⟨_, runs⟩ := yields
  exact runs.result_eq

end Yields

/-- Steps that run through a list to its end log what each item gives rise to. -/
theorem runs_foldlM {step : σ → α → Logged Id ε σ} {plain : σ → α → Except ε σ}
    {events : α → List LogEvent} (each : ∀ s a, Runs (step s a) (events a) (plain s a)) {s last : σ}
    {items : List α} (passed : items.foldlM plain s = .ok last) :
    Runs (items.foldlM step s) (items.flatMap events) (.ok last) := by
  induction items generalizing s with
  | nil =>
    cases passed
    exact runs_pure _
  | cons a rest ih =>
    rw [List.foldlM_cons] at passed ⊢
    obtain ⟨next, taken, passed⟩ := bind_ok passed
    have first := each s a
    rw [taken] at first
    exact first.bind (ih passed)

/-- Steps that run through a list yield what the same run without a log does. -/
theorem yields_foldlM {step : σ → α → Logged Id ε σ} {plain : σ → α → Except ε σ}
    (each : ∀ s a, Yields (step s a) (plain s a)) (s : σ) (items : List α) :
    Yields (items.foldlM step s) (items.foldlM plain s) := by
  induction items generalizing s with
  | nil => exact ⟨[], runs_pure s⟩
  | cons a rest ih =>
    rw [List.foldlM_cons, List.foldlM_cons]
    exact (each s a).bind ih

end RouteBindings.Logged
