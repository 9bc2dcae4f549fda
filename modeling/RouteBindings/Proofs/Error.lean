import Mathlib.Data.List.Forall2
import RouteBindings.Error

namespace RouteBindings

variable {ε α β σ : Type}

theorem bind_ok {result : Except ε α} {next : α → Except ε β} {b : β}
    (succeeded : (result >>= next) = .ok b) : ∃ a, result = .ok a ∧ next a = .ok b := by
  cases result with
  | error => cases succeeded
  | ok a => exact ⟨a, rfl, succeeded⟩

theorem bind_error {result : Except ε α} {next : α → Except ε β} {error : ε}
    (failed : (result >>= next) = .error error) :
    result = .error error ∨ ∃ a, result = .ok a ∧ next a = .error error := by
  cases result with
  | error raised =>
    cases failed
    exact .inl rfl
  | ok a => exact .inr ⟨a, rfl, failed⟩

theorem ok_inj {result : Except ε α} {a b : α} (first : result = .ok a) (second : result = .ok b) :
    a = b :=
  Except.ok.inj (first.symm.trans second)

theorem not_ok_and_error {result : Except ε α} {a : α} {error : ε} (succeeded : result = .ok a)
    (failed : result = .error error) : False := by
  rw [succeeded] at failed
  cases failed

theorem mapError_ok_iff {ε' : Type} {f : ε → ε'} {result : Except ε α} {a : α} :
    result.mapError f = .ok a ↔ result = .ok a := by
  cases result <;> simp [Except.mapError]

theorem ok_or_error (result : Except ε α) :
    (∃ a, result = .ok a) ∨ ∃ error, result = .error error := by
  cases result with
  | ok a => exact .inl ⟨a, rfl⟩
  | error error => exact .inr ⟨error, rfl⟩

theorem mapM_ok_iff {f : α → Except ε β} {as : List α} {bs : List β} :
    as.mapM f = .ok bs ↔ List.Forall₂ (fun a b => f a = .ok b) as bs := by
  induction as generalizing bs with
  | nil => simp [pure, Except.pure, eq_comm]
  | cons a rest ih =>
    rw [List.mapM_cons]
    constructor
    · intro succeeded
      obtain ⟨b, head, succeeded⟩ := bind_ok succeeded
      obtain ⟨tail, others, succeeded⟩ := bind_ok succeeded
      cases succeeded
      exact .cons head (ih.mp others)
    · intro each
      cases each with
      | cons head others =>
        rw [head, ih.mpr others]
        rfl

theorem mapM_error_iff {f : α → Except ε β} {as : List α} :
    (∃ error, as.mapM f = .error error) ↔ ∃ a ∈ as, ∃ error, f a = .error error := by
  induction as with
  | nil => simp [pure, Except.pure]
  | cons a rest ih =>
    rw [List.mapM_cons, List.exists_mem_cons_iff, ← ih]
    cases f a with
    | error => simp [bind, Except.bind]
    | ok => cases rest.mapM f <;> simp [bind, Except.bind, pure, Except.pure]

theorem mem_of_mapM_ok {f : α → Except ε β} {as : List α} {bs : List β}
    (made : List.Forall₂ (fun a b => f a = .ok b) as bs) (b : β) :
    b ∈ bs ↔ ∃ a ∈ as, f a = .ok b := by
  induction made with
  | nil => simp
  | cons head _ ih => simp [ih, head, eq_comm]

/-- Steps that make something of each item and then take it in: all of it could be made first. -/
theorem foldlM_bind_ok_iff {f : α → Except ε β} {g : σ → β → Except ε σ} {as : List α}
    {start result : σ} :
    as.foldlM (fun s a => f a >>= g s) start = .ok result ↔
      ∃ bs, as.mapM f = .ok bs ∧ bs.foldlM g start = .ok result := by
  induction as generalizing start with
  | nil => simp [pure, Except.pure]
  | cons a rest ih =>
    rw [List.foldlM_cons, List.mapM_cons]
    constructor
    · intro succeeded
      obtain ⟨s, step, succeeded⟩ := bind_ok succeeded
      obtain ⟨b, made, taken⟩ := bind_ok step
      obtain ⟨bs, others, folded⟩ := ih.mp succeeded
      refine ⟨b :: bs, by rw [made, others]; rfl, ?_⟩
      rw [List.foldlM_cons, taken]
      exact folded
    · rintro ⟨bs, all, folded⟩
      obtain ⟨b, made, all⟩ := bind_ok all
      obtain ⟨others, rest', all⟩ := bind_ok all
      cases all
      rw [List.foldlM_cons] at folded
      obtain ⟨s, taken, folded⟩ := bind_ok folded
      rw [made, show (Except.ok b >>= g start) = g start b from rfl, taken]
      exact ih.mpr ⟨others, rest', folded⟩

def failure? : Except ε α → Option ε
  | .ok _ => none
  | .error error => some error

theorem failure?_eq_some_iff {result : Except ε α} {error : ε} :
    failure? result = some error ↔ result = .error error := by
  cases result <;> simp [failure?]

theorem failure?_eq_none_iff {result : Except ε α} :
    failure? result = none ↔ ∃ a, result = .ok a := by
  cases result <;> simp [failure?]

/-- Two steps, of which the second fails alike whatever the first one makes. -/
theorem failure?_bind {result : Except ε α} {next : α → Except ε β} {first later : Option ε}
    (now : failure? result = first) (after : ∀ a, failure? (next a) = later) :
    failure? (result >>= next) = first.or later := by
  subst now
  cases result with
  | ok a => exact after a
  | error error => rfl

theorem failure?_bind_pure (f : α → β) (result : Except ε α) :
    failure? (result >>= fun a => pure (f a)) = failure? result := by
  cases result <;> rfl

theorem failure?_map (f : α → β) (result : Except ε α) :
    failure? (result.map f) = failure? result := by
  cases result <;> rfl

theorem failure?_mapM (f : α → Except ε β) (as : List α) :
    failure? (as.mapM f) = as.findSome? fun a => failure? (f a) := by
  induction as with
  | nil => rfl
  | cons a rest ih =>
    rw [List.mapM_cons, List.findSome?_cons]
    refine (failure?_bind rfl fun _ => (failure?_bind_pure _ _).trans ih).trans ?_
    cases failure? (f a) <;> rfl

theorem Error.isRecoverable_iff {error : Error} :
    error.isRecoverable = true ↔
      (∃ construct, error = .unsupported construct) ∨
        ∃ found, error = .ambiguousOverload found := by
  cases error <;> simp [isRecoverable]

/-- Whatever the computation fails with, only one action is left out for it. -/
def Recoverable (result : Except Error α) : Prop :=
  ∀ error, result = .error error → error.isRecoverable = true

theorem recoverable_ok (a : α) : Recoverable (.ok a : Except Error α) := by
  intro error failed
  cases failed

theorem recoverable_unsupported (construct : Construct) :
    Recoverable (.error (.unsupported construct) : Except Error α) := by
  intro error failed
  cases failed
  rfl

theorem Recoverable.bind {result : Except Error α} {next : α → Except Error β}
    (first : Recoverable result) (second : ∀ a, Recoverable (next a)) :
    Recoverable (result >>= next) := by
  intro error failed
  cases result with
  | ok a => exact second a error failed
  | error e =>
    cases failed
    exact first error rfl

theorem recoverable_mapM {f : α → Except Error β} (recoverable : ∀ a, Recoverable (f a))
    (items : List α) : Recoverable (items.mapM f) := by
  induction items with
  | nil => exact recoverable_ok _
  | cons a rest ih =>
    rw [List.mapM_cons]
    exact (recoverable a).bind fun _ => ih.bind fun _ => recoverable_ok _

end RouteBindings
