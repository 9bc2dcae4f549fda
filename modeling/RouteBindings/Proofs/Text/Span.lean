import Mathlib.Data.List.TakeWhile

namespace RouteBindings.Text

variable {α : Type} {p : α → Bool}

theorem span_of_ends {cs rest : List α} (all : ∀ c ∈ cs, p c = true)
    (ends : ∀ c ∈ rest.head?, p c = false) :
    (cs ++ rest).takeWhile p = cs ∧ (cs ++ rest).dropWhile p = rest := by
  rw [List.takeWhile_append_of_pos all, List.dropWhile_append_of_pos all]
  cases rest with
  | nil => simp
  | cons c tail => simp [ends c rfl]

/-- What follows a text and cannot prolong its run leaves the run as it was. -/
theorem span_append {rest : List α} (ends : ∀ c ∈ rest.head?, p c = false) (cs : List α) :
    (cs ++ rest).takeWhile p = cs.takeWhile p ∧
      (cs ++ rest).dropWhile p = cs.dropWhile p ++ rest := by
  induction cs with
  | nil => simpa using span_of_ends (List.forall_mem_nil _) ends
  | cons c tail ih =>
    by_cases part : p c = true
    · simp [part, ih]
    · simp [part]

theorem ends_dropWhile (cs : List α) : ∀ c ∈ (cs.dropWhile p).head?, p c = false := by
  intro c hc
  rw [← List.find?_not_eq_head?_dropWhile] at hc
  simpa using List.find?_some hc

end RouteBindings.Text
