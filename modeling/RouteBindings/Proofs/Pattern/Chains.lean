import RouteBindings.Pattern.Evaluation

namespace RouteBindings.Pattern

def Item : Pattern → Prop
  | concat _ _ => False
  | alternation _ => False
  | _ => True

theorem joinChains_ne_nil {α : Type} {a b : List (List α)} (nonempty : a ≠ []) :
    joinChains a b ≠ [] := by
  fun_cases joinChains a b <;> simp_all

theorem joinChains_cons {α : Type} (chain : List α) {left : List (List α)} (nonempty : left ≠ [])
    (right : List (List α)) :
    joinChains (chain :: left) right = chain :: joinChains left right := by
  cases left with
  | nil => exact absurd rfl nonempty
  | cons => rfl

theorem forall_joinChains {α : Type} {P : List α → Prop} {as bs : List (List α)}
    (ha : ∀ a ∈ as, P a) (hb : ∀ b ∈ bs, P b) (hab : ∀ a b, P a → P b → P (a ++ b)) :
    ∀ c ∈ joinChains as bs, P c := by
  fun_induction joinChains as bs with
  | case1 => exact hb
  | case2 => exact ha
  | case3 last first rest =>
    intro c hc
    rcases List.mem_cons.mp hc with rfl | hc
    · exact hab last first (ha last (by simp)) (hb first (by simp))
    · exact hb c (List.mem_cons_of_mem _ hc)
  | case4 chain left right _ _ ih =>
    intro c hc
    rcases List.mem_cons.mp hc with rfl | hc
    · exact ha c (by simp)
    · exact ih (fun a h => ha a (List.mem_cons_of_mem _ h)) hb c hc

theorem flatten_joinChains {α : Type} (a b : List (List α)) :
    (joinChains a b).flatten = a.flatten ++ b.flatten := by
  fun_induction joinChains a b <;> simp_all

theorem map_joinChains {α β : Type} {f : List α → List β} (hf : ∀ a b, f (a ++ b) = f a ++ f b)
    (as bs : List (List α)) :
    (joinChains as bs).map f = joinChains (as.map f) (bs.map f) := by
  fun_induction joinChains as bs with
  | case1 => rfl
  | case2 => rfl
  | case3 last first rest => simp [joinChains, hf]
  | case4 chain left right other lone ih =>
    cases left with
    | nil =>
      cases right with
      | nil => exact absurd rfl (other rfl)
      | cons first rest => exact absurd rfl (lone first rest rfl)
    | cons next others => simpa [joinChains] using ih

def addAll (start : Operand) (items : List Outcome) : Outcome :=
  items.foldlM (fun sum item => item.map sum.add) start

theorem addAll_append (start : Operand) (a b : List Outcome) :
    addAll start (a ++ b) = addAll start a >>= fun sum => addAll sum b := by
  simp only [addAll, List.foldlM_append]

theorem runChain_append {a : List Outcome} (nonempty : a ≠ []) (b : List Outcome) :
    runChain (a ++ b) = runChain a >>= fun sum => addAll sum b := by
  cases a with
  | nil => exact absurd rfl nonempty
  | cons first rest =>
    change (first >>= fun sum => addAll sum (rest ++ b)) =
      (first >>= fun sum => addAll sum rest) >>= fun sum => addAll sum b
    rw [bind_assoc]
    simp only [addAll_append]

end RouteBindings.Pattern
