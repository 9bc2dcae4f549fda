import Mathlib.Data.Finset.Sort
import Mathlib.Data.String.Basic
import RouteBindings.Text.Order

namespace RouteBindings.Text

theorem comesBefore_iff (cs ds : List Char) : comesBefore cs ds = true ↔ cs < ds := by
  induction cs generalizing ds with
  | nil => cases ds <;> simp [comesBefore]
  | cons c cs ih =>
    cases ds with
    | nil => simp [comesBefore]
    | cons d ds =>
      have less : c.toNat < d.toNat ↔ c < d := Iff.rfl
      rw [comesBefore, List.cons_lt_cons_iff, Bool.or_eq_true, Bool.and_eq_true, decide_eq_true_eq,
        decide_eq_true_eq, ih, less, Char.toNat_inj]

theorem mem_insertName {name other : String} {names : List String} :
    other ∈ insertName name names ↔ other = name ∨ other ∈ names := by
  induction names with
  | nil => simp [insertName]
  | cons first rest ih =>
    rw [insertName]
    split
    · rename_i same
      simp [same]
    · split
      · simp
      · rw [List.mem_cons, ih, List.mem_cons]
        exact or_left_comm

theorem mem_sortedNames {name : String} {names : List String} :
    name ∈ sortedNames names ↔ name ∈ names := by
  induction names with
  | nil => rfl
  | cons first rest ih =>
    rw [sortedNames, List.foldr_cons, mem_insertName, List.mem_cons, ← ih]
    rfl

theorem pairwise_insertName (name : String) {names : List String}
    (ascending : names.Pairwise fun a b => a.toList < b.toList) :
    (insertName name names).Pairwise fun a b => a.toList < b.toList := by
  induction names with
  | nil => simp [insertName]
  | cons first rest ih =>
    rw [List.pairwise_cons] at ascending
    rw [insertName]
    split
    · exact List.pairwise_cons.mpr ascending
    rename_i other
    split
    · rename_i before
      rw [comesBefore_iff] at before
      refine List.pairwise_cons.mpr ⟨?_, List.pairwise_cons.mpr ascending⟩
      intro later member
      rcases List.mem_cons.mp member with rfl | member
      · exact before
      · exact List.lt_trans before (ascending.1 later member)
    · rename_i after
      rw [comesBefore_iff] at after
      refine List.pairwise_cons.mpr ⟨?_, ih ascending.2⟩
      intro later member
      rcases mem_insertName.mp member with rfl | member
      · refine Decidable.byContradiction fun unordered => other (String.toList_inj.mp ?_)
        exact List.le_antisymm (List.not_lt.mp unordered) (List.not_lt.mp after)
      · exact ascending.1 later member

theorem pairwise_sortedNames (names : List String) :
    (sortedNames names).Pairwise fun a b => a.toList < b.toList := by
  induction names with
  | nil => exact List.Pairwise.nil
  | cons first rest ih => exact pairwise_insertName first ih

/-- Nothing but the set of the names counts. -/
theorem sortedNames_eq_sort (names : List String) : sortedNames names = names.toFinset.sort := by
  have ascending : (sortedNames names).Pairwise (· < ·) := pairwise_sortedNames names
  have once : (sortedNames names).Nodup := ascending.imp ne_of_lt
  have same : (sortedNames names).toFinset = names.toFinset := by
    ext name
    rw [List.mem_toFinset, List.mem_toFinset, mem_sortedNames]
  rw [← same]
  exact ((List.toFinset_sort _ once).mpr (ascending.imp le_of_lt)).symm

end RouteBindings.Text
