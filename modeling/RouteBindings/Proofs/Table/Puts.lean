import Mathlib.Data.List.Induction
import RouteBindings.Table

namespace RouteBindings.Table

variable {κ ν α : Type} [DecidableEq κ]

theorem rows_eq (t : Table κ ν) (absent : ν) :
    t.rows = t.keys.map fun key => (key, (t.get? key).getD absent) := by
  have kept : t.rows.map id = t.rows.map fun row => (row.1, (t.get? row.1).getD absent) := by
    apply List.map_congr_left
    intro row member
    rw [get?_eq_some_iff.mpr member, Option.getD_some, id]
  rw [keys, List.map_map]
  rwa [List.map_id] at kept

theorem eraseDups_concat (keys : List κ) (key : κ) :
    (keys ++ [key]).eraseDups =
      if key ∈ keys then keys.eraseDups else keys.eraseDups ++ [key] := by
  rw [List.eraseDups_append]
  by_cases known : key ∈ keys
  · simp [List.removeAll, known]
  · simp [List.removeAll, known, List.eraseDups_cons]

theorem keys_foldl_put (key : α → κ) (value : Table κ ν → α → ν) (items : List α) :
    (items.foldl (fun t a => t.put (key a) (value t a)) empty).keys =
      (items.map key).eraseDups := by
  induction items using List.reverseRecOn with
  | nil => rfl
  | append_singleton items a ih =>
    rw [List.foldl_append, List.foldl_cons, List.foldl_nil, keys_put, ih, List.map_append,
      List.map_singleton, eraseDups_concat]
    simp only [List.mem_eraseDups]

theorem get?_foldl_put (key : α → κ) (value : α → ν) (items : List α) (k : κ) :
    (items.foldl (fun t a => t.put (key a) (value a)) empty).get? k =
      ((items.filter fun a => key a = k).getLast?).map value := by
  induction items using List.reverseRecOn with
  | nil => rfl
  | append_singleton items a ih =>
    rw [List.foldl_append, List.foldl_cons, List.foldl_nil, get?_put, ih, List.filter_append]
    by_cases same : key a = k
    · simp [same]
    · have apart : k ≠ key a := fun e => same e.symm
      simp [same, apart]

theorem putRow_fresh {key : κ} (value : ν) {rows : List (κ × ν)} (fresh : key ∉ rows.map Prod.fst) :
    putRow key value rows = rows ++ [(key, value)] := by
  induction rows with
  | nil => rfl
  | cons row rest ih =>
    obtain ⟨k, v⟩ := row
    rw [List.map_cons, List.mem_cons, not_or] at fresh
    rw [putRow, if_neg fun same => fresh.1 same.symm, ih fresh.2, List.cons_append]

theorem rows_ofRows {rows : List (κ × ν)} (distinct : (rows.map Prod.fst).Nodup) :
    (ofRows rows).rows = rows := by
  induction rows using List.reverseRecOn with
  | nil => rfl
  | append_singleton rows row ih =>
    rw [List.map_append, List.map_singleton, List.nodup_append] at distinct
    obtain ⟨before, -, apart⟩ := distinct
    have fresh : row.1 ∉ rows.map Prod.fst := fun known =>
      apart row.1 known row.1 (List.mem_singleton_self _) rfl
    rw [ofRows, List.foldl_append]
    exact (congrArg (putRow row.1 row.2) (ih before)).trans (putRow_fresh row.2 fresh)

/-- A table is what its rows make up. -/
theorem ofRows_rows (t : Table κ ν) : ofRows t.rows = t := by
  have same := rows_ofRows t.distinct
  cases made : ofRows t.rows with
  | mk rows distinct =>
    rw [made] at same
    cases t
    cases same
    rfl

end RouteBindings.Table
