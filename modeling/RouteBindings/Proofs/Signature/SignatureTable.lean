import Mathlib.Data.List.Nodup
import RouteBindings.Proofs.Table.Puts
import RouteBindings.Signature.Collection

namespace RouteBindings

def ActionSignature.address (s : ActionSignature) : String × String :=
  (s.controller, s.action)

namespace SignatureTable

def ofList (signatures : List ActionSignature) : SignatureTable :=
  signatures.foldl insert empty

def actionsOf (t : SignatureTable) (controller : String) : Table String ActionSignature :=
  (t.controllers.get? controller).getD .empty

theorem get?_eq (t : SignatureTable) (controller action : String) :
    t.get? controller action = (t.actionsOf controller).get? action := by
  unfold get? actionsOf
  cases t.controllers.get? controller with
  | none => rfl
  | some actions => rfl

theorem actionsOf_insert (t : SignatureTable) (s : ActionSignature) (key : String) :
    (t.insert s).actionsOf key =
      if key = s.controller then (t.actionsOf key).put s.action s else t.actionsOf key := by
  unfold actionsOf insert
  rw [Table.get?_put]
  split
  · rename_i same
    rw [same]
    rfl
  · rfl

theorem actionsOf_ofList (signatures : List ActionSignature) (key : String) :
    (ofList signatures).actionsOf key =
      (signatures.filter fun s => s.controller = key).foldl (fun t s => t.put s.action s)
        .empty := by
  induction signatures using List.reverseRecOn with
  | nil => rfl
  | append_singleton signatures s ih =>
    rw [ofList] at ih ⊢
    rw [List.foldl_append, List.foldl_cons, List.foldl_nil, actionsOf_insert, ih,
      List.filter_append, List.foldl_append]
    by_cases same : s.controller = key
    · simp [same]
    · have apart : key ≠ s.controller := fun e => same e.symm
      simp [same, apart]

theorem controllers_ofList (signatures : List ActionSignature) :
    (ofList signatures).controllers.keys = (signatures.map (·.controller)).eraseDups := by
  have folded : (ofList signatures).controllers =
      signatures.foldl (fun t s => t.put s.controller
        (((t.get? s.controller).getD .empty).put s.action s)) .empty := by
    induction signatures using List.reverseRecOn with
    | nil => rfl
    | append_singleton signatures s ih =>
      rw [ofList] at ih ⊢
      rw [List.foldl_append, List.foldl_cons, List.foldl_nil, List.foldl_append, ← ih]
      rfl
  rw [folded, Table.keys_foldl_put]

theorem get?_ofList (signatures : List ActionSignature) (controller action : String) :
    (ofList signatures).get? controller action =
      (signatures.filter fun s => s.controller = controller ∧ s.action = action).getLast? := by
  rw [get?_eq, actionsOf_ofList, Table.get?_foldl_put, Option.map_id', List.filter_filter]
  simp only [Bool.decide_and, Bool.and_comm]

theorem address_of_get? {signatures : List ActionSignature} {controller action : String}
    {s : ActionSignature} (found : (ofList signatures).get? controller action = some s) :
    s.address = (controller, action) := by
  rw [get?_ofList] at found
  have member := List.mem_of_getLast? found
  rw [List.mem_filter, decide_eq_true_eq] at member
  exact Prod.ext member.2.1 member.2.2

theorem address_of_row {signatures : List ActionSignature} {controller action : String}
    {s : ActionSignature} (row : (action, s) ∈ ((ofList signatures).actionsOf controller).rows) :
    s.address = (controller, action) := by
  have found : (ofList signatures).get? controller action = some s := by
    rwa [get?_eq, Table.get?_eq_some_iff]
  exact address_of_get? found

theorem toList_eq (t : SignatureTable) :
    t.toList = t.controllers.keys.flatMap fun key => (t.actionsOf key).values := by
  rw [toList, Table.values, Table.keys, List.flatMap_map, List.flatMap_map]
  apply List.flatMap_congr
  intro row member
  rw [actionsOf, Table.get?_eq_some_iff.mpr member, Option.getD_some]

theorem addresses_of_controller (signatures : List ActionSignature) (key : String) :
    ((ofList signatures).actionsOf key).values.map ActionSignature.address =
      ((ofList signatures).actionsOf key).keys.map (key, ·) := by
  rw [Table.values, Table.keys, List.map_map, List.map_map]
  apply List.map_congr_left
  intro row member
  exact address_of_row member

/-- Controllers stand in the order in which they first came, and so do the actions of each. -/
theorem addresses_ofList (signatures : List ActionSignature) :
    (ofList signatures).toList.map ActionSignature.address =
      (signatures.map (·.controller)).eraseDups.flatMap fun key =>
        ((signatures.filter fun s => s.controller = key).map (·.action)).eraseDups.map
          (key, ·) := by
  rw [toList_eq, List.map_flatMap, controllers_ofList]
  apply List.flatMap_congr
  intro key _
  rw [addresses_of_controller, actionsOf_ofList, Table.keys_foldl_put]

theorem nodup_addresses (signatures : List ActionSignature) :
    ((ofList signatures).toList.map ActionSignature.address).Nodup := by
  rw [toList_eq, List.map_flatMap, List.nodup_flatMap]
  constructor
  · intro key _
    rw [addresses_of_controller]
    exact (Table.distinct _).map fun _ _ same => (Prod.mk.inj same).2
  · apply List.Pairwise.imp _ (ofList signatures).controllers.distinct
    intro first second apart
    rw [Function.onFun_apply, addresses_of_controller, addresses_of_controller, List.disjoint_left]
    intro address inFirst inSecond
    obtain ⟨_, _, rfl⟩ := List.mem_map.mp inFirst
    obtain ⟨_, _, same⟩ := List.mem_map.mp inSecond
    exact apart (Prod.mk.inj same).1.symm

theorem mem_toList_iff {signatures : List ActionSignature} {s : ActionSignature} :
    s ∈ (ofList signatures).toList ↔
      (ofList signatures).get? s.controller s.action = some s := by
  rw [toList_eq, List.mem_flatMap]
  constructor
  · rintro ⟨key, -, member⟩
    obtain ⟨⟨action, t⟩, row, rfl⟩ := List.mem_map.mp member
    have address := Prod.mk.inj (address_of_row row)
    rw [get?_eq, address.1, address.2]
    exact Table.get?_eq_some_iff.mpr row
  · intro found
    refine ⟨s.controller, ?_, ?_⟩
    · rw [get?] at found
      obtain ⟨actions, known, -⟩ := Option.bind_eq_some_iff.mp found
      exact List.mem_map_of_mem (Table.get?_eq_some_iff.mp known)
    · rw [get?_eq, Table.get?_eq_some_iff] at found
      exact List.mem_map_of_mem found

theorem size_eq (t : SignatureTable) : t.size = t.toList.length := by
  rw [size, toList]
  induction t.controllers.values with
  | nil => rfl
  | cons actions rest ih =>
    rw [List.foldr_cons, ih, List.flatMap_cons, List.length_append, Table.values, List.length_map]

end SignatureTable

end RouteBindings
