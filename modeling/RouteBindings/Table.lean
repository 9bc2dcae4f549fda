/-!
Tables that keep their rows in the order in which the keys first came. Putting a known key replaces
its value and leaves it where it stands.
-/

namespace RouteBindings

structure Table (κ ν : Type) where
  rows : List (κ × ν)
  distinct : (rows.map Prod.fst).Nodup

namespace Table

variable {κ ν : Type}

def empty : Table κ ν := ⟨[], List.Pairwise.nil⟩

instance : Inhabited (Table κ ν) := ⟨empty⟩

def keys (t : Table κ ν) : List κ :=
  t.rows.map Prod.fst

def values (t : Table κ ν) : List ν :=
  t.rows.map Prod.snd

variable [DecidableEq κ]

def find? (key : κ) : List (κ × ν) → Option ν
  | [] => none
  | (k, v) :: rest => if k = key then some v else find? key rest

def get? (t : Table κ ν) (key : κ) : Option ν :=
  find? key t.rows

def putRow (key : κ) (value : ν) : List (κ × ν) → List (κ × ν)
  | [] => [(key, value)]
  | (k, v) :: rest => if k = key then (k, value) :: rest else (k, v) :: putRow key value rest

theorem keys_putRow (key : κ) (value : ν) (rows : List (κ × ν)) :
    (putRow key value rows).map Prod.fst =
      if key ∈ rows.map Prod.fst then rows.map Prod.fst else rows.map Prod.fst ++ [key] := by
  induction rows with
  | nil => simp [putRow]
  | cons row rest ih =>
    obtain ⟨k, v⟩ := row
    by_cases h : k = key
    · simp [putRow, h]
    · have h' : ¬ key = k := fun e => h e.symm
      simp only [putRow, h, if_false, List.map_cons, ih, List.mem_cons, h', false_or]
      split <;> simp

theorem distinct_putRow {key : κ} {value : ν} {rows : List (κ × ν)}
    (h : (rows.map Prod.fst).Nodup) : ((putRow key value rows).map Prod.fst).Nodup := by
  rw [keys_putRow]
  split
  · exact h
  · rename_i fresh
    refine List.nodup_append.2 ⟨h, by simp, fun a ha b hb e => fresh ?_⟩
    rw [List.mem_singleton] at hb
    rwa [← hb, ← e]

def put (t : Table κ ν) (key : κ) (value : ν) : Table κ ν :=
  ⟨putRow key value t.rows, distinct_putRow t.distinct⟩

theorem keys_put (t : Table κ ν) (key : κ) (value : ν) :
    (t.put key value).keys = if key ∈ t.keys then t.keys else t.keys ++ [key] :=
  keys_putRow key value t.rows

theorem find?_putRow (key other : κ) (value : ν) (rows : List (κ × ν)) :
    find? other (putRow key value rows) = if other = key then some value else find? other rows := by
  induction rows with
  | nil => simp [putRow, find?, eq_comm]
  | cons row rest ih =>
    obtain ⟨k, v⟩ := row
    by_cases same : k = other
    · subst same
      by_cases known : k = key
      · simp [putRow, find?, known]
      · simp [putRow, find?, known]
    · have skip : ∀ (u : ν) tail, find? other ((k, u) :: tail) = find? other tail := by
        intro u tail
        rw [find?, if_neg same]
      by_cases known : k = key
      · have apart : other ≠ key := fun e => same (known.trans e.symm)
        rw [putRow, if_pos known, skip, skip, if_neg apart]
      · rw [putRow, if_neg known, skip, skip, ih]

theorem get?_put (t : Table κ ν) (key other : κ) (value : ν) :
    (t.put key value).get? other = if other = key then some value else t.get? other :=
  find?_putRow key other value t.rows

theorem find?_eq_some_iff {key : κ} {value : ν} {rows : List (κ × ν)}
    (distinct : (rows.map Prod.fst).Nodup) :
    find? key rows = some value ↔ (key, value) ∈ rows := by
  induction rows with
  | nil => simp [find?]
  | cons row rest ih =>
    obtain ⟨k, v⟩ := row
    rw [List.map_cons, List.nodup_cons] at distinct
    rw [find?, List.mem_cons, Prod.mk.injEq]
    by_cases same : k = key
    · have fresh : (key, value) ∉ rest := by
        intro member
        have known := List.mem_map_of_mem (f := Prod.fst) member
        exact distinct.1 (same ▸ known)
      simp [same, fresh, eq_comm]
    · have apart : key ≠ k := fun e => same e.symm
      simp [same, apart, ih distinct.2]

theorem get?_eq_some_iff {t : Table κ ν} {key : κ} {value : ν} :
    t.get? key = some value ↔ (key, value) ∈ t.rows :=
  find?_eq_some_iff t.distinct

def ofRows (rows : List (κ × ν)) : Table κ ν :=
  rows.foldl (fun t (k, v) => t.put k v) empty

end Table

end RouteBindings
