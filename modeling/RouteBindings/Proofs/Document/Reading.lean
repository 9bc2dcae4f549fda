import Mathlib.Data.List.Forall2
import RouteBindings.Document.TypeTree
import RouteBindings.Proofs.Json.Text

namespace RouteBindings

namespace Json

mutual
def depth : Json → Nat
  | array items => itemDepth items + 1
  | object entries => entryDepth entries + 1
  | _ => 0

def itemDepth : List Json → Nat
  | [] => 0
  | item :: rest => max item.depth (itemDepth rest)

def entryDepth : List (String × Json) → Nat
  | [] => 0
  | (_, value) :: rest => max value.depth (entryDepth rest)
end

theorem depth_le_itemDepth {v : Json} {items : List Json} (member : v ∈ items) :
    v.depth ≤ itemDepth items := by
  induction items with
  | nil => cases member
  | cons item rest ih =>
    rw [itemDepth]
    rcases List.mem_cons.mp member with rfl | later
    · exact Nat.le_max_left _ _
    · exact Nat.le_trans (ih later) (Nat.le_max_right _ _)

mutual
theorem value?_draft : (v : Json) → (n : Nat) →
    v.draft.value? n = if v.depth ≤ n then some v else none
  | null, _ => rfl
  | bool _, _ => rfl
  | number _, _ => rfl
  | string _, _ => rfl
  | array items, 0 => rfl
  | array items, n + 1 => by
    rw [draft, Draft.value?, values?_drafts items n, depth]
    by_cases fits : itemDepth items ≤ n
    · rw [if_pos fits, if_pos (Nat.succ_le_succ fits)]
      rfl
    · rw [if_neg fits, if_neg fun h => fits (Nat.le_of_succ_le_succ h)]
      rfl
  | object entries, 0 => rfl
  | object entries, n + 1 => by
    rw [draft, Draft.value?, entryValues?_drafts entries n, depth]
    by_cases fits : entryDepth entries ≤ n
    · rw [if_pos fits, if_pos (Nat.succ_le_succ fits)]
      rfl
    · rw [if_neg fits, if_neg fun h => fits (Nat.le_of_succ_le_succ h)]
      rfl

theorem values?_drafts : (items : List Json) → (n : Nat) →
    Draft.values? n (drafts items) = if itemDepth items ≤ n then some items else none
  | [], _ => rfl
  | item :: rest, n => by
    rw [drafts, Draft.values?, value?_draft item n, values?_drafts rest n, itemDepth]
    simp only [Nat.max_le]
    by_cases first : item.depth ≤ n <;> by_cases others : itemDepth rest ≤ n <;>
      simp [first, others]

theorem entryValues?_drafts : (entries : List (String × Json)) → (n : Nat) →
    Draft.entryValues? n (entryDrafts entries) =
      if entryDepth entries ≤ n then some entries else none
  | [], _ => rfl
  | (name, item) :: rest, n => by
    have item? := value?_draft item n
    have rest? := entryValues?_drafts rest n
    simp only [entryDrafts, Draft.entryValues?, item?, rest?, entryDepth, Nat.max_le]
    by_cases first : item.depth ≤ n <;> by_cases others : entryDepth rest ≤ n <;>
      simp [first, others]
end

end Json

namespace Read

variable {α β ρ κ : Type} {place : Place} {delivery : Delivery}

/-- What is read of something that nests this deep: nothing if it is read while its text is and the
text may not nest that deep any more. -/
def fitted (place : Place) (depth : Nat) (x : α) : Read α :=
  if place.delivery = .streamed ∧ place.depth < depth then malformed else .ok x

theorem fitted_zero (place : Place) (x : α) : fitted place 0 x = .ok x := by
  simp [fitted]

theorem fitted_complete {n : Nat} {x : α} (complete : place.delivery ≠ .streamed) :
    fitted place n x = .ok x :=
  if_neg fun deep => complete deep.1

theorem fitted_streamed {n depth : Nat} {x : α} :
    fitted ⟨.streamed, depth⟩ n x = if n ≤ depth then .ok x else malformed := by
  simp only [fitted, true_and, ← Nat.not_le, ite_not]

theorem within_fitted (step : DocumentStep) (n : Nat) (x : α) :
    within step (fitted place n x) = fitted place n x := by
  unfold fitted
  split <;> rfl

theorem map_fitted (f : α → β) (n : Nat) (x : α) :
    (fitted place n x).map f = fitted place n (f x) := by
  unfold fitted
  split <;> rfl

theorem fitted_then {n : Nat} {x : α} {y : β} {next : α → Read β} (read : next x = .ok y) :
    (fitted place n x >>= next) = fitted place n y := by
  unfold fitted
  split
  · rfl
  · exact read

theorem fitted_bind {n m : Nat} {x : α} {y : β} {next : α → Read β}
    (read : next x = fitted place m y) :
    (fitted place n x >>= next) = fitted place (max n m) y := by
  unfold fitted at read ⊢
  by_cases streamed : place.delivery = .streamed
  · by_cases fits : place.depth < n
    · rw [if_pos ⟨streamed, fits⟩, if_pos ⟨streamed, by omega⟩]
      rfl
    · rw [if_neg fun h => fits h.2]
      refine Eq.trans read ?_
      have same : place.depth < max n m ↔ place.depth < m := by omega
      simp only [same]
  · rw [if_neg fun h => streamed h.1, if_neg fun h => streamed h.1]
    exact read.trans (fitted_complete streamed)

/-- To enter an array or an object takes one level. -/
theorem enter_bind {n : Nat} {x : α} {next : Place → Read α}
    (inside : ∀ inner, inner.delivery = place.delivery → inner.depth ≤ place.depth →
      next inner = fitted inner n x) : (enter place >>= next) = fitted place (n + 1) x := by
  obtain ⟨delivery, depth⟩ := place
  cases delivery with
  | streamed =>
    cases depth with
    | zero => exact (if_pos ⟨rfl, Nat.zero_lt_succ n⟩).symm
    | succ depth =>
      refine (inside ⟨.streamed, depth⟩ rfl (Nat.le_succ depth)).trans ?_
      rw [fitted_streamed, fitted_streamed]
      simp only [Nat.add_le_add_iff_right]
  | loaded =>
    refine (inside ⟨.loaded, depth⟩ rfl (Nat.le_refl depth)).trans ?_
    rw [fitted_complete Delivery.noConfusion, fitted_complete Delivery.noConfusion]
  | held =>
    refine (inside ⟨.held, depth⟩ rfl (Nat.le_refl depth)).trans ?_
    rw [fitted_complete Delivery.noConfusion, fitted_complete Delivery.noConfusion]

/-- A reader takes this written form for this value, wherever it is delivered like that. -/
def Reads (delivery : Delivery) (read : Place → Draft → Read α) (v : Json) (x : α) : Prop :=
  ∀ place, place.delivery = delivery → place.depth ≤ Draft.nestingLimit →
    read place v.draft = fitted place v.depth x

theorem Reads.held {read : Place → Draft → Read α} {v : Json} {x : α}
    (reads : Reads .held read v x) :
    read heldPlace v.draft = .ok x :=
  (reads heldPlace rfl (Nat.zero_le _)).trans (fitted_complete Delivery.noConfusion)

theorem reads_of_held {read : Draft → Read α} {v : Json} {x : α} (same : read v.draft = .ok x) :
    Reads .held (fun _ => read) v x := by
  intro place delivered _
  rw [fitted_complete (by rw [delivered]; exact Delivery.noConfusion)]
  exact same

/-- Values without parts are read alike at any place. -/
theorem reads_flat {read : Place → Draft → Read α} {v : Json} {x : α} (flat : v.depth = 0)
    (same : ∀ place, place.delivery = delivery → read place v.draft = .ok x) :
    Reads delivery read v x := by
  intro place delivered _
  rw [flat, fitted_zero, same place delivered]

theorem reads_text (s : String) : Reads delivery (fun _ => text) (.string s) s :=
  reads_flat rfl fun _ _ => rfl

theorem reads_boolean (b : Bool) : Reads delivery (fun _ => boolean) (.bool b) b :=
  reads_flat rfl fun _ _ => rfl

theorem reads_option {read : Place → Draft → Read α} {write : α → Json} (x : Option α)
    (reads : ∀ y ∈ x, Reads delivery read (write y) y)
    (written : ∀ y ∈ x, (write y).draft.isNull = false) :
    Reads delivery (fun place => optional (read place)) (.ofOption write x) x := by
  intro place delivered bounded
  cases x with
  | none => exact (fitted_zero place none).symm
  | some y =>
    change (if (write y).draft.isNull then _ else (read place (write y).draft).map some) = _
    rw [written y rfl, reads y rfl place delivered bounded, if_neg Bool.false_ne_true, map_fitted]
    rfl

theorem items_drafts {read : Draft → Read α} {vs : List Json} {xs : List α}
    (all : List.Forall₂ (fun v x => read v.draft = fitted place v.depth x) vs xs) (index : Nat) :
    items read index (Json.drafts vs) = fitted place (Json.itemDepth vs) xs := by
  induction all generalizing index with
  | nil => exact (fitted_zero place []).symm
  | cons first _ ih =>
    rw [Json.drafts, items, first, within_fitted]
    refine fitted_bind ?_
    rw [ih]
    exact fitted_then rfl

theorem reads_list {read : Place → Draft → Read α} {vs : List Json} {xs : List α}
    (all : List.Forall₂ (Reads delivery read) vs xs) :
    Reads delivery (fun place => list place read) (.array vs) xs := by
  intro place delivered bounded
  refine enter_bind fun inner same shallower => ?_
  have each := all.imp fun v x reads =>
    reads inner (same.trans delivered) (Nat.le_trans shallower bounded)
  rw [items_drafts each]
  exact fitted_then rfl

theorem reads_list_map {read : Place → Draft → Read α} {write : α → Json} (xs : List α)
    (reads : ∀ x ∈ xs, Reads delivery read (write x) x) :
    Reads delivery (fun place => list place read) (.array (xs.map write)) xs :=
  reads_list (List.forall₂_map_left_iff.mpr (List.forall₂_same.mpr reads))

theorem entries_drafts {read : Draft → Read α} {es : List (String × Json)}
    {rows : List (String × α)}
    (all : List.Forall₂ (fun e row => e.1 = row.1 ∧ read e.2.draft = fitted place e.2.depth row.2)
      es rows) :
    entries read (Json.entryDrafts es) = fitted place (Json.entryDepth es) rows := by
  induction all with
  | nil => exact (fitted_zero place []).symm
  | @cons e row _ _ first _ ih =>
    obtain ⟨name, v⟩ := e
    obtain ⟨key, x⟩ := row
    obtain ⟨same, first⟩ := first
    dsimp only at same first
    subst same
    rw [Json.entryDrafts, entries, first, within_fitted]
    refine fitted_bind ?_
    rw [ih]
    exact fitted_then rfl

theorem reads_table {read : Place → Draft → Read α} {es : List (String × Json)}
    {rows : List (String × α)}
    (all : List.Forall₂ (fun e row => e.1 = row.1 ∧ Reads delivery read e.2 row.2) es rows) :
    Reads delivery (fun place => table place read) (.object es) rows := by
  intro place delivered bounded
  refine enter_bind fun inner same shallower => ?_
  have each := all.imp fun e row both =>
    And.imp_right (fun reads =>
      reads inner (same.trans delivered) (Nat.le_trans shallower bounded)) both
  rw [entries_drafts each]
  exact fitted_then rfl

theorem reads_table_map {read : Place → Draft → Read α} {write : α → Json}
    (rows : List (String × α)) (reads : ∀ row ∈ rows, Reads delivery read (write row.2) row.2) :
    Reads delivery (fun place => table place read)
      (.object (rows.map fun (name, x) => (name, write x))) rows :=
  reads_table (List.forall₂_map_left_iff.mpr
    (List.forall₂_same.mpr fun row member => ⟨rfl, reads row member⟩))

/-- How the fields of a record take these entries, one after the other. Fields that may be missing
may be passed over. -/
inductive Fills (delivery : Delivery) : List (Field ρ) → List (String × Json) → ρ → ρ → Prop
  | done {r} : Fills delivery [] [] r r
  | take {α : Type} {name required} {read : Place → Draft → Read α} {set v x fields entries r r'} :
      Reads delivery read v x → Fills delivery fields entries (set r x) r' →
      Fills delivery (.of name required read set :: fields) ((name, v) :: entries) r r'
  | skip {field fields entries r r'} : field.required = false →
      Fills delivery fields entries r r' → Fills delivery (field :: fields) entries r r'

theorem find?_name {fields : List (Field ρ)} (distinct : (fields.map Field.name).Nodup)
    {field : Field ρ} (member : field ∈ fields) :
    fields.find? (·.name = field.name) = some field := by
  induction fields with
  | nil => cases member
  | cons first rest ih =>
    rw [List.map_cons, List.nodup_cons] at distinct
    rcases List.mem_cons.mp member with rfl | later
    · simp
    · have other : first.name ≠ field.name := fun same =>
        distinct.1 (same ▸ List.mem_map_of_mem later)
      rw [List.find?_cons_of_neg (by simpa using other)]
      exact ih distinct.2 later

theorem namedFields_fills {all fields : List (Field ρ)} {entries : List (String × Json)}
    {blank r : ρ} (fills : Fills delivery fields entries blank r)
    (found : ∀ field ∈ fields, all.find? (·.name = field.name) = some field)
    (distinct : (fields.map Field.name).Nodup) (delivered : place.delivery = delivery)
    (bounded : place.depth ≤ Draft.nestingLimit) (seen : List String)
    (fresh : ∀ field ∈ fields, field.name ∉ seen) :
    ∃ names, namedFields all place seen blank (Json.entryDrafts entries) =
        fitted place (Json.entryDepth entries) (names, r) ∧
      (∀ name ∈ seen, name ∈ names) ∧
      ∀ field ∈ fields, field.required = true → field.name ∈ names := by
  induction fills generalizing seen with
  | done => exact ⟨seen, (fitted_zero place _).symm, fun _ known => known, by simp⟩
  | @take α name required read set v x fields entries r r' reads fills ih =>
    rw [List.map_cons, List.nodup_cons] at distinct
    have apart : ∀ field ∈ fields, field.name ≠ name := fun field later same =>
      distinct.1 (same ▸ List.mem_map_of_mem later : name ∈ fields.map Field.name)
    have asked : all.find? (·.name = name) = some (.of name required read set) :=
      found _ List.mem_cons_self
    have first : seen.contains name = false :=
      eq_false_of_ne_true fun known =>
        fresh _ List.mem_cons_self (List.contains_iff_mem.mp known)
    obtain ⟨names, rest, kept, taken⟩ := ih
      (fun field later => found field (List.mem_cons_of_mem _ later)) distinct.2 (name :: seen) (by
        intro field later known
        rcases List.mem_cons.mp known with same | known
        · exact apart field later same
        · exact fresh field (List.mem_cons_of_mem _ later) known)
    refine ⟨names, ?_, fun name known => kept name (List.mem_cons_of_mem _ known), ?_⟩
    · rw [Json.entryDrafts, namedFields, asked]
      change (if seen.contains name then _ else
        (within (.name name) ((read place v.draft).map (set r)) >>= _)) = _
      rw [first, if_neg Bool.false_ne_true, reads place delivered bounded, map_fitted,
        within_fitted]
      exact fitted_bind rest
    · intro field member needed
      rcases List.mem_cons.mp member with rfl | later
      · exact kept _ List.mem_cons_self
      · exact taken field later needed
  | skip optional fills ih =>
    rw [List.map_cons, List.nodup_cons] at distinct
    obtain ⟨names, read, kept, taken⟩ := ih
      (fun field later => found field (List.mem_cons_of_mem _ later)) distinct.2 seen
      (fun field later => fresh field (List.mem_cons_of_mem _ later))
    refine ⟨names, read, kept, fun field member needed => ?_⟩
    rcases List.mem_cons.mp member with rfl | later
    · rw [optional] at needed
      cases needed
    · exact taken field later needed

theorem reads_record (label : String) {fields : List (Field ρ)} {entries : List (String × Json)}
    {blank r : ρ} (distinct : (fields.map Field.name).Nodup)
    (fills : Fills delivery fields entries blank r) :
    Reads delivery (record label fields blank) (.object entries) r := by
  intro place delivered bounded
  refine enter_bind fun inner same shallower => ?_
  obtain ⟨names, read, -, taken⟩ := namedFields_fills fills
    (fun field member => find?_name distinct member) distinct (same.trans delivered)
    (Nat.le_trans shallower bounded) [] (by simp)
  rw [read]
  refine fitted_then ?_
  have none : (fields.find? fun field => field.required && !names.contains field.name) = none := by
    rw [List.find?_eq_none]
    intro field member missing
    rw [Bool.and_eq_true, Bool.not_eq_true'] at missing
    have present : names.contains field.name = true :=
      List.contains_iff_mem.mpr (taken field member missing.1)
    rw [present] at missing
    cases missing.2
  dsimp only
  rw [none]
  rfl

theorem canHold_draft (place : Place) (v : Json) :
    canHold place v.draft = true ↔ ¬ (place.delivery = .streamed ∧ place.depth < v.depth) := by
  rw [canHold, Json.value?_draft]
  by_cases fits : v.depth ≤ place.depth
  · simp [fits, Nat.not_lt.mpr fits]
  · simp [fits, Nat.lt_of_not_le fits]

theorem held_or_malformed (place : Place) (v : Json) {next : Read α} :
    (if canHold place v.draft then next else malformed) =
      (fitted place v.depth () >>= fun _ => next) := by
  by_cases deep : place.delivery = .streamed ∧ place.depth < v.depth
  · rw [fitted, if_pos deep, if_neg fun holds => (canHold_draft place v).mp holds deep]
    rfl
  · rw [fitted, if_neg deep, if_pos ((canHold_draft place v).mpr deep)]
    rfl

theorem taggedEntries_draft (tags : List (String × κ)) (found : Option κ)
    {entries : List (String × Json)} (plain : ∀ entry ∈ entries, entry.1 ≠ "kind") :
    taggedEntries tags place found (Json.entryDrafts entries) =
      fitted place (Json.entryDepth entries) (found, Json.entryDrafts entries) := by
  induction entries with
  | nil => exact (fitted_zero place _).symm
  | cons entry rest ih =>
    obtain ⟨name, v⟩ := entry
    rw [Json.entryDrafts, taggedEntries, if_neg (plain (name, v) List.mem_cons_self),
      held_or_malformed, ih fun entry later => plain entry (List.mem_cons_of_mem _ later)]
    exact fitted_bind (fitted_then rfl)

/-- An object that begins with its tag is taken apart into both. -/
theorem tagged_draft (label : String) {tags : List (String × κ)} {s : String} {k : κ}
    (known : tags.lookup s = some k) {entries : List (String × Json)}
    (plain : ∀ entry ∈ entries, entry.1 ≠ "kind") :
    tagged label tags place (Json.object (("kind", .string s) :: entries)).draft =
      fitted place (Json.entryDepth entries + 1) (k, (Json.object entries).draft) := by
  refine enter_bind fun inner _ _ => ?_
  have read : taggedEntries tags inner none
      (Json.entryDrafts (("kind", .string s) :: entries)) =
        fitted inner (Json.entryDepth entries) (some k, Json.entryDrafts entries) := by
    rw [← taggedEntries_draft tags (some k) plain, Json.entryDrafts, taggedEntries, if_pos rfl]
    have tagged : tag tags inner (Json.string s).draft = .ok k := by
      change tag tags inner (.string s) = _
      rw [tag, known]
    rw [tagged]
    rfl
  rw [read]
  exact fitted_then rfl

end Read

end RouteBindings
