import RouteBindings.Document.Routes
import RouteBindings.Proofs.Json.Text

/-! Values that are complete are never malformed. What a reader of a loaded value rejects is a part
that does not fit, and it says where that part is. -/

namespace RouteBindings

mutual
theorem Draft.ofJson_eq_draft : (v : Json) → Draft.ofJson v = v.draft
  | .null => rfl
  | .bool _ => rfl
  | .number _ => rfl
  | .string _ => rfl
  | .array items => by rw [ofJson, Json.draft, ofItems_eq_drafts items]
  | .object entries => by rw [ofJson, Json.draft, ofEntries_eq_entryDrafts entries]

theorem Draft.ofItems_eq_drafts : (items : List Json) → Draft.ofItems items = Json.drafts items
  | [] => rfl
  | item :: rest => by rw [ofItems, Json.drafts, ofJson_eq_draft item, ofItems_eq_drafts rest]

theorem Draft.ofEntries_eq_entryDrafts : (entries : List (String × Json)) →
    Draft.ofEntries entries = Json.entryDrafts entries
  | [] => rfl
  | (name, value) :: rest => by
    rw [ofEntries, Json.entryDrafts, ofJson_eq_draft value, ofEntries_eq_entryDrafts rest]
end

namespace Read

variable {α β ρ : Type} {place : Place}

def Settled (read : Read α) : Prop :=
  read ≠ malformed

theorem settled_ok (x : α) : Settled (.ok x : Read α) :=
  nofun

theorem settled_fail (cause : DecodeCause) : Settled (fail cause : Read α) :=
  nofun

theorem Settled.within {read : Read α} (settled : Settled read) (step : DocumentStep) :
    Settled (within step read) := by
  cases read with
  | ok x => exact settled_ok x
  | error fault =>
    cases fault with
    | malformed => exact absurd rfl settled
    | misfit path cause => nofun

theorem Settled.map {read : Read α} (settled : Settled read) (f : α → β) :
    Settled (read.map f) := by
  cases read with
  | ok x => exact settled_ok (f x)
  | error fault =>
    rintro same
    cases same
    exact settled rfl

theorem Settled.bind {read : Read α} {next : α → Read β} (settled : Settled read)
    (later : ∀ x, Settled (next x)) : Settled (read >>= next) := by
  cases read with
  | ok x => exact later x
  | error fault =>
    intro same
    cases same
    exact settled rfl

theorem settled_mismatch (wanted : Wanted) (v : Json) :
    Settled (mismatch wanted v.draft : Read α) := by
  cases v with
  | number n => cases n <;> nofun
  | _ => nofun

theorem settled_text (v : Json) : Settled (text v.draft) := by
  cases v with
  | string s => exact settled_ok s
  | number n => exact settled_mismatch .text (.number n)
  | _ => nofun

theorem settled_boolean (v : Json) : Settled (boolean v.draft) := by
  cases v with
  | bool b => exact settled_ok b
  | number n => exact settled_mismatch .boolean (.number n)
  | _ => nofun

theorem settled_optional {read : Draft → Read α} (settled : ∀ v : Json, Settled (read v.draft))
    (v : Json) : Settled (optional read v.draft) := by
  unfold optional
  split
  · exact settled_ok none
  · exact (settled v).map some

theorem settled_items {read : Draft → Read α} (settled : ∀ v : Json, Settled (read v.draft))
    (vs : List Json) (index : Nat) : Settled (items read index (Json.drafts vs)) := by
  induction vs generalizing index with
  | nil => exact settled_ok []
  | cons v rest ih =>
    exact ((settled v).within _).bind fun x => (ih (index + 1)).bind fun xs => settled_ok (x :: xs)

/-- What is wrong with a list is wrong with one of its items. -/
theorem items_error {read : Draft → Read α} (settled : ∀ v : Json, Settled (read v.draft))
    {vs : List Json} {index : Nat} {fault : DocumentFault}
    (failed : items read index (Json.drafts vs) = .error fault) :
    ∃ n path cause, fault = .misfit (.index n :: path) cause := by
  induction vs generalizing index with
  | nil => cases failed
  | cons v rest ih =>
    rw [Json.drafts, items] at failed
    cases first : read v.draft with
    | ok x =>
      rw [first] at failed
      cases others : items read (index + 1) (Json.drafts rest) with
      | ok xs =>
        simp only [Read.within, others] at failed
        cases failed
      | error other =>
        simp only [Read.within, others] at failed
        cases failed
        exact ih others
    | error other =>
      rw [first] at failed
      cases other with
      | malformed => exact absurd first (settled v)
      | misfit path cause =>
        cases failed
        exact ⟨index, path, cause, rfl⟩

/-- To enter a value that is complete takes nothing. -/
theorem enter_loaded (loaded : place.delivery = .loaded) : enter place = .ok place := by
  obtain ⟨delivery, depth⟩ := place
  cases loaded
  rfl

theorem settled_list (loaded : place.delivery = .loaded) {read : Place → Draft → Read α}
    (settled : ∀ v : Json, Settled (read place v.draft)) (v : Json) :
    Settled (list place read v.draft) := by
  cases v with
  | array vs =>
    rw [Json.draft, list, enter_loaded loaded]
    exact (settled_items settled vs 0).bind fun xs => settled_ok xs
  | number n => exact settled_mismatch .sequence (.number n)
  | _ => nofun

theorem list_error (loaded : place.delivery = .loaded) {read : Place → Draft → Read α}
    (settled : ∀ v : Json, Settled (read place v.draft)) {vs : List Json} {fault : DocumentFault}
    (failed : list place read (Json.array vs).draft = .error fault) :
    ∃ n path cause, fault = .misfit (.index n :: path) cause := by
  rw [Json.draft, list, enter_loaded loaded] at failed
  cases inside : items (read place) 0 (Json.drafts vs) with
  | ok xs =>
    simp only [bind, Except.bind, inside] at failed
    cases failed
  | error other =>
    simp only [bind, Except.bind, inside] at failed
    cases failed
    exact items_error settled inside

section

variable {fields : List (Field ρ)}

theorem settled_namedFields (loaded : place.delivery = .loaded)
    (settled : ∀ field ∈ fields, ∀ (v : Json) (r : ρ), Settled (field.read place v.draft r))
    (entries : List (String × Json)) (seen : List String) (r : ρ) :
    Settled (namedFields fields place seen r (Json.entryDrafts entries)) := by
  induction entries generalizing seen r with
  | nil => exact settled_ok (seen, r)
  | cons entry rest ih =>
    obtain ⟨name, v⟩ := entry
    rw [Json.entryDrafts, namedFields]
    split
    · rw [if_pos (by simp [passOver, loaded])]
      exact ih seen r
    · rename_i field found
      split
      · exact settled_fail _
      · have member := List.mem_of_find?_eq_some found
        exact ((settled field member v r).within _).bind fun r => ih (name :: seen) r

theorem settled_placedFields (loaded : place.delivery = .loaded) (label : String)
    (all : List (Field ρ)) (size : Nat)
    (settled : ∀ field ∈ fields, ∀ (v : Json) (r : ρ), Settled (field.read place v.draft r))
    (index : Nat) (r : ρ) (vs : List Json) :
    Settled (placedFields label all place size true fields index r (Json.drafts vs)) := by
  induction fields generalizing index r vs with
  | nil =>
    rw [placedFields, loaded]
    dsimp only
    split
    · exact settled_ok r
    · exact settled_fail _
  | cons field fields ih =>
    cases vs with
    | nil =>
      rw [Json.drafts, placedFields, if_pos rfl]
      split
      · exact settled_ok r
      · exact settled_fail _
      · nofun
    | cons v rest =>
      have first := settled field List.mem_cons_self v r
      exact (first.within _).bind fun r =>
        ih (fun field later => settled field (List.mem_cons_of_mem _ later)) (index + 1) r rest

theorem settled_record (loaded : place.delivery = .loaded) (label : String) (blank : ρ)
    (settled : ∀ field ∈ fields, ∀ (v : Json) (r : ρ), Settled (field.read place v.draft r))
    (v : Json) : Settled (record label fields blank place v.draft) := by
  cases v with
  | array vs =>
    rw [Json.draft, record, enter_loaded loaded]
    exact settled_placedFields loaded label fields _ settled 0 blank vs
  | object entries =>
    rw [Json.draft, record, enter_loaded loaded]
    refine (settled_namedFields loaded settled entries [] blank).bind fun (seen, r) => ?_
    dsimp only
    rw [if_pos rfl]
    split
    · exact settled_fail _
    · exact settled_ok r
  | number n => exact settled_mismatch (.record label) (.number n)
  | _ => nofun

end

theorem settled_of {name : String} {required : Bool} {read : Place → Draft → Read α}
    {set : ρ → α → ρ} (settled : ∀ v : Json, Settled (read place v.draft)) (v : Json) (r : ρ) :
    Settled ((Field.of name required read set).read place v.draft r) :=
  (settled v).map (set r)

theorem settled_requirements (loaded : place.delivery = .loaded) (v : Json) :
    Settled (requirements place v.draft) := by
  refine settled_record loaded _ _ ?_ v
  simp only [List.forall_mem_cons]
  exact ⟨settled_of (settled_optional settled_text),
    settled_of (settled_optional settled_text), by simp⟩

theorem settled_routePattern (d : Draft) : Settled (routePattern d) := by
  unfold routePattern
  split
  · split
    · exact settled_ok _
    · exact settled_fail _
  · split
    · exact settled_ok _
    · exact settled_fail _

theorem settled_route (loaded : place.delivery = .loaded) (v : Json) :
    Settled (route place v.draft) := by
  refine settled_record loaded _ _ ?_ v
  simp only [List.forall_mem_cons]
  exact ⟨settled_of settled_text, settled_of (settled_optional settled_text),
    settled_of (settled_list loaded settled_text), settled_of (settled_requirements loaded),
    settled_of settled_boolean, settled_of settled_boolean,
    settled_of fun v => settled_routePattern v.draft, by simp⟩

end Read

end RouteBindings
