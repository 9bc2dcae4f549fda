import RouteBindings.Proofs.Document.PatternTree
import RouteBindings.Proofs.Json.Context

namespace RouteBindings

namespace Draft

/-- The text holds this value and nothing else, and the value nests no deeper than this. -/
def Holds (text : String) (depth : Nat) (value : Json) : Prop :=
  ∃ d rest, scan text = (d, some rest) ∧ skipBlanks rest = [] ∧ d.value? depth = some value

theorem skipBlanks_of_blank {cs : List Char} (blank : skipBlanks cs = []) (rest : List Char) :
    skipBlanks (cs ++ rest) = skipBlanks rest := by
  unfold skipBlanks at blank ⊢
  rw [List.dropWhile_append, blank]
  rfl

end Draft

def wrapped (text : String) : String :=
  "\x7b" ++ Text.quote "routes" ++ ":" ++ text ++ "\x7d"

theorem toList_wrapped (text : String) :
    (wrapped text).toList =
      '\x7b' :: (Text.quotedChars "routes".toList ++ ':' :: (text.toList ++ ['\x7d'])) := by
  simp [wrapped, Text.quote]

namespace Draft

/-- A value that fits some depth fits more. -/
theorem value?_mono {d : Draft} {n m : Nat} {v : Json} (deeper : n ≤ m)
    (complete : d.value? n = some v) : d.value? m = some v := by
  cases eq_draft_of_value? d complete
  rw [Json.value?_draft] at complete ⊢
  split at complete
  · rename_i fits
    rw [if_pos (Nat.le_trans fits deeper)]
  · cases complete

theorem holds_text {v : Json} {depth : Nat} (back : ∀ n ∈ v.numerals, n.ReadsBack)
    (fits : v.depth ≤ depth) : Holds v.text depth v := by
  refine ⟨v.draft, [], Json.scan_text v back, rfl, ?_⟩
  rw [Json.value?_draft, if_pos fits]

theorem Holds.mono {text : String} {n m : Nat} {v : Json} (holds : Holds text n v)
    (deeper : n ≤ m) : Holds text m v := by
  obtain ⟨d, rest, read, blank, complete⟩ := holds
  exact ⟨d, rest, read, blank, value?_mono deeper complete⟩

theorem holds_wrapped {text : String} {depth : Nat} {v : Json} (holds : Holds text depth v) :
    Holds (wrapped text) (depth + 1) (.object [("routes", v)]) := by
  obtain ⟨d, rest, read, blank, complete⟩ := holds
  refine ⟨.object [(some "routes", d)] true, [], ?_, rfl, ?_⟩
  · have longer : 2 * text.length + 2 ≤ 2 * (wrapped text).length := by
      rw [← String.length_toList (s := wrapped text), toList_wrapped]
      simp only [List.length_cons, List.length_append, String.length_toList]
      omega
    have ends : EndsNumber ['\x7d'] := endsNumber_mark (.inr (.inr rfl)) []
    have inside := scanValue_append ends _ _ longer read
    have entry := scanEntries_entry (2 * (wrapped text).length) "routes" inside
    rw [skipBlanks_of_blank blank] at entry
    obtain ⟨tail, quoted⟩ : ∃ tail, Text.quotedChars "routes".toList ++
        ':' :: (text.toList ++ ['\x7d']) = '"' :: tail := ⟨_, rfl⟩
    rw [scan, toList_wrapped, scanValue_entries _ quoted, entry]
    rfl
  · simp only [value?, entryValues?, complete, Option.map_some]

end Draft

namespace Read

/-- A record of one field that is there is what the field reads. -/
theorem record_lone {ρ : Type} (place : Place) (loaded : place.delivery = .loaded) (label : String)
    (field : Field ρ) (blank : ρ) (v : Json) :
    record label [field] blank place (Json.object [(field.name, v)]).draft =
      within (.name field.name) (field.read place v.draft blank) := by
  have named : namedFields [field] place [] blank (Json.entryDrafts [(field.name, v)]) =
      (within (.name field.name) (field.read place v.draft blank)).map ([field.name], ·) := by
    simp only [Json.entryDrafts, namedFields, List.find?_cons, decide_true, List.contains_nil]
    cases within (.name field.name) (field.read place v.draft blank) <;> rfl
  rw [Json.draft, record, enter_loaded loaded]
  simp only [bind, Except.bind, named]
  cases within (.name field.name) (field.read place v.draft blank) with
  | error fault => rfl
  | ok r => simp [Except.map, pure, Except.pure]

theorem routes_wrapped (v : Json) :
    routes (Json.object [("routes", v)]).draft =
      within (.name "routes") (list loadedRoot route v.draft) := by
  have inside := record_lone loadedRoot rfl "struct RouteTable"
    (.of "routes" false (fun place => list place route) fun _ routes => routes) [] v
  have kept : (list loadedRoot route v.draft).map (fun routes => routes) =
      list loadedRoot route v.draft := congrFun Except.map_id _
  exact inside.trans (congrArg (within (.name "routes")) kept)

section

variable {ρ : Type} {fields : List (Field ρ)} {place : Place} {a b : Draft}

/-- Only the field of that name sees the value. -/
theorem namedFields_exchanged (complete : place.delivery ≠ .streamed) {name : String}
    (same : ∀ field ∈ fields.find? (·.name = name), field.read place a = field.read place b)
    (before after : List (Option String × Draft)) (seen : List String) (r : ρ) :
    namedFields fields place seen r (before ++ (some name, a) :: after) =
      namedFields fields place seen r (before ++ (some name, b) :: after) := by
  induction before generalizing seen r with
  | nil =>
    rw [List.nil_append, List.nil_append, namedFields, namedFields]
    split
    · simp [passOver, complete]
    · rename_i field found
      rw [same field found]
  | cons entry rest ih =>
    obtain ⟨key, d⟩ := entry
    cases key with
    | none => rfl
    | some key => simp only [List.cons_append, namedFields, ih]

/-- Only the field at that place sees the value. -/
theorem placedFields_exchanged {label : String} {all : List (Field ρ)} {size : Nat} {closed : Bool}
    {field : Field ρ} (same : field.read place a = field.read place b) (front back : List (Field ρ))
    (before after : List Draft) (aligned : before.length = front.length) (index : Nat) (r : ρ) :
    placedFields label all place size closed (front ++ field :: back) index r
        (before ++ a :: after) =
      placedFields label all place size closed (front ++ field :: back) index r
        (before ++ b :: after) := by
  induction front generalizing before index r with
  | nil =>
    rw [List.eq_nil_of_length_eq_zero aligned]
    simp only [List.nil_append, placedFields, same]
  | cons first front ih =>
    cases before with
    | nil => cases aligned
    | cons d before =>
      have later := ih before (Nat.succ.inj aligned)
      simp only [List.cons_append, placedFields, later]

end

theorem entryDrafts_eq_map (entries : List (String × Json)) :
    Json.entryDrafts entries = entries.map fun (name, v) => (some name, v.draft) := by
  induction entries with
  | nil => rfl
  | cons entry rest ih => rw [Json.entryDrafts, ih, List.map_cons]

theorem drafts_eq_map (items : List Json) : Json.drafts items = items.map Json.draft := by
  induction items with
  | nil => rfl
  | cons v rest ih => rw [Json.drafts, ih, List.map_cons]

section

variable {ρ : Type} {fields : List (Field ρ)} {place : Place} {label : String} {blank : ρ}
  {v w : Json}

theorem record_named_exchanged (loaded : place.delivery = .loaded) {name : String}
    (same : ∀ field ∈ fields.find? (·.name = name),
      field.read place v.draft = field.read place w.draft) (before after : List (String × Json)) :
    record label fields blank place (Json.object (before ++ (name, v) :: after)).draft =
      record label fields blank place (Json.object (before ++ (name, w) :: after)).draft := by
  have complete : place.delivery ≠ .streamed := by
    rw [loaded]
    nofun
  simp only [Json.draft, entryDrafts_eq_map, List.map_append, List.map_cons, record,
    enter_loaded loaded, namedFields_exchanged complete same, bind, Except.bind]

theorem record_placed_exchanged (loaded : place.delivery = .loaded) {field : Field ρ}
    {front back : List (Field ρ)} (split : fields = front ++ field :: back)
    (same : field.read place v.draft = field.read place w.draft) (before after : List Json)
    (aligned : before.length = front.length) :
    record label fields blank place (Json.array (before ++ v :: after)).draft =
      record label fields blank place (Json.array (before ++ w :: after)).draft := by
  have aligned : (before.map Json.draft).length = front.length := by rwa [List.length_map]
  subst split
  simp only [Json.draft, drafts_eq_map, List.map_append, List.map_cons, record,
    enter_loaded loaded, List.length_append, List.length_cons,
    placedFields_exchanged same front back _ _ aligned, bind, Except.bind]

end

section

variable {v w : Json} (same : routePattern v.draft = routePattern w.draft)

include same

theorem route_named_exchanged (before after : List (String × Json)) :
    route loadedRoot (Json.object (before ++ ("spec", v) :: after)).draft =
      route loadedRoot (Json.object (before ++ ("spec", w) :: after)).draft := by
  apply record_named_exchanged rfl
  rintro field ⟨⟩
  funext r
  simp only [Field.of, same]

theorem route_placed_exchanged (before after : List Json) (aligned : before.length = 6) :
    route loadedRoot (Json.array (before ++ v :: after)).draft =
      route loadedRoot (Json.array (before ++ w :: after)).draft := by
  have split {x₁ x₂ x₃ x₄ x₅ x₆ x₇ : Field Route} :
      [x₁, x₂, x₃, x₄, x₅, x₆, x₇] = [x₁, x₂, x₃, x₄, x₅, x₆] ++ x₇ :: [] := rfl
  refine record_placed_exchanged rfl split ?_ before after aligned
  funext r
  simp only [Field.of, same]

end

end Read

def DocumentStep.behind : DocumentStep → String
  | name s => "." ++ s
  | index n => "[" ++ toString n ++ "]"

theorem foldl_behind {write : String → DocumentStep → String}
    (written : ∀ path step, write path step = path ++ step.behind) (steps : List DocumentStep)
    (path : String) :
    steps.foldl write path = path ++ String.join (steps.map DocumentStep.behind) := by
  induction steps generalizing path with
  | nil => simp
  | cons step rest ih =>
    rw [List.foldl_cons, written, ih, List.map_cons, String.join_cons, String.append_assoc]

theorem documentPath_cons (first : DocumentStep) (rest : List DocumentStep) :
    documentPath (first :: rest) =
      documentPath [first] ++ String.join (rest.map DocumentStep.behind) := by
  refine foldl_behind (fun path step => ?_) rest _
  cases step <;> simp only [DocumentStep.behind, String.append_assoc]

/-- An index is written straight behind the name of the list. -/
theorem documentPath_name_index (name : String) (n : Nat) (path : List DocumentStep) :
    documentPath (.name name :: .index n :: path) = name ++ documentPath (.index n :: path) := by
  rw [documentPath_cons, documentPath_cons (.index n), List.map_cons, String.join_cons]
  rfl

namespace Route

open Draft (Holds)

theorem readAll_of_holds {text : String} {v : Json} (holds : Holds text Draft.nestingLimit v) :
    readAll text = Read.routes v.unique.draft := by
  obtain ⟨d, rest, read, -, complete⟩ := holds
  have first : Draft.ofText text = d := congrArg Prod.fst read
  rw [readAll, first, complete]
  exact congrArg Read.routes (Draft.ofJson_eq_draft _)

/-- Both documents have the same routes, or the same fault, which the second finds in a field. -/
def LoadAlike (file list table : String) : Prop :=
  (∃ routes, ofDocument file list = .ok routes ∧ ofDocument file table = .ok routes) ∨
    ∃ n path cause,
      ofDocument file list = .error (.load file (.misfit (.index n :: path) cause)) ∧
      ofDocument file table =
        .error (.load file (.misfit (.name "routes" :: .index n :: path) cause)) ∧
      documentPath (.name "routes" :: .index n :: path) =
        "routes" ++ documentPath (.index n :: path)

theorem loadAlike {list table : String} {items : List Json} (file : String)
    (holds : Holds list Draft.nestingLimit (.array items))
    (framed : Holds table Draft.nestingLimit (.object [("routes", .array items)])) :
    LoadAlike file list table := by
  have alone := readAll_of_holds holds
  have inside : readAll table = Read.within (.name "routes") (readAll list) := by
    rw [readAll_of_holds framed, alone]
    exact Read.routes_wrapped _
  unfold LoadAlike ofDocument
  rw [inside]
  cases read : readAll list with
  | ok routes => exact .inl ⟨routes, rfl, rfl⟩
  | error fault =>
    rw [alone] at read
    obtain ⟨n, path, cause, rfl⟩ := Read.list_error rfl (Read.settled_route rfl) read
    exact .inr ⟨n, path, cause, rfl, rfl, documentPath_name_index _ _ _⟩

/-- A list of routes reads alike alone and in its field, and in a route a pattern reads like its
text. -/
theorem documents_alike :
    (∀ file list items, Holds list (Draft.nestingLimit - 1) (.array items) →
      Holds (wrapped list) Draft.nestingLimit (.object [("routes", .array items)]) ∧
        ∀ table, Holds table Draft.nestingLimit (.object [("routes", .array items)]) →
          LoadAlike file list table) ∧
    ∀ text pattern, Pattern.parse text = .ok pattern →
      Read.routePattern (Draft.ofJson (.string text)) = .ok pattern ∧
      Read.routePattern (Draft.ofJson pattern.toJson) = .ok pattern ∧
      (∀ before after, Read.route Read.loadedRoot
          (Draft.ofJson (.object (before ++ ("spec", .string text) :: after))) =
        Read.route Read.loadedRoot
          (Draft.ofJson (.object (before ++ ("spec", pattern.toJson) :: after)))) ∧
      ∀ before after, before.length = 6 → Read.route Read.loadedRoot
          (Draft.ofJson (.array (before ++ .string text :: after))) =
        Read.route Read.loadedRoot
          (Draft.ofJson (.array (before ++ pattern.toJson :: after))) := by
  constructor
  · intro file list items holds
    have deep : Draft.nestingLimit - 1 ≤ Draft.nestingLimit := Nat.sub_le _ _
    refine ⟨Draft.holds_wrapped holds, fun table framed => ?_⟩
    exact loadAlike file (holds.mono deep) framed
  · intro text pattern parsed
    have written : Read.routePattern (Json.string text).draft = .ok pattern := by
      rw [Json.draft, Read.routePattern, parsed]
    have held := Read.routePattern_toJson pattern
    have same := written.trans held.symm
    simp only [Draft.ofJson_eq_draft]
    exact ⟨written, held, Read.route_named_exchanged same, Read.route_placed_exchanged same⟩

def misfitPath? : Except Error (List Route) → Option (List DocumentStep)
  | .error (.load _ (.misfit path _)) => some path
  | _ => none

/-- A pattern without the name of its segment. Both documents fail for it, the second at the path of
the first behind its field. -/
theorem documents_alike_bad_pattern :
    Holds "[\x7b\"spec\":\"/:\"\x7d]" (Draft.nestingLimit - 1)
        (.array [.object [("spec", .string "/:")]]) ∧
      (∃ cause, ofDocument "routes.json" "[\x7b\"spec\":\"/:\"\x7d]" =
          .error (.load "routes.json" (.misfit [.index 0, .name "spec"] cause)) ∧
        ofDocument "routes.json" (wrapped "[\x7b\"spec\":\"/:\"\x7d]") =
          .error (.load "routes.json"
            (.misfit [.name "routes", .index 0, .name "spec"] cause))) ∧
      documentPath [.index 0, .name "spec"] = "[0].spec" ∧
      documentPath [.name "routes", .index 0, .name "spec"] = "routes[0].spec" ∧
      Pattern.parse "/:a" = .ok (.concat (.literal "/") (.symbol "a" false)) ∧
      Read.route Read.loadedRoot
          (Draft.ofJson (.object ([("verb", .string "GET")] ++ ("spec", .string "/:a") :: []))) =
        Read.route Read.loadedRoot (Draft.ofJson (.object ([("verb", .string "GET")] ++
          ("spec", (Pattern.concat (.literal "/") (.symbol "a" false)).toJson) :: []))) := by
  let v : Json := .array [.object [("spec", .string "/:")]]
  have shown : v.text = "[\x7b\"spec\":\"/:\"\x7d]" := by decide +kernel
  have holds : Holds v.text (Draft.nestingLimit - 1) v := Draft.holds_text nofun (by decide)
  rw [shown] at holds
  have place : misfitPath? (ofDocument "routes.json" "[\x7b\"spec\":\"/:\"\x7d]") =
      some [.index 0, .name "spec"] := by decide +kernel
  have parsed : Pattern.parse "/:a" = .ok (.concat (.literal "/") (.symbol "a" false)) := by
    decide +kernel
  obtain ⟨framed, alike⟩ := documents_alike.1 "routes.json" _ _ holds
  obtain ⟨-, -, named, -⟩ := documents_alike.2 _ _ parsed
  refine ⟨holds, ?_, by decide +kernel, by decide +kernel, parsed, named _ _⟩
  rcases alike _ framed with ⟨routes, read, -⟩ | ⟨n, path, cause, alone, inside, -⟩
  · rw [read] at place
    cases place
  · rw [alone] at place
    cases place
    exact ⟨cause, alone, inside⟩

end Route

end RouteBindings
