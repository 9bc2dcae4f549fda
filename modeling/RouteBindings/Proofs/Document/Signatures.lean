import RouteBindings.Document.Signatures
import RouteBindings.Proofs.Document.TypeTree
import RouteBindings.Proofs.Table.Puts

namespace RouteBindings

namespace Read

variable {delivery : Delivery}

theorem reads_texts (items : List String) :
    Reads delivery (fun place => list place fun _ => text) (.ofStrings items) items :=
  reads_list_map items fun s _ => reads_text s

theorem reads_block (b : Block) : Reads delivery block b.toJson b :=
  reads_record _ (by decide : ["required"].Nodup) (.take (reads_boolean b.required) .done)

theorem reads_overload (o : Overload) : Reads .streamed overload o.toJson o :=
  reads_record _ (by decide : ["type_params", "block", "type"].Nodup)
    (.take (reads_texts o.typeParams)
      (.take (reads_option o.block (fun b _ => reads_block b) fun _ _ => rfl)
        (.take (reads_callable fun part _ => reads_type part) .done)))

theorem reads_method (m : Method) : Reads .streamed method m.toJson m :=
  reads_record _ (by decide : ["overloads"].Nodup)
    (.take (reads_list_map m.overloads fun o _ => reads_overload o) .done)

theorem reads_controller (c : Controller) : Reads .streamed controller c.toJson c := by
  have reads : Reads .streamed controller c.toJson
      ⟨c.name, c.actions, .ofRows c.methods.rows⟩ :=
    reads_record _ (by decide : ["name", "actions", "methods"].Nodup)
      (.take (reads_text c.name) (.take (reads_texts c.actions)
        (.take (reads_table_map c.methods.rows fun row _ => reads_method row.2) .done)))
  rwa [Table.ofRows_rows] at reads

theorem reads_vocabulary (v : Vocabulary) : Reads delivery vocabulary v.toJson v :=
  reads_record _ (by decide : ["types", "bases"].Nodup)
    (.take (reads_texts v.types) (.take (reads_texts v.bases) .done))

theorem reads_environment (env : Environment) : Reads .streamed environment env.toJson env :=
  reads_record _ (by decide : ["vocabulary", "controllers"].Nodup)
    (.take (reads_option env.vocabulary (fun v _ => reads_vocabulary v) fun _ _ => rfl)
      (.take (reads_list_map env.controllers fun c _ => reads_controller c) .done))

theorem document_text {α : Type} {read : Place → Draft → Read α} {v : Json} {x : α}
    (reads : Reads .streamed read v x) (back : ∀ n ∈ v.numerals, n.ReadsBack) (file : String) :
    document read file v.text =
      if v.depth ≤ Draft.nestingLimit then .ok x else .error (.load file .malformed) := by
  rw [document, Json.ofText_text v back, reads streamedRoot rfl (Nat.le_refl _), streamedRoot,
    fitted_streamed]
  by_cases fits : v.depth ≤ Draft.nestingLimit
  · rw [if_pos fits, if_pos fits]
  · rw [if_neg fits, if_neg fits]
    rfl

end Read

namespace Json

def HasWords (v : Json) : Prop :=
  ∀ n, .integer n ∈ v.numerals → ∃ w : Int64, w.toInt = n

theorem mem_numerals_array {n : Numeral} {items : List Json} :
    n ∈ (array items).numerals ↔ ∃ v ∈ items, n ∈ v.numerals := by
  rw [numerals]
  induction items with
  | nil => simp [itemNumerals]
  | cons item rest ih => simp [itemNumerals, ih]

theorem mem_numerals_object {n : Numeral} {entries : List (String × Json)} :
    n ∈ (object entries).numerals ↔ ∃ entry ∈ entries, n ∈ entry.2.numerals := by
  rw [numerals]
  induction entries with
  | nil => simp [entryNumerals]
  | cons entry rest ih => simp [entryNumerals, ih]

theorem hasWords_array {items : List Json} (each : ∀ v ∈ items, v.HasWords) :
    (array items).HasWords := by
  intro n member
  obtain ⟨v, given, inside⟩ := mem_numerals_array.mp member
  exact each v given n inside

theorem hasWords_object {entries : List (String × Json)}
    (each : ∀ entry ∈ entries, entry.2.HasWords) : (object entries).HasWords := by
  intro n member
  obtain ⟨entry, given, inside⟩ := mem_numerals_object.mp member
  exact each entry given n inside

theorem hasWords_nil : (object []).HasWords :=
  hasWords_object fun _ member => nomatch member

theorem hasWords_cons {name : String} {v : Json} {rest : List (String × Json)} (first : v.HasWords)
    (others : (object rest).HasWords) : (object ((name, v) :: rest)).HasWords := by
  intro n member
  rcases List.mem_append.mp member with inside | later
  · exact first n inside
  · exact others n later

theorem hasWords_string (s : String) : (string s).HasWords := by
  intro n member
  cases member

theorem hasWords_option {α : Type} {write : α → Json} {x : Option α}
    (each : ∀ y ∈ x, (write y).HasWords) : (ofOption write x).HasWords := by
  cases x with
  | none => intro n member; cases member
  | some y => exact each y rfl

theorem hasWords_strings (items : List String) : (ofStrings items).HasWords := by
  refine hasWords_array fun v member => ?_
  obtain ⟨s, -, rfl⟩ := List.mem_map.mp member
  exact hasWords_string s

end Json

open Json (hasWords_array hasWords_object hasWords_nil hasWords_cons hasWords_string
  hasWords_option hasWords_strings)

theorem LiteralType.hasWords (value : LiteralType) : value.toJson.HasWords := by
  intro n member
  cases value with
  | integer w =>
    have same : Numeral.integer n = .integer w.toInt := by
      simpa [LiteralType.toJson, Json.numerals, Json.entryNumerals] using member
    exact ⟨w, (Numeral.integer.inj same).symm⟩
  | _ => simp [LiteralType.toJson, Json.numerals, Json.entryNumerals] at member

theorem FieldKey.hasWords (key : FieldKey) : key.toJson.HasWords := by
  cases key <;> exact hasWords_cons (hasWords_string _) hasWords_nil

theorem Callable.hasWords_params {c : Callable TypeExpr}
    (each : ∀ part ∈ c.parts, part.toJson.HasWords) :
    (Json.array (c.params.map Param.toJson)).HasWords := by
  refine hasWords_array fun v member => ?_
  obtain ⟨p, given, rfl⟩ := List.mem_map.mp member
  have type : p.type.toJson.HasWords :=
    each _ (List.mem_append_left _ (List.mem_map_of_mem given))
  exact hasWords_cons (hasWords_option fun s _ => hasWords_string s)
    (hasWords_cons type (hasWords_cons (hasWords_string _) hasWords_nil))

theorem Callable.hasWords {c : Callable TypeExpr} (each : ∀ part ∈ c.parts, part.toJson.HasWords) :
    c.toJson.HasWords := by
  have returns : c.returns.toJson.HasWords :=
    each _ (List.mem_append_right _ (List.mem_singleton_self _))
  rw [Callable.toJson_eq]
  exact hasWords_cons (hasWords_params each) (hasWords_cons returns hasWords_nil)

namespace TypeExpr

theorem hasWords_all {types : List TypeExpr} (each : ∀ part ∈ types, part.toJson.HasWords) :
    (Json.array (types.map toJson)).HasWords := by
  refine hasWords_array fun v member => ?_
  obtain ⟨part, given, rfl⟩ := List.mem_map.mp member
  exact each part given

theorem hasWords_content {type : TypeExpr} (each : ∀ part ∈ type.parts, part.toJson.HasWords) :
    (Json.object type.content).HasWords := by
  cases type with
  | base _ | classSingleton _ | «variable» _ | typeAlias _ =>
    exact hasWords_cons (hasWords_string _) hasWords_nil
  | literal value => exact hasWords_cons value.hasWords hasWords_nil
  | tuple _ | union _ | intersection _ => exact hasWords_cons (hasWords_all each) hasWords_nil
  | record fields =>
    refine hasWords_cons (hasWords_array fun v member => ?_) hasWords_nil
    obtain ⟨f, given, rfl⟩ := List.mem_map.mp member
    exact hasWords_cons f.key.hasWords
      (hasWords_cons (each _ (List.mem_map_of_mem given)) hasWords_nil)
  | optional type => exact hasWords_cons (each type (List.mem_singleton_self type)) hasWords_nil
  | classInstance _ _ | interface _ _ =>
    exact hasWords_cons (hasWords_string _) (hasWords_cons (hasWords_all each) hasWords_nil)
  | function c =>
    have whole : c.toJson.HasWords := Callable.hasWords each
    rwa [Callable.toJson_eq] at whole
  | proc c => exact hasWords_cons (Callable.hasWords each) hasWords_nil

theorem hasWords (type : TypeExpr) : type.toJson.HasWords := by
  have each : ∀ part ∈ type.parts, part.toJson.HasWords := fun part _ => hasWords part
  rw [toJson_eq]
  exact hasWords_cons (hasWords_string _) (hasWords_content each)
termination_by type.toJson.depth
decreasing_by
  rename_i member
  have := depth_part member
  rw [toJson_eq type, Json.depth, Json.entryDepth]
  omega

end TypeExpr

theorem Overload.hasWords (o : Overload) : o.toJson.HasWords := by
  have block : (Json.ofOption Block.toJson o.block).HasWords :=
    hasWords_option fun b _ n member => nomatch member
  exact hasWords_cons (hasWords_strings _) (hasWords_cons block
    (hasWords_cons (Callable.hasWords fun part _ => part.hasWords) hasWords_nil))

theorem Method.hasWords (m : Method) : m.toJson.HasWords := by
  refine hasWords_cons (hasWords_array fun v member => ?_) hasWords_nil
  obtain ⟨o, -, rfl⟩ := List.mem_map.mp member
  exact o.hasWords

theorem Controller.hasWords (c : Controller) : c.toJson.HasWords := by
  have methods : (Json.object (c.methods.rows.map fun row => (row.1, row.2.toJson))).HasWords := by
    refine hasWords_object fun entry member => ?_
    obtain ⟨row, -, rfl⟩ := List.mem_map.mp member
    exact row.2.hasWords
  exact hasWords_cons (hasWords_string _)
    (hasWords_cons (hasWords_strings _) (hasWords_cons methods hasWords_nil))

theorem Vocabulary.hasWords (v : Vocabulary) : v.toJson.HasWords :=
  hasWords_cons (hasWords_strings _) (hasWords_cons (hasWords_strings _) hasWords_nil)

theorem Environment.hasWords (env : Environment) : env.toJson.HasWords := by
  refine hasWords_cons (hasWords_option fun v _ => v.hasWords)
    (hasWords_cons (hasWords_array fun v member => ?_) hasWords_nil)
  obtain ⟨c, -, rfl⟩ := List.mem_map.mp member
  exact c.hasWords

namespace Environment

/-- Every float among the literals is read back exactly from its text. -/
def FloatsReadBack (env : Environment) : Prop :=
  ∀ x, .double x ∈ env.toJson.numerals → Numeral.ReadsBack (.double x)

theorem numerals_readBack {env : Environment} (floats : env.FloatsReadBack) :
    ∀ n ∈ env.toJson.numerals, n.ReadsBack := by
  intro n member
  cases n with
  | integer i =>
    obtain ⟨w, rfl⟩ := env.hasWords i member
    exact Numeral.readsBack_integer w
  | double x => exact floats x member

theorem ofDocument_toJson {env : Environment} (floats : env.FloatsReadBack) (file : String) :
    ofDocument file env.toJson.text =
      if env.toJson.depth ≤ Draft.nestingLimit then .ok env else .error (.load file .malformed) :=
  Read.document_text (Read.reads_environment env) (numerals_readBack floats) file

end Environment

end RouteBindings
