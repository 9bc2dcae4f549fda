import RouteBindings.Proofs.Document.Reading

namespace RouteBindings

def Param.toJson (p : Param TypeExpr) : Json :=
  .object [("name", .ofOption .string p.name), ("type", p.type.toJson),
    ("kind", .string p.kind.name)]

def RecordField.toJson (f : RecordField TypeExpr) : Json :=
  .object [("key", f.key.toJson), ("type", f.type.toJson)]

namespace TypeExpr

theorem toJsonAll_eq (types : List TypeExpr) : toJsonAll types = types.map toJson := by
  induction types with
  | nil => rfl
  | cons type rest ih => rw [toJsonAll, ih, List.map_cons]

theorem fieldsToJson_eq (fields : List (RecordField TypeExpr)) :
    fieldsToJson fields = fields.map RecordField.toJson := by
  induction fields with
  | nil => rfl
  | cons field rest ih => rw [fieldsToJson, ih, List.map_cons, RecordField.toJson]

theorem paramsToJson_eq (params : List (Param TypeExpr)) :
    paramsToJson params = params.map Param.toJson := by
  induction params with
  | nil => rfl
  | cons param rest ih => rw [paramsToJson, ih, List.map_cons, Param.toJson]

def content : TypeExpr → List (String × Json)
  | base name => [("name", .string name.name)]
  | literal value => [("literal", value.toJson)]
  | tuple types | union types | intersection types => [("types", .array (types.map toJson))]
  | record fields => [("fields", .array (fields.map RecordField.toJson))]
  | optional type => [("type", type.toJson)]
  | classInstance name args | interface name args =>
    [("name", .string name), ("args", .array (args.map toJson))]
  | function c => [("params", .array (c.params.map Param.toJson)), ("returns", c.returns.toJson)]
  | classSingleton name | .variable name | typeAlias name => [("name", .string name)]
  | proc c => [("type", c.toJson)]

theorem toJson_eq (type : TypeExpr) :
    type.toJson = .object (("kind", .string type.kind.name) :: type.content) := by
  cases type with
  | tuple types => rw [toJson, toJsonAll_eq]; rfl
  | union types => rw [toJson, toJsonAll_eq]; rfl
  | intersection types => rw [toJson, toJsonAll_eq]; rfl
  | classInstance name args => rw [toJson, toJsonAll_eq]; rfl
  | interface name args => rw [toJson, toJsonAll_eq]; rfl
  | record fields => rw [toJson, fieldsToJson_eq]; rfl
  | function c => rw [toJson, paramsToJson_eq]; rfl
  | proc c => rw [toJson]; rfl
  | _ => rfl

end TypeExpr

theorem Callable.toJson_eq (c : Callable TypeExpr) :
    c.toJson = .object [("params", .array (c.params.map Param.toJson)),
      ("returns", c.returns.toJson)] := by
  rw [Callable.toJson, TypeExpr.paramsToJson_eq]

def Callable.parts (c : Callable TypeExpr) : List TypeExpr :=
  c.params.map Param.type ++ [c.returns]

theorem Callable.depth_part {c : Callable TypeExpr} {part : TypeExpr} (member : part ∈ c.parts) :
    part.toJson.depth ≤
      max (Json.itemDepth (c.params.map Param.toJson)) c.returns.toJson.depth := by
  rcases List.mem_append.mp member with inside | last
  · obtain ⟨p, given, rfl⟩ := List.mem_map.mp inside
    have deeper : p.type.toJson.depth < p.toJson.depth := by
      simp only [Param.toJson, Json.depth, Json.entryDepth]
      omega
    have := Json.depth_le_itemDepth (List.mem_map_of_mem (f := Param.toJson) given)
    omega
  · rw [List.mem_singleton.mp last]
    exact Nat.le_max_right _ _

namespace TypeExpr

def parts : TypeExpr → List TypeExpr
  | tuple types | union types | intersection types => types
  | classInstance _ args | interface _ args => args
  | record fields => fields.map RecordField.type
  | optional type => [type]
  | function c | proc c => c.parts
  | _ => []

theorem content_plain (type : TypeExpr) : ∀ entry ∈ type.content, entry.1 ≠ "kind" := by
  cases type <;> simp [content]

theorem depth_part {type part : TypeExpr} (member : part ∈ type.parts) :
    part.toJson.depth ≤ Json.entryDepth type.content := by
  have listed : ∀ types : List TypeExpr, part ∈ types →
      part.toJson.depth ≤ Json.itemDepth (types.map toJson) := fun _ inside =>
    Json.depth_le_itemDepth (List.mem_map_of_mem inside)
  cases type with
  | tuple types | union types | intersection types | classInstance _ types | interface _ types =>
    have := listed types member
    simp only [content, Json.entryDepth, Json.depth]
    omega
  | record fields =>
    obtain ⟨f, given, rfl⟩ := List.mem_map.mp member
    have deeper : f.type.toJson.depth < f.toJson.depth := by
      simp only [RecordField.toJson, Json.depth, Json.entryDepth]
      omega
    have := Json.depth_le_itemDepth (List.mem_map_of_mem (f := RecordField.toJson) given)
    simp only [content, Json.entryDepth, Json.depth]
    omega
  | optional type =>
    rw [List.mem_singleton.mp member]
    exact Nat.le_max_left _ _
  | function c =>
    have := Callable.depth_part member
    simp only [content, Json.entryDepth, Json.depth]
    omega
  | proc c =>
    have := Callable.depth_part member
    simp only [content, Json.entryDepth, Callable.toJson_eq, Json.depth]
    omega
  | _ => cases member

end TypeExpr

namespace Read

variable {delivery : Delivery}

theorem literal_toJson (value : LiteralType) : literal value.toJson.draft = .ok value := by
  cases value with
  | integer n =>
    change ((if Int64.minValue.toInt ≤ n.toInt ∧ n.toInt ≤ Int64.maxValue.toInt then
      Except.ok (Int64.ofInt n.toInt) else _).map LiteralType.integer >>= _) = _
    rw [if_pos ⟨n.minValue_le_toInt, n.toInt_le⟩, Int64.ofInt_toInt]
    rfl
  | _ => rfl

theorem fieldKey_toJson (key : FieldKey) : fieldKey key.toJson.draft = .ok key := by
  cases key <;> rfl

theorem paramKind_name (kind : ParamKind) : Reads delivery paramKind (.string kind.name) kind := by
  refine reads_flat rfl fun place _ => ?_
  obtain ⟨delivery, depth⟩ := place
  cases delivery <;> cases kind <;> rfl

theorem reads_param {type : Place → Draft → Read TypeExpr} {p : Param TypeExpr}
    (reads : Reads delivery type p.type.toJson p.type) : Reads delivery (param type) p.toJson p :=
  reads_record _ (by decide : ["name", "type", "kind"].Nodup)
    (.take (reads_option p.name (fun s _ => reads_text s) fun _ _ => rfl)
      (.take reads (.take (paramKind_name p.kind) .done)))

theorem reads_callable {type : Place → Draft → Read TypeExpr} {c : Callable TypeExpr}
    (reads : ∀ part ∈ c.parts, Reads delivery type part.toJson part) :
    Reads delivery (callable type) c.toJson c := by
  rw [Callable.toJson_eq]
  refine reads_record _ (by decide : ["params", "returns"].Nodup)
    (.take (reads_list_map c.params fun p member => reads_param (reads _ ?_))
      (.take (reads _ ?_) .done))
  · exact List.mem_append_left _ (List.mem_map_of_mem member)
  · exact List.mem_append_right _ (List.mem_singleton_self _)

theorem record_held {ρ : Type} (label : String) {fields : List (Field ρ)}
    {entries : List (String × Json)} {blank r : ρ} (fills : Fills .held fields entries blank r)
    (distinct : (fields.map Field.name).Nodup) :
    record label fields blank heldPlace (Json.object entries).draft = .ok r :=
  (reads_record label distinct fills).held

theorem recordField_toJson {read : Draft → Read TypeExpr} {f : RecordField TypeExpr}
    (same : read f.type.toJson.draft = .ok f.type) : recordField read f.toJson.draft = .ok f :=
  record_held _ (.take (reads_of_held (fieldKey_toJson f.key)) (.take (reads_of_held same) .done))
    (by decide : ["key", "type"].Nodup)

theorem plainChoice_base (base : BaseType) :
    Reads .held (plainChoice baseTags) (.string base.name) base :=
  reads_flat rfl fun place delivered => by cases base <;> rfl

theorem reads_types {read : Draft → Read TypeExpr} (types : List TypeExpr)
    (same : ∀ part ∈ types, read part.toJson.draft = .ok part) :
    Reads .held (fun place => list place fun _ => read) (.array (types.map TypeExpr.toJson))
      types :=
  reads_list_map types fun part member => reads_of_held (same part member)

theorem members_held (label : String) {read : Draft → Read TypeExpr} (types : List TypeExpr)
    (same : ∀ part ∈ types, read part.toJson.draft = .ok part) :
    members label read (Json.object [("types", .array (types.map TypeExpr.toJson))]).draft =
      .ok types :=
  record_held _ (.take (reads_types types same) .done) (by decide : ["types"].Nodup)

theorem applied_held (label name : String) {read : Draft → Read TypeExpr} (args : List TypeExpr)
    (same : ∀ part ∈ args, read part.toJson.draft = .ok part) :
    applied label read (Json.object
      [("name", .string name), ("args", .array (args.map TypeExpr.toJson))]).draft =
        .ok (name, args) :=
  record_held _ (.take (reads_text name) (.take (reads_types args same) .done))
    (by decide : ["name", "args"].Nodup)

theorem optional_held {read : Draft → Read TypeExpr} {v : Json} {t : TypeExpr}
    (same : read v.draft = .ok t) :
    typeFields read (Json.object [("type", v)]).draft .optional = .ok (.optional t) :=
  congrArg (Except.map TypeExpr.optional)
    (record_held _ (.take (reads_of_held same) .done) (by decide : ["type"].Nodup))

/-- The fields of a type are read back if the types that it is made of are. -/
theorem typeFields_content {read : Draft → Read TypeExpr} (type : TypeExpr)
    (same : ∀ part ∈ type.parts, read part.toJson.draft = .ok part) :
    typeFields read (Json.object type.content).draft type.kind = .ok type := by
  cases type with
  | base name =>
    exact congrArg (Except.map TypeExpr.base)
      (record_held _ (.take (plainChoice_base name) .done) (by decide : ["name"].Nodup))
  | literal value =>
    exact congrArg (Except.map TypeExpr.literal)
      (record_held _ (.take (reads_of_held (literal_toJson value)) .done)
        (by decide : ["literal"].Nodup))
  | tuple types =>
    exact congrArg (Except.map TypeExpr.tuple) (members_held _ types same)
  | union types =>
    exact congrArg (Except.map TypeExpr.union) (members_held _ types same)
  | intersection types =>
    exact congrArg (Except.map TypeExpr.intersection) (members_held _ types same)
  | record fields =>
    have each : ∀ f ∈ fields, recordField read f.toJson.draft = .ok f := fun f member =>
      recordField_toJson (same f.type (List.mem_map_of_mem member))
    exact congrArg (Except.map TypeExpr.record)
      (record_held _
        (.take (reads_list_map fields fun f member => reads_of_held (each f member)) .done)
        (by decide : ["fields"].Nodup))
  | optional type => exact optional_held (same type (List.mem_singleton_self type))
  | classInstance name args =>
    exact congrArg (Except.map fun applied => TypeExpr.classInstance applied.1 applied.2)
      (applied_held _ name args same)
  | interface name args =>
    exact congrArg (Except.map fun applied => TypeExpr.interface applied.1 applied.2)
      (applied_held _ name args same)
  | function c =>
    have reads := reads_callable fun part member => reads_of_held (same part member)
    rw [Callable.toJson_eq] at reads
    exact congrArg (Except.map TypeExpr.function) reads.held
  | classSingleton name | «variable» name | typeAlias name => rfl
  | proc c =>
    have reads := reads_callable fun part member => reads_of_held (same part member)
    exact congrArg (Except.map TypeExpr.proc)
      (record_held _ (.take reads .done) (by decide : ["type"].Nodup))

theorem lookup_kind (kind : TypeKind) : typeTags.lookup kind.name = some kind := by
  cases kind <;> rfl

theorem heldType_object {fuel : Nat} (kind : TypeKind) {entries : List (String × Json)}
    {t : TypeExpr} (plain : ∀ entry ∈ entries, entry.1 ≠ "kind")
    (held : typeFields (heldType fuel) (Json.object entries).draft kind = .ok t) :
    heldType (fuel + 1) (Json.object (("kind", .string kind.name) :: entries)).draft = .ok t := by
  rw [heldType, tagged_draft _ (lookup_kind kind) plain, fitted_complete Delivery.noConfusion]
  exact held

theorem heldType_toJson (fuel : Nat) (type : TypeExpr) (fits : type.toJson.depth ≤ fuel) :
    heldType fuel type.toJson.draft = .ok type := by
  induction fuel generalizing type with
  | zero =>
    rw [TypeExpr.toJson_eq] at fits
    exact absurd fits (Nat.not_succ_le_zero _)
  | succ fuel ih =>
    rw [TypeExpr.toJson_eq] at fits ⊢
    refine heldType_object type.kind type.content_plain
      (typeFields_content type fun part member => ?_)
    exact ih part (Nat.le_trans (TypeExpr.depth_part member) (Nat.le_of_succ_le_succ fits))

/-- A type is read with its text if what is held of it is read. -/
theorem reads_type_of_held (kind : TypeKind) {entries : List (String × Json)} {t : TypeExpr}
    (plain : ∀ entry ∈ entries, entry.1 ≠ "kind")
    (held : Json.entryDepth entries ≤ Draft.nestingLimit →
      typeFields (heldType Draft.nestingLimit) (Json.object entries).draft kind = .ok t) :
    Reads .streamed type (.object (("kind", .string kind.name) :: entries)) t := by
  intro place delivered bounded
  rw [type, tagged_draft _ (lookup_kind kind) plain]
  by_cases deep : place.depth < Json.entryDepth entries + 1
  · rw [fitted, fitted, if_pos ⟨delivered, deep⟩, if_pos ⟨delivered, deep⟩]
    rfl
  · exact fitted_then (congrArg here (held (by omega)))

theorem reads_type (t : TypeExpr) : Reads .streamed type t.toJson t := by
  rw [TypeExpr.toJson_eq]
  refine reads_type_of_held t.kind t.content_plain fun bounded => typeFields_content t ?_
  intro part member
  exact heldType_toJson _ part (Nat.le_trans (TypeExpr.depth_part member) bounded)

end Read

end RouteBindings
