import RouteBindings.Proofs.Document.Misfits
import RouteBindings.Proofs.Document.TypeTree

namespace RouteBindings

mutual
theorem Json.depth_draft : (v : Json) → v.draft.depth = v.depth
  | .null => rfl
  | .bool _ => rfl
  | .number _ => rfl
  | .string _ => rfl
  | .array items => by rw [draft, Draft.depth, itemDepth_drafts items, depth]
  | .object entries => by rw [draft, Draft.depth, entryDepth_drafts entries, depth]

theorem Json.itemDepth_drafts : (items : List Json) →
    Draft.itemDepth (drafts items) = itemDepth items
  | [] => rfl
  | item :: rest => by
    rw [drafts, Draft.itemDepth, depth_draft item, itemDepth_drafts rest, itemDepth]

theorem Json.entryDepth_drafts : (entries : List (String × Json)) →
    Draft.entryDepth (entryDrafts entries) = entryDepth entries
  | [] => rfl
  | (_, value) :: rest => by
    rw [entryDrafts, Draft.entryDepth, depth_draft value, entryDepth_drafts rest, entryDepth]
end

namespace Pattern

def kind : Pattern → PatternKind
  | literal _ => .literal
  | symbol _ _ => .symbol
  | group _ => .group
  | concat _ _ => .concat
  | alternation _ => .alternation

def content : Pattern → List (String × Json)
  | literal text => [("text", .string text)]
  | symbol name wildcard => [("name", .string name), ("wildcard", .bool wildcard)]
  | group body => [("body", body.toJson)]
  | concat left right => [("left", left.toJson), ("right", right.toJson)]
  | alternation children => [("children", .array (children.map toJson))]

def parts : Pattern → List Pattern
  | group body => [body]
  | concat left right => [left, right]
  | alternation children => children
  | _ => []

theorem toJsonAll_eq (children : List Pattern) : toJsonAll children = children.map toJson := by
  induction children with
  | nil => rfl
  | cons child rest ih => rw [toJsonAll, ih, List.map_cons]

theorem toJson_eq (p : Pattern) :
    p.toJson = .object (("kind", .string p.kind.name) :: p.content) := by
  cases p with
  | alternation children => rw [toJson, toJsonAll_eq]; rfl
  | _ => rw [toJson]; rfl

theorem content_plain (p : Pattern) : ∀ entry ∈ p.content, entry.1 ≠ "kind" := by
  cases p <;> simp [content]

theorem depth_part {p part : Pattern} (member : part ∈ p.parts) :
    part.toJson.depth ≤ Json.entryDepth p.content := by
  cases p with
  | literal text => cases member
  | symbol name wildcard => cases member
  | group body =>
    rw [List.mem_singleton.mp member]
    exact Nat.le_max_left _ _
  | concat left right =>
    simp only [parts, List.mem_cons, List.not_mem_nil, or_false] at member
    simp only [content, Json.entryDepth]
    rcases member with rfl | rfl <;> omega
  | alternation children =>
    have inside : part.toJson.depth ≤ Json.itemDepth (children.map toJson) :=
      Json.depth_le_itemDepth (List.mem_map_of_mem member)
    simp only [content, Json.entryDepth, Json.depth]
    omega

end Pattern

namespace Read

/-- The fields of a pattern are read back if the patterns that it is made of are. -/
theorem patternFields_content {read : Draft → Read Pattern} (p : Pattern)
    (same : ∀ part ∈ p.parts, read part.toJson.draft = .ok part) :
    patternFields read (Json.object p.content).draft p.kind = .ok p := by
  cases p with
  | literal text => rfl
  | symbol name wildcard => rfl
  | group body =>
    have inside := reads_of_held (same body (List.mem_singleton_self body))
    exact congrArg (Except.map Pattern.group)
      (record_held _ (.take inside .done) (by decide : ["body"].Nodup))
  | concat left right =>
    have front := reads_of_held (same left List.mem_cons_self)
    have back := reads_of_held (same right (List.mem_cons_of_mem _ (List.mem_singleton_self right)))
    exact congrArg (Except.map fun parts : Pattern × Pattern => Pattern.concat parts.1 parts.2)
      (record_held _ (.take front (.take back .done)) (by decide : ["left", "right"].Nodup))
  | alternation children =>
    have inside := reads_list_map children fun child member => reads_of_held (same child member)
    exact congrArg (Except.map Pattern.alternation)
      (record_held _ (.take inside .done) (by decide : ["children"].Nodup))

theorem heldPattern_toJson (fuel : Nat) (p : Pattern) (fits : p.toJson.depth ≤ fuel) :
    heldPattern fuel p.toJson.draft = .ok p := by
  induction fuel generalizing p with
  | zero =>
    rw [Pattern.toJson_eq] at fits
    exact absurd fits (Nat.not_succ_le_zero _)
  | succ fuel ih =>
    rw [Pattern.toJson_eq] at fits ⊢
    have known : patternTags.lookup p.kind.name = some p.kind := by cases p <;> rfl
    rw [heldPattern, tagged_draft _ known p.content_plain, fitted_complete Delivery.noConfusion]
    refine patternFields_content p fun part member => ?_
    exact ih part (Nat.le_trans (Pattern.depth_part member) (Nat.le_of_succ_le_succ fits))

/-- No tree is taken for a text, and each is read as itself. -/
theorem routePattern_toJson (p : Pattern) : routePattern p.toJson.draft = .ok p := by
  have held := heldPattern_toJson p.toJson.draft.depth p (by rw [Json.depth_draft])
  rw [Pattern.toJson_eq] at held ⊢
  unfold routePattern
  rw [Json.draft] at held ⊢
  dsimp only
  rw [held]

end Read

end RouteBindings
