import RouteBindings.Proofs.Signature.Separators

/-! The element of an array stands at level zero, so that the suffix behind a union or intersection
belongs to its last member alone. The arrays whose text is also that of a sum are those whose
element exposes a separator. -/

namespace RouteBindings.TypeExpr

theorem chars_union (types : List TypeExpr) :
    (union types).chars 0 = (charsOf 0 types).map (Text.joined " | ".toList) := by
  rw [chars]
  cases charsOf 0 types <;> rfl

theorem chars_intersection (types : List TypeExpr) :
    (intersection types).chars 0 = (charsOf 2 types).map (Text.joined " & ".toList) := by
  rw [chars]
  cases charsOf 2 types <;> rfl

theorem chars_array {name : String} (path : classPath name.toList = "Array".toList)
    (item : TypeExpr) (level : Nat) :
    (classInstance name [item]).chars level = (item.chars 0).map (· ++ ['[', ']']) := by
  rw [chars, if_pos path]
  cases item.chars 0 <;> rfl

theorem joined_charsOf_lone (level : Nat) (separator : List Char) (item : TypeExpr) :
    (charsOf level [item]).map (Text.joined separator) = item.chars level := by
  rw [charsOf, charsOf]
  cases item.chars level <;> rfl

theorem charsOf_append {level : Nat} {front : List TypeExpr} {last : TypeExpr}
    {items : List (List Char)} (written : charsOf level (front ++ [last]) = .ok items) :
    ∃ before body, items = before ++ [body] ∧ last.chars level = .ok body ∧
      ∀ other text, other.chars level = .ok text →
        charsOf level (front ++ [other]) = .ok (before ++ [text]) := by
  induction front generalizing items with
  | nil =>
    obtain ⟨body, others, hb, ho, rfl⟩ := charsOf_cons written
    obtain rfl := charsOf_nil ho
    refine ⟨[], body, rfl, hb, ?_⟩
    intro other text ht
    rw [List.nil_append, charsOf, charsOf, ht]
    rfl
  | cons type rest ih =>
    obtain ⟨first, others, hf, ho, rfl⟩ := charsOf_cons written
    obtain ⟨before, body, rfl, hb, replaced⟩ := ih ho
    refine ⟨first :: before, body, rfl, hb, ?_⟩
    intro other text ht
    rw [List.cons_append, charsOf, hf, replaced other text ht]
    rfl

theorem joined_append (separator body tail : List Char) (before : List (List Char)) :
    Text.joined separator (before ++ [body ++ tail]) =
      Text.joined separator (before ++ [body]) ++ tail := by
  induction before with
  | nil => simp [Text.joined]
  | cons item rest ih =>
    cases rest with
    | nil => simp [Text.joined]
    | cons next others =>
      rw [List.cons_append] at ih
      rw [List.cons_append, List.cons_append, List.cons_append, List.cons_append, joined_cons,
        joined_cons, ih, List.cons_append, List.append_assoc, List.append_assoc]

/-- What is appended to the last of several types is appended to all of them joined. -/
theorem joined_charsOf_append {level : Nat} {separator cs : List Char} {front : List TypeExpr}
    {last : TypeExpr}
    (written : (charsOf level (front ++ [last])).map (Text.joined separator) = .ok cs) :
    ∃ body, last.chars level = .ok body ∧ ∀ other tail, other.chars level = .ok (body ++ tail) →
      (charsOf level (front ++ [other])).map (Text.joined separator) = .ok (cs ++ tail) := by
  cases hi : charsOf level (front ++ [last]) with
  | error e =>
    rw [hi] at written
    cases written
  | ok items =>
    rw [hi] at written
    cases written
    obtain ⟨before, body, rfl, hb, replaced⟩ := charsOf_append hi
    refine ⟨body, hb, ?_⟩
    intro other tail ht
    rw [replaced other _ ht, ← joined_append]
    rfl

/-- The text of a union or intersection of at least two members, of which this is the last. -/
def IsSumText (last : TypeExpr) (cs : List Char) : Prop :=
  ∃ front, front ≠ [] ∧
    ((union (front ++ [last])).chars 0 = .ok cs ∨ (intersection (front ++ [last])).chars 0 = .ok cs)

theorem IsSumText.array {last : TypeExpr} {cs : List Char} (sum : IsSumText last cs) :
    ∃ item, IsSumText (classInstance "Array" [item]) (cs ++ ['[', ']']) := by
  have path : classPath "Array".toList = "Array".toList := by decide
  obtain ⟨front, nonempty, written | written⟩ := sum
  · rw [chars_union] at written
    obtain ⟨body, hb, replaced⟩ := joined_charsOf_append written
    have item : (classInstance "Array" [last]).chars 0 = .ok (body ++ ['[', ']']) := by
      rw [chars_array path, hb]
      rfl
    refine ⟨last, front, nonempty, .inl ?_⟩
    rw [chars_union, replaced _ _ item]
  · rw [chars_intersection] at written
    obtain ⟨body, hb, replaced⟩ := joined_charsOf_append written
    -- an intersection of its own gives the element the parentheses that the member has
    have item : (classInstance "Array" [intersection [last]]).chars 2 =
        .ok (body ++ ['[', ']']) := by
      rw [chars_array path, chars_intersection, joined_charsOf_lone, hb]
      rfl
    refine ⟨intersection [last], front, nonempty, .inr ?_⟩
    rw [chars_intersection, replaced _ _ item]

def IsSuffixed : TypeExpr → Prop
  | optional _ => True
  | classInstance _ _ => True
  | _ => False

theorem chars_of_suffixed {type : TypeExpr} (suffixed : type.IsSuffixed) (level other : Nat) :
    type.chars level = type.chars other := by
  cases type with
  | optional _ => rw [chars, chars]
  | classInstance _ args =>
    match args with
    | [] => rw [chars, chars]
    | [_] => rw [chars, chars]
    | _ :: _ :: _ => rw [chars, chars]
  | _ => exact suffixed.elim

theorem optionalMark_of_suffixed {type : TypeExpr} (suffixed : type.IsSuffixed) :
    optionalMark type = ['?'] := by
  cases type with
  | optional _ => rfl
  | classInstance _ _ => rfl
  | _ => exact suffixed.elim

theorem isSuffixed_of_exposed {type : TypeExpr} {level : Nat} (inner : level ≠ 0)
    (exposes : type.exposed level = true) : type.IsSuffixed := by
  cases type with
  | optional _ => trivial
  | classInstance _ _ => trivial
  | _ => simp [exposed, inner] at exposes

theorem IsSumText.optional {last : TypeExpr} {cs : List Char} (suffixed : last.IsSuffixed)
    (sum : IsSumText last cs) : IsSumText (optional last) (cs ++ ['?']) := by
  have marked : ∀ level body, last.chars level = .ok body →
      ∀ other, (TypeExpr.optional last).chars other = .ok (body ++ ['?']) := by
    intro level body hb other
    rw [chars, chars_of_suffixed suffixed 1 level, hb, optionalMark_of_suffixed suffixed]
    rfl
  obtain ⟨front, nonempty, written | written⟩ := sum
  · rw [chars_union] at written
    obtain ⟨body, hb, replaced⟩ := joined_charsOf_append written
    refine ⟨front, nonempty, .inl ?_⟩
    rw [chars_union, replaced _ _ (marked 0 body hb 0)]
  · rw [chars_intersection] at written
    obtain ⟨body, hb, replaced⟩ := joined_charsOf_append written
    refine ⟨front, nonempty, .inr ?_⟩
    rw [chars_intersection, replaced _ _ (marked 2 body hb 2)]

theorem exists_front (first second : TypeExpr) (rest : List TypeExpr) :
    ∃ front last, front ≠ [] ∧ first :: second :: rest = front ++ [last] := by
  have whole := List.dropLast_concat_getLast (List.cons_ne_nil first (second :: rest))
  exact ⟨_, _, by simp, whole.symm⟩

/-- A type that exposes a separator has the text of a union or intersection. -/
theorem isSumText_of_exposed (type : TypeExpr) {level : Nat} {cs : List Char}
    (written : type.chars level = .ok cs) (exposes : type.exposed level = true) :
    ∃ last, IsSumText last cs ∧ (level ≠ 0 → last.IsSuffixed) := by
  -- under an optional the last member must be suffixed itself, or it could not take the mark
  match type with
  | union [] => simp [exposed, exposedAny] at exposes
  | union [item] =>
    obtain ⟨rfl, inside⟩ : level = 0 ∧ item.exposed 0 = true := by
      simpa [exposed, exposedAny] using exposes
    rw [chars_union, joined_charsOf_lone] at written
    obtain ⟨last, sum, -⟩ := isSumText_of_exposed item written inside
    exact ⟨last, sum, absurd rfl⟩
  | union (first :: second :: rest) =>
    obtain rfl : level = 0 := by simpa [exposed] using exposes
    obtain ⟨front, last, nonempty, same⟩ := exists_front first second rest
    exact ⟨last, ⟨front, nonempty, .inl (same ▸ written)⟩, absurd rfl⟩
  | intersection [] => simp [exposed, exposedAny] at exposes
  | intersection [item] =>
    obtain ⟨rfl, inside⟩ : level = 0 ∧ item.exposed 2 = true := by
      simpa [exposed, exposedAny] using exposes
    rw [chars_intersection, joined_charsOf_lone] at written
    obtain ⟨last, sum, -⟩ := isSumText_of_exposed item written inside
    exact ⟨last, sum, absurd rfl⟩
  | intersection (first :: second :: rest) =>
    obtain rfl : level = 0 := by simpa [exposed] using exposes
    obtain ⟨front, last, nonempty, same⟩ := exists_front first second rest
    exact ⟨last, ⟨front, nonempty, .inr (same ▸ written)⟩, absurd rfl⟩
  | optional item =>
    rw [exposed] at exposes
    rw [chars] at written
    obtain ⟨body, hb, written⟩ := bind_ok written
    cases written
    obtain ⟨last, sum, suffixed⟩ := isSumText_of_exposed item hb exposes
    rw [optionalMark_of_suffixed (isSuffixed_of_exposed Nat.one_ne_zero exposes)]
    exact ⟨_, sum.optional (suffixed Nat.one_ne_zero), fun _ => trivial⟩
  | classInstance name [item] =>
    have inside : item.exposed 0 = true := by simpa [exposed, exposedAny] using exposes
    rw [chars] at written
    split at written
    · obtain ⟨body, hb, written⟩ := bind_ok written
      cases written
      obtain ⟨last, sum, -⟩ := isSumText_of_exposed item hb inside
      obtain ⟨element, sum⟩ := sum.array
      exact ⟨_, sum, fun _ => trivial⟩
    · cases written
  | classInstance _ [] => simp [exposed, exposedAny] at exposes
  | classInstance _ (_ :: _ :: _) =>
    rw [chars] at written
    cases written
  | base _ | literal _ | tuple _ | record _ | function _ | interface _ _ | classSingleton _
  | .variable _ | typeAlias _ | proc _ => simp [exposed] at exposes

theorem text_eq_ok {type : TypeExpr} {s : String} :
    type.text 0 = .ok s ↔ type.chars 0 = .ok s.toList := by
  rw [text]
  cases type.chars 0 with
  | error => simp [Except.map]
  | ok cs => simp [Except.map, String.ext_iff]

theorem exposed_of_several {types : List TypeExpr} (several : 1 < types.length) :
    (union types).exposed 0 = true ∧ (intersection types).exposed 0 = true := by
  simp [exposed, several]

/-- The text of an array is that of a union or intersection of several members exactly when the
element exposes a separator. -/
theorem array_text_eq_sum_iff {name : String} {type : TypeExpr} {s : String}
    (written : (classInstance name [type]).text 0 = .ok s) :
    (∃ types : List TypeExpr, 2 ≤ types.length ∧
      ((union types).text 0 = .ok s ∨ (intersection types).text 0 = .ok s)) ↔
        type.exposed 0 = true := by
  have whole : (classInstance name [type]).exposed 0 = type.exposed 0 := by
    simp [exposed, exposedAny]
  simp only [text_eq_ok] at written ⊢
  have shown := faithful _ 0 _ written
  constructor
  · rintro ⟨types, several, same | same⟩
    · rw [← whole, shown.unique (faithful _ 0 _ same)]
      exact (exposed_of_several several).1
    · rw [← whole, shown.unique (faithful _ 0 _ same)]
      exact (exposed_of_several several).2
  · intro exposes
    obtain ⟨last, ⟨front, nonempty, same⟩, -⟩ :=
      isSumText_of_exposed _ written (whole.trans exposes)
    have several : 2 ≤ (front ++ [last]).length := by
      have length := List.length_pos_iff.mpr nonempty
      rw [List.length_append, List.length_singleton]
      omega
    exact ⟨_, several, same⟩

theorem array_text_eq_union :
    ¬ ∀ (type : TypeExpr) (types : List TypeExpr) (s : String), 2 ≤ types.length →
      (classInstance "Array" [type]).text 0 = .ok s → (union types).text 0 ≠ .ok s := by
  intro apart
  have array : (classInstance "Array"
      [union [classInstance "Integer" [], classInstance "String" []]]).text 0 =
        .ok "number | string[]" := rfl
  have sum : (union [classInstance "Integer" [],
      classInstance "Array" [classInstance "String" []]]).text 0 = .ok "number | string[]" := rfl
  exact apart _ _ _ (by decide) array sum

theorem array_text_eq_sum_iff_optional :
    (classInstance "Array" [optional (union [base .any, base .nil])]).text 0 =
        .ok "(any | null)?[]" ∧
      ¬ ∃ types : List TypeExpr, 2 ≤ types.length ∧
        ((union types).text 0 = .ok "(any | null)?[]" ∨
          (intersection types).text 0 = .ok "(any | null)?[]") := by
  have written : (classInstance "Array" [optional (union [base .any, base .nil])]).text 0 =
      .ok "(any | null)?[]" := rfl
  refine ⟨written, ?_⟩
  rw [array_text_eq_sum_iff written]
  simp [exposed]

end RouteBindings.TypeExpr
