import Mathlib.Data.List.Basic
import RouteBindings.Names
import RouteBindings.Proofs.Text.Span

namespace RouteBindings.Names

def nonemptyWords (name : String) : List (List Char) :=
  (words name.toList).filter fun word => !word.isEmpty

def isPlainWord : List Char → Bool
  | [] => false
  | c :: rest => isSmall c && rest.all fun d => !isCapital d

/-- Every word begins with a small letter, and no capital follows in it. -/
def Plain (name : String) : Prop :=
  (nonemptyWords name).all isPlainWord = true

instance (name : String) : Decidable (Plain name) :=
  inferInstanceAs (Decidable (_ = true))

def IsHump (cs : List Char) : Prop :=
  ∃ c rest, cs = c :: rest ∧ isCapital c = true ∧ ∀ d ∈ rest, isCapital d = false

theorem case_of_letter : ∀ n < 123, 97 ≤ n →
    Text.upperChar (Char.ofNat n) = [Char.ofNat (n - 32)] ∧
      Text.lowerChar (Char.ofNat (n - 32)) = [Char.ofNat n] ∧
      isCapital (Char.ofNat (n - 32)) = true := by
  decide +kernel

theorem case_of_small {c : Char} (small : isSmall c = true) :
    ∃ capital, Text.upperChar c = [capital] ∧ Text.lowerChar capital = [c] ∧
      isCapital capital = true := by
  have bounds : 97 ≤ c.toNat ∧ c.toNat < 123 := by
    change (decide (97 ≤ c.val) && decide (c.val ≤ 122)) = true at small
    rw [Bool.and_eq_true, decide_eq_true_eq, decide_eq_true_eq, UInt32.le_iff_toNat_le,
      UInt32.le_iff_toNat_le] at small
    exact ⟨small.1, Nat.lt_succ_of_le small.2⟩
  have letter := case_of_letter c.toNat bounds.2 bounds.1
  rw [Char.ofNat_toNat] at letter
  exact ⟨_, letter⟩

theorem upperFirst_of_plain {word : List Char} (plain : isPlainWord word = true) :
    IsHump (upperFirst word) ∧ ∀ rest, lowerFirst (upperFirst word ++ rest) = word ++ rest := by
  cases word with
  | nil => cases plain
  | cons c tail =>
    rw [isPlainWord, Bool.and_eq_true, List.all_eq_true] at plain
    obtain ⟨capital, upper, lower, isCapital⟩ := case_of_small plain.1
    rw [upperFirst, upper]
    refine ⟨⟨capital, tail, rfl, isCapital, fun d member => ?_⟩, fun rest => ?_⟩
    · simpa using plain.2 d member
    · rw [List.singleton_append, List.cons_append, lowerFirst, lower]
      rfl

theorem head_of_humps {humps : List (List Char)} (all : ∀ cs ∈ humps, IsHump cs) :
    ∀ c ∈ humps.flatten.head?, (!isCapital c) = false := by
  intro c begins
  cases humps with
  | nil => cases begins
  | cons cs rest =>
    obtain ⟨capital, tail, rfl, isCapital, -⟩ := all cs List.mem_cons_self
    cases begins
    rw [isCapital]
    rfl

/-- A text has at most one division into humps, since they begin at its capitals. -/
theorem humps_unique {first second : List (List Char)} (left : ∀ cs ∈ first, IsHump cs)
    (right : ∀ cs ∈ second, IsHump cs) (same : first.flatten = second.flatten) :
    first = second := by
  induction first generalizing second with
  | nil =>
    cases second with
    | nil => rfl
    | cons cs rest =>
      obtain ⟨c, tail, rfl, -⟩ := right cs List.mem_cons_self
      cases same
  | cons cs rest ih =>
    obtain ⟨c, tail, rfl, -, small⟩ := left cs List.mem_cons_self
    cases second with
    | nil => cases same
    | cons ds others =>
      obtain ⟨d, back, rfl, -, low⟩ := right ds List.mem_cons_self
      rw [List.forall_mem_cons] at left right
      rw [List.flatten_cons, List.flatten_cons, List.cons_append, List.cons_append,
        List.cons.injEq] at same
      obtain ⟨rfl, same⟩ := same
      -- both first humps end at the first capital behind them
      have here := Text.span_of_ends (p := fun c => !isCapital c)
        (fun d member => by rw [small d member]; rfl) (head_of_humps left.2)
      have there := Text.span_of_ends (p := fun c => !isCapital c)
        (fun d member => by rw [low d member]; rfl) (head_of_humps right.2)
      have tails : tail = back := by rw [← here.1, ← there.1, same]
      have remains : rest.flatten = others.flatten := by rw [← here.2, ← there.2, same]
      rw [tails, ih left.2 right.2 remains]

theorem humps_of_plain {ws : List (List Char)} (plain : ws.all isPlainWord = true) :
    ∀ cs ∈ ws.map upperFirst, IsHump cs := by
  intro cs member
  obtain ⟨word, listed, rfl⟩ := List.mem_map.mp member
  exact (upperFirst_of_plain (List.all_eq_true.mp plain word listed)).1

theorem map_lowerFirst_of_plain {ws : List (List Char)} (plain : ws.all isPlainWord = true) :
    (ws.map upperFirst).map lowerFirst = ws := by
  rw [List.map_map]
  refine (List.map_congr_left fun word listed => ?_).trans (List.map_id ws)
  have restored := (upperFirst_of_plain (List.all_eq_true.mp plain word listed)).2 []
  rwa [List.append_nil, List.append_nil] at restored

theorem plainWords_unique {first second : List (List Char)}
    (left : first.all isPlainWord = true) (right : second.all isPlainWord = true)
    (same : first.flatMap upperFirst = second.flatMap upperFirst) : first = second := by
  have humps := humps_unique (humps_of_plain left) (humps_of_plain right) same
  rw [← map_lowerFirst_of_plain left, humps, map_lowerFirst_of_plain right]

theorem camelizeChars_eq (name : String) :
    camelizeChars name.toList = (nonemptyWords name).flatMap upperFirst := by
  rw [camelizeChars, nonemptyWords]
  induction words name.toList with
  | nil => rfl
  | cons word rest ih =>
    cases word with
    | nil => exact ih
    | cons c tail =>
      rw [List.flatMap_cons, ih]
      rfl

theorem camelize_eq_ofList (name : String) :
    camelize name = String.ofList ((nonemptyWords name).flatMap upperFirst) :=
  congrArg String.ofList (camelizeChars_eq name)

theorem lowerFirst_words {ws : List (List Char)} (plain : ws.all isPlainWord = true) :
    upperFirst (lowerFirst (ws.flatMap upperFirst)) = ws.flatMap upperFirst := by
  cases ws with
  | nil => rfl
  | cons word rest =>
    rw [List.all_cons, Bool.and_eq_true] at plain
    rw [List.flatMap_cons, (upperFirst_of_plain plain.1).2]
    cases word with
    | nil => cases plain.1
    | cons c tail =>
      rw [List.cons_append, upperFirst, upperFirst, List.append_assoc]

theorem camelizeLower_eq_iff {first second : String} (left : Plain first) (right : Plain second) :
    camelizeLower first = camelizeLower second ↔ nonemptyWords first = nonemptyWords second := by
  rw [camelizeLower, camelizeLower, String.ofList_inj, camelizeChars_eq, camelizeChars_eq]
  constructor
  · intro same
    apply plainWords_unique left right
    rw [← lowerFirst_words left, same, lowerFirst_words right]
  · intro same
    rw [same]

end RouteBindings.Names
