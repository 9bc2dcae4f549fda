import RouteBindings.Proofs.Number.ScriptText
import RouteBindings.Proofs.Pattern.Pieces
import RouteBindings.Proofs.Pattern.Required

/-! Patterns whose scopes all open with a literal. The first literal makes every later sum a text,
so that the path is the texts of all items one after the other, each group as a whole or not at
all. -/

namespace RouteBindings

namespace Json

mutual
def scriptText : Json → String
  | null => "null"
  | bool b => truthText b
  | number n => n.toDouble.scriptText
  | string s => s
  | array items => String.ofList (Text.joined [','] (scriptItems items))
  | object _ => "[object Object]"

def scriptItems : List Json → List (List Char)
  | [] => []
  | null :: rest => [] :: scriptItems rest
  | item :: rest => item.scriptText.toList :: scriptItems rest
end

mutual
/-- All numbers that the text of the value shows are written in a path as in JavaScript. -/
def Plain : Json → Prop
  | number n => n.toDouble.Plain
  | array items => PlainItems items
  | _ => True

def PlainItems : List Json → Prop
  | [] => True
  | item :: rest => item.Plain ∧ PlainItems rest
end

mutual
theorem plainText_eq_scriptText : (value : Json) → value.Plain → value.plainText = value.scriptText
  | null, _ | bool _, _ | string _, _ | object _, _ => rfl
  | number n, plain => (Number.Double.exactText_eq_scriptText_iff n.toDouble).mpr plain
  | array items, plain => by
    rw [plainText, scriptText, plainItems_eq_scriptItems items plain]

theorem plainItems_eq_scriptItems : (items : List Json) → PlainItems items →
    plainItems items = scriptItems items
  | [], _ => rfl
  | item :: rest, plain => by
    have first := plainText_eq_scriptText item plain.1
    have others := plainItems_eq_scriptItems rest plain.2
    cases item <;> simp only [plainItems, scriptItems, first, others]
end

end Json

theorem Operand.toText_ofJson (value : Json) : (Operand.ofJson value).toText = value.plainText := by
  cases value <;> rfl

namespace Pattern

/-- Laid flat, the pattern has a literal as its first item. -/
def Opens : Pattern → Prop
  | literal _ => True
  | concat left _ => left.Opens
  | _ => False

/-- There is no alternation, and the body of every group opens with a literal. -/
def OrdinaryParts : Pattern → Prop
  | literal _ => True
  | symbol _ _ => True
  | group body => body.Opens ∧ body.OrdinaryParts
  | concat left right => left.OrdinaryParts ∧ right.OrdinaryParts
  | alternation _ => False

def Ordinary (p : Pattern) : Prop :=
  p.Opens ∧ p.OrdinaryParts

mutual
def bodies : Pattern → List Pattern
  | literal _ => []
  | symbol _ _ => []
  | group body => body :: body.bodies
  | concat left right => left.bodies ++ right.bodies
  | alternation children => bodiesOf children

def bodiesOf : List Pattern → List Pattern
  | [] => []
  | child :: rest => child.bodies ++ bodiesOf rest
end

theorem ordinary_of_mem_bodies : {p body : Pattern} → p.OrdinaryParts → body ∈ p.bodies →
    body.Ordinary
  | group _, _, ordinary, member => by
    rcases List.mem_cons.mp member with rfl | deeper
    · exact ordinary
    · exact ordinary_of_mem_bodies ordinary.2 deeper
  | concat _ _, _, ordinary, member => by
    rcases List.mem_append.mp member with left | right
    · exact ordinary_of_mem_bodies ordinary.1 left
    · exact ordinary_of_mem_bodies ordinary.2 right

def Complete (params : Params) (p : Pattern) : Prop :=
  ∀ name ∈ p.required, ¬ params.Lacks name

instance (params : Params) : DecidablePred (Complete params) :=
  fun p => inferInstanceAs (Decidable (∀ name ∈ p.required, ¬ params.Lacks name))

/-- The texts of all items one after the other, with the values written by `text`. A group is empty
unless its body is complete. -/
def substituted (text : Json → String) (params : Params) : Pattern → String
  | literal t => t
  | symbol name _ =>
    match params.get? name with
    | none => ""
    | some .null => ""
    | some value => text value
  | group body => if Complete params body then body.substituted text params else ""
  | concat left right => left.substituted text params ++ right.substituted text params
  | alternation _ => ""

/-- Whenever an item is added to a chain, the sum so far is a text. -/
def AddsTexts (chain : List Outcome) : Prop :=
  ∀ front item back, chain = front ++ item :: back → front ≠ [] →
    ∀ sum, runChain front = .ok sum → ∃ s, sum = .text s

theorem addAll_text {s : String} {items : List Outcome} {sum : Operand}
    (added : addAll (.text s) items = .ok sum) : ∃ t, sum = .text t := by
  induction items generalizing s with
  | nil =>
    cases added
    exact ⟨s, rfl⟩
  | cons item rest ih =>
    cases item with
    | error missing => cases added
    | ok value => exact ih (s := s ++ value.toText) added

theorem addsTexts_of_literal (t : String) (rest : List Outcome) :
    AddsTexts (.ok (.text t) :: rest) := by
  intro front item back split nonempty sum run
  cases front with
  | nil => exact absurd rfl nonempty
  | cons first others =>
    rw [List.cons_append, List.cons.injEq] at split
    rw [← split.1] at run
    exact addAll_text run

theorem exists_chain (params : Params) : {p : Pattern} → p.OrdinaryParts →
    ∃ first rest, p.outcomes params = [first :: rest]
  | literal _, _ | symbol _ _, _ | group _, _ => ⟨_, _, rfl⟩
  | concat left right, ordinary => by
    obtain ⟨first, rest, hl⟩ := exists_chain params ordinary.1
    obtain ⟨next, others, hr⟩ := exists_chain params ordinary.2
    refine ⟨first, rest ++ next :: others, ?_⟩
    rw [outcomes, hl, hr]
    rfl

theorem exists_literal_chain (params : Params) : {p : Pattern} → p.Opens → p.OrdinaryParts →
    ∃ t rest, p.outcomes params = [.ok (.text t) :: rest]
  | literal t, _, _ => ⟨t, [], rfl⟩
  | concat left right, opens, ordinary => by
    obtain ⟨t, rest, hl⟩ := exists_literal_chain params (p := left) opens ordinary.1
    obtain ⟨next, others, hr⟩ := exists_chain params ordinary.2
    refine ⟨t, rest ++ next :: others, ?_⟩
    rw [outcomes, hl, hr]
    rfl

section

variable {params : Params}

theorem symbolOutcome_substituted {name : String} {wildcard : Bool}
    (complete : Complete params (symbol name wildcard)) :
    ∃ value, symbolOutcome params name wildcard = .ok value ∧
      value.toText = (symbol name wildcard).substituted Json.plainText params := by
  have present : wildcard = false → (params.get? name).any Json.isTruthy = true := by
    rintro rfl
    have here := complete name (by simp [required])
    rwa [Params.lacks_iff, Bool.not_eq_false] at here
  unfold symbolOutcome substituted
  cases found : params.get? name with
  | none =>
    cases wildcard with
    | false => simp [found] at present
    | true => exact ⟨_, rfl, rfl⟩
  | some value =>
    cases wildcard with
    | false =>
      have truthy : value.isTruthy = true := by simpa [found] using present
      refine ⟨.ofJson value, by simp [truthy], ?_⟩
      rw [Operand.toText_ofJson]
      cases value with
      | null => cases truthy
      | bool | number | string | array | object => rfl
    | true =>
      cases value with
      | null => exact ⟨_, rfl, rfl⟩
      | bool | number | string | array | object =>
        exact ⟨_, rfl, Operand.toText_ofJson _⟩

def Adds (params : Params) (p : Pattern) : Prop :=
  ∃ chain, p.outcomes params = [chain] ∧
    ∀ s, addAll (.text s) chain = .ok (.text (s ++ p.substituted Json.plainText params))

theorem adds_of_item {p : Pattern} (value : Operand) (item : p.outcomes params = [[.ok value]])
    (text : value.toText = p.substituted Json.plainText params) : Adds params p := by
  refine ⟨[.ok value], item, fun s => ?_⟩
  rw [← text]
  rfl

theorem Adds.concat {left right : Pattern} (front : Adds params left) (back : Adds params right) :
    Adds params (concat left right) := by
  obtain ⟨as, ha, addA⟩ := front
  obtain ⟨bs, hb, addB⟩ := back
  refine ⟨as ++ bs, ?_, fun s => ?_⟩
  · rw [outcomes, ha, hb]
    rfl
  · calc
      addAll (.text s) (as ++ bs)
        = addAll (.text (s ++ left.substituted Json.plainText params)) bs := by
          rw [addAll_append, addA]
          rfl
      _ = _ := by rw [addB, String.append_assoc, substituted]

/-- An opening literal counts as added to the empty text. -/
theorem Adds.value {p : Pattern} (adds : Adds params p) (ordinary : p.Ordinary) :
    p.value params = .ok (.text (p.substituted Json.plainText params)) := by
  obtain ⟨chain, one, add⟩ := adds
  obtain ⟨t, rest, opening⟩ := exists_literal_chain params ordinary.1 ordinary.2
  obtain rfl : chain = .ok (.text t) :: rest := by
    rw [one] at opening
    exact List.singleton_inj.mp opening
  have run : runChain (.ok (.text t) :: rest) = addAll (.text "") (.ok (.text t) :: rest) := by
    change addAll (.text t) rest = addAll (.text ("" ++ t)) rest
    rw [String.empty_append]
  calc
    p.value params = runChain (.ok (.text t) :: rest) >>= pure := by rw [Pattern.value, one]; rfl
    _ = .ok (.text (p.substituted Json.plainText params)) := by
      rw [bind_pure, run, add, String.empty_append]

theorem adds_substituted : {p : Pattern} → p.OrdinaryParts → Complete params p → Adds params p
  | literal _, _, _ => adds_of_item (.text _) rfl rfl
  | symbol name wildcard, _, complete => by
    obtain ⟨value, outcome, text⟩ := symbolOutcome_substituted complete
    exact adds_of_item value (by rw [outcomes, outcome]) text
  | group body, ordinary, _ => by
    by_cases complete : Complete params body
    · have value := (adds_substituted ordinary.2 complete).value ordinary
      refine adds_of_item (.text (body.substituted Json.plainText params)) ?_ ?_
      · rw [outcomes, ← Pattern.value, value, groupOutcome]
      · rw [substituted, if_pos complete]
        rfl
    · have missing : ∃ segment, body.value params = .error segment := by
        cases outcome : body.value params with
        | error segment => exact ⟨segment, rfl⟩
        | ok value => exact absurd ((exists_value_iff params body).mp ⟨value, outcome⟩) complete
      obtain ⟨segment, failed⟩ := missing
      refine adds_of_item (.text "") ?_ ?_
      · rw [outcomes, ← Pattern.value, failed, groupOutcome]
      · rw [substituted, if_neg complete]
        rfl
  | concat left right, ordinary, complete => by
    have front : Complete params left := fun name member =>
      complete name (List.mem_append_left _ member)
    have back : Complete params right := fun name member =>
      complete name (List.mem_append_right _ member)
    exact (adds_substituted ordinary.1 front).concat (adds_substituted ordinary.2 back)

theorem evaluate_substituted {p : Pattern} (ordinary : p.Ordinary) (complete : Complete params p) :
    p.evaluate params = .ok (p.substituted Json.plainText params) := by
  rw [evaluate, (adds_substituted ordinary.2 complete).value ordinary]
  rfl

theorem substituted_congr {f g : Json → String} : {p : Pattern} →
    (∀ name ∈ p.symbolNames, ∀ value, params.get? name = some value → f value = g value) →
    p.substituted f params = p.substituted g params
  | literal _, _ | alternation _, _ => rfl
  | symbol name wildcard, same => by
    have here := same name (by simp [symbolNames])
    unfold substituted
    cases found : params.get? name with
    | none => rfl
    | some value => cases value <;> first | rfl | exact here _ found
  | group body, same => by
    simp only [substituted]
    rw [substituted_congr (p := body) same]
  | concat left right, same => by
    simp only [substituted]
    rw [substituted_congr fun name member => same name (List.mem_append_left _ member),
      substituted_congr fun name member => same name (List.mem_append_right _ member)]

end

/-- What evaluation makes of a pattern: it adds texts in every scope, and its path is a
substitution. -/
structure Substitutes (params : Params) (p : Pattern) : Prop where
  scopes : ∀ scope ∈ p :: p.bodies, ∃ chain, scope.outcomes params = [chain] ∧ AddsTexts chain
  path : Complete params p → p.evaluate params = .ok (p.substituted Json.plainText params)
  script : Complete params p →
    (∀ name ∈ p.symbolNames, ∀ value, params.get? name = some value → value.Plain) →
    p.evaluate params = .ok (p.substituted Json.scriptText params)

/-- Ordinary patterns evaluate to a substitution, with the texts that the values have in JavaScript
if all numbers are plain, as the integers of up to 53 binary digits are. No other number has the
same text in both. -/
theorem substitutes_of_ordinary {p : Pattern} (ordinary : p.Ordinary) (params : Params) :
    p.Substitutes params ∧ (∀ x : Number.Double, x.exactText = x.scriptText ↔ x.Plain) ∧
      ∀ n : Int, n.natAbs < Number.twoTo 53 → (Number.Double.ofInt n).Plain := by
  refine ⟨⟨?_, evaluate_substituted ordinary, ?_⟩, Number.Double.exactText_eq_scriptText_iff,
    fun n => Number.Double.plain_ofInt⟩
  · intro scope member
    have inside : scope.Ordinary := by
      rcases List.mem_cons.mp member with rfl | deeper
      · exact ordinary
      · exact ordinary_of_mem_bodies ordinary.2 deeper
    obtain ⟨t, rest, opening⟩ := exists_literal_chain params inside.1 inside.2
    exact ⟨_, opening, addsTexts_of_literal t rest⟩
  · intro complete plain
    rw [evaluate_substituted ordinary complete]
    exact congrArg _ (substituted_congr fun name member value found =>
      Json.plainText_eq_scriptText value (plain name member value found))

def nested : Pattern :=
  concat (concat (literal "/a/") (symbol "ids" false)) (concat
    (group (concat (literal "/") (concat (symbol "page" false)
      (group (concat (literal ".") (symbol "format" true))))))
    (group (concat (literal "-") (symbol "lost" false))))

def nestedParams : Params :=
  ⟨[("ids", .array [.number (.integer 7), .null, .bool true]), ("page", .number (.integer (-2)))],
    by decide⟩

theorem substitutes_of_ordinary_nested :
    nested.Ordinary ∧ nested.evaluate nestedParams = .ok "/a/7,,true/-2." := by
  have ordinary : nested.Ordinary := by simp [nested, Ordinary, Opens, OrdinaryParts]
  obtain ⟨facts, -, plain⟩ := substitutes_of_ordinary ordinary nestedParams
  refine ⟨ordinary, ?_⟩
  rw [facts.script (by decide)]
  · decide +kernel
  · intro name member value found
    simp only [nested, symbolNames, List.mem_append, List.mem_singleton, List.not_mem_nil,
      false_or] at member
    rcases member with rfl | (rfl | rfl) | rfl
    · cases found
      exact ⟨plain 7 (by decide), trivial, trivial, trivial⟩
    · cases found
      exact plain (-2) (by decide)
    · cases found
    · cases found

def located : Pattern :=
  concat (literal "/") (symbol "id" false)

def far : Params :=
  ⟨[("id", .number (.double (.finite false 7629394531250000 17)))], by decide⟩

/-- From `10 ^ 21` on JavaScript writes an exponent, and a path does not. -/
theorem evaluate_far : located.Ordinary ∧ Complete far located ∧
    located.evaluate far = .ok "/1000000000000000000000" ∧
    located.substituted Json.scriptText far = "/1e+21" := by
  refine ⟨⟨trivial, trivial, trivial⟩, by decide, ?_, ?_⟩
  · decide +kernel
  · decide +kernel

end Pattern

end RouteBindings
