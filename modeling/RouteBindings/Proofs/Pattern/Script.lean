import RouteBindings.Pattern.Evaluation
import RouteBindings.Proofs.Text.Token

/-! The fragment of JavaScript in which paths are built: how its expressions are read and what they
come to. Addition binds tighter than `|`, and both are grouped from the left. An arrow function is
called on the spot, to demand a segment or to catch what its body throws. -/

namespace RouteBindings

open Text (Token Lexicon)

inductive Script where
  | text (s : String)
  | orEmpty (name : String)
  | demand (name thrown : String)
  | attempt (body : Script)
  | add (left right : Script)
  | bitOr (left right : Script)

namespace Script

def reserved : List String :=
  ["await", "break", "case", "catch", "class", "const", "continue", "debugger", "default", "delete",
    "do", "else", "enum", "export", "extends", "false", "finally", "for", "function", "if",
    "import", "in", "instanceof", "new", "null", "return", "super", "switch", "this", "throw",
    "true", "try", "typeof", "var", "void", "while", "with", "yield"]

/-- Which characters beyond ASCII begin and continue a name is left open. -/
def lexicon (begins continues : Char → Bool) : Lexicon :=
  ⟨begins, continues, fun c => c = '=' || c = '>' || c = '?' || c = '+' || c = '|'⟩

structure IsName (begins continues : Char → Bool) (name : String) : Prop where
  starts : ∃ c rest, name.toList = c :: rest ∧ (lexicon begins continues).isStart c = true
  parts : ∀ c ∈ name.toList, (lexicon begins continues).isPart c = true
  free : name ∉ reserved

def grouped (operator : Script → Script → Script) : List Script → Script
  | [] => .text ""
  | first :: rest => rest.foldl operator first

def ofSums (sums : List (List Script)) : Script :=
  grouped .bitOr (sums.map (grouped .add))

def callFront : List Token :=
  [.mark "(", .mark "(", .mark ")", .mark "=>", .mark "\x7b"]

def callBack : List Token :=
  [.mark "\x7d", .mark ")", .mark "(", .mark ")"]

def demandBody (name thrown : String) : List Token :=
  [.word "if", .mark "(", .word name, .mark ")", .word "return", .word name, .mark ";",
    .word "throw", .text thrown]

def attemptFront : List Token :=
  [.word "try", .mark "\x7b", .word "return"]

def attemptBack : List Token :=
  [.mark "\x7d", .word "catch", .mark "\x7b", .word "return", .text "", .mark "\x7d"]

section

variable (begins continues : Char → Bool)

mutual
inductive ReadsOperand : List Token → List Token → Script → Prop
  | text {s rest} : ReadsOperand (.text s :: rest) rest (.text s)
  | orEmpty {name rest} : IsName begins continues name →
      ReadsOperand (.mark "(" :: .word name :: .mark "??" :: .text "" :: .mark ")" :: rest) rest
        (.orEmpty name)
  | demand {name thrown rest} : IsName begins continues name →
      ReadsOperand (callFront ++ (demandBody name thrown ++ (callBack ++ rest))) rest
        (.demand name thrown)
  | attempt {ts rest body} : ReadsExpression ts (attemptBack ++ (callBack ++ rest)) body →
      ReadsOperand (callFront ++ (attemptFront ++ ts)) rest (.attempt body)

inductive ReadsSum : List Token → List Token → List Script → Prop
  | last {ts rest e} : ReadsOperand ts rest e → ReadsSum ts rest [e]
  | plus {ts mid rest e es} : ReadsOperand ts (.mark "+" :: mid) e → ReadsSum mid rest es →
      ReadsSum ts rest (e :: es)

inductive ReadsSums : List Token → List Token → List (List Script) → Prop
  | last {ts rest es} : ReadsSum ts rest es → ReadsSums ts rest [es]
  | bar {ts mid rest es sums} : ReadsSum ts (.mark "|" :: mid) es → ReadsSums mid rest sums →
      ReadsSums ts rest (es :: sums)

inductive ReadsExpression : List Token → List Token → Script → Prop
  | sums {ts rest sums} : ReadsSums ts rest sums → ReadsExpression ts rest (ofSums sums)
end

def Reads (text : String) (e : Script) : Prop :=
  ∃ ts, (lexicon begins continues).tokens text.toList = some ts ∧
    ReadsExpression begins continues ts [] e

end

/-- The value of an expression, or the text that it throws. A name stands for its entry in the
parameters, and operands are run from left to right. -/
def run (params : Params) : Script → Except String Operand
  | text s => .ok (.text s)
  | orEmpty name =>
    match params.get? name with
    | none => .ok (.text "")
    | some .null => .ok (.text "")
    | some value => .ok (.ofJson value)
  | demand name thrown =>
    match params.get? name with
    | none => .error thrown
    | some value => if value.isTruthy then .ok (.ofJson value) else .error thrown
  | attempt body =>
    match body.run params with
    | .ok value => .ok value
    | .error _ => .ok (.text "")
  | add left right => do
    let a ← left.run params
    let b ← right.run params
    return a.add b
  | bitOr left right => do
    let a ← left.run params
    let b ← right.run params
    return a.bitOr b

section

variable {begins continues : Char → Bool}

/-- An expression ends here: no operator goes on with it. -/
def Ends (rest : List Token) : Prop :=
  (∀ mid, rest ≠ .mark "+" :: mid) ∧ ∀ mid, rest ≠ .mark "|" :: mid

theorem ends_nil : Ends [] :=
  ⟨by simp, by simp⟩

theorem ends_attemptBack (rest : List Token) : Ends (attemptBack ++ rest) :=
  ⟨by simp [attemptBack], by simp [attemptBack]⟩

theorem demand_ne_attempt (name thrown : String) (ts us : List Token) :
    callFront ++ (demandBody name thrown ++ ts) ≠ callFront ++ (attemptFront ++ us) := by
  simp [callFront, demandBody, attemptFront]

/- A text has one reading at most: two derivations from the same tokens stop at the same place. For
sums it has to be known that neither stops before an operator that goes on with it. -/
mutual
theorem ReadsOperand.unique : ∀ {ts r r' : List Token} {e e' : Script},
    ReadsOperand begins continues ts r e → ReadsOperand begins continues ts r' e' →
    r = r' ∧ e = e'
  | _, _, _, _, _, .text, other => by
    cases other with
    | text => exact ⟨rfl, rfl⟩
  | _, _, _, _, _, .orEmpty _, other => by
    cases other with
    | orEmpty => exact ⟨rfl, rfl⟩
  | _, _, _, _, _, @ReadsOperand.demand _ _ name thrown rest _, other => by
    generalize same : callFront ++ (demandBody name thrown ++ (callBack ++ rest)) = ts at other
    cases other with
    | text => cases same
    | orEmpty => cases same
    | demand => cases same; exact ⟨rfl, rfl⟩
    | attempt => exact absurd same (demand_ne_attempt _ _ _ _)
  | _, _, _, _, _, @ReadsOperand.attempt _ _ ts _ _ inner, other => by
    generalize same : callFront ++ (attemptFront ++ ts) = us at other
    cases other with
    | text => cases same
    | orEmpty => cases same
    | demand => exact absurd same.symm (demand_ne_attempt _ _ _ _)
    | attempt inner' =>
      cases same
      obtain ⟨h, rfl⟩ := inner.unique (ends_attemptBack _) inner' (ends_attemptBack _)
      cases h
      exact ⟨rfl, rfl⟩
termination_by structural _ _ _ _ _ reading => reading

theorem ReadsSum.unique : ∀ {ts r r' : List Token} {es es' : List Script},
    ReadsSum begins continues ts r es → (∀ mid, r ≠ .mark "+" :: mid) →
    ReadsSum begins continues ts r' es' → (∀ mid, r' ≠ .mark "+" :: mid) → r = r' ∧ es = es'
  | _, _, _, _, _, .last operand, ends, other, ends' => by
    cases other with
    | last operand' =>
      obtain ⟨rfl, rfl⟩ := operand.unique operand'
      exact ⟨rfl, rfl⟩
    | plus operand' _ => exact absurd (operand.unique operand').1 (ends _)
  | _, _, _, _, _, .plus operand tail, ends, other, ends' => by
    cases other with
    | last operand' => exact absurd (operand.unique operand').1.symm (ends' _)
    | plus operand' tail' =>
      obtain ⟨h, rfl⟩ := operand.unique operand'
      cases h
      obtain ⟨rfl, rfl⟩ := tail.unique ends tail' ends'
      exact ⟨rfl, rfl⟩
termination_by structural _ _ _ _ _ reading => reading

theorem ReadsSums.unique : ∀ {ts r r' : List Token} {sums sums' : List (List Script)},
    ReadsSums begins continues ts r sums → Ends r →
    ReadsSums begins continues ts r' sums' → Ends r' → r = r' ∧ sums = sums'
  | _, _, _, _, _, .last sum, ends, other, ends' => by
    cases other with
    | last sum' =>
      obtain ⟨rfl, rfl⟩ := sum.unique ends.1 sum' ends'.1
      exact ⟨rfl, rfl⟩
    | bar sum' _ => exact absurd (sum.unique ends.1 sum' (by simp)).1 (ends.2 _)
  | _, _, _, _, _, .bar sum tail, ends, other, ends' => by
    cases other with
    | last sum' => exact absurd (sum.unique (by simp) sum' ends'.1).1.symm (ends'.2 _)
    | bar sum' tail' =>
      obtain ⟨h, rfl⟩ := sum.unique (by simp) sum' (by simp)
      cases h
      obtain ⟨rfl, rfl⟩ := tail.unique ends tail' ends'
      exact ⟨rfl, rfl⟩
termination_by structural _ _ _ _ _ reading => reading

theorem ReadsExpression.unique : ∀ {ts r r' : List Token} {e e' : Script},
    ReadsExpression begins continues ts r e → Ends r →
    ReadsExpression begins continues ts r' e' → Ends r' → r = r' ∧ e = e'
  | _, _, _, _, _, .sums sums, ends, .sums sums', ends' => by
    obtain ⟨rfl, rfl⟩ := sums.unique ends sums' ends'
    exact ⟨rfl, rfl⟩
termination_by structural _ _ _ _ _ reading => reading
end

theorem Reads.unique {text : String} {e f : Script} (he : Reads begins continues text e)
    (hf : Reads begins continues text f) : e = f := by
  obtain ⟨ts, hts, reading⟩ := he
  obtain ⟨us, hus, reading'⟩ := hf
  cases hts.symm.trans hus
  exact (reading.unique ends_nil reading' ends_nil).2

end

end Script

end RouteBindings
