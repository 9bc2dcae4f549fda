import Mathlib.Data.List.Forall2
import RouteBindings.Pattern.Printed
import RouteBindings.Proofs.Pattern.Chains

/-! A pattern as the flat list of the pieces it prints: single letters, bars, symbols and groups.
How a pattern is written, what its symbols are called and what it evaluates to can all be read from
this list alone, however its literals are cut and its sequences are nested. -/

namespace RouteBindings

inductive Piece where
  | letter (c : Char)
  | bar
  | symbol (name : String) (wildcard : Bool)
  | group (body : List Piece)

namespace Piece

mutual
def chars : Piece → List Char
  | letter c => [c]
  | bar => ['|']
  | symbol name wildcard => (if wildcard then '*' else ':') :: name.toList
  | group body => '(' :: charsOf body ++ [')']

def charsOf : List Piece → List Char
  | [] => []
  | piece :: rest => piece.chars ++ charsOf rest
end

mutual
def names : Piece → List String
  | letter _ => []
  | bar => []
  | symbol name _ => [name]
  | group body => namesOf body

def namesOf : List Piece → List String
  | [] => []
  | piece :: rest => piece.names ++ namesOf rest
end

def runs {α : Type} : List (Option α) → List (List α)
  | [] => [[]]
  | none :: rest => [] :: runs rest
  | some a :: rest =>
    match runs rest with
    | [] => [[a]]
    | run :: others => (a :: run) :: others

def letterOutcome (c : Char) : Outcome :=
  .ok (.text (String.ofList [c]))

mutual
/-- What becomes of a piece; a bar is a gap between two chains. -/
def outcome (params : Params) : Piece → Option Outcome
  | letter c => some (letterOutcome c)
  | bar => none
  | symbol name wildcard => some (Pattern.symbolOutcome params name wildcard)
  | group body => some (Pattern.groupOutcome (Pattern.runScope (runs (outcomes params body))))

def outcomes (params : Params) : List Piece → List (Option Outcome)
  | [] => []
  | piece :: rest => piece.outcome params :: outcomes params rest
end

theorem charsOf_append (a b : List Piece) : charsOf (a ++ b) = charsOf a ++ charsOf b := by
  induction a with
  | nil => rfl
  | cons piece rest ih => simp [charsOf, ih]

theorem charsOf_letters (cs : List Char) : charsOf (cs.map letter) = cs := by
  induction cs with
  | nil => rfl
  | cons c rest ih => simp [charsOf, chars, ih]

theorem namesOf_append (a b : List Piece) : namesOf (a ++ b) = namesOf a ++ namesOf b := by
  induction a with
  | nil => rfl
  | cons piece rest ih => simp [namesOf, ih]

theorem namesOf_letters (cs : List Char) : namesOf (cs.map letter) = [] := by
  induction cs with
  | nil => rfl
  | cons c rest ih => simp [namesOf, names, ih]

theorem outcomes_append (params : Params) (a b : List Piece) :
    outcomes params (a ++ b) = outcomes params a ++ outcomes params b := by
  induction a with
  | nil => rfl
  | cons piece rest ih => simp [outcomes, ih]

theorem outcomes_letters (params : Params) (cs : List Char) :
    outcomes params (cs.map letter) = (cs.map letterOutcome).map some := by
  induction cs with
  | nil => rfl
  | cons c rest ih => simp [outcomes, outcome, ih]

variable {α : Type}

theorem runs_ne_nil (xs : List (Option α)) : runs xs ≠ [] := by
  cases xs with
  | nil => simp [runs]
  | cons x rest =>
    cases x with
    | none => simp [runs]
    | some a =>
      simp only [runs]
      split <;> simp

theorem runs_some (xs : List α) : runs (xs.map some) = [xs] := by
  induction xs with
  | nil => rfl
  | cons a rest ih => simp [runs, ih]

/-- Lists one after the other: the last run of the first goes on in the first run of the second. -/
theorem runs_append (xs ys : List (Option α)) :
    runs (xs ++ ys) = Pattern.joinChains (runs xs) (runs ys) := by
  induction xs with
  | nil =>
    cases h : runs ys with
    | nil => exact absurd h (runs_ne_nil ys)
    | cons run others => simp [runs, h, Pattern.joinChains]
  | cons x rest ih =>
    cases h : runs rest with
    | nil => exact absurd h (runs_ne_nil rest)
    | cons run others =>
      cases x with
      | none => simp [runs, ih, h, Pattern.joinChains]
      | some a =>
        simp only [List.cons_append, runs, ih, h]
        cases others with
        | nil =>
          cases hy : runs ys with
          | nil => exact absurd hy (runs_ne_nil ys)
          | cons => simp [Pattern.joinChains]
        | cons => simp [Pattern.joinChains]

theorem runs_append_gap (xs ys : List (Option α)) :
    runs (xs ++ none :: ys) = runs xs ++ runs ys := by
  induction xs with
  | nil => rfl
  | cons x rest ih =>
    cases x with
    | none => simp [runs, ih]
    | some a =>
      cases h : runs rest with
      | nil => exact absurd h (runs_ne_nil rest)
      | cons run others => simp [runs, ih, h]

end Piece

namespace Pattern

mutual
def pieces : Pattern → List Piece
  | literal text => text.toList.map .letter
  | symbol name wildcard => [.symbol name wildcard]
  | group body => [.group body.pieces]
  | concat left right => left.pieces ++ right.pieces
  | alternation children => piecesOf children

def piecesOf : List Pattern → List Piece
  | [] => []
  | [child] => child.pieces
  | child :: rest => child.pieces ++ .bar :: piecesOf rest
end

mutual
theorem charsOf_pieces : (p : Pattern) → Piece.charsOf p.pieces = p.chars
  | literal text => by simp [pieces, chars, Piece.charsOf_letters]
  | symbol _ _ => by simp [pieces, chars, Piece.charsOf, Piece.chars]
  | group body => by simp [pieces, chars, Piece.charsOf, Piece.chars, charsOf_pieces body]
  | concat left right => by
    simp [pieces, chars, Piece.charsOf_append, charsOf_pieces left, charsOf_pieces right]
  | alternation children => by simp [pieces, chars, charsOf_piecesOf children]

theorem charsOf_piecesOf : (ps : List Pattern) → Piece.charsOf (piecesOf ps) = charsOf ps
  | [] => rfl
  | [child] => by simp [piecesOf, charsOf, charsOf_pieces child]
  | child :: next :: rest => by
    simp [piecesOf, charsOf, Piece.charsOf_append, Piece.charsOf, Piece.chars,
      charsOf_pieces child, charsOf_piecesOf (next :: rest)]
end

mutual
theorem namesOf_pieces : (p : Pattern) → Piece.namesOf p.pieces = p.symbolNames
  | literal text => by simp [pieces, symbolNames, Piece.namesOf_letters]
  | symbol _ _ => by simp [pieces, symbolNames, Piece.namesOf, Piece.names]
  | group body => by
    simp [pieces, symbolNames, Piece.namesOf, Piece.names, namesOf_pieces body]
  | concat left right => by
    simp [pieces, symbolNames, Piece.namesOf_append, namesOf_pieces left, namesOf_pieces right]
  | alternation children => by simp [pieces, symbolNames, namesOf_piecesOf children]

theorem namesOf_piecesOf : (ps : List Pattern) →
    Piece.namesOf (piecesOf ps) = symbolNamesOf ps
  | [] => rfl
  | [child] => by simp [piecesOf, symbolNamesOf, namesOf_pieces child]
  | child :: next :: rest => by
    rw [symbolNamesOf, ← namesOf_piecesOf (next :: rest)]
    simp [piecesOf, Piece.namesOf_append, Piece.namesOf, Piece.names, namesOf_pieces child]
end

mutual
/-- No literal is empty, and no alternation is. -/
def Full : Pattern → Prop
  | literal text => text ≠ ""
  | symbol _ _ => True
  | group body => body.Full
  | concat left right => left.Full ∧ right.Full
  | alternation children => children ≠ [] ∧ FullAll children

def FullAll : List Pattern → Prop
  | [] => True
  | child :: rest => child.Full ∧ FullAll rest
end

/-- Chains that cannot be told apart, neither alone nor behind another chain. -/
structure SameChain (a b : List Outcome) : Prop where
  left : a ≠ []
  right : b ≠ []
  run : runChain a = runChain b
  add : ∀ start, addAll start a = addAll start b

theorem SameChain.refl {a : List Outcome} (nonempty : a ≠ []) : SameChain a a :=
  ⟨nonempty, nonempty, rfl, fun _ => rfl⟩

theorem SameChain.append {a b c d : List Outcome} (front : SameChain a b) (back : SameChain c d) :
    SameChain (a ++ c) (b ++ d) := by
  have backs : (fun sum => addAll sum c) = fun sum => addAll sum d := funext back.add
  refine ⟨by simp [front.left], by simp [front.right], ?_, ?_⟩
  · rw [runChain_append front.left, runChain_append front.right, front.run, backs]
  · intro start
    rw [addAll_append, addAll_append, front.add, backs]

theorem sameChains_join {as bs cs ds : List (List Outcome)} (front : List.Forall₂ SameChain as bs)
    (back : List.Forall₂ SameChain cs ds) :
    List.Forall₂ SameChain (joinChains as cs) (joinChains bs ds) := by
  induction front with
  | nil => exact back
  | cons head tail ih =>
    cases tail with
    | nil =>
      cases back with
      | nil => exact .cons head .nil
      | cons first rest => exact .cons (head.append first) rest
    | cons next others => exact .cons head ih

theorem runScope_congr {as bs : List (List Outcome)} (same : List.Forall₂ SameChain as bs) :
    runScope as = runScope bs := by
  cases same with
  | nil => rfl
  | cons head tail =>
    simp only [runScope, head.run]
    congr 1
    funext start
    induction tail generalizing start with
    | nil => rfl
    | cons next _ ih => simp only [List.foldlM_cons, next.run, ih]

theorem add_text (a : Operand) (t : String) : a.add (.text t) = .text (a.toText ++ t) := by
  cases a <;> rfl

theorem addAll_letters (s : String) (cs : List Char) :
    addAll (.text s) (cs.map Piece.letterOutcome) = .ok (.text (s ++ String.ofList cs)) := by
  induction cs generalizing s with
  | nil => simp [addAll, pure, Except.pure]
  | cons c rest ih =>
    have step : addAll (.text s) ((c :: rest).map Piece.letterOutcome) =
        addAll (.text (s ++ String.ofList [c])) (rest.map Piece.letterOutcome) := rfl
    rw [step, ih, String.append_assoc, ← String.ofList_append]
    rfl

/-- A text is added like its letters one by one, also to a number before it. -/
theorem sameChain_letters {s : String} (nonempty : s ≠ "") :
    SameChain [.ok (.text s)] (s.toList.map Piece.letterOutcome) := by
  obtain ⟨c, rest, split⟩ : ∃ c rest, s.toList = c :: rest := by
    cases h : s.toList with
    | nil => exact absurd (String.toList_eq_nil_iff.mp h) nonempty
    | cons c rest => exact ⟨c, rest, rfl⟩
  have whole : s = String.ofList [c] ++ String.ofList rest := by
    rw [← String.ofList_append, List.singleton_append, ← split, String.ofList_toList]
  refine ⟨by simp, by simp [split], ?_, ?_⟩
  · have run : runChain (s.toList.map Piece.letterOutcome) =
        addAll (.text (String.ofList [c])) (rest.map Piece.letterOutcome) := by
      rw [split]; rfl
    rw [run, addAll_letters, ← whole]
    rfl
  · intro start
    have add : addAll start (s.toList.map Piece.letterOutcome) =
        addAll (start.add (.text (String.ofList [c]))) (rest.map Piece.letterOutcome) := by
      rw [split]; rfl
    rw [add, add_text, addAll_letters, String.append_assoc, ← whole, ← add_text]
    rfl

mutual
theorem sameChains_pieces (params : Params) : (p : Pattern) → p.Full →
    List.Forall₂ SameChain (p.outcomes params) (Piece.runs (Piece.outcomes params p.pieces))
  | literal text, full => by
    rw [pieces, Piece.outcomes_letters, Piece.runs_some, outcomes]
    exact .cons (sameChain_letters full) .nil
  | symbol name wildcard, _ => .cons (.refl (by simp)) .nil
  | group body, full => by
    have inside := runScope_congr (sameChains_pieces params body full)
    simp only [outcomes, inside]
    exact .cons (.refl (by simp)) .nil
  | concat left right, full => by
    rw [pieces, Piece.outcomes_append, Piece.runs_append, outcomes]
    exact sameChains_join (sameChains_pieces params left full.1)
      (sameChains_pieces params right full.2)
  | alternation children, full => sameChains_piecesOf params children full.1 full.2

theorem sameChains_piecesOf (params : Params) : (ps : List Pattern) → ps ≠ [] → FullAll ps →
    List.Forall₂ SameChain (outcomesOf params ps) (Piece.runs (Piece.outcomes params (piecesOf ps)))
  | [], nonempty, _ => absurd rfl nonempty
  | [child], _, full => by
    simpa [outcomesOf, piecesOf] using sameChains_pieces params child full.1
  | child :: next :: rest, _, full => by
    rw [piecesOf, Piece.outcomes_append, Piece.outcomes, Piece.outcome, Piece.runs_append_gap,
      outcomesOf]
    · exact List.rel_append (sameChains_pieces params child full.1)
        (sameChains_piecesOf params (next :: rest) (by simp) full.2)
    · simp
end

theorem evaluate_of_pieces {p q : Pattern} (hp : p.Full) (hq : q.Full)
    (same : p.pieces = q.pieces) (params : Params) : p.evaluate params = q.evaluate params := by
  have left := runScope_congr (sameChains_pieces params p hp)
  have right := runScope_congr (sameChains_pieces params q hq)
  unfold evaluate value
  rw [left, right, same]

end Pattern

end RouteBindings
