import RouteBindings.Proofs.Pattern.Clean
import RouteBindings.Proofs.Pattern.Parsing

/-! Patterns that are read back from their written form. What is read back is another tree in
general: literals are cut at slashes and dots, literals side by side are one, and sequences nest to
the right. It has the same pieces, and so the same symbols and the same value. -/

namespace RouteBindings

namespace Piece

open Pattern (Full FullAll piecesOf)
open Pattern.Grammar

/-- These pieces are what a parenthesis closes over. -/
def Derivable (body : List Piece) : Prop :=
  ∀ rest, ∃ p : Pattern, Expressions (charsOf body ++ ')' :: rest) (')' :: rest) p ∧
    p.pieces = body ∧ p.Full

theorem ends_nil : EndsLiteral [] := by
  intro c hc
  cases hc

theorem ends_cons {c : Char} {rest : List Char} (special : Lexeme.isSpecial c = true)
    (other : c ≠ '\\') : EndsLiteral (c :: rest) := by
  intro d hd
  cases Option.mem_some.mp hd
  exact ⟨special, other⟩

theorem not_name_of_special {c : Char} (special : Lexeme.isSpecial c = true) :
    Lexeme.isNameChar c = false := by
  simp only [Lexeme.isSpecial, Bool.or_eq_true, decide_eq_true_eq] at special
  rcases special with ((((((rfl | rfl) | rfl) | rfl) | rfl) | rfl) | rfl) | rfl <;> decide

theorem endsName_of_endsLiteral {rest : List Char} (ends : EndsLiteral rest) : EndsName rest := by
  intro c hc
  exact not_name_of_special (ends c hc).1

theorem special_of_mark {c : Char} (plain : c ∉ Pattern.marks) :
    Lexeme.isSpecial c = false ∨ c = '/' ∨ c = '.' := by
  simp only [Pattern.marks, List.mem_cons, List.not_mem_nil, or_false, not_or] at plain
  by_cases slash : c = '/'
  · exact .inr (.inl slash)
  · by_cases dot : c = '.'
    · exact .inr (.inr dot)
    · exact .inl (by simp [Lexeme.isSpecial, plain, slash, dot])

/-- The letters in front that one literal takes. -/
theorem exists_letters (ps : List Piece) :
    ∃ (cs : List Char) (after : List Piece), ps = cs.map letter ++ after ∧
      (∀ c ∈ cs, Lexeme.isSpecial c = false) ∧
      ∀ c, letter c ∈ after.head? → Lexeme.isSpecial c = true := by
  induction ps with
  | nil => exact ⟨[], [], rfl, by simp, by simp⟩
  | cons piece rest ih =>
    by_cases h : ∃ c, piece = letter c ∧ Lexeme.isSpecial c = false
    · obtain ⟨c, rfl, ordinary⟩ := h
      obtain ⟨cs, after, rfl, all, ends⟩ := ih
      refine ⟨c :: cs, after, rfl, ?_, ends⟩
      intro d hd
      rcases List.mem_cons.mp hd with rfl | hd
      · exact ordinary
      · exact all d hd
    · refine ⟨[], piece :: rest, rfl, by simp, ?_⟩
      intro c hc
      cases Option.mem_some.mp hc
      cases special : Lexeme.isSpecial c with
      | false => exact absurd ⟨c, rfl, special⟩ h
      | true => rfl

theorem spelled_self {cs : List Char} (all : ∀ c ∈ cs, Lexeme.isSpecial c = false) :
    Spelled cs cs := by
  induction cs with
  | nil => exact .nil
  | cons c rest ih => exact .plain (all c (by simp)) (ih fun d hd => all d (by simp [hd]))

/-- What these pieces print, up to a stop, does not prolong a literal. -/
theorem endsLiteral_chars {ps : List Piece} {rest : List Char} (plain : PlainAll ps)
    (ends : ∀ c, letter c ∈ ps.head? → Lexeme.isSpecial c = true) (stops : EndsLiteral rest) :
    EndsLiteral (charsOf ps ++ rest) := by
  cases ps with
  | nil => exact stops
  | cons piece after =>
    cases piece with
    | letter c =>
      have special := ends c rfl
      rcases special_of_mark plain.1 with ordinary | rfl | rfl
      · rw [special] at ordinary
        cases ordinary
      · exact ends_cons rfl (by decide)
      · exact ends_cons rfl (by decide)
    | bar => exact ends_cons rfl (by decide)
    | symbol name wildcard => cases wildcard <;> exact ends_cons rfl (by decide)
    | group body => exact ends_cons rfl (by decide)

theorem endsName_chars {name : String} {wildcard : Bool} {ps : List Piece} {rest : List Char}
    (apart : ∀ y ∈ ps.head?, Apart (symbol name wildcard) y) (stops : EndsLiteral rest) :
    EndsName (charsOf ps ++ rest) := by
  cases ps with
  | nil => exact endsName_of_endsLiteral stops
  | cons piece after =>
    cases piece with
    | letter c =>
      intro d hd
      cases Option.mem_some.mp hd
      exact apart (letter c) rfl
    | bar => exact endsName_of_endsLiteral (ends_cons rfl (by decide))
    | symbol name wildcard =>
      cases wildcard <;> exact endsName_of_endsLiteral (ends_cons rfl (by decide))
    | group body => exact endsName_of_endsLiteral (ends_cons rfl (by decide))

/-- The first term that these pieces print, and the pieces behind it. -/
theorem exists_term {ps : List Piece} {rest : List Char} (nonempty : ps ≠ [])
    (plain : PlainAll ps) (framed : (bar :: (ps ++ [bar])).IsChain Apart)
    (inside : ∀ body, group body ∈ ps → Derivable body) (stops : EndsLiteral rest) :
    ∃ (p : Pattern) (after : List Piece), ps = p.pieces ++ after ∧ p.pieces ≠ [] ∧ p.Full ∧
      Term (charsOf ps ++ rest) (charsOf after ++ rest) p := by
  cases ps with
  | nil => exact absurd rfl nonempty
  | cons piece after =>
    cases piece with
    | letter c =>
      obtain ⟨cs, later, split, all, ends⟩ := exists_letters (letter c :: after)
      cases cs with
      | nil =>
        have special := ends c (by rw [← List.nil_append later, ← List.map_nil, ← split]; rfl)
        rcases special_of_mark plain.1 with ordinary | rfl | rfl
        · rw [special] at ordinary
          cases ordinary
        · exact ⟨.literal "/", after, rfl, by simp [Pattern.pieces], by simp [Full], .slash _⟩
        · exact ⟨.literal ".", after, rfl, by simp [Pattern.pieces], by simp [Full], .dot _⟩
      | cons d cs =>
        rw [split] at plain ⊢
        have longest := longest_literal_of_ends (List.cons_ne_nil d cs) (spelled_self all)
          (endsLiteral_chars (plainAll_append.mp plain).2 ends stops)
        refine ⟨.literal (String.ofList (d :: cs)), later, by simp [Pattern.pieces],
          by simp [Pattern.pieces], by simp [Full], ?_⟩
        rw [charsOf_append, charsOf_letters, List.append_assoc]
        exact .literal longest (spelled_self all)
    | bar => exact absurd framed.rel id
    | symbol name wildcard =>
      have apart : ∀ y ∈ after.head?, Apart (symbol name wildcard) y := by
        intro y hy
        have chain : (symbol name wildcard :: (after ++ [bar])).IsChain Apart := framed.tail
        exact chain.rel_head? (by simp [Option.mem_def.mp hy])
      have longest := longest_name_iff.mpr ⟨plain.1, endsName_chars apart stops⟩
      refine ⟨.symbol name wildcard, after, rfl, by simp [Pattern.pieces], trivial, ?_⟩
      rw [charsOf, List.append_assoc]
      cases wildcard with
      | false => simpa [chars] using Term.symbol longest
      | true => simpa [chars] using Term.wildcard longest
    | group body =>
      obtain ⟨p, derived, rfl, full⟩ := inside body (by simp) (charsOf after ++ rest)
      refine ⟨.group p, after, rfl, by simp [Pattern.pieces], full, ?_⟩
      have term := Term.group derived
      simpa [charsOf, chars] using term

theorem sequences_prepend {cs mid rest : List Char} {p q : Pattern} {ps : List Pattern}
    (term : Term cs mid p) (sequences : Sequences mid rest (q :: ps)) :
    Sequences cs rest (.concat p q :: ps) := by
  cases sequences with
  | single sequence => exact .single (.concat term sequence)
  | cons sequence tail => exact .cons (.concat term sequence) tail

/-- Pieces between bars are sequences of the grammar. The recursion drops the first term, and the
bar behind it if there is one. -/
theorem exists_sequences {ps : List Piece} {rest : List Char} (nonempty : ps ≠ [])
    (plain : PlainAll ps) (framed : Framed ps)
    (inside : ∀ body, group body ∈ ps → Derivable body) (stops : EndsLiteral rest) :
    ∃ q qs, Sequences (charsOf ps ++ rest) rest (q :: qs) ∧ piecesOf (q :: qs) = ps ∧
      FullAll (q :: qs) := by
  obtain ⟨p, after, split, present, full, term⟩ := exists_term nonempty plain framed inside stops
  have shorter : after.length < ps.length := by
    have := List.length_pos_of_ne_nil present
    rw [split, List.length_append]
    omega
  have later : (after ++ [bar]).IsChain Apart := by
    rw [Framed, split, List.append_assoc, ← List.cons_append] at framed
    exact framed.right_of_append
  have plain' : PlainAll after := by
    rw [split] at plain
    exact (plainAll_append.mp plain).2
  have inside' : ∀ body, group body ∈ after → Derivable body := by
    intro body member
    exact inside body (by rw [split]; exact List.mem_append_right _ member)
  cases after with
  | nil => exact ⟨p, [], .single (.single term), by simp [split, piecesOf], full, trivial⟩
  | cons piece more =>
    by_cases h : piece = bar
    · subst h
      have nonempty' : more ≠ [] := by
        rintro rfl
        exact later.rel
      obtain ⟨q, qs, derived, same, fulls⟩ := exists_sequences nonempty' plain'.2 later
        (fun body member => inside' body (List.mem_cons_of_mem _ member)) stops
      refine ⟨p, q :: qs, .cons (.single term) derived, ?_, full, fulls⟩
      rw [piecesOf, same, split]
      simp
    · obtain ⟨q, qs, derived, same, fulls⟩ := exists_sequences (by simp) plain'
        (later.cons fun y hy => by cases Option.mem_some.mp hy; exact apart_bar_left h)
        inside' stops
      refine ⟨.concat p q, qs, sequences_prepend term derived, ?_, ⟨full, fulls.1⟩, fulls.2⟩
      rw [split, ← same]
      cases qs with
      | nil => simp [piecesOf, Pattern.pieces]
      | cons next others => simp [piecesOf, Pattern.pieces]
termination_by ps.length

theorem exists_expressions {ps : List Piece} {rest : List Char} (plain : PlainAll ps)
    (framed : Framed ps) (inside : ∀ body, group body ∈ ps → Derivable body)
    (stops : EndsLiteral rest) :
    ∃ p : Pattern, Expressions (charsOf ps ++ rest) rest p ∧ p.pieces = ps ∧ p.Full := by
  have nonempty : ps ≠ [] := by
    rintro rfl
    exact framed.rel
  obtain ⟨q, qs, derived, same, full⟩ := exists_sequences nonempty plain framed inside stops
  cases qs with
  | nil =>
    cases derived with
    | single sequence => exact ⟨q, .sequence sequence, same, full.1⟩
    | cons _ tail => cases tail
  | cons next others =>
    exact ⟨.alternation (q :: next :: others), .alternation derived (by simp), same, by simp, full⟩

mutual
theorem derivable_group : (piece : Piece) → piece.Plain →
    ∀ body, group body = piece → Derivable body
  | letter _, _, _, h => by cases h
  | bar, _, _, h => by cases h
  | symbol _ _, _, _, h => by cases h
  | group inner, plain, body, h => by
    cases h
    intro rest
    exact exists_expressions plain.2 plain.1 (derivable_of_plain inner plain.2)
      (ends_cons rfl (by decide))

theorem derivable_of_plain : (ps : List Piece) → PlainAll ps →
    ∀ body, group body ∈ ps → Derivable body
  | [], _, _, member => by cases member
  | piece :: rest, plain, body, member => by
    rcases List.mem_cons.mp member with h | h
    · exact derivable_group piece plain.1 body h
    · exact derivable_of_plain rest plain.2 body h
end

end Piece

namespace Pattern

/-- A clean pattern is read back from its written form, up to how its pieces are put together. -/
theorem exists_parse_written {t : Pattern} (clean : t.Clean) :
    ∃ u, parse t.written = .ok u ∧ u.pieces = t.pieces ∧ u.Full := by
  have plain := plain_of_clean t clean.1
  obtain ⟨u, derived, same, full⟩ := Piece.exists_expressions plain
    (framed_of_clean clean.1 clean.2) (Piece.derivable_of_plain _ plain) Piece.ends_nil
  refine ⟨u, Grammar.parse_of_derives ?_, same, full⟩
  rw [charsOf_pieces, List.append_nil] at derived
  simpa [Grammar.Derives, written] using derived

end Pattern

end RouteBindings
