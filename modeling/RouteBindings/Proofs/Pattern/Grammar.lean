import RouteBindings.Pattern.Reading

/-! The grammar of patterns over characters. Every relation takes a text to what is left of it after
one phrase of the grammar, so a pattern derives from a text that nothing is left of. No lexemes and
no levels of the reader occur here. -/

namespace RouteBindings.Pattern.Grammar

/-- A run at the front of a text that no further character can prolong. -/
def Longest (run : List Char → Prop) (here rest : List Char) : Prop :=
  run here ∧ ∀ more after, rest = more ++ after → run (here ++ more) → more = []

def NameRun (cs : List Char) : Prop :=
  cs ≠ [] ∧ ∀ c ∈ cs, Lexeme.isNameChar c = true

/-- A written literal and the text it stands for. -/
inductive Spelled : List Char → List Char → Prop
  | nil : Spelled [] []
  | plain {c written text} : Lexeme.isSpecial c = false → Spelled written text →
      Spelled (c :: written) (c :: text)
  | escaped {c written text} : Spelled written text → Spelled ('\\' :: c :: written) (c :: text)

def LiteralRun (cs : List Char) : Prop :=
  cs ≠ [] ∧ ∃ text, Spelled cs text

mutual
inductive Term : List Char → List Char → Pattern → Prop
  | slash (rest) : Term ('/' :: rest) rest (.literal "/")
  | dot (rest) : Term ('.' :: rest) rest (.literal ".")
  | literal {written text rest} : Longest LiteralRun written rest → Spelled written text →
      Term (written ++ rest) rest (.literal (String.ofList text))
  | symbol {name rest} : Longest NameRun name rest →
      Term (':' :: (name ++ rest)) rest (.symbol (String.ofList name) false)
  | wildcard {name rest} : Longest NameRun name rest →
      Term ('*' :: (name ++ rest)) rest (.symbol (String.ofList name) true)
  | group {cs rest body} : Expressions cs (')' :: rest) body → Term ('(' :: cs) rest (.group body)

inductive Sequence : List Char → List Char → Pattern → Prop
  | single {cs rest p} : Term cs rest p → Sequence cs rest p
  | concat {cs mid rest p q} : Term cs mid p → Sequence mid rest q →
      Sequence cs rest (.concat p q)

inductive Sequences : List Char → List Char → List Pattern → Prop
  | single {cs rest p} : Sequence cs rest p → Sequences cs rest [p]
  | cons {cs mid rest p ps} : Sequence cs ('|' :: mid) p → Sequences mid rest ps →
      Sequences cs rest (p :: ps)

inductive Expressions : List Char → List Char → Pattern → Prop
  | sequence {cs rest p} : Sequence cs rest p → Expressions cs rest p
  | alternation {cs rest ps} : Sequences cs rest ps → 2 ≤ ps.length →
      Expressions cs rest (.alternation ps)
end

def Derives (text : String) (p : Pattern) : Prop :=
  Expressions text.toList [] p

/- What may follow a run that ends where it does for good. A backslash with nothing after it ends a
literal as well, but no phrase begins with it. -/

def EndsName (rest : List Char) : Prop :=
  ∀ c ∈ rest.head?, Lexeme.isNameChar c = false

def EndsLiteral (rest : List Char) : Prop :=
  ∀ c ∈ rest.head?, Lexeme.isSpecial c = true ∧ c ≠ '\\'

theorem longest_name_iff {name rest : List Char} :
    Longest NameRun name rest ↔ NameRun name ∧ EndsName rest := by
  constructor
  · rintro ⟨run, most⟩
    refine ⟨run, ?_⟩
    intro c hc
    obtain ⟨tail, rfl⟩ : ∃ tail, rest = c :: tail := by
      cases rest with
      | nil => cases hc
      | cons d tail => exact ⟨tail, by rw [Option.mem_some.mp hc]⟩
    cases named : Lexeme.isNameChar c with
    | false => rfl
    | true =>
      have longer : NameRun (name ++ [c]) := by
        refine ⟨by simp, ?_⟩
        intro d hd
        rcases List.mem_append.mp hd with hd | hd
        · exact run.2 d hd
        · rw [List.mem_singleton.mp hd]
          exact named
      cases most [c] tail rfl longer
  · rintro ⟨run, ends⟩
    refine ⟨run, ?_⟩
    rintro more after rfl longer
    cases more with
    | nil => rfl
    | cons c more =>
      have plain := ends c rfl
      rw [longer.2 c (by simp)] at plain
      cases plain

theorem Spelled.append {w v s t : List Char} (first : Spelled w s) (second : Spelled v t) :
    Spelled (w ++ v) (s ++ t) := by
  induction first with
  | nil => exact second
  | plain ordinary _ ih => exact .plain ordinary ih
  | escaped _ ih => exact .escaped ih

/-- Every character of a written literal is ordinary, or the backslash of an escape, or escaped. -/
theorem Spelled.cons_inv {c : Char} {w s : List Char} (h : Spelled (c :: w) s) :
    (Lexeme.isSpecial c = false ∧ ∃ t, Spelled w t) ∨
      (c = '\\' ∧ ∃ d v t, w = d :: v ∧ Spelled v t) := by
  cases h with
  | plain ordinary tail => exact .inl ⟨ordinary, _, tail⟩
  | escaped tail => exact .inr ⟨rfl, _, _, _, rfl, tail⟩

/-- What follows the longer of two spelled literals is spelled too. -/
theorem Spelled.of_append {w v s u : List Char} (first : Spelled w s) (whole : Spelled (w ++ v) u) :
    ∃ t, Spelled v t := by
  induction first generalizing u with
  | nil => exact ⟨u, whole⟩
  | plain ordinary _ ih =>
    rcases whole.cons_inv with ⟨_, t, tail⟩ | ⟨rfl, _⟩
    · exact ih tail
    · simp [Lexeme.isSpecial] at ordinary
  | escaped _ ih =>
    cases whole with
    | plain ordinary _ => simp [Lexeme.isSpecial] at ordinary
    | escaped tail => exact ih tail

theorem longest_literal_of_ends {written text rest : List Char} (nonempty : written ≠ [])
    (spelled : Spelled written text) (ends : EndsLiteral rest) :
    Longest LiteralRun written rest := by
  refine ⟨⟨nonempty, text, spelled⟩, ?_⟩
  rintro more after rfl ⟨_, whole, longer⟩
  cases more with
  | nil => rfl
  | cons c more =>
    obtain ⟨special, other⟩ := ends c rfl
    obtain ⟨_, tail⟩ := spelled.of_append longer
    rcases tail.cons_inv with ⟨ordinary, _⟩ | ⟨rfl, _⟩
    · rw [special] at ordinary
      cases ordinary
    · exact absurd rfl other

/-- Only a backslash that ends the text can stop a literal and yet not end it for good. -/
theorem ends_of_longest_literal {written rest : List Char}
    (longest : Longest LiteralRun written rest) : EndsLiteral rest ∨ rest = ['\\'] := by
  obtain ⟨⟨_, text, spelled⟩, most⟩ := longest
  have prolong : ∀ more after, rest = more ++ after → more ≠ [] → (∃ t, Spelled more t) →
      False := by
    rintro more after split some ⟨t, spelled'⟩
    exact some (most more after split ⟨by simp [some], _, spelled.append spelled'⟩)
  cases rest with
  | nil => exact .inl (by intro c hc; cases hc)
  | cons c tail =>
    cases special : Lexeme.isSpecial c with
    | false => exact (prolong [c] tail rfl (by simp) ⟨_, .plain special .nil⟩).elim
    | true =>
      by_cases backslash : c = '\\'
      · subst backslash
        cases tail with
        | nil => exact .inr rfl
        | cons d tail => exact (prolong ['\\', d] tail rfl (by simp) ⟨_, .escaped .nil⟩).elim
      · exact .inl (by intro d hd; cases Option.mem_some.mp hd; exact ⟨special, backslash⟩)

end RouteBindings.Pattern.Grammar
