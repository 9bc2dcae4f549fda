import RouteBindings.Pattern.Reading

/-! Reading a pattern by recursive descent: one function for each phrase of the grammar, each of
which begins where the one before it has stopped. It has two faults more than the one pass over the
lexemes, for a term that begins where none can. They never come up, and the two readers answer the
same. -/

namespace RouteBindings.Pattern

/-- What the one pass over the lexemes answers from here on. -/
def Reader.answer (size : Nat) (r : Reader) (ls : List PlacedLexeme) :
    Except PatternFault Pattern :=
  match r.run ls with
  | .error fault => .error fault
  | .ok r => r.finish size

theorem Reader.answer_cons {size : Nat} (r : Reader) (here : PlacedLexeme)
    (rest : List PlacedLexeme) :
    r.answer size (here :: rest) =
      match r.step here with
      | .error fault => .error fault
      | .ok r => r.answer size rest := by
  rw [answer, run]
  cases r.step here <;> rfl

namespace Descent

inductive Cause where
  | pattern (cause : PatternCause)
  | unexpectedEnd
  | unexpectedLexeme
  deriving DecidableEq, Repr

def Cause.message : Cause → String
  | pattern cause => cause.message
  | unexpectedEnd => "unexpected end of pattern"
  | unexpectedLexeme => "unexpected token"

structure Fault where
  offset : Nat
  cause : Cause
  deriving DecidableEq, Repr

def Fault.ofPattern (fault : PatternFault) : Fault :=
  ⟨fault.offset, .pattern fault.cause⟩

def place (size : Nat) : List PlacedLexeme → Nat
  | [] => size
  | here :: _ => here.offset

def Stops : List PlacedLexeme → Prop
  | [] => True
  | here :: _ => here.lexeme = .bar ∨ here.lexeme = .closing

def Closes : List PlacedLexeme → Prop
  | [] => True
  | here :: _ => here.lexeme = .closing

/-- A phrase at the front of these lexemes, and what it leaves. It takes a lexeme at least, which is
why the descent ends. -/
structure Phrase (stop : List PlacedLexeme → Prop) (ls : List PlacedLexeme) where
  pattern : Pattern
  rest : List PlacedLexeme
  shorter : rest.length < ls.length
  stopped : stop rest

/-- The terms of a sequence, with those read before. The newest comes first, and each has taken a
lexeme at least. -/
structure Terms (before : List Pattern) (ls : List PlacedLexeme) where
  terms : List Pattern
  rest : List PlacedLexeme
  shorter : terms.length + rest.length ≤ before.length + ls.length
  stopped : Stops rest

structure Sequences (ls : List PlacedLexeme) where
  before : List Pattern
  last : Pattern
  rest : List PlacedLexeme
  shorter : rest.length ≤ ls.length
  stopped : Closes rest

theorem sequence?_eq_none_iff {terms : List Pattern} : sequence? terms = none ↔ terms = [] := by
  cases terms <;> simp [sequence?]

theorem length_pos_of_sequence {terms : List Pattern} {p : Pattern}
    (made : sequence? terms = some p) : 0 < terms.length := by
  apply List.length_pos_iff.mpr
  intro nothing
  rw [sequence?_eq_none_iff.mpr nothing] at made
  cases made

mutual
def term (size : Nat) : (ls : List PlacedLexeme) → Except Fault (Phrase (fun _ => True) ls)
  | [] => .error ⟨size, .unexpectedEnd⟩
  | ⟨offset, lexeme⟩ :: rest =>
    match lexeme with
    | .slash => .ok ⟨.literal "/", rest, Nat.lt_succ_self _, trivial⟩
    | .dot => .ok ⟨.literal ".", rest, Nat.lt_succ_self _, trivial⟩
    | .literal text => .ok ⟨.literal text, rest, Nat.lt_succ_self _, trivial⟩
    | .symbol name => .ok ⟨.symbol name false, rest, Nat.lt_succ_self _, trivial⟩
    | .star name => .ok ⟨.symbol name true, rest, Nat.lt_succ_self _, trivial⟩
    | .opening => do
      let body ← expressions size rest
      match inside : body.rest with
      | ⟨_, .closing⟩ :: after =>
        .ok ⟨.group body.pattern, after, by
          have := body.shorter
          simp only [inside, List.length_cons] at this ⊢
          omega, trivial⟩
      | _ => .error ⟨offset, .pattern .unclosed⟩
    | .closing | .bar => .error ⟨offset, .unexpectedLexeme⟩
termination_by ls => (ls.length, 0)

def terms (size : Nat) (before : List Pattern) :
    (ls : List PlacedLexeme) → Except Fault (Terms before ls)
  | [] => .ok ⟨before, [], Nat.le_refl _, trivial⟩
  | here :: rest =>
    if stop : here.lexeme = .bar ∨ here.lexeme = .closing then
      .ok ⟨before, here :: rest, Nat.le_refl _, stop⟩
    else do
      let first ← term size (here :: rest)
      have shorter : first.rest.length < rest.length + 1 := first.shorter
      let others ← terms size (first.pattern :: before) first.rest
      .ok ⟨others.terms, others.rest, by
        have := others.shorter
        simp only [List.length_cons] at *
        omega, others.stopped⟩
termination_by ls => (ls.length, 1)

def sequence (size : Nat) (ls : List PlacedLexeme) : Except Fault (Phrase Stops ls) := do
  let read ← terms size [] ls
  match made : sequence? read.terms with
  | none => .error ⟨place size read.rest, .pattern .emptyExpression⟩
  | some p =>
    .ok ⟨p, read.rest, by
      have := length_pos_of_sequence made
      have := read.shorter
      simp only [List.length_nil] at this
      omega, read.stopped⟩
termination_by (ls.length, 2)

def sequences (size : Nat) (before : List Pattern) (last : Pattern) :
    (ls : List PlacedLexeme) → Stops ls → Except Fault (Sequences ls)
  | [], _ => .ok ⟨before, last, [], Nat.le_refl _, trivial⟩
  | here :: rest, stop =>
    if bar : here.lexeme = .bar then do
      let next ← sequence size rest
      have shorter : next.rest.length < rest.length + 1 := Nat.lt_succ_of_lt next.shorter
      let others ← sequences size (last :: before) next.pattern next.rest next.stopped
      .ok ⟨others.before, others.last, others.rest,
        Nat.le_trans others.shorter (Nat.le_of_lt shorter), others.stopped⟩
    else .ok ⟨before, last, here :: rest, Nat.le_refl _, stop.resolve_left bar⟩
termination_by ls => (ls.length, 0)

def expressions (size : Nat) (ls : List PlacedLexeme) : Except Fault (Phrase Closes ls) := do
  let first ← sequence size ls
  have shorter := first.shorter
  let all ← sequences size [] first.pattern first.rest first.stopped
  let whole := if all.before.isEmpty then all.last
    else .alternation (all.before.reverse ++ [all.last])
  .ok ⟨whole, all.rest, Nat.lt_of_le_of_lt all.shorter shorter, all.stopped⟩
termination_by (ls.length, 3)
end

def parse (text : String) : Except Fault Pattern :=
  match Lexeme.scan text with
  | .error fault => .error (.ofPattern fault)
  | .ok lexemes => do
    let whole ← expressions (Lexeme.byteCount text.toList) lexemes
    match whole.rest with
    | [] => .ok whole.pattern
    | here :: _ => .error ⟨here.offset, .pattern .unbalanced⟩

def answer (size : Nat) (r : Reader) (ls : List PlacedLexeme) : Except Fault Pattern :=
  (r.answer size ls).mapError .ofPattern

variable {size : Nat}

theorem answer_cons (r : Reader) (here : PlacedLexeme) (rest : List PlacedLexeme) :
    answer size r (here :: rest) =
      match r.step here with
      | .error fault => .error (.ofPattern fault)
      | .ok r => answer size r rest := by
  rw [answer, Reader.answer_cons]
  cases r.step here <;> rfl

/-- A level without pending terms cannot be left. -/
theorem answer_empty {ls : List PlacedLexeme} (stop : Stops ls) (before : List Pattern)
    (suspended : List (Nat × Level)) :
    answer size ⟨⟨before, []⟩, suspended⟩ ls =
      .error ⟨place size ls, .pattern .emptyExpression⟩ := by
  cases ls with
  | nil => rfl
  | cons here rest =>
    obtain ⟨offset, lexeme⟩ := here
    rw [answer_cons]
    rcases stop with rfl | rfl <;> rfl

/-- Where no term begins, only the sequence counts that the pending terms make. -/
theorem answer_of_sequence {ls : List PlacedLexeme} (stop : Stops ls) {before terms : List Pattern}
    {p : Pattern} (made : sequence? terms = some p) (suspended : List (Nat × Level)) :
    answer size ⟨⟨before, terms⟩, suspended⟩ ls = answer size ⟨⟨before, [p]⟩, suspended⟩ ls := by
  have alone : sequence? [p] = some p := rfl
  cases ls with
  | nil => simp [answer, Reader.answer, Reader.run, Reader.finish, Level.close?, made, alone]
  | cons here rest =>
    obtain ⟨offset, lexeme⟩ := here
    rw [answer_cons, answer_cons]
    rcases stop with rfl | rfl <;> simp [Reader.step, Level.close?, made, alone]

/-- Where a parenthesis is closed, only the pattern counts that the level makes. -/
theorem answer_of_close {ls : List PlacedLexeme} (stop : Closes ls) {level : Level} {p : Pattern}
    (made : level.close? = some p) (suspended : List (Nat × Level)) :
    answer size ⟨level, suspended⟩ ls = answer size ⟨⟨[], [p]⟩, suspended⟩ ls := by
  have alone : Level.close? ⟨[], [p]⟩ = some p := rfl
  cases ls with
  | nil => simp [answer, Reader.answer, Reader.run, Reader.finish, made, alone]
  | cons here rest =>
    obtain ⟨offset, lexeme⟩ := here
    obtain rfl : lexeme = .closing := stop
    rw [answer_cons, answer_cons]
    simp [Reader.step, made, alone]

/- Each function of the descent is one stretch of the pass: what the pass answers before a phrase
is what it answers behind it, if the descent reads the phrase, and the fault of the descent
otherwise. -/
mutual
theorem answer_term : ∀ (ls : List PlacedLexeme), ¬ Stops ls → ∀ r : Reader,
    answer size r ls = term size ls >>= fun t => answer size (r.term t.pattern) t.rest
  | [], begins, _ => absurd trivial begins
  | ⟨_, .slash⟩ :: _, _, _ => by rw [term, answer_cons]; rfl
  | ⟨_, .dot⟩ :: _, _, _ => by rw [term, answer_cons]; rfl
  | ⟨_, .literal _⟩ :: _, _, _ => by rw [term, answer_cons]; rfl
  | ⟨_, .symbol _⟩ :: _, _, _ => by rw [term, answer_cons]; rfl
  | ⟨_, .star _⟩ :: _, _, _ => by rw [term, answer_cons]; rfl
  | ⟨offset, .opening⟩ :: rest, _, r => by
    rw [term, answer_cons]
    simp only [Reader.step]
    rw [answer_expressions rest ((offset, r.level) :: r.suspended), bind_assoc]
    congr 1
    funext body
    obtain ⟨p, after, shorter, closes⟩ := body
    have made : Level.close? ⟨[], [p]⟩ = some p := rfl
    cases after with
    | nil => rfl
    | cons here after =>
      obtain ⟨offset, lexeme⟩ := here
      obtain rfl : lexeme = .closing := closes
      rw [answer_cons]
      simp only [Reader.step, made]
      rfl
  | ⟨_, .closing⟩ :: _, begins, _ => absurd (.inr rfl) begins
  | ⟨_, .bar⟩ :: _, begins, _ => absurd (.inl rfl) begins
termination_by ls => (ls.length, 0)

theorem answer_terms (sequences before : List Pattern) (suspended : List (Nat × Level)) :
    ∀ ls : List PlacedLexeme,
      answer size ⟨⟨sequences, before⟩, suspended⟩ ls = terms size before ls >>= fun read =>
        answer size ⟨⟨sequences, read.terms⟩, suspended⟩ read.rest
  | [] => by rw [terms]; rfl
  | here :: rest => by
    rw [terms]
    split
    · rfl
    · rename_i begins
      rw [answer_term (here :: rest) begins, bind_assoc]
      congr 1
      funext first
      have shorter : first.rest.length < rest.length + 1 := first.shorter
      rw [Reader.term, Level.push,
        answer_terms sequences (first.pattern :: before) suspended first.rest, bind_assoc]
      rfl
termination_by ls => (ls.length, 1)

theorem answer_sequence (before : List Pattern) (suspended : List (Nat × Level))
    (ls : List PlacedLexeme) :
    answer size ⟨⟨before, []⟩, suspended⟩ ls = sequence size ls >>= fun s =>
      answer size ⟨⟨before, [s.pattern]⟩, suspended⟩ s.rest := by
  rw [sequence, answer_terms before [] suspended ls, bind_assoc]
  congr 1
  funext read
  split
  · rename_i nothing
    rw [sequence?_eq_none_iff.mp nothing, answer_empty read.stopped]
    rfl
  · rename_i p made
    rw [answer_of_sequence read.stopped made]
    rfl
termination_by (ls.length, 2)

theorem answer_sequences (before : List Pattern) (last : Pattern) (suspended : List (Nat × Level)) :
    ∀ (ls : List PlacedLexeme) (stop : Stops ls),
      answer size ⟨⟨before, [last]⟩, suspended⟩ ls =
        sequences size before last ls stop >>= fun all =>
          answer size ⟨⟨all.before, [all.last]⟩, suspended⟩ all.rest
  | [], _ => by rw [sequences]; rfl
  | here :: rest, stop => by
    rw [sequences]
    split
    · rename_i bar
      obtain ⟨offset, lexeme⟩ := here
      obtain rfl : lexeme = .bar := bar
      have made : sequence? [last] = some last := rfl
      rw [answer_cons]
      simp only [Reader.step, made]
      rw [answer_sequence (last :: before) suspended rest, bind_assoc]
      congr 1
      funext next
      have shorter : next.rest.length < rest.length + 1 := Nat.lt_succ_of_lt next.shorter
      rw [answer_sequences (last :: before) next.pattern suspended next.rest next.stopped,
        bind_assoc]
      rfl
    · rfl
termination_by ls => (ls.length, 0)

theorem answer_expressions (ls : List PlacedLexeme) (suspended : List (Nat × Level)) :
    answer size ⟨.start, suspended⟩ ls = expressions size ls >>= fun whole =>
      answer size ⟨⟨[], [whole.pattern]⟩, suspended⟩ whole.rest := by
  rw [expressions, Level.start, answer_sequence [] suspended ls, bind_assoc]
  congr 1
  funext first
  have shorter := first.shorter
  rw [answer_sequences [] first.pattern suspended first.rest first.stopped, bind_assoc]
  congr 1
  funext all
  rw [answer_of_close all.stopped (p := if all.before.isEmpty then all.last
    else .alternation (all.before.reverse ++ [all.last])) rfl]
  rfl
termination_by (ls.length, 3)
end

/-- The descent answers what the one pass does, and has only its faults. -/
theorem parse_eq (text : String) :
    parse text = (Pattern.parse text).mapError .ofPattern := by
  unfold parse Pattern.parse
  cases Lexeme.scan text with
  | error fault => rfl
  | ok lexemes =>
    change _ = answer (Lexeme.byteCount text.toList) Reader.start lexemes
    dsimp only
    rw [Reader.start, answer_expressions]
    congr 1
    funext whole
    obtain ⟨p, after, shorter, closes⟩ := whole
    have made : Level.close? ⟨[], [p]⟩ = some p := rfl
    cases after with
    | nil => rfl
    | cons here after =>
      obtain ⟨offset, lexeme⟩ := here
      obtain rfl : lexeme = .closing := closes
      rw [answer_cons]
      simp only [Reader.step, made]
      rfl

theorem exists_of_error {text : String} {fault : Fault} (failed : parse text = .error fault) :
    ∃ known, fault = .ofPattern known := by
  rw [parse_eq] at failed
  cases answered : Pattern.parse text with
  | ok p =>
    rw [answered] at failed
    cases failed
  | error known =>
    rw [answered] at failed
    cases failed
    exact ⟨known, rfl⟩

theorem message_ofPattern (known : PatternFault) :
    (Fault.ofPattern known).cause.message ≠ Cause.unexpectedEnd.message ∧
      (Fault.ofPattern known).cause.message ≠ Cause.unexpectedLexeme.message := by
  obtain ⟨offset, cause⟩ := known
  change cause.message ≠ _ ∧ cause.message ≠ _
  cases cause <;> decide

end Descent

end RouteBindings.Pattern
