import RouteBindings.Proofs.Pattern.Lexing

/-! Parsing a pattern accepts exactly the texts that the grammar derives, and answers the tree that
they derive. The levels of the reader are read as derivations that lack their ends (`ReaderReads`),
which shows that an answer derives; the converse follows each derivation through the reader. -/

namespace RouteBindings.Pattern.Grammar

open Lexeme (isNameChar isSpecial spanLiteral unescape? scanFrom byteCount)

inductive Finished : List Char → List Char → List Pattern → Prop
  | nil (cs) : Finished cs cs []
  | bar {start mid rest p ps} : Finished start mid ps → Sequence mid ('|' :: rest) p →
      Finished start rest (p :: ps)

inductive Pending : List Char → List Char → List Pattern → Prop
  | nil (cs) : Pending cs cs []
  | term {start mid rest p ps} : Pending start mid ps → Term mid rest p →
      Pending start rest (p :: ps)

def LevelReads (start here : List Char) (level : Level) : Prop :=
  ∃ mid, Finished start mid level.sequences ∧ Pending mid here level.terms

/-- What the reader has made of the text between `whole` and `here`. A suspended level has read
everything before its open parenthesis. -/
inductive ReaderReads (whole : List Char) : List Char → Reader → Prop
  | outer {here level} : LevelReads whole here level → ReaderReads whole here ⟨level, []⟩
  | inner {start here outer level suspended} (offset : Nat) :
      ReaderReads whole ('(' :: start) ⟨outer, suspended⟩ → LevelReads start here level →
      ReaderReads whole here ⟨level, (offset, outer) :: suspended⟩

theorem levelReads_start (cs : List Char) : LevelReads cs cs Level.start :=
  ⟨cs, .nil cs, .nil cs⟩

theorem LevelReads.push {start mid rest : List Char} {level : Level} {p : Pattern}
    (reads : LevelReads start mid level) (term : Term mid rest p) :
    LevelReads start rest (level.push p) := by
  obtain ⟨bar, finished, pending⟩ := reads
  exact ⟨bar, finished, .term pending term⟩

theorem ReaderReads.term {whole mid rest : List Char} {r : Reader} {p : Pattern}
    (reads : ReaderReads whole mid r) (term : Term mid rest p) :
    ReaderReads whole rest (r.term p) := by
  cases reads with
  | outer level => exact .outer (level.push term)
  | inner offset outer level => exact .inner offset outer (level.push term)

theorem Pending.sequence {start mid rest : List Char} {before : List Pattern} {q : Pattern}
    (pending : Pending start mid before) (last : Sequence mid rest q) :
    Sequence start rest (before.foldl (fun right left => .concat left right) q) := by
  induction pending generalizing q with
  | nil => exact last
  | term _ term ih => exact ih (.concat term last)

theorem Pending.sequence_of_some {start rest : List Char} {terms : List Pattern} {p : Pattern}
    (pending : Pending start rest terms) (h : sequence? terms = some p) :
    Sequence start rest p := by
  cases pending with
  | nil => cases h
  | term before last => exact Option.some.inj h ▸ before.sequence (.single last)

theorem Finished.sequences {start mid rest : List Char} {ps qs : List Pattern}
    (finished : Finished start mid ps) (last : Sequences mid rest qs) :
    Sequences start rest (ps.reverse ++ qs) := by
  induction finished generalizing qs with
  | nil => exact last
  | bar _ sequence ih =>
    rw [List.reverse_cons, List.append_assoc]
    exact ih (.cons sequence last)

theorem LevelReads.expressions {start rest : List Char} {level : Level} {p : Pattern}
    (reads : LevelReads start rest level) (closed : level.close? = some p) :
    Expressions start rest p := by
  obtain ⟨mid, finished, pending⟩ := reads
  obtain ⟨sequences, terms⟩ := level
  simp only [Level.close?, Option.map_eq_some_iff] at closed
  obtain ⟨last, hlast, rfl⟩ := closed
  have sequence := pending.sequence_of_some hlast
  cases finished with
  | nil => exact .sequence sequence
  | bar before first =>
    have all := (Finished.bar before first).sequences (.single sequence)
    exact .alternation all (by simp)

/-- One lexeme takes the reader from the text before it to the text behind it. -/
theorem ReaderReads.step {whole cs rest : List Char} {r r' : Reader} {here : PlacedLexeme}
    (reads : ReaderReads whole cs r) (spells : Spells cs rest here.lexeme)
    (stepped : r.step here = .ok r') : ReaderReads whole rest r' := by
  obtain ⟨offset, l⟩ := here
  cases spells with
  | slash => cases stepped; exact reads.term (.slash rest)
  | dot => cases stepped; exact reads.term (.dot rest)
  | literal longest spelled => cases stepped; exact reads.term (.literal longest spelled)
  | symbol longest => cases stepped; exact reads.term (.symbol longest)
  | star longest => cases stepped; exact reads.term (.wildcard longest)
  | opening => cases stepped; exact .inner offset reads (levelReads_start rest)
  | bar =>
    simp only [Reader.step] at stepped
    split at stepped
    · cases stepped
    · rename_i sequence hsequence
      cases stepped
      cases reads with
      | outer level =>
        obtain ⟨mid, finished, pending⟩ := level
        exact .outer ⟨rest, .bar finished (pending.sequence_of_some hsequence), .nil rest⟩
      | inner offset outer level =>
        obtain ⟨mid, finished, pending⟩ := level
        exact .inner offset outer ⟨rest, .bar finished (pending.sequence_of_some hsequence), .nil rest⟩
  | closing =>
    simp only [Reader.step] at stepped
    split at stepped
    · cases stepped
    · cases stepped
    · rename_i body _ _ _ hbody hsuspended
      cases stepped
      cases reads with
      | outer => cases hsuspended
      | inner _ outer level =>
        cases hsuspended
        exact outer.term (.group (level.expressions hbody))

theorem ReaderReads.run {whole cs : List Char} {offset : Nat} {ls : List PlacedLexeme}
    {r r' : Reader} (reads : ReaderReads whole cs r) (placed : Placed offset cs ls)
    (ran : r.run ls = .ok r') : ReaderReads whole [] r' := by
  induction placed generalizing r with
  | nil =>
    cases ran
    exact reads
  | cons spells _ ih =>
    simp only [Reader.run] at ran
    split at ran
    · cases ran
    · rename_i stepped
      exact ih (reads.step spells stepped) ran

theorem derives_of_parse {text : String} {p : Pattern} (parsed : parse text = .ok p) :
    Derives text p := by
  unfold parse at parsed
  split at parsed
  · cases parsed
  · rename_i ls scanned
    split at parsed
    · cases parsed
    · rename_i r ran
      have placed := placed_of_scanFrom scanned
      have reads := (ReaderReads.outer (levelReads_start text.toList)).run placed ran
      cases reads with
      | outer level =>
        simp only [Reader.finish] at parsed
        split at parsed
        · cases parsed
        · cases parsed
        · rename_i closed _
          cases parsed
          exact level.expressions closed
      | inner =>
        simp only [Reader.finish] at parsed
        split at parsed
        · cases parsed
        · cases parsed
        · rename_i missing
          cases missing

/-- The reader, somewhere in a text, will answer this pattern. -/
def Answers (cs : List Char) (r : Reader) (p : Pattern) : Prop :=
  ∀ offset size, ∃ ls r', scanFrom offset cs = .ok ls ∧ r.run ls = .ok r' ∧ r'.finish size = .ok p

/-- The step of a lexeme, except that the suspended levels do not say where they were opened. -/
theorem Answers.of_step {cs rest : List Char} {l : Lexeme} {r : Reader} {p : Pattern}
    (spells : Spells cs rest l)
    (answers : ∀ offset, ∃ r', r.step ⟨offset, l⟩ = .ok r' ∧ Answers rest r' p) :
    Answers cs r p := by
  intro offset size
  obtain ⟨r', stepped, answers⟩ := answers offset
  obtain ⟨here, -, scanned⟩ := scanFrom_of_spells spells
  obtain ⟨ls, r'', tail, ran, finished⟩ := answers (offset + byteCount here) size
  refine ⟨⟨offset, l⟩ :: ls, r'', ?_, ?_, finished⟩
  · rw [scanned, tail]; rfl
  · simp only [Reader.run, stepped, ran]

theorem Answers.of_term {cs rest : List Char} {l : Lexeme} {r : Reader} {p q : Pattern}
    (spells : Spells cs rest l) (stepped : ∀ offset, r.step ⟨offset, l⟩ = .ok (r.term q))
    (answers : Answers rest (r.term q) p) : Answers cs r p :=
  .of_step spells fun offset => ⟨r.term q, stepped offset, answers⟩

/- Each derivation is followed from the reader before its phrase to any reader behind it: if that
one answers, so does the first. The terms that are pending before a sequence end up around it. -/
mutual
theorem Term.answers {out : Pattern} : ∀ {cs rest : List Char} {p : Pattern}, Term cs rest p →
    ∀ r : Reader, Answers rest (r.term p) out → Answers cs r out
  | _, _, _, .slash rest, _, h => .of_term (.slash rest) (fun _ => rfl) h
  | _, _, _, .dot rest, _, h => .of_term (.dot rest) (fun _ => rfl) h
  | _, _, _, .literal longest spelled, _, h =>
    .of_term (.literal longest spelled) (fun _ => rfl) h
  | _, _, _, .symbol longest, _, h => .of_term (.symbol longest) (fun _ => rfl) h
  | _, _, _, .wildcard longest, _, h => .of_term (.star longest) (fun _ => rfl) h
  | _, _, _, @Term.group cs rest body inside, r, h => by
    refine .of_step (.opening cs) fun offset => ⟨_, rfl, ?_⟩
    refine inside.answers ((offset, r.level) :: r.suspended) ?_
    intro level closed
    refine .of_step (.closing rest) fun offset' => ⟨r.term (.group body), ?_, h⟩
    simp [Reader.step, closed, Reader.term]

theorem Sequence.answers {out : Pattern} : ∀ {cs rest : List Char} {p : Pattern},
    Sequence cs rest p → ∀ (sequences terms : List Pattern) (suspended : List (Nat × Level)),
    (∀ ps, sequence? ps = some (terms.foldl (fun right left => .concat left right) p) →
      Answers rest ⟨⟨sequences, ps⟩, suspended⟩ out) →
    Answers cs ⟨⟨sequences, terms⟩, suspended⟩ out
  | _, _, p, .single term, sequences, terms, suspended, h =>
    term.answers ⟨⟨sequences, terms⟩, suspended⟩ (h (p :: terms) rfl)
  | _, _, _, @Sequence.concat _ _ _ p _ term tail, sequences, terms, suspended, h =>
    term.answers ⟨⟨sequences, terms⟩, suspended⟩
      (tail.answers sequences (p :: terms) suspended h)

theorem Sequences.answers {out : Pattern} : ∀ {cs rest : List Char} {qs : List Pattern},
    Sequences cs rest qs → ∀ (before : List Pattern) (suspended : List (Nat × Level)),
    (∀ sequences terms last, sequence? terms = some last →
      sequences.reverse ++ [last] = before.reverse ++ qs →
      Answers rest ⟨⟨sequences, terms⟩, suspended⟩ out) →
    Answers cs ⟨⟨before, []⟩, suspended⟩ out
  | _, _, _, .single sequence, before, suspended, h =>
    sequence.answers before [] suspended fun ps hps => h before ps _ hps rfl
  | _, _, _, @Sequences.cons _ mid _ p _ sequence tail, before, suspended, h => by
    refine sequence.answers before [] suspended ?_
    intro ps hps
    refine .of_step (.bar mid) fun offset => ⟨⟨⟨p :: before, []⟩, suspended⟩, ?_, ?_⟩
    · simp only [Reader.step, hps, List.foldl_nil]
    · refine tail.answers (p :: before) suspended ?_
      intro sequences terms last hlast all
      exact h sequences terms last hlast (by simpa using all)

theorem Expressions.answers {out : Pattern} : ∀ {cs rest : List Char} {p : Pattern},
    Expressions cs rest p → ∀ suspended : List (Nat × Level),
    (∀ level : Level, level.close? = some p → Answers rest ⟨level, suspended⟩ out) →
    Answers cs ⟨.start, suspended⟩ out
  | _, _, _, .sequence sequence, suspended, h =>
    sequence.answers [] [] suspended fun ps hps => h ⟨[], ps⟩ (by simp [Level.close?, hps])
  | _, _, _, @Expressions.alternation _ _ ps all several, suspended, h => by
    refine all.answers [] suspended ?_
    intro sequences terms last hlast same
    refine h ⟨sequences, terms⟩ ?_
    have others : sequences ≠ [] := by
      rintro rfl
      rw [show ps = [last] by simpa using same.symm] at several
      exact absurd several (by simp)
    simp [Level.close?, hlast, others, show sequences.reverse ++ [last] = ps by simpa using same]
end

theorem parse_of_derives {text : String} {p : Pattern} (derives : Derives text p) :
    parse text = .ok p := by
  have answers : Answers text.toList Reader.start p := by
    refine Expressions.answers derives [] ?_
    intro level closed offset size
    exact ⟨[], _, by simp [scanFrom], rfl, by simp [Reader.finish, closed]⟩
  obtain ⟨ls, r, scanned, ran, finished⟩ := answers 0 (Lexeme.byteCount text.toList)
  simp only [parse, Lexeme.scan, scanned, ran, finished]

/-- The reader answers a pattern exactly when the grammar derives it, and it derives one at most. -/
theorem parse_exact (text : String) :
    (∀ p, parse text = .ok p ↔ Derives text p) ∧
      ∀ p q, Derives text p → Derives text q → p = q := by
  refine ⟨fun p => ⟨derives_of_parse, parse_of_derives⟩, ?_⟩
  intro p q hp hq
  have same := (parse_of_derives hp).symm.trans (parse_of_derives hq)
  exact Except.ok.inj same

theorem parse_exact_group :
    Derives "(a|:n)" (.group (.alternation [.literal "a", .symbol "n" false])) ∧
      ∀ p, Derives "(a|:n)" p → p = .group (.alternation [.literal "a", .symbol "n" false]) := by
  have scanned : Lexeme.scan "(a|:n)" =
      .ok [⟨0, .opening⟩, ⟨1, .literal "a"⟩, ⟨2, .bar⟩, ⟨3, .symbol "n"⟩, ⟨5, .closing⟩] := by
    simp [Lexeme.scan, scanFrom, spanLiteral, isSpecial, isNameChar, unescape?, Except.map,
      Lexeme.byteCount]
    decide
  have parsed : parse "(a|:n)" =
      .ok (.group (.alternation [.literal "a", .symbol "n" false])) := by
    rw [parse, scanned]
    rfl
  obtain ⟨exact, unique⟩ := parse_exact "(a|:n)"
  have derived := (exact _).mp parsed
  exact ⟨derived, fun p other => unique p _ other derived⟩

end RouteBindings.Pattern.Grammar
