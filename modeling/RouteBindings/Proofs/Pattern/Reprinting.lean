import RouteBindings.Proofs.Pattern.PrintedForm

namespace RouteBindings.Pattern

def first : Pattern → Pattern
  | concat left _ => left
  | p => p

def IsMark (text : String) : Prop :=
  text = "/" ∨ text = "."

instance : DecidablePred IsMark :=
  fun _ => inferInstanceAs (Decidable (_ ∨ _))

/-- A text that is one lexeme as it stands. -/
def IsLexeme (text : String) : Prop :=
  text = "/" ∨ text = "." ∨ ∀ c ∈ text.toList, Lexeme.isSpecial c = false

mutual
/-- Nothing in the pattern needs an escape, neither for itself nor because of the name before it. -/
def Legible : Pattern → Prop
  | literal text => IsLexeme text
  | symbol _ _ => True
  | group body => body.Legible
  | concat left right => left.Legible ∧ right.Legible ∧ ¬ Fuses left right.first
  | alternation children => LegibleAll children

def LegibleAll : List Pattern → Prop
  | [] => True
  | child :: rest => child.Legible ∧ LegibleAll rest
end

theorem exists_chars_first (p : Pattern) : ∃ tail, p.chars = p.first.chars ++ tail := by
  cases p with
  | concat left right => exact ⟨right.chars, rfl⟩
  | literal | symbol | group | alternation => exact ⟨[], (List.append_nil _).symm⟩

theorem charsOf_cons (p : Pattern) {rest : List Pattern} (nonempty : rest ≠ []) :
    charsOf (p :: rest) = p.chars ++ '|' :: charsOf rest := by
  cases rest with
  | nil => exact absurd rfl nonempty
  | cons => rfl

namespace Grammar

theorem Term.first_eq {cs rest : List Char} {p : Pattern} (term : Term cs rest p) :
    p.first = p := by
  cases term <;> rfl

theorem Sequence.exists_first {cs rest : List Char} {p : Pattern} (sequence : Sequence cs rest p) :
    ∃ mid, Term cs mid p.first := by
  cases sequence with
  | single term => exact ⟨rest, term.first_eq.symm ▸ term⟩
  | concat term _ => exact ⟨_, term⟩

theorem Sequences.nonempty {cs rest : List Char} {ps : List Pattern}
    (sequences : Sequences cs rest ps) : ps ≠ [] := by
  cases sequences <;> exact List.cons_ne_nil _ _

theorem Spelled.text_ne_nil {w s : List Char} (spelled : Spelled w s) (nonempty : w ≠ []) :
    s ≠ [] := by
  cases spelled with
  | nil => exact absurd rfl nonempty
  | plain => exact List.cons_ne_nil _ _
  | escaped => exact List.cons_ne_nil _ _

/-- No phrase is a backslash alone. -/
theorem Term.ne_backslash {cs rest : List Char} {p : Pattern} (term : Term cs rest p) :
    cs ≠ ['\\'] := by
  cases term with
  | slash | dot | symbol | wildcard | group => simp
  | @literal written text _ longest spelled =>
    cases written with
    | nil => exact absurd rfl longest.1.1
    | cons c written =>
      intro alone
      obtain ⟨rfl, nothing⟩ := List.cons.inj alone
      obtain ⟨rfl, -⟩ := List.append_eq_nil_iff.mp nothing
      rcases spelled.cons_inv with ⟨ordinary, -⟩ | ⟨-, _, _, _, none, -⟩
      · simp [Lexeme.isSpecial] at ordinary
      · cases none

/-- Behind a literal that has ended comes no other literal but a slash or a dot. -/
theorem Term.isMark_of_ends {cs rest : List Char} {text : String}
    (term : Term cs rest (.literal text)) (ends : EndsLiteral cs) : IsMark text := by
  cases term with
  | slash => exact .inl rfl
  | dot => exact .inr rfl
  | @literal written text _ longest spelled =>
    cases written with
    | nil => exact absurd rfl longest.1.1
    | cons c written =>
      obtain ⟨special, other⟩ := ends c rfl
      rcases spelled.cons_inv with ⟨ordinary, -⟩ | ⟨backslash, -⟩
      · rw [special] at ordinary
        cases ordinary
      · exact absurd backslash other

/-- A term behind a literal is printed with a mark in front. -/
theorem Term.endsLiteral_chars {cs rest : List Char} {p : Pattern} (term : Term cs rest p)
    (ends : EndsLiteral cs) (tail : List Char) : EndsLiteral (p.chars ++ tail) := by
  cases p with
  | symbol name wildcard => cases wildcard <;> exact Piece.ends_cons rfl (by decide)
  | group => exact Piece.ends_cons rfl (by decide)
  | literal text =>
    rcases term.isMark_of_ends ends with rfl | rfl <;> exact Piece.ends_cons rfl (by decide)
  | concat | alternation => cases term

/-- A term that does not fuse with the name before it ends that name in print. -/
theorem Term.endsName_chars {cs rest : List Char} {name : String} {wildcard : Bool} {p : Pattern}
    (term : Term cs rest p) (apart : ¬ Fuses (.symbol name wildcard) p) (tail : List Char) :
    EndsName (p.chars ++ tail) := by
  cases term with
  | slash | dot | symbol | wildcard | group =>
    exact Piece.endsName_of_endsLiteral (Piece.ends_cons rfl (by decide))
  | @literal written text _ longest spelled =>
    rw [Pattern.chars, String.toList_ofList]
    cases text with
    | nil => exact absurd rfl (spelled.text_ne_nil longest.1.1)
    | cons c text =>
      intro d hd
      cases Option.mem_some.mp hd
      cases named : Lexeme.isNameChar c with
      | false => rfl
      | true => exact absurd ⟨c, by rw [String.toList_ofList]; rfl, named⟩ apart

/-- What may follow the printed form of a term, so that nothing there is taken for a part of it. -/
def Halts : Pattern → List Char → Prop
  | .literal text, rest => text = "/" ∨ text = "." ∨ EndsLiteral rest
  | .symbol _ _, rest => EndsName rest
  | _, _ => True

theorem halts_of_ends {rest : List Char} (p : Pattern) (ends : EndsLiteral rest) :
    Halts p rest := by
  cases p with
  | literal => exact .inr (.inr ends)
  | symbol => exact Piece.endsName_of_endsLiteral ends
  | group | concat | alternation => trivial

theorem Term.halts {cs mid rest : List Char} {p q : Pattern} (before : Term cs mid p)
    (after : Term mid rest q) (apart : ¬ Fuses p q) (tail : List Char) :
    Halts p (q.chars ++ tail) := by
  cases before with
  | slash => exact .inl rfl
  | dot => exact .inr (.inl rfl)
  | literal longest spelled =>
    have ends := (ends_of_longest_literal longest).resolve_right after.ne_backslash
    exact .inr (.inr (after.endsLiteral_chars ends tail))
  | symbol => exact after.endsName_chars apart tail
  | wildcard => exact after.endsName_chars apart tail
  | group => trivial

/- Each phrase is derived from its printed form too, in front of anything that ends it. The terms of
a sequence end each other, because they did so in the text that was parsed. -/
mutual
theorem Term.printed : ∀ {cs rest : List Char} {p : Pattern}, Term cs rest p → p.Legible →
    ∀ {after : List Char}, Halts p after → Term (p.chars ++ after) after p
  | _, _, _, .slash _, _, after, _ => .slash after
  | _, _, _, .dot _, _, after, _ => .dot after
  | _, _, _, @Term.literal written text _ longest spelled, legible, after, halts => by
    rcases legible with slash | dot | ordinary
    · rw [slash]
      exact .slash after
    · rw [dot]
      exact .dot after
    · rw [String.toList_ofList] at ordinary
      rcases halts with slash | dot | ends
      · rw [slash]
        exact .slash after
      · rw [dot]
        exact .dot after
      · have nonempty := spelled.text_ne_nil longest.1.1
        have plain := Piece.spelled_self ordinary
        rw [Pattern.chars, String.toList_ofList]
        exact .literal (longest_literal_of_ends nonempty plain ends) plain
  | _, _, _, @Term.symbol name _ longest, _, after, halts => by
    have run := (longest_name_iff.mp longest).1
    simpa [Pattern.chars] using Term.symbol (longest_name_iff.mpr ⟨run, halts⟩)
  | _, _, _, @Term.wildcard name _ longest, _, after, halts => by
    have run := (longest_name_iff.mp longest).1
    simpa [Pattern.chars] using Term.wildcard (longest_name_iff.mpr ⟨run, halts⟩)
  | _, _, _, .group inside, legible, after, _ => by
    have closed : EndsLiteral (')' :: after) := Piece.ends_cons rfl (by decide)
    have body := inside.printed legible closed
    simpa [Pattern.chars] using Term.group body

theorem Sequence.printed : ∀ {cs rest : List Char} {p : Pattern}, Sequence cs rest p →
    p.Legible → ∀ {after : List Char}, EndsLiteral after → Sequence (p.chars ++ after) after p
  | _, _, p, .single term, legible, _, ends => .single (term.printed legible (halts_of_ends p ends))
  | _, _, _, @Sequence.concat _ mid _ p q term tail, legible, after, ends => by
    obtain ⟨hp, hq, apart⟩ := legible
    obtain ⟨_, next⟩ := tail.exists_first
    obtain ⟨more, split⟩ := exists_chars_first q
    have halts := term.halts next apart (more ++ after)
    rw [← List.append_assoc, ← split] at halts
    rw [Pattern.chars, List.append_assoc]
    exact .concat (term.printed hp halts) (tail.printed hq ends)

theorem Sequences.printed : ∀ {cs rest : List Char} {ps : List Pattern}, Sequences cs rest ps →
    LegibleAll ps → ∀ {after : List Char}, EndsLiteral after →
    Sequences (charsOf ps ++ after) after ps
  | _, _, _, .single sequence, legible, _, ends => .single (sequence.printed legible.1 ends)
  | _, _, _, @Sequences.cons _ _ _ p ps sequence tail, legible, after, ends => by
    rw [charsOf_cons p tail.nonempty, List.append_assoc]
    exact .cons (sequence.printed legible.1 (Piece.ends_cons rfl (by decide)))
      (tail.printed legible.2 ends)

theorem Expressions.printed : ∀ {cs rest : List Char} {p : Pattern}, Expressions cs rest p →
    p.Legible → ∀ {after : List Char}, EndsLiteral after → Expressions (p.chars ++ after) after p
  | _, _, _, .sequence sequence, legible, _, ends => .sequence (sequence.printed legible ends)
  | _, _, _, .alternation sequences several, legible, _, ends =>
    .alternation (sequences.printed legible ends) several
end

/-- A text, and what is left of it without the backslashes of some escapes. -/
inductive Unescaped : List Char → List Char → Prop
  | nil : Unescaped [] []
  | kept {c written text} : Unescaped written text → Unescaped (c :: written) (c :: text)
  | escaped {c written text} : Unescaped written text →
      Unescaped ('\\' :: c :: written) (c :: text)

theorem Unescaped.refl (cs : List Char) : Unescaped cs cs := by
  induction cs with
  | nil => exact .nil
  | cons _ _ ih => exact .kept ih

theorem Unescaped.append {w v s t : List Char} (first : Unescaped w s) (second : Unescaped v t) :
    Unescaped (w ++ v) (s ++ t) := by
  induction first with
  | nil => exact second
  | kept _ ih => exact .kept ih
  | escaped _ ih => exact .escaped ih

theorem Unescaped.length_le {w s : List Char} (unescaped : Unescaped w s) :
    s.length ≤ w.length := by
  induction unescaped with
  | nil => exact Nat.le_refl 0
  | kept _ ih => simpa using ih
  | escaped _ ih =>
    simp only [List.length_cons]
    omega

theorem Unescaped.eq_of_plain {w s : List Char} (unescaped : Unescaped w s) (plain : '\\' ∉ w) :
    w = s := by
  induction unescaped with
  | nil => rfl
  | kept _ ih => rw [ih fun member => plain (List.mem_cons_of_mem _ member)]
  | escaped => exact absurd List.mem_cons_self plain

theorem Spelled.unescaped {w s : List Char} (spelled : Spelled w s) : Unescaped w s := by
  induction spelled with
  | nil => exact .nil
  | plain _ _ ih => exact .kept ih
  | escaped _ ih => exact .escaped ih

theorem Spelled.ordinary_of_length {w s : List Char} (spelled : Spelled w s)
    (tight : w.length ≤ s.length) : w = s ∧ ∀ c ∈ s, Lexeme.isSpecial c = false := by
  induction spelled with
  | nil => simp
  | @plain c _ _ ordinary _ ih =>
    obtain ⟨rfl, all⟩ := ih (by simpa using tight)
    exact ⟨rfl, by simpa [ordinary] using all⟩
  | escaped spelled =>
    have := spelled.unescaped.length_le
    simp only [List.length_cons] at tight
    omega

/- What a phrase is printed as is what was read, without the backslashes of its escapes. -/
mutual
theorem Term.exists_unescaped : ∀ {cs rest : List Char} {p : Pattern}, Term cs rest p →
    ∃ here, cs = here ++ rest ∧ Unescaped here p.chars
  | _, _, _, .slash _ => ⟨['/'], rfl, .refl _⟩
  | _, _, _, .dot _ => ⟨['.'], rfl, .refl _⟩
  | _, _, _, @Term.literal written text _ _ spelled =>
    ⟨written, rfl, by rw [Pattern.chars, String.toList_ofList]; exact spelled.unescaped⟩
  | _, _, _, @Term.symbol name _ _ =>
    ⟨':' :: name, rfl, by rw [Pattern.chars, String.toList_ofList]; exact .refl _⟩
  | _, _, _, @Term.wildcard name _ _ =>
    ⟨'*' :: name, rfl, by rw [Pattern.chars, String.toList_ofList]; exact .refl _⟩
  | _, _, _, .group inside => by
    obtain ⟨here, rfl, unescaped⟩ := inside.exists_unescaped
    exact ⟨'(' :: here ++ [')'], by simp, .kept (unescaped.append (.refl [')']))⟩

theorem Sequence.exists_unescaped : ∀ {cs rest : List Char} {p : Pattern}, Sequence cs rest p →
    ∃ here, cs = here ++ rest ∧ Unescaped here p.chars
  | _, _, _, .single term => term.exists_unescaped
  | _, _, _, .concat term tail => by
    obtain ⟨front, rfl, unescaped⟩ := term.exists_unescaped
    obtain ⟨back, rfl, unescaped'⟩ := tail.exists_unescaped
    exact ⟨front ++ back, (List.append_assoc _ _ _).symm, unescaped.append unescaped'⟩

theorem Sequences.exists_unescaped : ∀ {cs rest : List Char} {ps : List Pattern},
    Sequences cs rest ps → ∃ here, cs = here ++ rest ∧ Unescaped here (charsOf ps)
  | _, _, _, .single sequence => sequence.exists_unescaped
  | _, _, _, @Sequences.cons _ _ _ p _ sequence tail => by
    obtain ⟨front, rfl, unescaped⟩ := sequence.exists_unescaped
    obtain ⟨back, rfl, unescaped'⟩ := tail.exists_unescaped
    rw [charsOf_cons p tail.nonempty]
    exact ⟨front ++ '|' :: back, by simp, unescaped.append (.kept unescaped')⟩

theorem Expressions.exists_unescaped : ∀ {cs rest : List Char} {p : Pattern},
    Expressions cs rest p → ∃ here, cs = here ++ rest ∧ Unescaped here p.chars
  | _, _, _, .sequence sequence => sequence.exists_unescaped
  | _, _, _, .alternation sequences _ => sequences.exists_unescaped
end

/-- Printing never takes more characters than were read. -/
theorem length_le_of_unescaped {cs rest printed : List Char}
    (unescaped : ∃ here, cs = here ++ rest ∧ Unescaped here printed) :
    printed.length + rest.length ≤ cs.length := by
  obtain ⟨here, rfl, unescaped⟩ := unescaped
  have := unescaped.length_le
  rw [List.length_append]
  omega

theorem Sequence.exists_tight_first {cs rest : List Char} {p : Pattern}
    (sequence : Sequence cs rest p) (tight : cs.length ≤ p.chars.length + rest.length) :
    ∃ mid, Term cs mid p.first ∧ cs.length ≤ p.first.chars.length + mid.length := by
  cases sequence with
  | single term => exact ⟨rest, term.first_eq.symm ▸ ⟨term, tight⟩⟩
  | concat term tail =>
    have := length_le_of_unescaped tail.exists_unescaped
    simp only [Pattern.chars, List.length_append] at tight
    exact ⟨_, term, by simp only [first]; omega⟩

/-- A literal that was read without escapes does not go on with the name that ended before it. -/
theorem Term.apart_of_tight {cs rest : List Char} {name : String} {wildcard : Bool} {p : Pattern}
    (term : Term cs rest p) (tight : cs.length ≤ p.chars.length + rest.length)
    (ends : EndsName cs) : ¬ Fuses (.symbol name wildcard) p := by
  cases term with
  | slash => exact fun ⟨_, hc, named⟩ => by cases Option.mem_some.mp hc; cases named
  | dot => exact fun ⟨_, hc, named⟩ => by cases Option.mem_some.mp hc; cases named
  | @literal written text _ longest spelled =>
    simp only [Pattern.chars, String.toList_ofList, List.length_append] at tight
    obtain ⟨rfl, -⟩ := spelled.ordinary_of_length (by omega)
    rintro ⟨c, hc, named⟩
    rw [String.toList_ofList] at hc
    have plain := ends c (by rw [List.head?_append, Option.mem_def.mp hc]; rfl)
    rw [named] at plain
    cases plain
  | symbol | wildcard | group => exact id

mutual
theorem Term.legible : ∀ {cs rest : List Char} {p : Pattern}, Term cs rest p →
    cs.length ≤ p.chars.length + rest.length → p.Legible
  | _, _, _, .slash _, _ => .inl rfl
  | _, _, _, .dot _, _ => .inr (.inl rfl)
  | _, _, _, .literal _ spelled, tight => by
    simp only [Pattern.chars, String.toList_ofList, List.length_append] at tight
    obtain ⟨-, ordinary⟩ := spelled.ordinary_of_length (by omega)
    exact .inr (.inr (by rwa [String.toList_ofList]))
  | _, _, _, .symbol _, _ => trivial
  | _, _, _, .wildcard _, _ => trivial
  | _, _, _, .group inside, tight => by
    refine inside.legible ?_
    simp only [Pattern.chars, List.length_cons, List.length_append, List.length_nil] at tight ⊢
    omega

theorem Sequence.legible : ∀ {cs rest : List Char} {p : Pattern}, Sequence cs rest p →
    cs.length ≤ p.chars.length + rest.length → p.Legible
  | _, _, _, .single term, tight => term.legible tight
  | _, _, _, @Sequence.concat _ mid rest p q term tail, tight => by
    have front := length_le_of_unescaped term.exists_unescaped
    have back := length_le_of_unescaped tail.exists_unescaped
    simp only [Pattern.chars, List.length_append] at tight
    have tight' : mid.length ≤ q.chars.length + rest.length := by omega
    refine ⟨term.legible (by omega), tail.legible tight', ?_⟩
    obtain ⟨_, next, tightNext⟩ := tail.exists_tight_first tight'
    cases term with
    | slash | dot | literal | group => exact id
    | symbol longest => exact next.apart_of_tight tightNext (longest_name_iff.mp longest).2
    | wildcard longest => exact next.apart_of_tight tightNext (longest_name_iff.mp longest).2

theorem Sequences.legible : ∀ {cs rest : List Char} {ps : List Pattern}, Sequences cs rest ps →
    cs.length ≤ (charsOf ps).length + rest.length → LegibleAll ps
  | _, _, _, .single sequence, tight => ⟨sequence.legible tight, trivial⟩
  | _, _, _, @Sequences.cons _ _ _ p _ sequence tail, tight => by
    have front := length_le_of_unescaped sequence.exists_unescaped
    have back := length_le_of_unescaped tail.exists_unescaped
    rw [charsOf_cons p tail.nonempty] at tight
    simp only [List.length_cons, List.length_append] at front tight
    exact ⟨sequence.legible (by simp only [List.length_cons]; omega), tail.legible (by omega)⟩

theorem Expressions.legible : ∀ {cs rest : List Char} {p : Pattern}, Expressions cs rest p →
    cs.length ≤ p.chars.length + rest.length → p.Legible
  | _, _, _, .sequence sequence, tight => sequence.legible tight
  | _, _, _, .alternation sequences _, tight => sequences.legible tight
end

end Grammar

open Grammar

theorem parse_written {s : String} {t : Pattern} (parsed : parse s = .ok t) (legible : t.Legible) :
    parse t.written = .ok t := by
  have derived := (derives_of_parse parsed).printed legible Piece.ends_nil
  rw [List.append_nil] at derived
  exact parse_of_derives (by simpa [Derives, written] using derived)

/-- Without escapes a pattern is printed as it was written. In any case it is read back from its
printed form exactly if it is legible; so two legible patterns that are printed alike are one. -/
theorem parse_written_iff_legible {s : String} {t : Pattern} (parsed : parse s = .ok t) :
    ('\\' ∉ s.toList → t.written = s) ∧ (parse t.written = .ok t ↔ t.Legible) ∧
      ∀ s' u, parse s' = .ok u → t.Legible → u.Legible → t.written = u.written → t = u := by
  refine ⟨?_, ⟨?_, parse_written parsed⟩, ?_⟩
  · intro plain
    obtain ⟨here, split, unescaped⟩ := (derives_of_parse parsed).exists_unescaped
    rw [List.append_nil] at split
    rw [written, ← unescaped.eq_of_plain (split ▸ plain), ← split, String.ofList_toList]
  · intro again
    exact (derives_of_parse again).legible (by simp [written])
  · intro s' u parsed' legible legible' same
    have again := parse_written parsed' legible'
    rw [← same, parse_written parsed legible] at again
    exact Except.ok.inj again

theorem parse_of_spelled {written text : List Char} (nonempty : written ≠ [])
    (spelled : Spelled written text) :
    parse (String.ofList written) = .ok (.literal (String.ofList text)) := by
  have term := Term.literal (longest_literal_of_ends nonempty spelled Piece.ends_nil) spelled
  rw [List.append_nil] at term
  exact parse_of_derives (by rw [Derives, String.toList_ofList]; exact .sequence (.single term))

theorem parse_of_name {name : List Char} (run : NameRun name) :
    parse (String.ofList (':' :: name)) = .ok (.symbol (String.ofList name) false) := by
  have ends : EndsName [] := Piece.endsName_of_endsLiteral Piece.ends_nil
  have term := Term.symbol (longest_name_iff.mpr ⟨run, ends⟩)
  rw [List.append_nil] at term
  exact parse_of_derives (by rw [Derives, String.toList_ofList]; exact .sequence (.single term))

/-- The escape of a colon is lost in print, and what was a literal is read as a segment name. -/
theorem written_escaped_colon :
    (¬ ∀ s t, parse s = .ok t → parse t.written = .ok t) ∧
      ¬ ∀ s s' t u, parse s = .ok t → parse s' = .ok u → t.written = u.written → t = u := by
  have escaped : parse "\\:x" = .ok (.literal ":x") :=
    parse_of_spelled (List.cons_ne_nil _ _) (.escaped (.plain (by decide) .nil))
  have named : parse ":x" = .ok (.symbol "x" false) :=
    parse_of_name ⟨List.cons_ne_nil _ _, List.forall_mem_singleton.mpr (by decide)⟩
  constructor
  · intro again
    have other := again _ _ escaped
    rw [show written (.literal ":x") = ":x" from rfl, named] at other
    cases other
  · intro same
    cases same _ _ _ _ escaped named rfl

/-- A letter is escaped so that it does not lengthen the name before it. -/
theorem parse_written_iff_legible_name :
    parse ":a\\b" = .ok (.concat (.symbol "a" false) (.literal "b")) ∧
      parse ":ab" ≠ .ok (.concat (.symbol "a" false) (.literal "b")) := by
  have spelled : Spelled ['\\', 'b'] ['b'] := .escaped .nil
  have ends : EndsName ['\\', 'b'] := by
    intro c hc
    cases Option.mem_some.mp hc
    rfl
  have name : Longest NameRun ['a'] ['\\', 'b'] :=
    longest_name_iff.mpr
      ⟨⟨List.cons_ne_nil _ _, List.forall_mem_singleton.mpr (by decide)⟩, ends⟩
  have letter := Term.literal (longest_literal_of_ends (by simp) spelled Piece.ends_nil) spelled
  have parsed : parse ":a\\b" = .ok (.concat (.symbol "a" false) (.literal "b")) :=
    parse_of_derives (.sequence (.concat (.symbol name) (.single letter)))
  obtain ⟨-, again, -⟩ := parse_written_iff_legible parsed
  refine ⟨parsed, fun same => ?_⟩
  obtain ⟨-, -, apart⟩ := again.mp same
  exact apart ⟨'b', rfl, rfl⟩

end RouteBindings.Pattern
