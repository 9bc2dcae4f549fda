import RouteBindings.Proofs.Pattern.Reprinting

/-! Which patterns parsing can give. A derivation nests sequences to the right, keeps alternations
to the top and to groups, and never puts side by side two literals that could have been read as
one. Every pattern of this shape is read from a text in which all characters of its literals are
escaped. -/

namespace RouteBindings.Pattern

def IsAlternation : Pattern → Prop
  | alternation _ => True
  | _ => False

/-- What stands side by side in a sequence is no literal that goes on. -/
def Parted : Pattern → Pattern → Prop
  | literal s, literal t => IsMark s ∨ IsMark t
  | _, _ => True

mutual
def Canonical : Pattern → Prop
  | literal text => text ≠ ""
  | symbol name _ => Grammar.NameRun name.toList
  | group body => body.Canonical
  | concat left right =>
    left.Item ∧ left.Canonical ∧ ¬ right.IsAlternation ∧ right.Canonical ∧ Parted left right.first
  | alternation children => 2 ≤ children.length ∧ CanonicalBranches children

def CanonicalBranches : List Pattern → Prop
  | [] => True
  | child :: rest => ¬ child.IsAlternation ∧ child.Canonical ∧ CanonicalBranches rest
end

namespace Grammar

theorem Term.parted {cs mid rest : List Char} {p q : Pattern} (before : Term cs mid p)
    (after : Term mid rest q) : Parted p q := by
  cases q with
  | symbol | group | concat | alternation => cases p <;> trivial
  | literal text =>
    cases before with
    | slash => exact .inl (.inl rfl)
    | dot => exact .inl (.inr rfl)
    | literal longest _ =>
      have ends := (ends_of_longest_literal longest).resolve_right after.ne_backslash
      exact .inr (after.isMark_of_ends ends)
    | symbol | wildcard | group => trivial

/- Each phrase is followed to its tree. Only `Sequence` needs to know what comes next. -/
mutual
theorem Term.canonical : ∀ {cs rest : List Char} {p : Pattern}, Term cs rest p →
    p.Item ∧ p.Canonical
  | _, _, _, .slash _ => ⟨trivial, by simp [Canonical]⟩
  | _, _, _, .dot _ => ⟨trivial, by simp [Canonical]⟩
  | _, _, _, .literal longest spelled => by
    refine ⟨trivial, fun empty => spelled.text_ne_nil longest.1.1 ?_⟩
    simpa using congrArg String.toList empty
  | _, _, _, .symbol longest => ⟨trivial, by simpa [Canonical] using longest.1⟩
  | _, _, _, .wildcard longest => ⟨trivial, by simpa [Canonical] using longest.1⟩
  | _, _, _, .group inside => ⟨trivial, inside.canonical⟩

theorem Sequence.canonical : ∀ {cs rest : List Char} {p : Pattern}, Sequence cs rest p →
    ¬ p.IsAlternation ∧ p.Canonical
  | _, _, p, .single term => by
    obtain ⟨item, canonical⟩ := term.canonical
    refine ⟨?_, canonical⟩
    cases p with
    | alternation => exact item.elim
    | literal | symbol | group | concat => exact id
  | _, _, _, .concat term tail => by
    obtain ⟨item, front⟩ := term.canonical
    obtain ⟨single, back⟩ := tail.canonical
    obtain ⟨_, next⟩ := tail.exists_first
    exact ⟨id, item, front, single, back, term.parted next⟩

theorem Sequences.canonical : ∀ {cs rest : List Char} {ps : List Pattern}, Sequences cs rest ps →
    CanonicalBranches ps
  | _, _, _, .single sequence => ⟨sequence.canonical.1, sequence.canonical.2, trivial⟩
  | _, _, _, .cons sequence tail =>
    ⟨sequence.canonical.1, sequence.canonical.2, tail.canonical⟩

theorem Expressions.canonical : ∀ {cs rest : List Char} {p : Pattern}, Expressions cs rest p →
    p.Canonical
  | _, _, _, .sequence sequence => sequence.canonical.2
  | _, _, _, .alternation sequences several => ⟨several, sequences.canonical⟩
end

end Grammar

mutual
def escaped : Pattern → List Char
  | literal text =>
    if IsMark text then text.toList else text.toList.flatMap fun c => ['\\', c]
  | symbol name wildcard => (if wildcard then '*' else ':') :: name.toList
  | group body => '(' :: body.escaped ++ [')']
  | concat left right => left.escaped ++ right.escaped
  | alternation children => escapedBranches children

def escapedBranches : List Pattern → List Char
  | [] => []
  | [child] => child.escaped
  | child :: rest => child.escaped ++ '|' :: escapedBranches rest
end

theorem exists_escaped_first (p : Pattern) : ∃ tail, p.escaped = p.first.escaped ++ tail := by
  cases p with
  | concat left right => exact ⟨right.escaped, rfl⟩
  | literal | symbol | group | alternation => exact ⟨[], (List.append_nil _).symm⟩

theorem Canonical.first {p : Pattern} (canonical : p.Canonical) (single : ¬ p.IsAlternation) :
    p.first.Item ∧ p.first.Canonical := by
  cases p with
  | literal | symbol | group => exact ⟨trivial, canonical⟩
  | concat left right => exact ⟨canonical.1, canonical.2.1⟩
  | alternation => exact absurd trivial single

/-- An escaped text begins with a special character, and this is a backslash only for a literal. -/
theorem exists_escaped_head {p : Pattern} (item : p.Item) (canonical : p.Canonical) :
    ∃ c tail, p.escaped = c :: tail ∧ Lexeme.isSpecial c = true ∧
      (c = '\\' → ∃ text, p = .literal text ∧ ¬ IsMark text) := by
  cases p with
  | symbol name wildcard =>
    cases wildcard
    · exact ⟨':', name.toList, rfl, rfl, by simp⟩
    · exact ⟨'*', name.toList, rfl, rfl, by simp⟩
  | group body => exact ⟨'(', body.escaped ++ [')'], rfl, rfl, by simp⟩
  | concat => exact item.elim
  | alternation => exact item.elim
  | literal text =>
    by_cases mark : IsMark text
    · rcases mark with rfl | rfl
      · exact ⟨'/', [], rfl, rfl, by simp⟩
      · exact ⟨'.', [], rfl, rfl, by simp⟩
    · cases split : text.toList with
      | nil => exact absurd (String.toList_eq_nil_iff.mp split) canonical
      | cons c rest =>
        refine ⟨'\\', c :: rest.flatMap fun c => ['\\', c], ?_, rfl, fun _ => ⟨text, rfl, mark⟩⟩
        rw [escaped, if_neg mark, split]
        rfl

namespace Grammar

theorem Spelled.of_nil {text : List Char} (spelled : Spelled [] text) : text = [] := by
  cases spelled
  rfl

theorem spelled_escapes (text : List Char) : Spelled (text.flatMap fun c => ['\\', c]) text := by
  induction text with
  | nil => exact .nil
  | cons c rest ih => exact .escaped ih

/-- What comes next in an escaped sequence ends the term before it. -/
theorem halts_escaped {p q : Pattern} (parted : Parted p q.first) (canonical : q.Canonical)
    (single : ¬ q.IsAlternation) (after : List Char) : Halts p (q.escaped ++ after) := by
  obtain ⟨item, canonical⟩ := canonical.first single
  obtain ⟨c, tail, begins, special, backslash⟩ := exists_escaped_head item canonical
  obtain ⟨more, split⟩ := exists_escaped_first q
  rw [split, begins, List.cons_append, List.cons_append]
  cases p with
  | group | concat | alternation => trivial
  | symbol =>
    intro d hd
    cases Option.mem_some.mp hd
    exact Piece.not_name_of_special special
  | literal text =>
    by_cases escape : c = '\\'
    · obtain ⟨text', same, inner⟩ := backslash escape
      rw [same] at parted
      rcases parted with (slash | dot) | mark
      · exact .inl slash
      · exact .inr (.inl dot)
      · exact absurd mark inner
    · exact .inr (.inr (Piece.ends_cons special escape))

/- A canonical pattern is derived from its escaped text, in front of anything that ends it. -/
mutual
theorem term_escaped : ∀ p : Pattern, p.Item → p.Canonical → ∀ {after : List Char},
    Halts p after → Term (p.escaped ++ after) after p
  | .literal text, _, canonical, after, halts => by
    by_cases mark : IsMark text
    · rw [escaped, if_pos mark]
      rcases mark with rfl | rfl
      · exact .slash after
      · exact .dot after
    · have ends : EndsLiteral after := by
        rcases halts with slash | dot | ends
        · exact absurd (.inl slash) mark
        · exact absurd (.inr dot) mark
        · exact ends
      have spelled := spelled_escapes text.toList
      have nonempty : (text.toList.flatMap fun c => ['\\', c]) ≠ [] := by
        intro empty
        rw [empty] at spelled
        exact canonical (String.toList_eq_nil_iff.mp spelled.of_nil)
      have term := Term.literal (longest_literal_of_ends nonempty spelled ends) spelled
      rw [String.ofList_toList] at term
      rw [escaped, if_neg mark]
      exact term
  | .symbol name wildcard, _, canonical, after, halts => by
    have longest := longest_name_iff.mpr ⟨canonical, halts⟩
    have named := Term.symbol longest
    have starred := Term.wildcard longest
    rw [String.ofList_toList] at named starred
    cases wildcard
    · exact named
    · exact starred
  | .group body, _, canonical, after, _ => by
    have closed : EndsLiteral (')' :: after) := Piece.ends_cons rfl (by decide)
    have inside := expressions_escaped body canonical closed
    simpa [escaped] using Term.group inside
  | .concat _ _, item, _, _, _ => item.elim
  | .alternation _, item, _, _, _ => item.elim

theorem sequence_escaped : ∀ p : Pattern, ¬ p.IsAlternation → p.Canonical → ∀ {after : List Char},
    EndsLiteral after → Sequence (p.escaped ++ after) after p
  | .concat left right, _, ⟨item, front, single, back, parted⟩, after, ends => by
    have halts := halts_escaped parted back single after
    rw [escaped, List.append_assoc]
    exact .concat (term_escaped left item front halts) (sequence_escaped right single back ends)
  | .literal text, _, canonical, _, ends =>
    .single (term_escaped (.literal text) trivial canonical (halts_of_ends _ ends))
  | .symbol name wildcard, _, canonical, _, ends =>
    .single (term_escaped (.symbol name wildcard) trivial canonical (halts_of_ends _ ends))
  | .group body, _, canonical, _, ends =>
    .single (term_escaped (.group body) trivial canonical (halts_of_ends _ ends))
  | .alternation _, single, _, _, _ => absurd trivial single

theorem sequences_escaped : ∀ ps : List Pattern, ps ≠ [] → CanonicalBranches ps →
    ∀ {after : List Char}, EndsLiteral after → Sequences (escapedBranches ps ++ after) after ps
  | [], nonempty, _, _, _ => absurd rfl nonempty
  | [child], _, ⟨single, canonical, _⟩, _, ends =>
    .single (sequence_escaped child single canonical ends)
  | child :: next :: rest, _, ⟨single, canonical, others⟩, after, ends => by
    have tail := sequences_escaped (next :: rest) (List.cons_ne_nil _ _) others ends
    rw [escapedBranches, List.append_assoc]
    · exact .cons (sequence_escaped child single canonical (Piece.ends_cons rfl (by decide))) tail
    · simp

theorem expressions_escaped : ∀ p : Pattern, p.Canonical → ∀ {after : List Char},
    EndsLiteral after → Expressions (p.escaped ++ after) after p
  | .alternation children, ⟨several, branches⟩, after, ends => by
    have nonempty : children ≠ [] := by
      rintro rfl
      exact absurd several (by decide)
    exact .alternation (sequences_escaped children nonempty branches ends) several
  | .literal text, canonical, _, ends =>
    .sequence (sequence_escaped (.literal text) id canonical ends)
  | .symbol name wildcard, canonical, _, ends =>
    .sequence (sequence_escaped (.symbol name wildcard) id canonical ends)
  | .group body, canonical, _, ends =>
    .sequence (sequence_escaped (.group body) id canonical ends)
  | .concat left right, canonical, _, ends =>
    .sequence (sequence_escaped (.concat left right) id canonical ends)
end

end Grammar

mutual
/-- What needs no escape has no backslash in print. -/
theorem plain_of_legible : ∀ p : Pattern, p.Canonical → p.Legible → '\\' ∉ p.chars
  | literal text, _, legible => by
    rcases legible with rfl | rfl | ordinary
    · decide
    · decide
    · intro member
      have special := ordinary '\\' member
      cases special
  | symbol name wildcard, canonical, _ => by
    intro member
    rcases List.mem_cons.mp member with mark | member
    · cases wildcard <;> cases mark
    · have named := canonical.2 '\\' member
      cases named
  | group body, canonical, legible => by
    simpa [chars] using plain_of_legible body canonical legible
  | concat left right, ⟨_, front, _, back, _⟩, legible => by
    rw [chars, List.mem_append, not_or]
    exact ⟨plain_of_legible left front legible.1, plain_of_legible right back legible.2.1⟩
  | alternation children, canonical, legible =>
    plain_of_legibleAll children canonical.2 legible

theorem plain_of_legibleAll : ∀ ps : List Pattern, CanonicalBranches ps → LegibleAll ps →
    '\\' ∉ charsOf ps
  | [], _, _ => List.not_mem_nil
  | [child], canonical, legible => plain_of_legible child canonical.2.1 legible.1
  | child :: next :: rest, ⟨_, canonical, others⟩, legible => by
    rw [charsOf_cons child (List.cons_ne_nil _ _), List.mem_append, not_or, List.mem_cons, not_or]
    exact ⟨plain_of_legible child canonical legible.1, by decide,
      plain_of_legibleAll (next :: rest) others legible.2⟩
end

open Grammar

/-- Some text is parsed to the pattern exactly if it is canonical. -/
theorem exists_parse_iff_canonical (t : Pattern) : (∃ s, parse s = .ok t) ↔ t.Canonical := by
  constructor
  · rintro ⟨s, parsed⟩
    exact (derives_of_parse parsed).canonical
  · intro canonical
    refine ⟨String.ofList t.escaped, parse_of_derives ?_⟩
    have derived := expressions_escaped t canonical Piece.ends_nil
    rw [List.append_nil] at derived
    rw [Derives, String.toList_ofList]
    exact derived

/-- A pattern is printed as it was written, character for character, if nothing in it was escaped,
and only then. -/
theorem written_eq_iff_plain {s : String} {t : Pattern} (parsed : parse s = .ok t) :
    t.written = s ↔ '\\' ∉ s.toList := by
  have derived := derives_of_parse parsed
  constructor
  · rintro rfl
    rw [written, String.toList_ofList]
    exact plain_of_legible t derived.canonical (derived.legible (by simp [written]))
  · intro plain
    obtain ⟨here, split, unescaped⟩ := derived.exists_unescaped
    rw [List.append_nil] at split
    rw [split] at plain
    rw [written, ← unescaped.eq_of_plain plain, ← split, String.ofList_toList]

/-- Two texts of one pattern, of which only the text without the escape is printed again. -/
theorem written_eq_iff_plain_group :
    ∃ t, parse "/x(.:b|c)" = .ok t ∧ parse "/x(.:b|\\c)" = .ok t ∧
      t.written = "/x(.:b|c)" ∧ t.written ≠ "/x(.:b|\\c)" := by
  let format : Pattern := .alternation [.concat (.literal ".") (.symbol "b" false), .literal "c"]
  let t : Pattern := .concat (.literal "/") (.concat (.literal "x") (.group format))
  have plain : parse "/x(.:b|c)" = .ok t := by decide +kernel
  have escaped : parse "/x(.:b|\\c)" = .ok t := by decide +kernel
  exact ⟨t, plain, escaped, (written_eq_iff_plain plain).mpr (by decide),
    (not_congr (written_eq_iff_plain escaped)).mpr (by decide)⟩

end RouteBindings.Pattern
