import RouteBindings.Proofs.Pattern.Grammar
import RouteBindings.Proofs.Text.Span

namespace RouteBindings.Pattern.Grammar

open Lexeme (isNameChar isSpecial spanLiteral unescape? scanFrom byteCount)

inductive Spells : List Char → List Char → Lexeme → Prop
  | slash (rest) : Spells ('/' :: rest) rest .slash
  | dot (rest) : Spells ('.' :: rest) rest .dot
  | opening (rest) : Spells ('(' :: rest) rest .opening
  | closing (rest) : Spells (')' :: rest) rest .closing
  | bar (rest) : Spells ('|' :: rest) rest .bar
  | literal {written text rest} : Longest LiteralRun written rest → Spelled written text →
      Spells (written ++ rest) rest (.literal (String.ofList text))
  | symbol {name rest} : Longest NameRun name rest →
      Spells (':' :: (name ++ rest)) rest (.symbol (String.ofList name))
  | star {name rest} : Longest NameRun name rest →
      Spells ('*' :: (name ++ rest)) rest (.star (String.ofList name))

/-- The first character of the text cannot stand there: it is a mark without a name behind it, or a
backslash with nothing behind it. -/
inductive Stray : List Char → PatternCause → Prop
  | mark {c rest} : c = ':' ∨ c = '*' → EndsName rest → Stray (c :: rest) .expectedName
  | escape : Stray ['\\'] .danglingEscape

theorem byteCount_cons (c : Char) (cs : List Char) :
    byteCount (c :: cs) = c.utf8Size + byteCount cs :=
  rfl

theorem byteCount_append (cs ds : List Char) :
    byteCount (cs ++ ds) = byteCount cs + byteCount ds := by
  induction cs with
  | nil => simp [byteCount]
  | cons c cs ih => rw [List.cons_append, byteCount_cons, byteCount_cons, ih, Nat.add_assoc]

/-- Counted bytes are the bytes of the text. -/
theorem byteCount_eq (cs : List Char) : byteCount cs = (String.ofList cs).utf8ByteSize := by
  induction cs with
  | nil => rfl
  | cons c cs ih =>
    rw [byteCount_cons, ih, ← List.singleton_append, String.ofList_append,
      String.utf8ByteSize_append, ← String.singleton_eq_ofList, String.utf8ByteSize_singleton]

theorem spanLiteral_of_spelled {written text rest : List Char} (spelled : Spelled written text)
    (ends : EndsLiteral rest) :
    spanLiteral (written ++ rest) = (written, rest) ∧ unescape? written = some text := by
  induction spelled with
  | nil =>
    cases rest with
    | nil => exact ⟨rfl, rfl⟩
    | cons c tail =>
      obtain ⟨special, other⟩ := ends c rfl
      exact ⟨by simp [spanLiteral, special, other], rfl⟩
  | @plain c w t ordinary _ ih =>
    have other : c ≠ '\\' := by
      rintro rfl
      simp [isSpecial] at ordinary
    exact ⟨by simp [spanLiteral, ordinary, other, ih.1], by simp [unescape?, other, ih.2]⟩
  | escaped _ ih => exact ⟨by simp [spanLiteral, ih.1], by simp [unescape?, ih.2]⟩

/-- A literal that the end of the text breaks off. -/
theorem spanLiteral_of_broken {written text : List Char} (spelled : Spelled written text) :
    spanLiteral (written ++ ['\\']) = (written ++ ['\\'], []) ∧
      unescape? (written ++ ['\\']) = none := by
  induction spelled with
  | nil => exact ⟨rfl, rfl⟩
  | @plain c w t ordinary _ ih =>
    have other : c ≠ '\\' := by
      rintro rfl
      simp [isSpecial] at ordinary
    exact ⟨by simp [spanLiteral, ordinary, other, ih.1], by simp [unescape?, other, ih.2]⟩
  | escaped _ ih => exact ⟨by simp [spanLiteral, ih.1], by simp [unescape?, ih.2]⟩

theorem spelled_spanLiteral {cs text : List Char}
    (read : unescape? (spanLiteral cs).1 = some text) :
    Spelled (spanLiteral cs).1 text ∧ EndsLiteral (spanLiteral cs).2 ∧
      cs = (spanLiteral cs).1 ++ (spanLiteral cs).2 := by
  fun_induction spanLiteral cs generalizing text with
  | case1 =>
    cases Option.some.inj read
    refine ⟨.nil, ?_, rfl⟩
    intro c hc
    cases hc
  | case2 c rest here after split ih =>
    simp only [unescape?, Option.map_eq_some_iff] at read
    obtain ⟨t, ht, rfl⟩ := read
    simp only [split] at ih
    obtain ⟨spelled, ends, whole⟩ := ih ht
    exact ⟨.escaped spelled, ends, by rw [whole]; rfl⟩
  | case3 => simp [unescape?] at read
  | case4 c rest other lone special =>
    cases Option.some.inj read
    refine ⟨.nil, ?_, rfl⟩
    intro d hd
    cases Option.mem_some.mp hd
    refine ⟨special, ?_⟩
    rintro rfl
    cases rest with
    | nil => exact lone rfl rfl
    | cons d rest => exact other d rest rfl rfl
  | case5 c rest other lone ordinary here after split ih =>
    have plain : c ≠ '\\' := by
      rintro rfl
      simp [isSpecial] at ordinary
    rw [unescape?.eq_4 c here (fun _ _ h _ => plain h) (fun h _ => plain h),
      Option.map_eq_some_iff] at read
    obtain ⟨t, ht, rfl⟩ := read
    simp only [split] at ih
    obtain ⟨spelled, ends, whole⟩ := ih ht
    exact ⟨.plain (by simpa using ordinary) spelled, ends, by rw [whole]; rfl⟩

theorem longest_takeWhile {cs : List Char} (named : cs.takeWhile isNameChar ≠ []) :
    Longest NameRun (cs.takeWhile isNameChar) (cs.dropWhile isNameChar) := by
  have run : NameRun (cs.takeWhile isNameChar) := ⟨named, fun c hc => List.mem_takeWhile_imp hc⟩
  exact longest_name_iff.mpr ⟨run, Text.ends_dropWhile cs⟩

/-- Where a literal has no text, the end of the text breaks it off. -/
theorem broken_spanLiteral {cs : List Char} (broken : unescape? (spanLiteral cs).1 = none) :
    ∃ written text, Spelled written text ∧ cs = written ++ ['\\'] := by
  fun_induction spanLiteral cs with
  | case1 => cases broken
  | case2 c rest here after split ih =>
    simp only [unescape?, Option.map_eq_none_iff] at broken
    simp only [split] at ih
    obtain ⟨written, text, spelled, whole⟩ := ih broken
    exact ⟨'\\' :: c :: written, c :: text, .escaped spelled, by rw [whole]; rfl⟩
  | case3 => exact ⟨[], [], .nil, rfl⟩
  | case4 => cases broken
  | case5 c rest other lone ordinary here after split ih =>
    have plain : c ≠ '\\' := by
      rintro rfl
      simp [isSpecial] at ordinary
    rw [unescape?.eq_4 c here (fun _ _ h _ => plain h) (fun h _ => plain h),
      Option.map_eq_none_iff] at broken
    simp only [split] at ih
    obtain ⟨written, text, spelled, whole⟩ := ih broken
    exact ⟨c :: written, c :: text, .plain (by simpa using ordinary) spelled, by rw [whole]; rfl⟩

/-- A literal can end in front of the backslash that ends the text, since there it cannot go on. -/
theorem longest_literal_of_broken {written text : List Char} (nonempty : written ≠ [])
    (spelled : Spelled written text) : Longest LiteralRun written ['\\'] := by
  refine ⟨⟨nonempty, text, spelled⟩, ?_⟩
  rintro more after split ⟨_, whole, longer⟩
  cases more with
  | nil => rfl
  | cons c more =>
    obtain ⟨rfl, tail⟩ := List.cons.inj split
    obtain ⟨rfl, -⟩ := List.append_eq_nil_iff.mp tail.symm
    obtain ⟨_, alone⟩ := spelled.of_append longer
    rcases alone.cons_inv with ⟨ordinary, _⟩ | ⟨-, _, _, _, nothing, -⟩
    · simp [isSpecial] at ordinary
    · cases nothing

/-- What begins with no mark and no single lexeme begins with a literal. -/
theorem exists_literal {c : Char} {rest : List Char} (front : isSpecial c = true → c = '\\')
    (goes : c :: rest ≠ ['\\']) : ∃ after l, Spells (c :: rest) after l := by
  cases read : unescape? (spanLiteral (c :: rest)).1 with
  | some text =>
    obtain ⟨spelled, ends, whole⟩ := spelled_spanLiteral read
    have shorter := Lexeme.length_spanLiteral_cons c rest front
    have nonempty : (spanLiteral (c :: rest)).1 ≠ [] := by
      intro empty
      rw [empty, List.nil_append] at whole
      rw [← whole] at shorter
      exact Nat.lt_irrefl _ shorter
    have spells := Spells.literal (longest_literal_of_ends nonempty spelled ends) spelled
    rw [← whole] at spells
    exact ⟨_, _, spells⟩
  | none =>
    obtain ⟨written, text, spelled, whole⟩ := broken_spanLiteral read
    have nonempty : written ≠ [] := by
      rintro rfl
      exact goes whole
    rw [whole]
    exact ⟨_, _, .literal (longest_literal_of_broken nonempty spelled) spelled⟩

theorem spells_or_stray (c : Char) (rest : List Char) :
    (∃ after l, Spells (c :: rest) after l) ∨ ∃ cause, Stray (c :: rest) cause := by
  by_cases mark : c = ':' ∨ c = '*'
  · by_cases named : rest.takeWhile isNameChar = []
    · have ends : EndsName rest := by
        have whole := List.takeWhile_append_dropWhile (p := isNameChar) (l := rest)
        rw [named, List.nil_append] at whole
        rw [← whole]
        exact Text.ends_dropWhile rest
      exact .inr ⟨_, .mark mark ends⟩
    · have longest := longest_takeWhile named
      have whole := List.takeWhile_append_dropWhile (p := isNameChar) (l := rest)
      rcases mark with rfl | rfl
      · have spells := Spells.symbol longest
        rw [whole] at spells
        exact .inl ⟨_, _, spells⟩
      · have spells := Spells.star longest
        rw [whole] at spells
        exact .inl ⟨_, _, spells⟩
  · by_cases front : isSpecial c = true → c = '\\'
    · by_cases broken : c :: rest = ['\\']
      · rw [broken]
        exact .inr ⟨_, .escape⟩
      · exact .inl (exists_literal front broken)
    · simp only [not_or] at mark
      simp only [isSpecial, Bool.or_eq_true, decide_eq_true_eq, mark, or_false] at front
      obtain ⟨single, other⟩ := Classical.not_imp.mp front
      simp only [other, or_false] at single
      rcases single with (((rfl | rfl) | rfl) | rfl) | rfl
      · exact .inl ⟨_, _, .slash rest⟩
      · exact .inl ⟨_, _, .dot rest⟩
      · exact .inl ⟨_, _, .opening rest⟩
      · exact .inl ⟨_, _, .closing rest⟩
      · exact .inl ⟨_, _, .bar rest⟩

theorem scanFrom_of_stray {cs : List Char} {cause : PatternCause} (stray : Stray cs cause)
    (offset : Nat) : scanFrom offset cs = .error ⟨offset, cause⟩ := by
  cases stray with
  | escape =>
    have lone : byteCount ['\\'] = 1 := rfl
    simp [scanFrom, spanLiteral, unescape?, lone]
  | @mark c rest mark ends =>
    have nothing : rest.takeWhile isNameChar = [] := by
      simpa using (Text.span_of_ends (List.forall_mem_nil _) ends).1
    rcases mark with rfl | rfl
    · rw [scanFrom]
      simp [nothing]
    · rw [scanFrom]
      simp [nothing]

/-- A lexeme that the text spells comes first in its scan, also in front of the backslash that ends
the text: the literal before it and the scan behind it break off at the same place. -/
theorem scanFrom_of_spells {cs rest : List Char} {l : Lexeme} (spells : Spells cs rest l) :
    ∃ here, cs = here ++ rest ∧ ∀ offset,
      scanFrom offset cs = (scanFrom (offset + byteCount here) rest).map (⟨offset, l⟩ :: ·) := by
  cases spells with
  | slash => exact ⟨['/'], rfl, fun offset => by rw [scanFrom]; simp [byteCount]; rfl⟩
  | dot => exact ⟨['.'], rfl, fun offset => by rw [scanFrom]; simp [byteCount]; rfl⟩
  | opening => exact ⟨['('], rfl, fun offset => by rw [scanFrom]; simp [byteCount]; rfl⟩
  | closing => exact ⟨[')'], rfl, fun offset => by rw [scanFrom]; simp [byteCount]; rfl⟩
  | bar => exact ⟨['|'], rfl, fun offset => by rw [scanFrom]; simp [byteCount]; rfl⟩
  | @literal written text _ longest spelled =>
    refine ⟨written, rfl, fun offset => ?_⟩
    cases written with
    | nil => exact absurd rfl longest.1.1
    | cons c written =>
      have front : c ≠ '/' ∧ c ≠ '.' ∧ c ≠ '(' ∧ c ≠ ')' ∧ c ≠ '|' ∧ ¬ (c = ':' ∨ c = '*') := by
        rcases spelled.cons_inv with ⟨ordinary, _⟩ | ⟨rfl, _⟩
        · simp_all [isSpecial]
        · decide
      obtain ⟨h₁, h₂, h₃, h₄, h₅, h₆⟩ := front
      rw [List.cons_append, scanFrom, if_neg h₁, if_neg h₂, if_neg h₃, if_neg h₄, if_neg h₅,
        if_neg h₆, ← List.cons_append]
      rcases ends_of_longest_literal longest with ends | rfl
      · obtain ⟨split, plain⟩ := spanLiteral_of_spelled spelled ends
        simp only [split, plain]
      · obtain ⟨split, none⟩ := spanLiteral_of_broken spelled
        have lone : byteCount ['\\'] = 1 := rfl
        rw [scanFrom_of_stray .escape]
        simp only [split, none, byteCount_append, lone]
        rfl
  | @symbol name _ longest =>
    obtain ⟨run, ends⟩ := longest_name_iff.mp longest
    obtain ⟨taken, dropped⟩ := Text.span_of_ends run.2 ends
    refine ⟨':' :: name, rfl, fun offset => ?_⟩
    have mark : ':'.utf8Size = 1 := rfl
    rw [scanFrom, byteCount_cons, mark, ← Nat.add_assoc]
    simp [taken, dropped, run.1]
  | @star name _ longest =>
    obtain ⟨run, ends⟩ := longest_name_iff.mp longest
    obtain ⟨taken, dropped⟩ := Text.span_of_ends run.2 ends
    refine ⟨'*' :: name, rfl, fun offset => ?_⟩
    have mark : '*'.utf8Size = 1 := rfl
    rw [scanFrom, byteCount_cons, mark, ← Nat.add_assoc]
    simp [taken, dropped, run.1]

/-- Lexemes that tile a text, each with the count of the bytes before it. -/
inductive Placed : Nat → List Char → List PlacedLexeme → Prop
  | nil (offset) : Placed offset [] []
  | cons {offset here rest l ls} : Spells (here ++ rest) rest l →
      Placed (offset + (String.ofList here).utf8ByteSize) rest ls →
      Placed offset (here ++ rest) (⟨offset, l⟩ :: ls)

theorem shorter_of_spells {cs rest : List Char} {l : Lexeme} (spells : Spells cs rest l) :
    rest.length < cs.length := by
  cases spells with
  | slash | dot | opening | closing | bar => exact Nat.lt_succ_self _
  | literal longest =>
    have := List.length_pos_iff.mpr longest.1.1
    rw [List.length_append]
    omega
  | symbol | star =>
    rw [List.length_cons, List.length_append]
    omega

theorem exists_of_scanFrom {c : Char} {rest : List Char} {offset : Nat} {ls : List PlacedLexeme}
    (scanned : scanFrom offset (c :: rest) = .ok ls) :
    ∃ here after l tail, c :: rest = here ++ after ∧ ls = ⟨offset, l⟩ :: tail ∧
      Spells (c :: rest) after l ∧ scanFrom (offset + byteCount here) after = .ok tail := by
  rcases spells_or_stray c rest with ⟨after, l, spells⟩ | ⟨cause, stray⟩
  · obtain ⟨here, whole, scan⟩ := scanFrom_of_spells spells
    rw [scan] at scanned
    cases tail : scanFrom (offset + byteCount here) after with
    | error fault => rw [tail] at scanned; cases scanned
    | ok tail' =>
      rw [tail] at scanned
      cases scanned
      exact ⟨here, after, l, tail', whole, rfl, spells, tail⟩
  · rw [scanFrom_of_stray stray] at scanned
    cases scanned

theorem placed_of_scanFrom {cs : List Char} {offset : Nat} {ls : List PlacedLexeme}
    (scanned : scanFrom offset cs = .ok ls) : Placed offset cs ls := by
  induction ls generalizing cs offset with
  | nil =>
    cases cs with
    | nil => exact .nil offset
    | cons c rest =>
      obtain ⟨_, _, _, _, _, other, _⟩ := exists_of_scanFrom scanned
      cases other
  | cons first ls ih =>
    cases cs with
    | nil => simp [scanFrom] at scanned
    | cons c rest =>
      obtain ⟨here, after, l, tail, whole, same, spells, scan⟩ := exists_of_scanFrom scanned
      obtain ⟨rfl, rfl⟩ := List.cons.inj same
      rw [whole] at spells ⊢
      rw [byteCount_eq] at scan
      exact .cons spells (ih scan)

theorem scanFrom_eq_ok_iff {cs : List Char} {offset : Nat} {ls : List PlacedLexeme} :
    scanFrom offset cs = .ok ls ↔ Placed offset cs ls := by
  refine ⟨placed_of_scanFrom, fun placed => ?_⟩
  induction placed with
  | nil => simp [scanFrom]
  | @cons offset here rest l ls spells _ ih =>
    obtain ⟨same, whole, scanned⟩ := scanFrom_of_spells spells
    obtain rfl := List.append_cancel_right whole
    rw [scanned, byteCount_eq, ih]
    rfl

end RouteBindings.Pattern.Grammar
