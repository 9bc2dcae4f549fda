import RouteBindings.Proofs.Pattern.Descent
import RouteBindings.Proofs.Pattern.Lexing

/-! The faults of a pattern are those of one scan from left to right. A stray character comes before
everything else; behind it only the open parentheses count, and whether a sequence has begun. -/

namespace RouteBindings.Pattern

open Grammar
open Lexeme (isNameChar isSpecial scanFrom byteCount)

/-- A text that does not end within an escape. -/
inductive Settled : List Char → Prop
  | nil : Settled []
  | plain {c cs} : c ≠ '\\' → Settled cs → Settled (c :: cs)
  | escaped {c cs} : Settled cs → Settled ('\\' :: c :: cs)

def StrayAt (cs before : List Char) (cause : PatternCause) : Prop :=
  ∃ here, cs = before ++ here ∧ Settled before ∧ Stray here cause

structure FirstStray (cs before : List Char) (cause : PatternCause) : Prop where
  stray : StrayAt cs before cause
  first : ∀ earlier other, StrayAt cs earlier other → before.length ≤ earlier.length

/-- The stray characters of the whole text are those of the rest. -/
def Skips (here rest : List Char) : Prop :=
  ∀ before cause, StrayAt (here ++ rest) before cause ↔
    ∃ tail, before = here ++ tail ∧ StrayAt rest tail cause

theorem Skips.nil (rest : List Char) : Skips [] rest := by
  intro before cause
  simp

theorem Skips.append {front back rest : List Char} (first : Skips front (back ++ rest))
    (second : Skips back rest) : Skips (front ++ back) rest := by
  intro before cause
  rw [List.append_assoc, first before cause]
  constructor
  · rintro ⟨tail, rfl, later⟩
    obtain ⟨final, rfl, stray⟩ := (second tail cause).mp later
    exact ⟨final, (List.append_assoc _ _ _).symm, stray⟩
  · rintro ⟨tail, rfl, later⟩
    exact ⟨back ++ tail, List.append_assoc _ _ _, (second _ cause).mpr ⟨tail, rfl, later⟩⟩

theorem skips_plain {c : Char} {rest : List Char} (plain : c ≠ '\\')
    (sound : ∀ cause, ¬ Stray (c :: rest) cause) : Skips [c] rest := by
  intro before cause
  constructor
  · rintro ⟨here, split, settled, stray⟩
    cases settled with
    | nil =>
      cases split
      exact absurd stray (sound cause)
    | plain _ settled =>
      obtain ⟨rfl, same⟩ := List.cons.inj split
      exact ⟨_, rfl, here, same, settled, stray⟩
    | escaped =>
      obtain ⟨rfl, -⟩ := List.cons.inj split
      exact absurd rfl plain
  · rintro ⟨tail, rfl, here, rfl, settled, stray⟩
    exact ⟨here, rfl, .plain plain settled, stray⟩

theorem skips_escape (c : Char) (rest : List Char) : Skips ['\\', c] rest := by
  intro before cause
  constructor
  · rintro ⟨here, split, settled, stray⟩
    cases settled with
    | nil =>
      cases split
      cases stray with
      | mark mark => rcases mark with mark | mark <;> cases mark
    | plain plain =>
      obtain ⟨rfl, -⟩ := List.cons.inj split
      exact absurd rfl plain
    | escaped settled =>
      simp only [List.cons_append, List.cons.injEq, true_and] at split
      obtain ⟨rfl, split⟩ := split
      exact ⟨_, rfl, here, split, settled, stray⟩
  · rintro ⟨tail, rfl, here, rfl, settled, stray⟩
    exact ⟨here, rfl, .escaped settled, stray⟩

theorem not_stray {c : Char} (colon : c ≠ ':') (star : c ≠ '*') (backslash : c ≠ '\\')
    {rest : List Char} (cause : PatternCause) : ¬ Stray (c :: rest) cause := by
  intro stray
  cases stray with
  | mark mark => exact mark.elim colon star
  | escape => exact backslash rfl

theorem skips_single {c : Char} (colon : c ≠ ':') (star : c ≠ '*') (backslash : c ≠ '\\')
    (rest : List Char) : Skips [c] rest :=
  skips_plain backslash (not_stray colon star backslash)

theorem skips_spelled {written text : List Char} (spelled : Spelled written text)
    (rest : List Char) : Skips written rest := by
  induction spelled with
  | nil => exact .nil rest
  | plain ordinary _ ih =>
    simp only [isSpecial, Bool.or_eq_false_iff, decide_eq_false_iff_not] at ordinary
    obtain ⟨⟨⟨-, colon⟩, star⟩, backslash⟩ := ordinary
    exact (skips_single colon star backslash _).append ih
  | escaped _ ih => exact (skips_escape _ _).append ih

theorem skips_name {name : List Char} (named : ∀ c ∈ name, isNameChar c = true)
    (rest : List Char) : Skips name rest := by
  induction name with
  | nil => exact .nil rest
  | cons c name ih =>
    have first : isNameChar c = true := named c List.mem_cons_self
    have other : ∀ d, isNameChar d = false → c ≠ d := by
      rintro d plain rfl
      rw [first] at plain
      cases plain
    have single := skips_single (other _ rfl) (other _ rfl) (other _ rfl) (name ++ rest)
    exact single.append (ih fun d member => named d (List.mem_cons_of_mem c member))

/-- A mark with its name behind it is not stray. -/
theorem skips_mark {c : Char} (mark : c = ':' ∨ c = '*') {name rest : List Char}
    (longest : Longest NameRun name rest) : Skips (c :: name) rest := by
  obtain ⟨nonempty, named⟩ := longest.1
  have backslash : c ≠ '\\' := by rcases mark with rfl | rfl <;> decide
  obtain ⟨d, tail, rfl⟩ := List.exists_cons_of_ne_nil nonempty
  refine (skips_plain backslash ?_).append (skips_name named rest)
  intro cause stray
  cases stray with
  | mark _ ends =>
    have plain := ends d rfl
    rw [named d List.mem_cons_self] at plain
    cases plain

theorem skips_of_spells {here rest : List Char} {l : Lexeme}
    (spells : Spells (here ++ rest) rest l) : Skips here rest := by
  generalize whole : here ++ rest = cs at spells
  cases spells with
  | slash | dot | opening | closing | bar =>
    obtain rfl : here = [_] := List.append_cancel_right whole
    exact skips_single (by decide) (by decide) (by decide) rest
  | @literal written _ _ _ spelled =>
    obtain rfl : here = written := List.append_cancel_right whole
    exact skips_spelled spelled rest
  | @symbol name _ longest =>
    obtain rfl : here = ':' :: name := List.append_cancel_right whole
    exact skips_mark (.inl rfl) longest
  | @star name _ longest =>
    obtain rfl : here = '*' :: name := List.append_cancel_right whole
    exact skips_mark (.inr rfl) longest

/-- No lexemes tile a text with a stray character. -/
theorem not_strayAt_of_placed {offset : Nat} {cs : List Char} {ls : List PlacedLexeme}
    (placed : Placed offset cs ls) (before : List Char) (cause : PatternCause) :
    ¬ StrayAt cs before cause := by
  induction placed generalizing before with
  | nil =>
    rintro ⟨here, split, -, stray⟩
    obtain ⟨-, rfl⟩ := List.append_eq_nil_iff.mp split.symm
    cases stray
  | cons spells _ ih =>
    intro stray
    obtain ⟨tail, -, later⟩ := (skips_of_spells spells before cause).mp stray
    exact ih tail later

theorem FirstStray.append {here rest before : List Char} {cause : PatternCause}
    (skips : Skips here rest) (first : FirstStray rest before cause) :
    FirstStray (here ++ rest) (here ++ before) cause := by
  refine ⟨(skips _ cause).mpr ⟨before, rfl, first.stray⟩, ?_⟩
  intro earlier other stray
  obtain ⟨tail, rfl, later⟩ := (skips earlier other).mp stray
  simpa using first.first tail other later

/-- A scan that fails reports the first stray character. -/
theorem firstStray_of_scanFrom {cs : List Char} {offset : Nat} {fault : PatternFault}
    (scanned : scanFrom offset cs = .error fault) :
    ∃ before, FirstStray cs before fault.cause ∧
      fault.offset = offset + (String.ofList before).utf8ByteSize := by
  cases cs with
  | nil => simp [scanFrom] at scanned
  | cons c rest =>
    rcases spells_or_stray c rest with ⟨after, l, spells⟩ | ⟨cause, stray⟩
    · obtain ⟨here, whole, scan⟩ := scanFrom_of_spells spells
      have shorter : after.length < (c :: rest).length := shorter_of_spells spells
      rw [scan] at scanned
      cases later : scanFrom (offset + byteCount here) after with
      | ok ls =>
        rw [later] at scanned
        cases scanned
      | error fault' =>
        rw [later] at scanned
        cases scanned
        obtain ⟨before, first, located⟩ := firstStray_of_scanFrom later
        rw [whole] at spells ⊢
        refine ⟨here ++ before, first.append (skips_of_spells spells), ?_⟩
        rw [located, byteCount_eq, String.ofList_append, String.utf8ByteSize_append, Nat.add_assoc]
    · rw [scanFrom_of_stray stray] at scanned
      cases scanned
      exact ⟨[], ⟨⟨_, rfl, .nil, stray⟩, fun _ _ _ => Nat.zero_le _⟩, rfl⟩
termination_by cs.length

/-- The first fault in the structure of the lexemes: `opened` are the places of the open
parentheses, the innermost first, and nothing of a sequence has come while it is `fresh`. -/
def firstFault (size : Nat) (opened : List Nat) (fresh : Bool) :
    List PlacedLexeme → Option PatternFault
  | [] => if fresh then some ⟨size, .emptyExpression⟩ else opened.head?.map (⟨·, .unclosed⟩)
  | ⟨offset, .opening⟩ :: rest => firstFault size (offset :: opened) true rest
  | ⟨offset, .bar⟩ :: rest =>
    if fresh then some ⟨offset, .emptyExpression⟩ else firstFault size opened true rest
  | ⟨offset, .closing⟩ :: rest =>
    if fresh then some ⟨offset, .emptyExpression⟩
    else
      match opened with
      | [] => some ⟨offset, .unbalanced⟩
      | _ :: opened => firstFault size opened false rest
  | _ :: rest => firstFault size opened false rest

/-- Of the levels of the reader, the scan keeps their places alone, and of the pending terms only
whether there are any. -/
theorem answer_error_iff {size : Nat} {r : Reader} {ls : List PlacedLexeme} {fault : PatternFault} :
    r.answer size ls = .error fault ↔
      firstFault size (r.suspended.map Prod.fst) r.level.terms.isEmpty ls = some fault := by
  induction ls generalizing r with
  | nil =>
    obtain ⟨⟨before, terms⟩, suspended⟩ := r
    cases terms with
    | nil => simp [Reader.answer, Reader.run, Reader.finish, Level.close?, sequence?, firstFault]
    | cons last earlier =>
      cases suspended <;>
        simp [Reader.answer, Reader.run, Reader.finish, Level.close?, sequence?, firstFault]
  | cons here ls ih =>
    obtain ⟨offset, lexeme⟩ := here
    rw [Reader.answer_cons]
    cases lexeme with
    | slash | dot | literal | symbol | star | opening => exact ih
    | bar =>
      obtain ⟨⟨before, terms⟩, suspended⟩ := r
      cases terms with
      | nil => simp [Reader.step, sequence?, firstFault]
      | cons last earlier => exact ih
    | closing =>
      obtain ⟨⟨before, terms⟩, suspended⟩ := r
      cases terms with
      | nil => simp [Reader.step, Level.close?, sequence?, firstFault]
      | cons last earlier =>
        cases suspended with
        | nil => simp [Reader.step, Level.close?, sequence?, firstFault]
        | cons outer suspended => exact ih

theorem answer_firstFault {size : Nat} (r : Reader) (ls : List PlacedLexeme) :
    match firstFault size (r.suspended.map Prod.fst) r.level.terms.isEmpty ls with
    | some fault => r.answer size ls = .error fault
    | none => ∃ p, r.answer size ls = .ok p := by
  split
  · rename_i found
    exact answer_error_iff.mpr found
  · rename_i nothing
    cases answered : r.answer size ls with
    | ok p => exact ⟨p, rfl⟩
    | error fault =>
      rw [answer_error_iff, nothing] at answered
      cases answered

theorem parse_of_placed {text : String} {ls : List PlacedLexeme}
    (placed : Placed 0 text.toList ls) :
    parse text = Reader.start.answer text.utf8ByteSize ls := by
  have size : byteCount text.toList = text.utf8ByteSize := by
    rw [byteCount_eq, String.ofList_toList]
  rw [parse, Lexeme.scan, scanFrom_eq_ok_iff.mpr placed, size]
  rfl

/-- A structural fault is reported at a lexeme, at an open parenthesis or at the end. -/
theorem offset_of_firstFault {P : Nat → Prop} {size : Nat} {opened : List Nat} {fresh : Bool}
    {ls : List PlacedLexeme} {fault : PatternFault} (atEnd : P size)
    (atOpened : ∀ offset ∈ opened, P offset) (atLexeme : ∀ here ∈ ls, P here.offset)
    (found : firstFault size opened fresh ls = some fault) : P fault.offset := by
  fun_induction firstFault size opened fresh ls with
  | case1 => exact Option.some.inj found ▸ atEnd
  | case2 =>
    obtain ⟨offset, member, rfl⟩ := Option.map_eq_some_iff.mp found
    exact atOpened offset (List.mem_of_head? member)
  | case3 opened _ offset rest ih =>
    obtain ⟨here, later⟩ := List.forall_mem_cons.mp atLexeme
    exact ih (List.forall_mem_cons.mpr ⟨here, atOpened⟩) later found
  | case4 | case6 | case7 =>
    exact Option.some.inj found ▸ (List.forall_mem_cons.mp atLexeme).1
  | case5 _ _ _ _ _ ih => exact ih atOpened (List.forall_mem_cons.mp atLexeme).2 found
  | case8 _ _ _ _ _ _ ih =>
    exact ih (List.forall_mem_cons.mp atOpened).2 (List.forall_mem_cons.mp atLexeme).2 found
  | case9 _ _ _ _ _ _ _ ih => exact ih atOpened (List.forall_mem_cons.mp atLexeme).2 found

theorem boundary_of_placed {offset : Nat} {cs : List Char} {ls : List PlacedLexeme}
    (placed : Placed offset cs ls) {here : PlacedLexeme} (member : here ∈ ls) :
    ∃ before after, cs = before ++ after ∧
      here.offset = offset + (String.ofList before).utf8ByteSize := by
  induction placed with
  | nil => cases member
  | @cons offset front rest l ls _ _ ih =>
    rcases List.mem_cons.mp member with rfl | member
    · exact ⟨[], _, rfl, rfl⟩
    · obtain ⟨before, after, rfl, located⟩ := ih member
      refine ⟨front ++ before, after, (List.append_assoc _ _ _).symm, ?_⟩
      rw [located, String.ofList_append, String.utf8ByteSize_append, Nat.add_assoc]

theorem isValid_of_split {text : String} {before after : List Char}
    (split : text.toList = before ++ after) :
    String.Pos.Raw.IsValid text ⟨(String.ofList before).utf8ByteSize⟩ := by
  apply String.Pos.Raw.isValid_iff_exists_append.mpr
  refine ⟨String.ofList before, String.ofList after, ?_, rfl⟩
  rw [← String.ofList_append, ← split, String.ofList_toList]

theorem isValid_of_error {text : String} {fault : PatternFault}
    (failed : parse text = .error fault) : String.Pos.Raw.IsValid text ⟨fault.offset⟩ := by
  cases scanned : Lexeme.scan text with
  | error stray =>
    rw [parse, scanned] at failed
    cases failed
    obtain ⟨before, ⟨⟨here, split, -⟩, -⟩, located⟩ := firstStray_of_scanFrom scanned
    rw [located, Nat.zero_add]
    exact isValid_of_split split
  | ok ls =>
    have placed := placed_of_scanFrom scanned
    rw [parse_of_placed placed, answer_error_iff] at failed
    refine offset_of_firstFault (P := fun offset => String.Pos.Raw.IsValid text ⟨offset⟩) ?_
      (List.forall_mem_nil _) ?_ failed
    · exact String.Pos.Raw.isValid_rawEndPos
    · intro here member
      obtain ⟨before, after, split, located⟩ := boundary_of_placed placed member
      rw [located, Nat.zero_add]
      exact isValid_of_split split

/-- A stray character is reported before everything else. -/
theorem parse_of_strayAt {text : String} {before : List Char} {cause : PatternCause}
    (stray : StrayAt text.toList before cause) :
    ∃ before cause, FirstStray text.toList before cause ∧
      parse text = .error ⟨(String.ofList before).utf8ByteSize, cause⟩ := by
  cases scanned : Lexeme.scan text with
  | error fault =>
    obtain ⟨before, first, located⟩ := firstStray_of_scanFrom scanned
    refine ⟨before, fault.cause, first, ?_⟩
    rw [parse, scanned, ← Nat.zero_add (String.utf8ByteSize _), ← located]
  | ok ls => exact absurd stray (not_strayAt_of_placed (placed_of_scanFrom scanned) before cause)

theorem exists_placed {text : String}
    (sound : ¬ ∃ before cause, StrayAt text.toList before cause) :
    ∃ ls, ∀ other, Placed 0 text.toList other ↔ other = ls := by
  cases scanned : Lexeme.scan text with
  | error fault =>
    obtain ⟨before, first, -⟩ := firstStray_of_scanFrom scanned
    exact absurd ⟨before, fault.cause, first.stray⟩ sound
  | ok ls =>
    refine ⟨ls, fun other => ?_⟩
    rw [← scanFrom_eq_ok_iff, ← Lexeme.scan, scanned, Except.ok.injEq, eq_comm]

/-- The faults of a pattern text. A stray character is reported before everything else, at its own
place. If there is none, the text is a row of lexemes, and the one fault of their structure that a
scan from left to right meets first is reported; if it meets none, the text is parsed. Every place
is one in the text and between two characters. The descent has the same faults, so that it never
comes to a term that begins where none can. -/
theorem parse_faults_exact (text : String) :
    ((∃ before cause, StrayAt text.toList before cause) →
      ∃ before cause, FirstStray text.toList before cause ∧
        parse text = .error ⟨(String.ofList before).utf8ByteSize, cause⟩) ∧
    ((¬ ∃ before cause, StrayAt text.toList before cause) →
      ∃ ls, (∀ other, Placed 0 text.toList other ↔ other = ls) ∧
        match firstFault text.utf8ByteSize [] true ls with
        | some fault => parse text = .error fault
        | none => ∃ p, parse text = .ok p) ∧
    (∀ fault, parse text = .error fault → fault.offset ≤ text.utf8ByteSize ∧
      String.Pos.Raw.IsValid text ⟨fault.offset⟩) ∧
    Descent.parse text = (parse text).mapError .ofPattern ∧
    ∀ fault, Descent.parse text = .error fault →
      fault.cause.message ≠ "unexpected end of pattern" ∧
      fault.cause.message ≠ "unexpected token" := by
  refine ⟨?_, ?_, ?_, Descent.parse_eq text, ?_⟩
  · rintro ⟨before, cause, stray⟩
    exact parse_of_strayAt stray
  · intro sound
    obtain ⟨ls, only⟩ := exists_placed sound
    refine ⟨ls, only, ?_⟩
    rw [parse_of_placed ((only ls).mpr rfl)]
    exact answer_firstFault Reader.start ls
  · intro fault failed
    have valid := isValid_of_error failed
    exact ⟨valid.le_utf8ByteSize, valid⟩
  · intro fault failed
    obtain ⟨known, rfl⟩ := Descent.exists_of_error failed
    exact Descent.message_ofPattern known

/-- Places count bytes, and the innermost of two open parentheses is reported. -/
example : parse "/é(:é" = .error ⟨4, .expectedName⟩ ∧ parse "/é(a|(b" = .error ⟨6, .unclosed⟩ := by
  decide +kernel

end RouteBindings.Pattern
