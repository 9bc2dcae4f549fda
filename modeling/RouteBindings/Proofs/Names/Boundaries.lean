import Mathlib
import RouteBindings.Names
import RouteBindings.Proofs.Text.Span

/-! Where the words of a class name begin. Two passes part it, one at the end of every acronym and
one behind small letters and digits, but a look at a character and its two neighbours decides. -/

namespace RouteBindings.Names

/-- Puts an underscore before every character that `starts` something, behind `x`; it may look at
the character before and the one after. -/
def partedAfter (starts : Char → Char → Option Char → Bool) (x : Char) : List Char → List Char
  | [] => []
  | y :: rest => (if starts x y rest.head? then ['_', y] else [y]) ++ partedAfter starts y rest

def parted (starts : Char → Char → Option Char → Bool) : List Char → List Char
  | [] => []
  | c :: rest => c :: partedAfter starts c rest

/-- The last capital of an acronym begins the word whose small letters follow it. -/
def endsAcronym (x y : Char) (next : Option Char) : Bool :=
  isAcronymChar x && isCapital y && next.any isSmall

def followsSmall (x y : Char) (_ : Option Char) : Bool :=
  (isSmall x || Text.isDecimalDigit x) && isCapital y

def beginsWord (x y : Char) (next : Option Char) : Bool :=
  endsAcronym x y next || followsSmall x y next

theorem isDecimalDigit_ascii : ∀ n < 128,
    Text.isDecimalDigit (Char.ofNat n) = (Char.ofNat n).isDigit := by
  decide +kernel

theorem isDecimalDigit_of_ascii {c : Char} (ascii : c.toNat < 128) :
    Text.isDecimalDigit c = c.isDigit := by
  have known := isDecimalDigit_ascii c.toNat ascii
  rwa [Char.ofNat_toNat] at known

theorem digit_of_letter {c : Char} (letter : c.isAlpha = true) :
    Text.isDecimalDigit c = false := by
  have bounds : 65 ≤ c.toNat ∧ c.toNat < 123 := by
    simp only [Char.isAlpha, Char.isUpper, Char.isLower, Bool.or_eq_true, Bool.and_eq_true,
      decide_eq_true_eq, ge_iff_le, UInt32.le_iff_toNat_le] at letter
    change 65 ≤ c.val.toNat ∧ c.val.toNat ≤ 90 ∨ 97 ≤ c.val.toNat ∧ c.val.toNat ≤ 122 at letter
    change 65 ≤ c.val.toNat ∧ c.val.toNat < 123
    omega
  rw [isDecimalDigit_of_ascii (by omega), Bool.eq_false_iff]
  intro digit
  exact absurd (bounds.1.trans (Char.isDigit_iff_toNat.mp digit).2) (by decide)

theorem digit_of_capital {c : Char} (capital : isCapital c = true) :
    Text.isDecimalDigit c = false :=
  digit_of_letter (Bool.or_eq_true_iff.mpr (.inl capital))

/-- Small letters are neither capitals nor digits. -/
theorem small_of_acronymChar {c : Char} (part : isAcronymChar c = true) : isSmall c = false := by
  rcases Bool.or_eq_true_iff.mp part with capital | digit
  · exact Bool.eq_false_iff.mpr (Char.not_isLower_of_isUpper capital)
  · cases small : isSmall c with
    | false => rfl
    | true =>
      rw [digit_of_letter (Bool.or_eq_true_iff.mpr (.inr small))] at digit
      cases digit

theorem acronymChar_of_capital {c : Char} (capital : isCapital c = true) :
    isAcronymChar c = true :=
  Bool.or_eq_true_iff.mpr (.inl capital)

theorem capital_of_not_acronymChar {c : Char} (other : isAcronymChar c = false) :
    isCapital c = false :=
  (Bool.or_eq_false_iff.mp other).1

theorem splitRun_single (c : Char) (rest : List Char) : splitRun [c] rest = [c] := by
  cases rest <;> simp [splitRun]

theorem splitRun_concat (x : Char) (front : List Char) (last : Char) (rest : List Char) :
    splitRun (x :: front ++ [last]) rest =
      x :: front ++ (if isCapital last && rest.head?.any isSmall then ['_', last] else [last]) := by
  cases rest with
  | nil => simp [splitRun]
  | cons c rest =>
    cases capital : isCapital last <;> cases small : isSmall c <;>
      simp [splitRun, capital, small]

/-- Behind a run of capitals and digits everything begins anew. -/
theorem partedAfter_end (last : Char) {after : List Char}
    (ends : ∀ c ∈ after.head?, isAcronymChar c = false) :
    partedAfter endsAcronym last after = parted endsAcronym after := by
  cases after with
  | nil => rfl
  | cons c rest =>
    have plain := capital_of_not_acronymChar (ends c rfl)
    simp [partedAfter, parted, endsAcronym, plain]

/-- A run of capitals and digits is parted at most before its last character. -/
theorem partedAfter_run (x : Char) {front : List Char} {last : Char} {after : List Char}
    (all : ∀ c ∈ x :: front, isAcronymChar c = true) (part : isAcronymChar last = true)
    (ends : ∀ c ∈ after.head?, isAcronymChar c = false) :
    x :: partedAfter endsAcronym x (front ++ last :: after) =
      splitRun (x :: front ++ [last]) after ++ parted endsAcronym after := by
  rw [splitRun_concat]
  induction front generalizing x with
  | nil =>
    have first := all x List.mem_cons_self
    simp [partedAfter, endsAcronym, first, partedAfter_end last ends]
  | cons c front ih =>
    have inner := ih c (fun d member => all d (List.mem_cons_of_mem _ member))
    -- a capital or a digit follows, so nothing begins here
    have next : (front ++ last :: after).head?.any isSmall = false := by
      cases front with
      | nil => simpa using small_of_acronymChar part
      | cons d others => simpa using small_of_acronymChar (all d (by simp))
    simp only [List.cons_append, partedAfter, endsAcronym, next, Bool.and_false] at inner ⊢
    rw [if_neg Bool.false_ne_true, List.singleton_append, inner]

theorem splitAcronyms_eq (cs : List Char) : splitAcronyms cs = parted endsAcronym cs := by
  fun_induction splitAcronyms cs with
  | case1 => rfl
  | case2 c rest part run after ih =>
    have ends : ∀ d ∈ after.head?, isAcronymChar d = false := Text.ends_dropWhile rest
    have whole : rest = rest.takeWhile isAcronymChar ++ after :=
      List.takeWhile_append_dropWhile.symm
    have all : ∀ d ∈ rest.takeWhile isAcronymChar, isAcronymChar d = true :=
      fun d member => List.mem_takeWhile_imp member
    rw [ih, parted]
    rcases List.eq_nil_or_concat (rest.takeWhile isAcronymChar) with none | ⟨front, last, some⟩
    · rw [none, List.nil_append] at whole
      simp only [run, none]
      rw [splitRun_single, whole, partedAfter_end c ends]
      rfl
    · rw [some] at whole all
      have given : ∀ d ∈ c :: front, isAcronymChar d = true :=
        List.forall_mem_cons.mpr ⟨part, fun d member => all d (by simp [member])⟩
      have joined := partedAfter_run c given (all last (by simp)) ends
      have reached : rest = front ++ last :: after := by simpa using whole
      rw [reached, joined]
      simp only [run, some, List.concat_eq_append]
      rfl
  | case3 c rest other ih =>
    rw [ih]
    cases rest with
    | nil => rfl
    | cons d rest => simp [parted, partedAfter, endsAcronym, other]

theorem splitWords_eq (cs : List Char) : splitWords cs = parted followsSmall cs := by
  fun_induction splitWords cs with
  | case1 => rfl
  | case2 c => rfl
  | case3 c d rest begins ih =>
    have both := Bool.and_eq_true_iff.mp begins
    -- nothing begins right behind the capital
    have behind : partedAfter followsSmall d rest = parted followsSmall rest := by
      have small := small_of_acronymChar (acronymChar_of_capital both.2)
      have digit := digit_of_capital both.2
      cases rest with
      | nil => rfl
      | cons e rest => simp [partedAfter, parted, followsSmall, small, digit]
    rw [ih, ← behind]
    simp [parted, partedAfter, followsSmall, both]
  | case4 c d rest other ih =>
    rw [ih]
    simp [parted, partedAfter, followsSmall, other]

/-- What the first pass puts in takes nothing away from the second one. -/
theorem parted_parted (cs : List Char) :
    parted followsSmall (parted endsAcronym cs) = parted beginsWord cs := by
  have after : ∀ x rest, partedAfter followsSmall x (partedAfter endsAcronym x rest) =
      partedAfter beginsWord x rest := by
    intro x rest
    induction rest generalizing x with
    | nil => rfl
    | cons y rest ih =>
      have mark : isCapital '_' = false := by decide
      have behind : isSmall '_' = false ∧ Text.isDecimalDigit '_' = false := by decide
      simp only [partedAfter, beginsWord]
      by_cases ends : endsAcronym x y rest.head? = true
      · simp [ends, partedAfter, followsSmall, mark, behind, ih]
      · simp [ends, partedAfter, followsSmall, ih]
  cases cs with
  | nil => rfl
  | cons c rest => exact congrArg (c :: ·) (after c rest)

theorem splitWords_splitAcronyms (cs : List Char) :
    splitWords (splitAcronyms cs) = parted beginsWord cs := by
  rw [splitAcronyms_eq, splitWords_eq, parted_parted]

theorem capital_of_beginsWord {x y : Char} {next : Option Char}
    (begins : beginsWord x y next = true) : isCapital y = true := by
  cases capital : isCapital y with
  | true => rfl
  | false => simp [beginsWord, endsAcronym, followsSmall, capital] at begins

theorem mem_partedAfter {starts : Char → Char → Option Char → Bool} {c x : Char} {rest : List Char}
    (member : c ∈ partedAfter starts x rest) : c = '_' ∨ c ∈ rest := by
  induction rest generalizing x with
  | nil => cases member
  | cons y rest ih =>
    rw [partedAfter, List.mem_append] at member
    rcases member with here | later
    · have shown : c = '_' ∨ c = y := by
        split at here <;> simp_all
      exact shown.imp_right fun same => List.mem_cons.mpr (.inl same)
    · rcases ih later with mark | inside
      · exact .inl mark
      · exact .inr (List.mem_cons_of_mem _ inside)

theorem mem_parted {starts : Char → Char → Option Char → Bool} {c : Char} {cs : List Char}
    (member : c ∈ parted starts cs) : c = '_' ∨ c ∈ cs := by
  cases cs with
  | nil => cases member
  | cons x rest =>
    rcases List.mem_cons.mp member with rfl | later
    · exact .inr List.mem_cons_self
    · exact (mem_partedAfter later).imp_right (List.mem_cons_of_mem _)

theorem slash_plain : isCapital '/' = false ∧ isSmall '/' = false ∧ isAcronymChar '/' = false ∧
    Text.isDecimalDigit '/' = false := by
  decide

theorem partedAfter_of_slash (ds : List Char) :
    partedAfter beginsWord '/' ds = parted beginsWord ds := by
  cases ds with
  | nil => rfl
  | cons d rest => simp [partedAfter, parted, beginsWord, endsAcronym, followsSmall, slash_plain]

/-- No word begins at a slash or right behind it, and none because of it. -/
theorem partedAfter_slash (x : Char) (cs ds : List Char) :
    partedAfter beginsWord x (cs ++ '/' :: ds) =
      partedAfter beginsWord x cs ++ '/' :: parted beginsWord ds := by
  induction cs generalizing x with
  | nil =>
    rw [← partedAfter_of_slash]
    simp [partedAfter, beginsWord, endsAcronym, followsSmall, slash_plain]
  | cons y rest ih =>
    have next : beginsWord x y (rest ++ '/' :: ds).head? = beginsWord x y rest.head? := by
      cases rest <;> simp [beginsWord, endsAcronym, followsSmall, slash_plain]
    simp only [List.cons_append, partedAfter, next, ih, List.append_assoc]

theorem parted_slash (cs ds : List Char) :
    parted beginsWord (cs ++ '/' :: ds) = parted beginsWord cs ++ '/' :: parted beginsWord ds := by
  cases cs with
  | nil => exact congrArg ('/' :: ·) (partedAfter_of_slash ds)
  | cons c rest => exact congrArg (c :: ·) (partedAfter_slash c rest ds)

end RouteBindings.Names
