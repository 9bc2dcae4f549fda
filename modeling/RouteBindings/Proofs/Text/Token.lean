import RouteBindings.Proofs.Text.Quoted
import RouteBindings.Proofs.Text.Span

namespace RouteBindings.Text

/-- What a notation may hold besides ASCII words and single marks: other characters that begin or
continue a word, and marks that run together to one operator. -/
structure Lexicon where
  begins : Char → Bool
  continues : Char → Bool
  operator : Char → Bool

inductive Token where
  | word (s : String)
  | text (s : String)
  | mark (s : String)
  deriving DecidableEq, Repr

namespace Lexicon

variable (lexicon : Lexicon)

def isStart (c : Char) : Bool :=
  c.isAlpha || c = '_' || c = '$' || (127 < c.toNat && lexicon.begins c)

def isPart (c : Char) : Bool :=
  c.isAlphanum || c = '_' || c = '$' ||
    (127 < c.toNat && (lexicon.begins c || lexicon.continues c))

/-- The tokens of a text, none if a quoted text is flawed. Words and operators are as long as they
can be. -/
def tokens (cs : List Char) : Option (List Token) :=
  match cs with
  | [] => some []
  | c :: rest =>
    if c = ' ' then tokens rest
    else if c = '"' then
      match scanned : Draft.scanText rest with
      | some (some s, after) =>
        have := length_scanText scanned
        (tokens after).map (.text s :: ·)
      | _ => none
    else if lexicon.isPart c then
      (tokens (rest.dropWhile lexicon.isPart)).map
        (.word (String.ofList (c :: rest.takeWhile lexicon.isPart)) :: ·)
    else if lexicon.operator c then
      (tokens (rest.dropWhile lexicon.operator)).map
        (.mark (String.ofList (c :: rest.takeWhile lexicon.operator)) :: ·)
    else (tokens rest).map (.mark (String.ofList [c]) :: ·)
termination_by cs.length
decreasing_by
  · simp
  · simp only [List.length_cons]
    omega
  · have := (List.dropWhile_sublist lexicon.isPart (l := rest)).length_le
    simp only [List.length_cons]
    omega
  · have := (List.dropWhile_sublist lexicon.operator (l := rest)).length_le
    simp only [List.length_cons]
    omega
  · simp

/-- These characters are these tokens, whatever follows. -/
def Lexes (cs : List Char) (ts : List Token) : Prop :=
  ∀ rest, lexicon.tokens (cs ++ rest) = (lexicon.tokens rest).map (ts ++ ·)

variable {lexicon}

theorem Lexes.append {cs ds : List Char} {ts us : List Token} (first : lexicon.Lexes cs ts)
    (second : lexicon.Lexes ds us) : lexicon.Lexes (cs ++ ds) (ts ++ us) := by
  intro rest
  rw [List.append_assoc, first, second, Option.map_map]
  cases lexicon.tokens rest <;> simp

theorem lexes_text (s : String) : lexicon.Lexes (quotedChars s.toList) [.text s] := by
  intro rest
  have read := scanText_quoted s.toList rest
  rw [String.ofList_toList] at read
  have split : quotedChars s.toList ++ rest =
      '"' :: (s.toList.flatMap quotedChar ++ '"' :: rest) := by simp [quotedChars]
  rw [split, tokens, if_neg (by decide), if_pos rfl]
  split
  · rename_i scanned
    rw [read] at scanned
    cases scanned
    rfl
  · rename_i other
    exact absurd read (other s rest)

structure Word (lexicon : Lexicon) (cs : List Char) : Prop where
  nonempty : cs ≠ []
  parts : ∀ c ∈ cs, lexicon.isPart c = true

theorem not_part_blank : lexicon.isPart ' ' = false := by simp [isPart]

theorem not_part_quote : lexicon.isPart '"' = false := by simp [isPart]

theorem Word.tokens {cs rest : List Char} (word : lexicon.Word cs)
    (ends : ∀ c ∈ rest.head?, lexicon.isPart c = false) :
    lexicon.tokens (cs ++ rest) =
      (lexicon.tokens rest).map (.word (String.ofList cs) :: ·) := by
  cases cs with
  | nil => exact absurd rfl word.nonempty
  | cons c tail =>
    have part := word.parts c (by simp)
    have blank : c ≠ ' ' := by
      rintro rfl
      rw [not_part_blank] at part
      cases part
    have quote : c ≠ '"' := by
      rintro rfl
      rw [not_part_quote] at part
      cases part
    have parts : ∀ d ∈ tail, lexicon.isPart d = true :=
      fun d hd => word.parts d (List.mem_cons_of_mem c hd)
    obtain ⟨taken, dropped⟩ := span_of_ends parts ends
    rw [List.cons_append, Lexicon.tokens, if_neg blank, if_neg quote, if_pos part, taken, dropped]

/-- A word in front of a text whose first character ends it. -/
theorem Word.lexes {cs ds : List Char} {ts : List Token} (word : lexicon.Word cs)
    (ends : ∃ c ∈ ds.head?, lexicon.isPart c = false) (after : lexicon.Lexes ds ts) :
    lexicon.Lexes (cs ++ ds) (.word (String.ofList cs) :: ts) := by
  intro rest
  obtain ⟨c, first, other⟩ := ends
  have ends : ∀ d ∈ (ds ++ rest).head?, lexicon.isPart d = false := by
    intro d hd
    rw [List.head?_append, Option.mem_def.mp first] at hd
    cases hd
    exact other
  rw [List.append_assoc, word.tokens ends, after rest, Option.map_map]
  rfl

/-- A mark in front of a text whose first character does not run together with it. -/
theorem lexes_operator {c : Char} {ds : List Char} {ts : List Token} (blank : c ≠ ' ')
    (quote : c ≠ '"') (part : lexicon.isPart c = false) (operator : lexicon.operator c = true)
    (ends : ∃ d ∈ ds.head?, lexicon.operator d = false) (after : lexicon.Lexes ds ts) :
    lexicon.Lexes (c :: ds) (.mark (String.ofList [c]) :: ts) := by
  intro rest
  obtain ⟨d, first, other⟩ := ends
  cases ds with
  | nil => cases first
  | cons e tail =>
    cases first
    have read := after rest
    rw [List.cons_append] at read
    rw [List.cons_append, List.cons_append, Lexicon.tokens, if_neg blank, if_neg quote,
      if_neg (by simp [part]), if_pos operator, List.takeWhile_cons_of_neg (by simp [other]),
      List.dropWhile_cons_of_neg (by simp [other]), read, Option.map_map]
    rfl

end Lexicon

end RouteBindings.Text
