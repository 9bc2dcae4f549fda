import RouteBindings.Pattern.Fault

/-!
The lexemes of a pattern. Slashes and dots stand alone, a name takes as many characters as it can,
and so does a literal, in which a backslash makes the next character an ordinary one.
-/

namespace RouteBindings

inductive Lexeme where
  | slash
  | dot
  | literal (text : String)
  | symbol (name : String)
  | star (name : String)
  | opening
  | closing
  | bar
  deriving DecidableEq, Repr

structure PlacedLexeme where
  offset : Nat
  lexeme : Lexeme
  deriving DecidableEq, Repr

namespace Lexeme

def isNameChar (c : Char) : Bool :=
  c.isAlphanum || c = '_'

def isSpecial (c : Char) : Bool :=
  c = '/' || c = '.' || c = '(' || c = ')' || c = '|' || c = ':' || c = '*' || c = '\\'

def byteCount (cs : List Char) : Nat :=
  cs.foldr (fun c count => c.utf8Size + count) 0

/-- The literal at the front as it is written, and the rest. A backslash that ends the text belongs
to the literal. -/
def spanLiteral : List Char → List Char × List Char
  | [] => ([], [])
  | '\\' :: c :: rest =>
    let (here, after) := spanLiteral rest
    ('\\' :: c :: here, after)
  | ['\\'] => (['\\'], [])
  | c :: rest =>
    if isSpecial c then ([], c :: rest)
    else
      let (here, after) := spanLiteral rest
      (c :: here, after)

def unescape? : List Char → Option (List Char)
  | [] => some []
  | '\\' :: c :: rest => (unescape? rest).map (c :: ·)
  | ['\\'] => none
  | c :: rest => (unescape? rest).map (c :: ·)

theorem length_spanLiteral (cs : List Char) : (spanLiteral cs).2.length ≤ cs.length := by
  fun_induction spanLiteral cs <;> simp_all <;> omega

/-- A literal begins with any character that is not special, and with a backslash. -/
theorem length_spanLiteral_cons (c : Char) (rest : List Char) (h : isSpecial c = true → c = '\\') :
    (spanLiteral (c :: rest)).2.length < (c :: rest).length := by
  have step := length_spanLiteral
  by_cases hc : c = '\\'
  · subst hc
    cases rest with
    | nil => simp [spanLiteral]
    | cons d rest =>
      have := step rest
      simp only [spanLiteral, List.length_cons]
      omega
  · have plain : isSpecial c ≠ true := fun special => hc (h special)
    have := step rest
    simp [spanLiteral, plain, hc]
    omega

def scanFrom (offset : Nat) : List Char → Except PatternFault (List PlacedLexeme)
  | [] => .ok []
  | c :: rest =>
    if c = '/' then (scanFrom (offset + 1) rest).map (⟨offset, .slash⟩ :: ·)
    else if c = '.' then (scanFrom (offset + 1) rest).map (⟨offset, .dot⟩ :: ·)
    else if c = '(' then (scanFrom (offset + 1) rest).map (⟨offset, .opening⟩ :: ·)
    else if c = ')' then (scanFrom (offset + 1) rest).map (⟨offset, .closing⟩ :: ·)
    else if c = '|' then (scanFrom (offset + 1) rest).map (⟨offset, .bar⟩ :: ·)
    else if c = ':' ∨ c = '*' then
      let name := rest.takeWhile isNameChar
      if name.isEmpty then .error ⟨offset, .expectedName⟩
      else
        let lexeme := if c = ':' then symbol (String.ofList name) else star (String.ofList name)
        (scanFrom (offset + 1 + byteCount name) (rest.dropWhile isNameChar)).map
          (⟨offset, lexeme⟩ :: ·)
    else
      let here := (spanLiteral (c :: rest)).1
      match unescape? here with
      | none => .error ⟨offset + byteCount here - 1, .danglingEscape⟩
      | some text =>
        (scanFrom (offset + byteCount here) (spanLiteral (c :: rest)).2).map
          (⟨offset, literal (String.ofList text)⟩ :: ·)
termination_by cs => cs.length
decreasing_by
  all_goals try (simp only [List.length_cons]; omega)
  · have := (List.dropWhile_sublist isNameChar (l := rest)).length_le
    simp only [List.length_cons]
    omega
  · exact length_spanLiteral_cons c rest (by intro h; simp_all [isSpecial])

def scan (pattern : String) : Except PatternFault (List PlacedLexeme) :=
  scanFrom 0 pattern.toList

end Lexeme

end RouteBindings
