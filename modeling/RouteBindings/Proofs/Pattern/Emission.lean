import RouteBindings.Pattern.Expression
import RouteBindings.Proofs.Pattern.Chains
import RouteBindings.Proofs.Pattern.Script

namespace RouteBindings.Pattern

open Text (Token Lexicon quote quotedChars)
open Script (lexicon callFront callBack demandBody attemptFront attemptBack)

section

variable (begins continues : Char → Bool)

mutual
/-- No alternation is empty, and every symbol may stand for a variable. -/
def Emittable : Pattern → Prop
  | literal _ => True
  | symbol name _ => Script.IsName begins continues name
  | group body => body.Emittable
  | concat left right => left.Emittable ∧ right.Emittable
  | alternation children => children ≠ [] ∧ EmittableAll children

def EmittableAll : List Pattern → Prop
  | [] => True
  | child :: rest => child.Emittable ∧ EmittableAll rest
end

end

theorem expressionOf_cons (seed : String) (child next : Pattern) (rest : List Pattern) :
    expressionOf seed (child :: next :: rest) =
      expressionOf (child.expression seed ++ "|") (next :: rest) := by
  simp only [expressionOf]

mutual
/-- An expression does not depend on what is written before it. -/
theorem expression_seed (seed : String) : (p : Pattern) →
    p.expression seed = seed ++ p.expression ""
  | literal text => by simp only [expression, String.empty_append]
  | symbol name wildcard => by
    cases wildcard <;> simp [expression, String.append_assoc]
  | group body => by
    rw [expression, expression, expression_seed _ body, expression_seed ("" ++ _) body]
    simp only [String.append_assoc, String.empty_append]
  | concat left right => by
    rw [expression, expression, expression_seed _ right, expression_seed seed left,
      expression_seed (left.expression "" ++ " + ") right]
    simp only [String.append_assoc]
  | alternation children => expressionOf_seed seed children

theorem expressionOf_seed (seed : String) : (ps : List Pattern) →
    expressionOf seed ps = seed ++ expressionOf "" ps
  | [] => by simp [expressionOf]
  | [child] => expression_seed seed child
  | child :: next :: rest => by
    rw [expressionOf_cons, expressionOf_cons, expressionOf_seed _ (next :: rest),
      expression_seed seed child, expressionOf_seed (child.expression "" ++ "|") (next :: rest)]
    simp only [String.append_assoc]
end

def script (p : Pattern) : List Char :=
  (p.expression "").toList

mutual
def tokens : Pattern → List Token
  | literal text => [.text text]
  | symbol name true => [.mark "(", .word name, .mark "??", .text "", .mark ")"]
  | symbol name false => callFront ++ (demandBody name name ++ callBack)
  | group body => callFront ++ (attemptFront ++ (body.tokens ++ (attemptBack ++ callBack)))
  | concat left right => left.tokens ++ .mark "+" :: right.tokens
  | alternation children => tokensOf children

def tokensOf : List Pattern → List Token
  | [] => []
  | [child] => child.tokens
  | child :: rest => child.tokens ++ .mark "|" :: tokensOf rest
end

def fixedParts : List (String × List Token) :=
  [("(() => \x7b ", callFront), (" \x7d)()", callBack), ("try \x7b return ", attemptFront),
    (" \x7d catch \x7b return ", [.mark "\x7d", .word "catch", .mark "\x7b", .word "return"]),
    (" \x7d", [.mark "\x7d"]), ("if (", [.word "if", .mark "("]),
    (") return ", [.mark ")", .word "return"]), ("; throw ", [.mark ";", .word "throw"]),
    ("(", [.mark "("]), (" ?? ", [.mark "??"]), (")", [.mark ")"]), (" + ", [.mark "+"])]

section

variable {begins continues : Char → Bool}

theorem lexes_fixed {text : String} {ts : List Token} (fixed : (text, ts) ∈ fixedParts) :
    (lexicon begins continues).Lexes text.toList ts := by
  intro rest
  simp only [fixedParts, List.mem_cons, Prod.mk.injEq, List.not_mem_nil, or_false] at fixed
  rcases fixed with ⟨rfl, rfl⟩ | ⟨rfl, rfl⟩ | ⟨rfl, rfl⟩ | ⟨rfl, rfl⟩ | ⟨rfl, rfl⟩ | ⟨rfl, rfl⟩ |
    ⟨rfl, rfl⟩ | ⟨rfl, rfl⟩ | ⟨rfl, rfl⟩ | ⟨rfl, rfl⟩ | ⟨rfl, rfl⟩ | ⟨rfl, rfl⟩
  all_goals
    simp [Lexicon.tokens, Lexicon.isPart, lexicon, callFront, callBack, attemptFront]
    try cases (lexicon begins continues).tokens rest <;> rfl

theorem word_of_name {name : String} (valid : Script.IsName begins continues name) :
    (lexicon begins continues).Word name.toList := by
  obtain ⟨c, rest, same, -⟩ := valid.starts
  exact ⟨by simp [same], valid.parts⟩

theorem lexes_name {name text : String} {ts : List Token}
    (valid : Script.IsName begins continues name) (fixed : (text, ts) ∈ fixedParts)
    (ends : ∃ c ∈ text.toList.head?, (lexicon begins continues).isPart c = false) :
    (lexicon begins continues).Lexes (name.toList ++ text.toList) (.word name :: ts) := by
  have read := (word_of_name valid).lexes ends (lexes_fixed fixed)
  rwa [String.ofList_toList] at read

theorem lexes_wildcard {name : String} (valid : Script.IsName begins continues name) :
    (lexicon begins continues).Lexes (symbol name true).script (symbol name true).tokens := by
  have same : (symbol name true).script =
      "(".toList ++ ((name.toList ++ " ?? ".toList) ++ (quotedChars "".toList ++ ")".toList)) := by
    simp [script, expression, quotedChars]
  have front : (lexicon begins continues).Lexes "(".toList [.mark "("] :=
    lexes_fixed (by simp [fixedParts])
  have test : (lexicon begins continues).Lexes (name.toList ++ " ?? ".toList)
      [.word name, .mark "??"] :=
    lexes_name valid (by simp [fixedParts]) (by simp [Lexicon.isPart])
  have back : (lexicon begins continues).Lexes ")".toList [.mark ")"] :=
    lexes_fixed (by simp [fixedParts])
  rw [same]
  exact front.append (test.append ((Lexicon.lexes_text "").append back))

theorem lexes_required {name : String} (valid : Script.IsName begins continues name) :
    (lexicon begins continues).Lexes (symbol name false).script (symbol name false).tokens := by
  have same : (symbol name false).script =
      "(() => \x7b ".toList ++ ("if (".toList ++ ((name.toList ++ ") return ".toList) ++
        ((name.toList ++ "; throw ".toList) ++ (quotedChars name.toList ++
          " \x7d)()".toList)))) := by
    simp [script, expression, quote]
  have front : (lexicon begins continues).Lexes "(() => \x7b ".toList callFront :=
    lexes_fixed (by simp [fixedParts])
  have test : (lexicon begins continues).Lexes "if (".toList [.word "if", .mark "("] :=
    lexes_fixed (by simp [fixedParts])
  have returns : (lexicon begins continues).Lexes (name.toList ++ ") return ".toList)
      [.word name, .mark ")", .word "return"] :=
    lexes_name valid (by simp [fixedParts]) (by simp [Lexicon.isPart])
  have throws : (lexicon begins continues).Lexes (name.toList ++ "; throw ".toList)
      [.word name, .mark ";", .word "throw"] :=
    lexes_name valid (by simp [fixedParts]) (by simp [Lexicon.isPart])
  have back : (lexicon begins continues).Lexes " \x7d)()".toList callBack :=
    lexes_fixed (by simp [fixedParts])
  rw [same]
  exact front.append
    (test.append (returns.append (throws.append ((Lexicon.lexes_text name).append back))))

theorem script_group (body : Pattern) :
    body.group.script = "(() => \x7b ".toList ++ ("try \x7b return ".toList ++ (body.script ++
      (" \x7d catch \x7b return ".toList ++ (quotedChars "".toList ++
        (" \x7d".toList ++ " \x7d)()".toList))))) := by
  unfold script
  rw [expression, expression_seed]
  simp [quotedChars]

theorem script_concat (left right : Pattern) :
    (left.concat right).script = left.script ++ (" + ".toList ++ right.script) := by
  unfold script
  rw [expression, expression_seed _ right]
  simp

theorem script_alternation (child next : Pattern) (rest : List Pattern) :
    (alternation (child :: next :: rest)).script =
      child.script ++ '|' :: (alternation (next :: rest)).script := by
  unfold script
  rw [expression, expression, expressionOf_cons, expressionOf_seed]
  simp

mutual
/-- An expression begins with no operator. -/
theorem script_begins : (p : Pattern) → p.Emittable begins continues →
    ∃ c ∈ p.script.head?, (lexicon begins continues).operator c = false
  | literal text, _ => by simp [script, expression, quote, quotedChars, lexicon]
  | symbol name wildcard, _ => by cases wildcard <;> simp [script, expression, lexicon]
  | group body, _ => by simp [script_group, lexicon]
  | concat left right, ⟨emittable, _⟩ => by
    obtain ⟨c, first, other⟩ := script_begins left emittable
    refine ⟨c, ?_, other⟩
    rw [script_concat, List.head?_append, Option.mem_def.mp first]
    rfl
  | alternation children, ⟨nonempty, emittable⟩ => script_begins_all children nonempty emittable

theorem script_begins_all : (ps : List Pattern) → ps ≠ [] → EmittableAll begins continues ps →
    ∃ c ∈ (alternation ps).script.head?, (lexicon begins continues).operator c = false
  | [], nonempty, _ => absurd rfl nonempty
  | [child], _, ⟨emittable, _⟩ => script_begins child emittable
  | child :: next :: rest, _, ⟨emittable, _⟩ => by
    obtain ⟨c, first, other⟩ := script_begins child emittable
    refine ⟨c, ?_, other⟩
    rw [script_alternation, List.head?_append, Option.mem_def.mp first]
    rfl
end

mutual
theorem lexes_script : (p : Pattern) → p.Emittable begins continues →
    (lexicon begins continues).Lexes p.script p.tokens
  | literal text, _ => by
    have same : (literal text).script = quotedChars text.toList := by
      simp [script, expression, quote]
    rw [same]
    exact Lexicon.lexes_text text
  | symbol name true, valid => lexes_wildcard valid
  | symbol name false, valid => lexes_required valid
  | group body, emittable => by
    have front : (lexicon begins continues).Lexes "(() => \x7b ".toList callFront :=
      lexes_fixed (by simp [fixedParts])
    have opens : (lexicon begins continues).Lexes "try \x7b return ".toList attemptFront :=
      lexes_fixed (by simp [fixedParts])
    have catches : (lexicon begins continues).Lexes " \x7d catch \x7b return ".toList
        [.mark "\x7d", .word "catch", .mark "\x7b", .word "return"] :=
      lexes_fixed (by simp [fixedParts])
    have closes : (lexicon begins continues).Lexes " \x7d".toList [.mark "\x7d"] :=
      lexes_fixed (by simp [fixedParts])
    have back : (lexicon begins continues).Lexes " \x7d)()".toList callBack :=
      lexes_fixed (by simp [fixedParts])
    rw [script_group]
    exact front.append (opens.append ((lexes_script body emittable).append
      (catches.append ((Lexicon.lexes_text "").append (closes.append back)))))
  | concat left right, ⟨hl, hr⟩ => by
    have plus : (lexicon begins continues).Lexes " + ".toList [.mark "+"] :=
      lexes_fixed (by simp [fixedParts])
    rw [script_concat]
    exact (lexes_script left hl).append (plus.append (lexes_script right hr))
  | alternation children, ⟨nonempty, emittable⟩ => lexes_alternation children nonempty emittable

theorem lexes_alternation : (ps : List Pattern) → ps ≠ [] → EmittableAll begins continues ps →
    (lexicon begins continues).Lexes (alternation ps).script (tokensOf ps)
  | [], nonempty, _ => absurd rfl nonempty
  | [child], _, ⟨emittable, _⟩ => lexes_script child emittable
  | child :: next :: rest, _, ⟨emittable, others⟩ => by
    have tail := lexes_alternation (next :: rest) (by simp) others
    have first := script_begins_all (next :: rest) (by simp) others
    rw [script_alternation]
    exact (lexes_script child emittable).append (Lexicon.lexes_operator (by decide) (by decide)
      (by simp [Lexicon.isPart]) (by simp [lexicon]) first tail)
end

end

end RouteBindings.Pattern
