import RouteBindings.Pattern.Lexeme
import RouteBindings.Pattern.Tree

/-!
Reading a pattern: one pass over its lexemes, with the levels that open parentheses have suspended.
A sequence nests to the right, and two sequences or more at one level are an alternation.
-/

namespace RouteBindings

namespace Pattern

/-- One level of parentheses: the finished sequences and the terms of the sequence being read, both
with the newest first. -/
structure Level where
  sequences : List Pattern
  terms : List Pattern

structure Reader where
  level : Level
  suspended : List (Nat × Level)

def Level.start : Level := ⟨[], []⟩

def Reader.start : Reader := ⟨.start, []⟩

def sequence? : List Pattern → Option Pattern
  | [] => none
  | last :: before => some (before.foldl (fun right left => .concat left right) last)

def Level.push (level : Level) (term : Pattern) : Level :=
  ⟨level.sequences, term :: level.terms⟩

def Level.close? (level : Level) : Option Pattern :=
  (sequence? level.terms).map fun sequence =>
    if level.sequences.isEmpty then sequence
    else .alternation (level.sequences.reverse ++ [sequence])

def Reader.term (r : Reader) (p : Pattern) : Reader :=
  ⟨r.level.push p, r.suspended⟩

def Reader.step (r : Reader) (here : PlacedLexeme) : Except PatternFault Reader :=
  match here.lexeme with
  | .slash => .ok (r.term (.literal "/"))
  | .dot => .ok (r.term (.literal "."))
  | .literal text => .ok (r.term (.literal text))
  | .symbol name => .ok (r.term (.symbol name false))
  | .star name => .ok (r.term (.symbol name true))
  | .opening => .ok ⟨.start, (here.offset, r.level) :: r.suspended⟩
  | .bar =>
    match sequence? r.level.terms with
    | none => .error ⟨here.offset, .emptyExpression⟩
    | some sequence => .ok ⟨⟨sequence :: r.level.sequences, []⟩, r.suspended⟩
  | .closing =>
    match r.level.close?, r.suspended with
    | none, _ => .error ⟨here.offset, .emptyExpression⟩
    | some _, [] => .error ⟨here.offset, .unbalanced⟩
    | some body, (_, level) :: suspended => .ok ⟨level.push (.group body), suspended⟩

def Reader.finish (r : Reader) (size : Nat) : Except PatternFault Pattern :=
  match r.level.close?, r.suspended with
  | none, _ => .error ⟨size, .emptyExpression⟩
  | some _, (offset, _) :: _ => .error ⟨offset, .unclosed⟩
  | some p, [] => .ok p

def Reader.run (r : Reader) : List PlacedLexeme → Except PatternFault Reader
  | [] => .ok r
  | here :: rest =>
    match r.step here with
    | .error fault => .error fault
    | .ok r => r.run rest

def parse (text : String) : Except PatternFault Pattern :=
  match Lexeme.scan text with
  | .error fault => .error fault
  | .ok lexemes =>
    match Reader.start.run lexemes with
    | .error fault => .error fault
    | .ok r => r.finish (Lexeme.byteCount text.toList)

end Pattern

end RouteBindings
