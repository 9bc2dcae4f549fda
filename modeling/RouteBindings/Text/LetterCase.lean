import RouteBindings.Text.LetterCase.Table

/-!
Upper and lower case of text. One letter may become several, and a capital sigma becomes the final
small one at the end of a word.
-/

namespace RouteBindings.Text

def CaseRun.other? (run : CaseRun) (n : Nat) : Option Nat :=
  if run.first ≤ n && n ≤ run.last && (n - run.first) % run.step = 0 then
    some ((n : Int) + run.shift).toNat
  else none

def otherCase (expansions : List (Nat × List Nat)) (runs : List CaseRun) (n : Nat) : List Nat :=
  match expansions.lookup n with
  | some letters => letters
  | none => [(runs.findSome? (CaseRun.other? · n)).getD n]

def lowerChar (c : Char) : List Char :=
  if c.toNat < 128 then [c.toLower]
  else (otherCase lowerExpansions lowerRuns c.toNat).map Char.ofNat

def upperChar (c : Char) : List Char :=
  if c.toNat < 128 then [c.toUpper]
  else (otherCase upperExpansions upperRuns c.toNat).map Char.ofNat

def within (ranges : List (Nat × Nat)) (c : Char) : Bool :=
  ranges.any fun (first, last) => first ≤ c.toNat && c.toNat ≤ last

def nextIsCased (cs : List Char) : Bool :=
  match cs.dropWhile (within caseIgnorableRanges) with
  | [] => false
  | c :: _ => within casedRanges c

/-- A sigma is final when a cased letter stands before it and none after it. -/
def lowerFrom (before : List Char) : List Char → List Char
  | [] => []
  | c :: rest =>
    let small :=
      if c.toNat = 0x3a3 then
        if nextIsCased before && !nextIsCased rest then [Char.ofNat 0x3c2] else [Char.ofNat 0x3c3]
      else lowerChar c
    small ++ lowerFrom (c :: before) rest

def lowerChars (cs : List Char) : List Char :=
  lowerFrom [] cs

end RouteBindings.Text
