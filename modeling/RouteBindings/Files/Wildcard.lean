import RouteBindings.Text.Order

/-!
Wildcard patterns: their tokens, and the names that they match. Two stars stand for directories and
have to be a whole segment.
-/

namespace RouteBindings

inductive WildcardCause where
  | invalidRange
  | tooManyStars
  | partOfSegment
  deriving DecidableEq, Repr

def WildcardCause.message : WildcardCause → String
  | invalidRange => "invalid range pattern"
  | tooManyStars => "wildcards are either regular `*` or recursive `**`"
  | partOfSegment => "recursive wildcards must form a single path component"

/-- The offset counts the characters before the place of the fault. -/
structure WildcardFault where
  offset : Nat
  cause : WildcardCause
  deriving DecidableEq, Repr

def WildcardFault.message (fault : WildcardFault) : String :=
  "Pattern syntax error near position " ++ toString fault.offset ++ ": " ++ fault.cause.message

structure CharSpan where
  first : Char
  last : Char
  deriving DecidableEq, Repr

def CharSpan.holds (span : CharSpan) (c : Char) : Bool :=
  span.first.toNat ≤ c.toNat && c.toNat ≤ span.last.toNat

inductive Wildcard where
  | char (c : Char)
  | anyChar
  | anyChars
  | directories
  | within (spans : List CharSpan)
  | except (spans : List CharSpan)
  deriving DecidableEq, Repr

namespace Wildcard

def spans : List Char → List CharSpan
  | [] => []
  | a :: '-' :: b :: rest => ⟨a, b⟩ :: spans rest
  | a :: rest => ⟨a, a⟩ :: spans rest

def splitBracket : List Char → Option (List Char × List Char)
  | [] => none
  | ']' :: rest => some ([], rest)
  | c :: rest => (splitBracket rest).map fun (inside, after) => (c :: inside, after)

/-- The set that an opening bracket begins: its wildcard, its length, and what follows it. The first
character of a set is never its end. -/
def scanSet : List Char → Option (Wildcard × Nat × List Char)
  | '!' :: c :: rest =>
    (splitBracket rest).map fun (inside, after) =>
      (except (spans (c :: inside)), inside.length + 4, after)
  | '!' :: [] => none
  | c :: rest =>
    (splitBracket rest).map fun (inside, after) =>
      (within (spans (c :: inside)), inside.length + 3, after)
  | [] => none

/-- The fuel is used up by characters. The character before shows whether a segment starts here. -/
def scanFrom : Nat → Option Char → Nat → List Char → Except WildcardFault (List Wildcard)
  | 0, _, _, _ => .ok []
  | _ + 1, _, _, [] => .ok []
  | fuel + 1, before, offset, c :: rest =>
    if c = '?' then (scanFrom fuel (some c) (offset + 1) rest).map (anyChar :: ·)
    else if c = '[' then
      match scanSet rest with
      | none => .error ⟨offset, .invalidRange⟩
      | some (set, size, after) =>
        (scanFrom fuel (some ']') (offset + size) after).map (set :: ·)
    else if c = '*' then
      match rest with
      | '*' :: '*' :: _ => .error ⟨offset + 2, .tooManyStars⟩
      | '*' :: after =>
        if before = none || before = some '/' then
          match after with
          | [] => .ok [directories]
          | '/' :: after =>
            (scanFrom fuel (some '/') (offset + 3) after).map (directories :: ·)
          | _ => .error ⟨offset + 2, .partOfSegment⟩
        else .error ⟨offset - 1, .partOfSegment⟩
      | after => (scanFrom fuel (some c) (offset + 1) after).map (anyChars :: ·)
    else (scanFrom fuel (some c) (offset + 1) rest).map (char c :: ·)

def scan (cs : List Char) : Except WildcardFault (List Wildcard) :=
  scanFrom cs.length none 0 cs

def admits (c : Char) : Wildcard → Bool
  | char d => c = d
  | anyChar => true
  | anyChars => false
  | directories => false
  | within spans => spans.any (·.holds c)
  | except spans => !spans.any (·.holds c)

def fromHereOn : List Bool → List Bool
  | [] => []
  | flag :: flags =>
    let later := fromHereOn flags
    (flag || later.headD false) :: later

/-- Whether the wildcards match the whole of what is left, at each place in a name from its start to
its end. The row for all wildcards but the first gives the row for all. -/
def matchRests : List Wildcard → List Char → List Bool
  | [], cs => List.replicate cs.length false ++ [true]
  | anyChars :: ws, cs => fromHereOn (matchRests ws cs)
  | w :: ws, cs =>
    List.zipWith (fun c later => w.admits c && later) cs (matchRests ws cs).tail ++ [false]

def allMatch (ws : List Wildcard) (cs : List Char) : Bool :=
  (matchRests ws cs).headD false

theorem length_fromHereOn (flags : List Bool) :
    (fromHereOn flags).length = flags.length := by
  induction flags with
  | nil => rfl
  | cons flag flags ih => simp [fromHereOn, ih]

theorem length_matchRests (ws : List Wildcard) (cs : List Char) :
    (matchRests ws cs).length = cs.length + 1 := by
  induction ws with
  | nil => simp [matchRests]
  | cons w ws ih => cases w <;> simp [matchRests, length_fromHereOn, ih]

/-- The row of a name goes on with the row of what is left after its first character. -/
theorem matchRests_cons (ws : List Wildcard) (c : Char) (cs : List Char) :
    matchRests ws (c :: cs) = allMatch ws (c :: cs) :: matchRests ws cs := by
  have tail : ∀ ws, (matchRests ws (c :: cs)).tail = matchRests ws cs := by
    intro ws
    induction ws with
    | nil => simp [matchRests, List.replicate_succ]
    | cons w ws ih =>
      have nonempty := length_matchRests ws (c :: cs)
      cases h : matchRests ws (c :: cs) with
      | nil => simp [h] at nonempty
      | cons flag flags =>
        have rest : flags = matchRests ws cs := by simpa [h] using ih
        have size := length_matchRests ws cs
        cases hr : matchRests ws cs with
        | nil => simp [hr] at size
        | cons later laters => cases w <;> simp [matchRests, fromHereOn, h, rest, hr]
  have nonempty := length_matchRests ws (c :: cs)
  cases h : matchRests ws (c :: cs) with
  | nil => simp [h] at nonempty
  | cons flag flags => simpa [allMatch, h] using tail ws

theorem allMatch_nil (cs : List Char) : allMatch [] cs = cs.isEmpty := by
  cases cs <;> simp [allMatch, matchRests, List.replicate_succ]

/-- A wildcard for any characters stands for none here, or takes one and stays. -/
theorem allMatch_anyChars (ws : List Wildcard) (c : Char) (cs : List Char) :
    allMatch (anyChars :: ws) (c :: cs) =
      (allMatch ws (c :: cs) || allMatch (anyChars :: ws) cs) := by
  change (fromHereOn (matchRests ws (c :: cs))).headD false = _
  rw [matchRests_cons]
  rfl

/-- Every other wildcard takes the first character. -/
theorem allMatch_cons {w : Wildcard} (h : w ≠ anyChars) (ws : List Wildcard) (c : Char)
    (cs : List Char) : allMatch (w :: ws) (c :: cs) = (w.admits c && allMatch ws cs) := by
  have row : matchRests (w :: ws) (c :: cs) =
      List.zipWith (fun c later => w.admits c && later) (c :: cs) (matchRests ws cs) ++
        [false] := by
    cases w <;> simp_all [matchRests, matchRests_cons ws c cs]
  have size := length_matchRests ws cs
  rw [allMatch, row, allMatch]
  cases hr : matchRests ws cs with
  | nil => simp [hr] at size
  | cons later laters => simp

end Wildcard

end RouteBindings
