import Mathlib
import RouteBindings.Proofs.Names.Boundaries
import RouteBindings.Proofs.Text.LetterCase

namespace RouteBindings.Names

/-- Whether the character at a place of an ASCII text begins a word: a capital behind a small letter
or a digit, or behind a capital or a digit and before a small letter. -/
def beginsAt (cs : List Char) : Nat → Bool
  | 0 => false
  | i + 1 =>
    cs[i + 1]?.any Char.isUpper &&
      (cs[i]?.any (fun x => x.isLower || x.isDigit) ||
        cs[i]?.any (fun x => x.isUpper || x.isDigit) && cs[i + 2]?.any Char.isLower)

/-- The text with an underscore before the character at each of the places, the first of which is
`i`. -/
def markedFrom (places : Nat → Bool) (i : Nat) : List Char → List Char
  | [] => []
  | c :: rest => (if places i then ['_', c] else [c]) ++ markedFrom places (i + 1) rest

def smallForm (c : Char) : Char :=
  if c = '-' then '_' else c.toLower

theorem length_markedFrom (places : Nat → Bool) (i : Nat) (cs : List Char) :
    (markedFrom places i cs).length = cs.length + (List.range' i cs.length).countP places := by
  induction cs generalizing i with
  | nil => rfl
  | cons c rest ih =>
    rw [markedFrom, List.length_append, ih, List.length_cons, List.range'_succ, List.countP_cons]
    split
    · rw [List.length_cons, List.length_singleton]
      omega
    · rw [List.length_singleton]
      omega

/-- Behind an ASCII character the digits of other scripts play no part. -/
theorem beginsWord_of_ascii {x : Char} (ascii : x.toNat < 128) (y : Char) (next : Option Char) :
    beginsWord x y next = (y.isUpper &&
      ((x.isLower || x.isDigit) || (x.isUpper || x.isDigit) && next.any Char.isLower)) := by
  have digit := isDecimalDigit_of_ascii ascii
  have small : isSmall = Char.isLower := rfl
  simp only [beginsWord, endsAcronym, followsSmall, isAcronymChar, isCapital, digit, small]
  cases y.isUpper <;> simp [Bool.or_comm]

theorem beginsAt_append {front rest : List Char} {x y : Char} (ascii : x.toNat < 128) :
    beginsAt (front ++ x :: y :: rest) (front.length + 1) = beginsWord x y rest.head? := by
  have left : (front ++ x :: y :: rest)[front.length]? = some x := by simp
  have here : (front ++ x :: y :: rest)[front.length + 1]? = some y := by simp
  have right : (front ++ x :: y :: rest)[front.length + 2]? = rest.head? := by
    rw [List.getElem?_append_right (by omega), List.head?_eq_getElem?]
    simp
  rw [beginsAt, left, here, right, beginsWord_of_ascii ascii]
  rfl

theorem partedAfter_eq_markedFrom (front : List Char) {x : Char} {rest : List Char}
    (ascii : ∀ c ∈ x :: rest, c.toNat < 128) :
    partedAfter beginsWord x rest =
      markedFrom (beginsAt (front ++ x :: rest)) (front.length + 1) rest := by
  induction rest generalizing front x with
  | nil => rfl
  | cons y rest ih =>
    obtain ⟨given, others⟩ := List.forall_mem_cons.mp ascii
    -- places count from the start of the text, so what is passed is kept in front
    have behind := ih (front ++ [x]) others
    rw [List.length_append, List.length_singleton, List.append_assoc, List.singleton_append]
      at behind
    rw [partedAfter, markedFrom, beginsAt_append given, behind]

theorem parted_eq_markedFrom {cs : List Char} (ascii : ∀ c ∈ cs, c.toNat < 128) :
    parted beginsWord cs = markedFrom (beginsAt cs) 0 cs := by
  cases cs with
  | nil => rfl
  | cons c rest =>
    rw [parted, partedAfter_eq_markedFrom [] ascii]
    rfl

theorem mem_slashes {c : Char} {cs : List Char} (member : c ∈ slashes cs) : c = '/' ∨ c ∈ cs := by
  fun_induction slashes cs with
  | case1 => cases member
  | case2 rest ih =>
    rcases List.mem_cons.mp member with here | later
    · exact .inl here
    · exact (ih later).imp_right fun inside => by simp [inside]
  | case3 d rest _ ih =>
    rcases List.mem_cons.mp member with rfl | later
    · exact .inr List.mem_cons_self
    · exact (ih later).imp_right (List.mem_cons_of_mem d)

theorem underscoreChars_of_ascii {cs : List Char} (ascii : ∀ c ∈ cs, c.toNat < 128) :
    underscoreChars cs = (markedFrom (beginsAt (slashes cs)) 0 (slashes cs)).map smallForm := by
  have slashed : ∀ c ∈ slashes cs, c.toNat < 128 := by
    intro c member
    rcases mem_slashes member with rfl | inside
    · decide
    · exact ascii c inside
  have dashed : ∀ c ∈ (parted beginsWord (slashes cs)).map dashes, c.toNat < 128 := by
    intro c member
    obtain ⟨d, inside, rfl⟩ := List.mem_map.mp member
    rw [dashes]
    split
    · decide
    · rcases mem_parted inside with rfl | given
      · decide
      · exact slashed d given
  have small : Char.toLower ∘ dashes = smallForm := by
    funext c
    rw [Function.comp_apply, dashes, smallForm]
    split
    · decide
    · rfl
  rw [underscoreChars, splitWords_splitAcronyms, Text.lowerChars_of_ascii dashed, List.map_map,
    small, parted_eq_markedFrom slashed]

def ColonsApart (cs : List Char) : Prop :=
  cs.IsChain fun x y => x = ':' → y ≠ ':'

instance : DecidablePred ColonsApart :=
  fun cs => inferInstanceAs (Decidable (cs.IsChain _))

theorem not_apart_colons (rest : List Char) : ¬ ColonsApart (':' :: ':' :: rest) :=
  fun apart => (List.isChain_cons_cons.mp apart).1 rfl rfl

theorem slashes_of_apart {cs : List Char} (apart : ColonsApart cs) : slashes cs = cs := by
  fun_induction slashes cs with
  | case1 => rfl
  | case2 rest _ => exact absurd apart (not_apart_colons rest)
  | case3 c rest _ ih => rw [ih apart.tail]

/-- The first two colons of a text become a slash, and what is behind them is a text of its own. -/
theorem slashes_first_colons {front : List Char} (apart : ColonsApart (front ++ [':']))
    (rest : List Char) : slashes (front ++ ':' :: ':' :: rest) = front ++ '/' :: slashes rest := by
  induction front with
  | nil => rfl
  | cons c front ih =>
    have behind := ih apart.tail
    rw [List.cons_append, slashes, behind]
    · rfl
    · rintro others rfl begins
      cases front with
      | nil => exact not_apart_colons _ apart
      | cons d front =>
        cases begins
        exact not_apart_colons _ apart

theorem head?_slashes {cs : List Char} (begins : (slashes cs).head? = some ':') :
    cs.head? = some ':' := by
  fun_cases slashes cs with
  | case1 => cases begins
  | case2 rest => cases begins
  | case3 c rest => simpa [slashes] using begins

theorem apart_slashes (cs : List Char) : ColonsApart (slashes cs) := by
  fun_induction slashes cs with
  | case1 => exact .nil
  | case2 rest ih => exact List.isChain_cons.mpr ⟨fun _ _ slash => absurd slash (by decide), ih⟩
  | case3 c rest single ih =>
    refine List.isChain_cons.mpr ⟨?_, ih⟩
    rintro d begins rfl rfl
    cases rest with
    | nil => cases begins
    | cons e rest =>
      cases head?_slashes begins
      exact single rest rfl rfl

theorem apart_partedAfter {starts : Char → Char → Option Char → Bool} {x : Char} {cs : List Char}
    (apart : ColonsApart (x :: cs)) : ColonsApart (x :: partedAfter starts x cs) := by
  induction cs generalizing x with
  | nil => exact apart
  | cons y rest ih =>
    obtain ⟨here, others⟩ := List.isChain_cons_cons.mp apart
    rw [partedAfter]
    split
    · exact .cons_cons (fun _ => by decide) (.cons_cons (fun mark => absurd mark (by decide))
        (ih others))
    · exact .cons_cons here (ih others)

theorem apart_parted {starts : Char → Char → Option Char → Bool} {cs : List Char}
    (apart : ColonsApart cs) : ColonsApart (parted starts cs) := by
  cases cs with
  | nil => exact .nil
  | cons c rest => exact apart_partedAfter apart

theorem dashes_eq_colon {c : Char} : dashes c = ':' ↔ c = ':' := by
  rw [dashes]
  split
  · rename_i dash
    rw [dash]
    decide
  · rfl

theorem apart_dashes {cs : List Char} (apart : ColonsApart cs) : ColonsApart (cs.map dashes) := by
  rw [ColonsApart, List.isChain_map]
  exact apart.imp fun x y apart colon => mt dashes_eq_colon.mp (apart (dashes_eq_colon.mp colon))

theorem no_colon_of_small {c : Char} (small : Text.IsSmallForm c) : c ≠ ':' := by
  rintro rfl
  exact absurd small.1 (by decide)

theorem head?_lowerFrom {before cs : List Char}
    (begins : (Text.lowerFrom before cs).head? = some ':') : cs.head? = some ':' := by
  cases cs with
  | nil => cases begins
  | cons c rest =>
    obtain ⟨small, lowers, text⟩ := Text.lowerFrom_cons before c rest
    rw [text] at begins
    rcases lowers with ⟨rfl, -⟩ | ⟨some, forms⟩
    · exact begins
    · obtain ⟨d, others, rfl⟩ := List.exists_cons_of_ne_nil some
      cases begins
      exact absurd rfl (no_colon_of_small (forms ':' List.mem_cons_self))

theorem apart_lowerFrom {before cs : List Char} (apart : ColonsApart cs) :
    ColonsApart (Text.lowerFrom before cs) := by
  induction cs generalizing before with
  | nil => exact .nil
  | cons c rest ih =>
    obtain ⟨here, others⟩ := List.isChain_cons.mp apart
    obtain ⟨small, lowers, text⟩ := Text.lowerFrom_cons before c rest
    rw [text]
    rcases lowers with ⟨rfl, -⟩ | ⟨-, forms⟩
    · refine List.isChain_cons.mpr ⟨?_, ih others⟩
      rintro d begins colon rfl
      exact here ':' (head?_lowerFrom begins) colon rfl
    · -- no colon among the small letters
      refine List.isChain_append.mpr ⟨?_, ih others, ?_⟩
      · exact (List.pairwise_of_forall_mem_list fun x member _ _ colon =>
          absurd colon (no_colon_of_small (forms x member))).isChain
      · intro x last _ _ colon
        exact absurd colon (no_colon_of_small (forms x (List.mem_of_mem_getLast? last)))

/-- A text in which nothing is left to be underscored. It may hold letters of any script. -/
structure IsUnderscored (cs : List Char) : Prop where
  small : ∀ c ∈ cs, Text.lowerChar c = [c]
  noDash : '-' ∉ cs
  apart : ColonsApart cs

theorem isUnderscored_underscoreChars (cs : List Char) : IsUnderscored (underscoreChars cs) where
  small _ member := (Text.mem_lowerFrom member).1
  noDash member := by
    rcases (Text.mem_lowerFrom member).2 with inside | letter
    · obtain ⟨c, -, same⟩ := List.mem_map.mp inside
      rw [dashes] at same
      split at same
      · exact absurd same (by decide)
      · contradiction
    · exact absurd letter (by decide)
  apart := apart_lowerFrom (apart_dashes (by
    rw [splitWords_splitAcronyms]
    exact apart_parted (apart_slashes cs)))

theorem IsUnderscored.no_capital {cs : List Char} (h : IsUnderscored cs) :
    ∀ c ∈ cs, isCapital c = false :=
  fun c member => Text.not_isUpper_of_kept (h.small c member)

theorem partedAfter_of_no_capital {x : Char} {cs : List Char}
    (plain : ∀ c ∈ cs, isCapital c = false) : partedAfter beginsWord x cs = cs := by
  induction cs generalizing x with
  | nil => rfl
  | cons y rest ih =>
    obtain ⟨here, others⟩ := List.forall_mem_cons.mp plain
    rw [partedAfter, if_neg, ih others]
    · rfl
    · intro begins
      rw [capital_of_beginsWord begins] at here
      cases here

theorem parted_of_no_capital {cs : List Char} (plain : ∀ c ∈ cs, isCapital c = false) :
    parted beginsWord cs = cs := by
  cases cs with
  | nil => rfl
  | cons c rest =>
    rw [parted, partedAfter_of_no_capital (List.forall_mem_cons.mp plain).2]

theorem underscoreChars_of_isUnderscored {cs : List Char} (h : IsUnderscored cs) :
    underscoreChars cs = cs := by
  have dashed : cs.map dashes = cs := by
    refine (List.map_congr_left fun c member => ?_).trans (List.map_id cs)
    exact if_neg (ne_of_mem_of_not_mem member h.noDash)
  rw [underscoreChars, slashes_of_apart h.apart, splitWords_splitAcronyms,
    parted_of_no_capital h.no_capital, dashed]
  exact Text.lowerFrom_eq_self h.small

theorem dropLeadingColons_of_apart {cs : List Char} (apart : ColonsApart cs) :
    dropLeadingColons cs = cs := by
  fun_cases dropLeadingColons cs with
  | case1 rest => exact absurd apart (not_apart_colons rest)
  | case2 => rfl

theorem dropEnding_of_isUnderscored {cs : List Char} (h : IsUnderscored cs) :
    dropEnding "Controller".toList cs = cs := by
  rw [dropEnding, if_neg]
  intro ends
  have member : 'C' ∈ cs := (List.isSuffixOf_iff_suffix.mp ends).subset (by decide)
  exact absurd (h.no_capital 'C' member) (by decide)

theorem underscore_underscore (s : String) : underscore (underscore s) = underscore s := by
  rw [underscore, underscore, String.toList_ofList,
    underscoreChars_of_isUnderscored (isUnderscored_underscoreChars s.toList)]

theorem controllerKey_of_isUnderscored {s : String} (h : IsUnderscored s.toList) :
    controllerKey s = s := by
  rw [controllerKey, dropLeadingColons_of_apart h.apart, dropEnding_of_isUnderscored h,
    underscoreChars_of_isUnderscored h, String.ofList_toList]

theorem controllerKey_controllerKey (s : String) :
    controllerKey (controllerKey s) = controllerKey s := by
  refine controllerKey_of_isUnderscored ?_
  rw [controllerKey, String.toList_ofList]
  exact isUnderscored_underscoreChars _

/-- Two colons become a slash, the first ones first. Then every character of an ASCII name that
begins a word gets one underscore before it, dashes become underscores, and letters small ones. A
name that has this form keeps it. -/
theorem underscore_exact :
    (∀ front rest, ColonsApart (front ++ [':']) →
      slashes (front ++ ':' :: ':' :: rest) = front ++ '/' :: slashes rest) ∧
    (∀ cs, ColonsApart cs → slashes cs = cs) ∧
    (∀ s : String, (∀ c ∈ s.toList, c.toNat < 128) →
      let cs := slashes s.toList
      (underscore s).toList = (markedFrom (beginsAt cs) 0 cs).map smallForm ∧
        (underscore s).length = cs.length + (List.range cs.length).countP (beginsAt cs)) ∧
    (∀ s, underscore (underscore s) = underscore s) ∧
    ∀ s, controllerKey (controllerKey s) = controllerKey s := by
  refine ⟨fun front rest apart => slashes_first_colons apart rest, fun cs => slashes_of_apart, ?_,
    underscore_underscore, controllerKey_controllerKey⟩
  intro s ascii cs
  have form : (underscore s).toList = (markedFrom (beginsAt cs) 0 cs).map smallForm := by
    rw [underscore, String.toList_ofList, underscoreChars_of_ascii ascii]
  refine ⟨form, ?_⟩
  rw [← String.length_toList, form, List.length_map, length_markedFrom, List.range_eq_range']

/-- Of the three colons the first two become a slash. Both rules find the word behind `2`, and it
gets one underscore. -/
theorem underscore_exact_mixed :
    slashes "Admin:::API2Keys-B".toList = "Admin/:API2Keys-B".toList ∧
      (underscore "Admin:::API2Keys-B").toList = "admin/:api2_keys_b".toList ∧
      (underscore "Admin:::API2Keys-B").length = 18 ∧
      controllerKey "admin/:api2_keys_b" = "admin/:api2_keys_b" := by
  obtain ⟨first, none, form, -, again⟩ := underscore_exact
  have slashed : slashes "Admin:::API2Keys-B".toList = "Admin/:API2Keys-B".toList := by
    have rest := none ":API2Keys-B".toList (by decide +kernel)
    have whole := first "Admin".toList ":API2Keys-B".toList (by decide +kernel)
    rwa [rest] at whole
  obtain ⟨text, length⟩ := form "Admin:::API2Keys-B" (by simp)
  rw [slashed] at text length
  refine ⟨slashed, text.trans (by decide +kernel), length.trans (by decide +kernel), ?_⟩
  have key : controllerKey "Admin:::API2Keys-BController" = "admin/:api2_keys_b" := by
    decide +kernel
  rw [← key, again]

end RouteBindings.Names
