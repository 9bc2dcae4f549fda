import Mathlib
import RouteBindings.Proofs.Names.Boundaries
import RouteBindings.Proofs.Text.LetterCase

/-! Class names that come back from their words. The words forget the case of all letters, and each
word gets one capital back, so a name is restored if its capitals are what its words begin with. -/

namespace RouteBindings.Names

theorem words_ne_nil (cs : List Char) : words cs ≠ [] := by
  cases cs with
  | nil => simp [words]
  | cons c rest =>
    unfold words
    split
    · simp
    · split <;> simp

theorem words_cons {c : Char} (part : ¬ (c = '/' ∨ c = '_')) (rest : List Char) :
    ∃ word others, words rest = word :: others ∧ words (c :: rest) = (c :: word) :: others := by
  obtain ⟨word, others, split⟩ := List.exists_cons_of_ne_nil (words_ne_nil rest)
  refine ⟨word, others, split, ?_⟩
  simp [words, part, split]

theorem words_slash (cs ds : List Char) : words (cs ++ '/' :: ds) = words cs ++ words ds := by
  induction cs with
  | nil => simp [words]
  | cons c rest ih =>
    by_cases part : c = '/' ∨ c = '_'
    · simp [words, part, ih]
    · obtain ⟨word, others, split, longer⟩ := words_cons part rest
      rw [longer, List.cons_append, words, ih, split]
      simp [part]

def camelizeAfter (cs : List Char) : List Char :=
  (words cs).head (words_ne_nil cs) ++ (words cs).tail.flatMap upperFirst

theorem camelizeChars_cons {c : Char} (part : ¬ (c = '/' ∨ c = '_')) (rest : List Char) :
    camelizeChars (c :: rest) = Text.upperChar c ++ camelizeAfter rest := by
  obtain ⟨word, others, split, longer⟩ := words_cons part rest
  simp [camelizeChars, camelizeAfter, longer, split, upperFirst]

theorem camelizeAfter_cons {c : Char} (part : ¬ (c = '/' ∨ c = '_')) (rest : List Char) :
    camelizeAfter (c :: rest) = c :: camelizeAfter rest := by
  obtain ⟨word, others, split, longer⟩ := words_cons part rest
  simp [camelizeAfter, longer, split]

theorem camelizeAfter_mark (rest : List Char) :
    camelizeAfter ('_' :: rest) = camelizeChars rest := by
  simp [camelizeAfter, camelizeChars, words]

theorem camelizeChars_slash (cs ds : List Char) :
    camelizeChars (cs ++ '/' :: ds) = camelizeChars cs ++ camelizeChars ds := by
  simp [camelizeChars, words_slash]

theorem ascii_of_alphanum {c : Char} (plain : c.isAlphanum = true) : c.toNat < 128 := by
  simp only [Char.isAlphanum, Char.isAlpha, Char.isUpper, Char.isLower, Char.isDigit,
    Bool.or_eq_true, Bool.and_eq_true, decide_eq_true_eq, ge_iff_le,
    UInt32.le_iff_toNat_le] at plain
  change ((65 ≤ c.toNat ∧ c.toNat ≤ 90) ∨ (97 ≤ c.toNat ∧ c.toNat ≤ 122)) ∨
    (48 ≤ c.toNat ∧ c.toNat ≤ 57) at plain
  omega

theorem alphanum_toLower {c : Char} (plain : c.isAlphanum = true) :
    c.toLower.isAlphanum = true := by
  by_cases capital : c.isUpper = true
  · simp [Char.isAlphanum, Char.isAlpha, capital]
  · rwa [Char.toLower_eq_of_not_isUpper capital]

/-- Letters and digits stand inside words. -/
theorem part_of_alphanum {c : Char} (plain : c.isAlphanum = true) : ¬ (c = '/' ∨ c = '_') := by
  rintro (rfl | rfl) <;> cases plain

theorem upperChar_of_capital {c : Char} (capital : isCapital c = true) :
    Text.upperChar c.toLower = [c] := by
  have plain : c.isAlphanum = true := by
    simp only [isCapital] at capital
    simp [Char.isAlphanum, Char.isAlpha, capital]
  have ascii := ascii_of_alphanum (alphanum_toLower plain)
  have large := Char.toUpper_eq_of_not_isLower (Char.not_isLower_of_isUpper capital)
  rw [Text.upperChar, if_pos ascii, Char.toUpper_toLower_eq_toUpper, large]

theorem small_or_digit {c : Char} (plain : c.isAlphanum = true) (other : isCapital c = false) :
    (isSmall c || Text.isDecimalDigit c) = true := by
  rw [isDecimalDigit_of_ascii (ascii_of_alphanum plain)]
  simp only [Char.isAlphanum, Char.isAlpha, Bool.or_eq_true] at plain
  rcases plain with (capital | small) | digit
  · rw [isCapital, capital] at other
    cases other
  · rw [isSmall, small, Bool.true_or]
  · rw [digit, Bool.or_true]

/-- An ASCII class name without colons: letters and digits, the first one a capital. -/
def IsClassName (name : List Char) : Prop :=
  name.all Char.isAlphanum = true ∧ name.head?.any Char.isUpper = true

instance : DecidablePred IsClassName :=
  fun _ => inferInstanceAs (Decidable (_ ∧ _))

/-- A small letter follows every capital that stands right behind another one. -/
def Restorable (name : List Char) : Prop :=
  ∀ before after x y, name = before ++ x :: y :: after → x.isUpper = true → y.isUpper = true →
    after.head?.any Char.isLower = true

theorem restorable_short {name : List Char} (short : name.length < 2) : Restorable name := by
  rintro before after x y rfl
  simp only [List.length_append, List.length_cons] at short
  omega

theorem restorable_cons {x y : Char} {rest : List Char} :
    Restorable (x :: y :: rest) ↔
      (x.isUpper = true → y.isUpper = true → rest.head?.any Char.isLower = true) ∧
        Restorable (y :: rest) := by
  constructor
  · intro whole
    refine ⟨whole [] rest x y rfl, ?_⟩
    intro before after c d split
    exact whole (x :: before) after c d (by rw [split]; rfl)
  · rintro ⟨here, others⟩ before after c d split
    cases before with
    | nil =>
      cases split
      exact here
    | cons e before =>
      obtain ⟨rfl, behind⟩ := List.cons.inj split
      exact others before after c d behind

instance Restorable.decidable : DecidablePred Restorable
  | [] => .isTrue (restorable_short (by simp))
  | [_] => .isTrue (restorable_short (by simp))
  | _ :: y :: rest =>
    have := Restorable.decidable (y :: rest)
    decidable_of_iff' _ restorable_cons

/-- Between letters and digits a word begins at every capital, unless it stands behind another one
and no small letter follows. -/
theorem beginsWord_iff {x y : Char} {next : Option Char} (plain : x.isAlphanum = true)
    (capital : isCapital y = true) :
    beginsWord x y next = true ↔ (x.isUpper = true → next.any Char.isLower = true) := by
  by_cases left : isCapital x = true
  · have part := acronymChar_of_capital left
    have small := small_of_acronymChar part
    have digit := digit_of_capital left
    have given : x.isUpper = true := left
    simp only [beginsWord, endsAcronym, followsSmall, part, capital, small, digit, given,
      Bool.true_and, Bool.and_true, Bool.or_false, true_implies]
    exact Iff.rfl
  · have follows := small_or_digit plain (Bool.eq_false_iff.mpr left)
    constructor
    · intro _ impossible
      exact absurd impossible left
    · intro _
      simp [beginsWord, followsSmall, follows, capital]

/-- One letter of a class name that is parted, put into small letters and camelized again. -/
theorem camelizeAfter_partedAfter {x y : Char} (plain : y.isAlphanum = true) (rest : List Char) :
    camelizeAfter ((partedAfter beginsWord x (y :: rest)).map Char.toLower) =
      (if beginsWord x y rest.head? then y else y.toLower) ::
        camelizeAfter ((partedAfter beginsWord y rest).map Char.toLower) := by
  have part := part_of_alphanum (alphanum_toLower plain)
  have mark : Char.toLower '_' = '_' := by decide
  rw [partedAfter]
  split
  · rename_i begins
    have restored := upperChar_of_capital (capital_of_beginsWord begins)
    simp [mark, camelizeAfter_mark, camelizeChars_cons part, restored]
  · simp [camelizeAfter_cons part]

/-- A capital that begins no word comes back as a small letter. -/
theorem letter_restored_iff {x y : Char} {next : Option Char} (left : x.isAlphanum = true) :
    (if beginsWord x y next then y else y.toLower) = y ↔
      (x.isUpper = true → y.isUpper = true → next.any Char.isLower = true) := by
  by_cases capital : y.isUpper = true
  · have begins : beginsWord x y next = true ↔ (x.isUpper = true → next.any Char.isLower = true) :=
      beginsWord_iff left capital
    have changed : y.toLower ≠ y := by
      intro same
      have lost := Char.isUpper_toLower_eq_false y
      rw [same, capital] at lost
      cases lost
    constructor
    · intro same behind _
      refine begins.mp ?_ behind
      by_contra none
      rw [if_neg none] at same
      exact changed same
    · intro follows
      rw [if_pos (begins.mpr fun behind => follows behind capital)]
  · have none : ¬ beginsWord x y next = true := fun begins =>
      capital (capital_of_beginsWord begins)
    rw [if_neg none, Char.toLower_eq_of_not_isUpper capital]
    exact iff_of_true rfl fun _ impossible => absurd impossible capital

theorem camelizeAfter_eq_iff {x : Char} {rest : List Char}
    (all : ∀ c ∈ x :: rest, c.isAlphanum = true) :
    camelizeAfter ((partedAfter beginsWord x rest).map Char.toLower) = rest ↔
      Restorable (x :: rest) := by
  induction rest generalizing x with
  | nil => exact iff_of_true rfl (restorable_short (by simp))
  | cons y rest ih =>
    obtain ⟨left, others⟩ := List.forall_mem_cons.mp all
    rw [camelizeAfter_partedAfter (others y List.mem_cons_self), List.cons.injEq,
      letter_restored_iff left, ih others, restorable_cons]

def reassembled (cs : List Char) : List Char :=
  camelizeChars ((parted beginsWord cs).map Char.toLower)

theorem reassembled_slash (cs ds : List Char) :
    reassembled (cs ++ '/' :: ds) = reassembled cs ++ reassembled ds := by
  have slash : Char.toLower '/' = '/' := by decide
  simp only [reassembled, parted_slash, List.map_append, List.map_cons, slash,
    camelizeChars_slash]

theorem reassembled_eq_iff {name : List Char} (isName : IsClassName name) :
    reassembled name = name ↔ Restorable name := by
  obtain ⟨all, capital⟩ := isName
  rw [List.all_eq_true] at all
  cases name with
  | nil => cases capital
  | cons c rest =>
    have part := part_of_alphanum (alphanum_toLower (all c List.mem_cons_self))
    have begins : reassembled (c :: rest) =
        c :: camelizeAfter ((partedAfter beginsWord c rest).map Char.toLower) := by
      rw [reassembled, parted, List.map_cons, camelizeChars_cons part,
        upperChar_of_capital capital]
      rfl
    rw [begins, List.cons.injEq, and_iff_right rfl, camelizeAfter_eq_iff all]

/-- Letters, digits and slashes are put into small letters one by one. -/
theorem camelizeChars_lowerChars {cs : List Char}
    (plain : ∀ c ∈ cs, c.isAlphanum = true ∨ c = '/') :
    camelizeChars (Text.lowerChars ((splitWords (splitAcronyms cs)).map dashes)) =
      reassembled cs := by
  have kept : ∀ c ∈ parted beginsWord cs, dashes c = c ∧ c.toNat < 128 := by
    intro c member
    rcases mem_parted member with rfl | inside
    · decide
    · rcases plain c inside with letter | rfl
      · have other : c ≠ '-' := by
          rintro rfl
          cases letter
        exact ⟨if_neg other, ascii_of_alphanum letter⟩
      · decide
  have same : (parted beginsWord cs).map dashes = parted beginsWord cs :=
    (List.map_congr_left fun c member => (kept c member).1).trans (List.map_id _)
  rw [splitWords_splitAcronyms, same, Text.lowerChars_of_ascii fun c member => (kept c member).2]
  rfl

theorem slashes_cons {c : Char} (plain : c.isAlphanum = true) (rest : List Char) :
    slashes (c :: rest) = c :: slashes rest := by
  rw [slashes]
  rintro _ rfl
  cases plain

theorem slashes_append {cs : List Char} (plain : ∀ c ∈ cs, c.isAlphanum = true)
    (rest : List Char) : slashes (cs ++ rest) = cs ++ slashes rest := by
  induction cs with
  | nil => rfl
  | cons c cs ih =>
    obtain ⟨here, others⟩ := List.forall_mem_cons.mp plain
    rw [List.cons_append, slashes_cons here, ih others]
    rfl

def colonTail (parts : List (List Char)) : List Char :=
  parts.flatMap fun part => ':' :: ':' :: part

def slashTail (parts : List (List Char)) : List Char :=
  parts.flatMap ('/' :: ·)

theorem slashes_colonTail {parts : List (List Char)}
    (plain : ∀ part ∈ parts, ∀ c ∈ part, c.isAlphanum = true) :
    slashes (colonTail parts) = slashTail parts := by
  induction parts with
  | nil => rfl
  | cons part rest ih =>
    obtain ⟨here, others⟩ := List.forall_mem_cons.mp plain
    have step : colonTail (part :: rest) = ':' :: ':' :: (part ++ colonTail rest) := rfl
    rw [step, slashes, slashes_append here, ih others]
    rfl

theorem reassembled_slashTail (first : List Char) (parts : List (List Char)) :
    reassembled (first ++ slashTail parts) = reassembled first ++ parts.flatMap reassembled := by
  induction parts generalizing first with
  | nil => simp [slashTail]
  | cons part rest ih =>
    have step : slashTail (part :: rest) = '/' :: (part ++ slashTail rest) := rfl
    rw [step, reassembled_slash, ih, List.flatMap_cons]

theorem camelize_underscoreChars_path {first : List Char} {parts : List (List Char)}
    (plain : ∀ part ∈ first :: parts, ∀ c ∈ part, c.isAlphanum = true) :
    camelizeChars (underscoreChars (first ++ colonTail parts)) =
      reassembled first ++ parts.flatMap reassembled := by
  obtain ⟨here, others⟩ := List.forall_mem_cons.mp plain
  have path : slashes (first ++ colonTail parts) = first ++ slashTail parts := by
    rw [slashes_append here, slashes_colonTail others]
  rw [underscoreChars, path, camelizeChars_lowerChars, reassembled_slashTail]
  intro c member
  rcases List.mem_append.mp member with inside | later
  · exact .inl (here c inside)
  · obtain ⟨part, given, inside⟩ := List.mem_flatMap.mp later
    rcases List.mem_cons.mp inside with rfl | inside
    · exact .inr rfl
    · exact .inl (others part given c inside)

theorem dropLeadingColons_of_letter {c : Char} (plain : c.isAlphanum = true) (rest : List Char) :
    dropLeadingColons (c :: rest) = c :: rest := by
  rw [dropLeadingColons]
  intro _ colons
  obtain ⟨rfl, _⟩ := List.cons.inj colons
  cases plain

theorem dropEnding_append (cs ending : List Char) : dropEnding ending (cs ++ ending) = cs := by
  simp [dropEnding]

theorem toList_path (first : String) (parts : List String) :
    ("::".intercalate (first :: parts)).toList =
      first.toList ++ colonTail (parts.map String.toList) := by
  induction parts generalizing first with
  | nil => simp [colonTail]
  | cons next rest ih =>
    rw [String.intercalate_cons_cons, String.toList_append, String.toList_append, ih]
    simp [colonTail]

theorem exists_path_first {first : String} (isName : IsClassName first.toList)
    (parts : List String) :
    ∃ c tail, ("::".intercalate (first :: parts)).toList = c :: tail ∧ c.isAlphanum = true := by
  obtain ⟨all, capital⟩ := isName
  rw [toList_path]
  cases chars : first.toList with
  | nil =>
    rw [chars] at capital
    cases capital
  | cons c others =>
    rw [chars] at all
    exact ⟨c, _, rfl, List.all_eq_true.mp all c List.mem_cons_self⟩

theorem toList_camelize_underscore (name : String) :
    (camelize (underscore name)).toList = camelizeChars (underscoreChars name.toList) := by
  rw [camelize, underscore, String.toList_ofList, String.toList_ofList]

theorem toList_camelize_controllerKey {c : Char} (plain : c.isAlphanum = true) (rest : List Char)
    {path : String} (begins : path.toList = c :: rest) :
    (camelize (controllerKey (path ++ "Controller"))).toList =
      camelizeChars (underscoreChars path.toList) := by
  have kept : dropEnding "Controller".toList
      (dropLeadingColons (path ++ "Controller").toList) = path.toList := by
    rw [String.toList_append, begins, List.cons_append, dropLeadingColons_of_letter plain,
      ← List.cons_append, dropEnding_append]
  rw [camelize, controllerKey, String.toList_ofList, String.toList_ofList, kept]

/-- A class name comes back from its underscored form exactly if it is restorable. So the parts of a
class path come back from the key of its controller, one behind the other. -/
theorem camelize_underscore_iff :
    (∀ name : String, IsClassName name.toList →
      (camelize (underscore name) = name ↔ Restorable name.toList)) ∧
    ∀ parts : List String, (∀ part ∈ parts, IsClassName part.toList ∧ Restorable part.toList) →
      camelize (controllerKey ("::".intercalate parts ++ "Controller")) = String.join parts := by
  constructor
  · intro name isName
    have back : camelizeChars (underscoreChars name.toList) = reassembled name.toList := by
      have plain : ∀ part ∈ [name.toList], ∀ c ∈ part, c.isAlphanum = true := by
        simpa using List.all_eq_true.mp isName.1
      simpa [colonTail] using camelize_underscoreChars_path plain
    rw [← String.toList_inj, toList_camelize_underscore, back, reassembled_eq_iff isName]
  · intro parts good
    cases parts with
    | nil => decide +kernel
    | cons first rest =>
      have plain : ∀ part ∈ (first :: rest).map String.toList, ∀ c ∈ part,
          c.isAlphanum = true := by
        intro part member
        obtain ⟨name, given, rfl⟩ := List.mem_map.mp member
        exact List.all_eq_true.mp (good name given).1.1
      have restored : ∀ name ∈ first :: rest, reassembled name.toList = name.toList :=
        fun name given => (reassembled_eq_iff (good name given).1).mpr (good name given).2
      obtain ⟨c, tail, front, letter⟩ := exists_path_first (good first List.mem_cons_self).1 rest
      rw [← String.toList_inj, toList_camelize_controllerKey letter tail front, toList_path,
        camelize_underscoreChars_path plain, String.toList_join, List.flatMap_cons,
        restored first List.mem_cons_self, List.flatMap_map]
      refine congrArg (first.toList ++ ·) (List.flatMap_congr fun name given => ?_)
      exact restored name (List.mem_cons_of_mem _ given)

/-- `B` begins a word behind `A` and behind `2`; of `API` only the last capital would. -/
theorem camelize_underscore_iff_words :
    camelize (underscore "AByte2B") = "AByte2B" ∧
      camelize (underscore "APIKeys") ≠ "APIKeys" ∧
      camelize (controllerKey ("::".intercalate ["Admin", "AByte2B"] ++ "Controller")) =
        "AdminAByte2B" := by
  have shown : IsClassName "AByte2B".toList ∧ Restorable "AByte2B".toList := by decide +kernel
  have lost : IsClassName "APIKeys".toList ∧ ¬ Restorable "APIKeys".toList := by decide +kernel
  refine ⟨(camelize_underscore_iff.1 "AByte2B" shown.1).mpr shown.2, fun same => ?_, ?_⟩
  · exact lost.2 ((camelize_underscore_iff.1 "APIKeys" lost.1).mp same)
  · exact camelize_underscore_iff.2 ["Admin", "AByte2B"] (by decide +kernel)

end RouteBindings.Names
