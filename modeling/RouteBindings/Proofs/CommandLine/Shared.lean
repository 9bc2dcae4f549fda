import RouteBindings.CommandLine.Arguments
import RouteBindings.Proofs.Error

namespace RouteBindings

namespace Setting

theorem name_injective : ∀ a b : Setting, a.name = b.name → a = b := by
  intro a b
  cases a <;> cases b <;> decide

theorem letter?_injective : ∀ (a b : Setting) (c : Char), a.letter? = some c →
    b.letter? = some c → a = b := by
  intro a b c
  cases a <;> cases b <;> simp [letter?] <;> rintro rfl <;> decide

/-- Where a property singles out one setting, allowing more settings finds no other. -/
theorem find?_of_subset {p : Setting → Bool} {small large : List Setting} {s : Setting}
    (subset : small ⊆ large) (found : small.find? p = some s)
    (one : ∀ a b, p a = true → p b = true → a = b) : large.find? p = some s := by
  have holds := List.find?_some found
  have member := subset (List.mem_of_find?_eq_some found)
  obtain ⟨other, first⟩ : ∃ other, large.find? p = some other :=
    Option.isSome_iff_exists.mp (List.find?_isSome.mpr ⟨s, member, holds⟩)
  rw [first, one _ _ (List.find?_some first) holds]

theorem ofArgument?_of_subset {small large : List Setting} {argument : String}
    {named : Setting × Option String} (subset : small ⊆ large)
    (found : ofArgument? small argument = some named) :
    ofArgument? large argument = some named := by
  unfold ofArgument? at found ⊢
  split at found
  · obtain ⟨s, first, rfl⟩ := Option.map_eq_some_iff.mp found
    have same := find?_of_subset subset first fun a b ha hb => name_injective a b
      (String.toList_inj.mp ((of_decide_eq_true ha).trans (of_decide_eq_true hb).symm))
    simp only [same, Option.map_some]
  · obtain ⟨s, first, rfl⟩ := Option.map_eq_some_iff.mp found
    have same := find?_of_subset subset first fun a b ha hb =>
      letter?_injective a b _ (of_decide_eq_true ha) (of_decide_eq_true hb)
    simp only [same, Option.map_some]
  · cases found

theorem mem_of_ofArgument? {allowed : List Setting} {argument : String} {s : Setting}
    {value : Option String} (found : ofArgument? allowed argument = some (s, value)) :
    s ∈ allowed := by
  unfold ofArgument? at found
  split at found
  · obtain ⟨s, first, same⟩ := Option.map_eq_some_iff.mp found
    cases same
    exact List.mem_of_find?_eq_some first
  · obtain ⟨s, first, same⟩ := Option.map_eq_some_iff.mp found
    cases same
    exact List.mem_of_find?_eq_some first
  · cases found

end Setting

namespace Given

variable {small large allowed : List Setting}

/-- What one argument does: the settings that it completes, and the one that then waits for values.
There is none that a plain argument could belong to unless one waits. -/
def move (allowed : List Setting) (waiting : Option Given) (argument : String) :
    Except UsageFault (List Given × Option Given) :=
  if looksLikeSetting argument then do
    let done ← close waiting
    match Setting.ofArgument? allowed argument with
    | none => .error (.unexpected argument)
    | some (setting, value) =>
      match setting.arity, value with
      | .flag, some _ => .error (.unwantedValue setting.name)
      | .flag, none => return (done ++ [⟨setting, []⟩], none)
      | _, some value => return (done ++ [⟨setting, [value]⟩], none)
      | _, none => return (done, some ⟨setting, []⟩)
  else
    match waiting with
    | none => .error (.unexpected argument)
    | some given =>
      let given : Given := ⟨given.setting, given.values ++ [argument]⟩
      if given.setting.arity = .several then return ([], some given) else return ([given], none)

/-- Reading goes on behind the move of the first argument. -/
theorem scan_cons {waiting : Option Given} {argument : String} (rest : List String)
    (dashes : argument ≠ "--") (goes : looksLikeSetting argument = true ∨ waiting ≠ none) :
    scan allowed waiting (argument :: rest) = (do
      let (front, waiting) ← move allowed waiting argument
      let (others, after) ← scan allowed waiting rest
      return (front ++ others, after)) := by
  simp only [scan.eq_def allowed waiting (argument :: rest), if_neg dashes, move.eq_def]
  by_cases looks : looksLikeSetting argument = true
  · simp only [if_pos looks]
    cases close waiting with
    | error => rfl
    | ok done =>
      cases Setting.ofArgument? allowed argument with
      | none => rfl
      | some found =>
        obtain ⟨setting, value⟩ := found
        simp only [bind, Except.bind, pure, Except.pure]
        cases setting.arity <;> cases value <;> simp
  · simp only [if_neg looks]
    cases waiting with
    | none => exact absurd rfl (goes.resolve_left looks)
    | some given =>
      by_cases several : given.setting.arity = .several
      · simp only [if_pos several, bind, Except.bind, pure, Except.pure]
        cases scan allowed (some ⟨given.setting, given.values ++ [argument]⟩) rest <;> simp
      · simp only [if_neg several, bind, Except.bind, pure, Except.pure]
        cases scan allowed none rest <;> simp

/-- Where a line can stop: behind two dashes, or at a plain argument that no setting waits for. -/
theorem scan_stops {waiting : Option Given} {argument : String} (rest : List String)
    (stops : argument = "--" ∨ looksLikeSetting argument = false ∧ waiting = none) :
    scan small waiting (argument :: rest) = scan large waiting (argument :: rest) := by
  simp only [scan.eq_def _ waiting (argument :: rest)]
  rcases stops with rfl | ⟨plain, rfl⟩
  · rfl
  · simp [plain]

theorem move_of_subset (subset : small ⊆ large) {waiting : Option Given} {argument : String}
    {made : List Given × Option Given} (moved : move small waiting argument = .ok made) :
    move large waiting argument = .ok made := by
  rw [move.eq_def] at moved ⊢
  by_cases looks : looksLikeSetting argument = true
  · rw [if_pos looks] at moved ⊢
    obtain ⟨done, closed, moved⟩ := bind_ok moved
    rw [closed]
    cases named : Setting.ofArgument? small argument with
    | none => rw [named] at moved; cases moved
    | some found =>
      rw [named] at moved
      rw [Setting.ofArgument?_of_subset subset named]
      exact moved
  · rw [if_neg looks] at moved ⊢
    exact moved

/-- A line that is accepted is read alike when more settings are allowed. -/
theorem scan_of_subset (subset : small ⊆ large) {waiting : Option Given} {arguments : List String}
    {read : List Given × List String} (scanned : scan small waiting arguments = .ok read) :
    scan large waiting arguments = .ok read := by
  induction arguments generalizing waiting read with
  | nil => exact scanned
  | cons argument rest ih =>
    by_cases stops : argument = "--" ∨ looksLikeSetting argument = false ∧ waiting = none
    · rw [← scan_stops rest stops]
      exact scanned
    · simp only [not_or, not_and_or, Bool.not_eq_false] at stops
      rw [scan_cons rest stops.1 stops.2] at scanned ⊢
      obtain ⟨⟨front, next⟩, moved, scanned⟩ := bind_ok scanned
      obtain ⟨⟨others, after⟩, later, scanned⟩ := bind_ok scanned
      rw [move_of_subset subset moved]
      change (scan large next rest >>= fun x => pure (front ++ x.1, x.2)) = _
      rw [ih later]
      exact scanned

def Within (allowed : List Setting) (givens : List Given) : Prop :=
  ∀ given ∈ givens, given.setting ∈ allowed

theorem within_close {waiting : Option Given} {done : List Given}
    (within : Within allowed waiting.toList) (closed : close waiting = .ok done) :
    Within allowed done := by
  cases waiting with
  | none => cases closed; exact within
  | some given =>
    rw [close] at closed
    split at closed
    · cases closed
    · cases closed
      exact within

theorem within_move {waiting next : Option Given} {argument : String} {front : List Given}
    (within : Within allowed waiting.toList)
    (moved : move allowed waiting argument = .ok (front, next)) :
    Within allowed front ∧ Within allowed next.toList := by
  rw [move.eq_def] at moved
  split at moved
  · obtain ⟨done, closed, moved⟩ := bind_ok moved
    have settled := within_close within closed
    cases named : Setting.ofArgument? allowed argument with
    | none => rw [named] at moved; cases moved
    | some found =>
      obtain ⟨setting, value⟩ := found
      have known := Setting.mem_of_ofArgument? named
      have alone : ∀ values, Within allowed [⟨setting, values⟩] := by
        intro values given member
        rw [List.mem_singleton.mp member]
        exact known
      have more : ∀ values, Within allowed (done ++ [⟨setting, values⟩]) := by
        intro values given member
        exact (List.mem_append.mp member).elim (settled given) (alone values given)
      have nothing : Within allowed [] := by simp [Within]
      rw [named] at moved
      dsimp only at moved
      split at moved
      · cases moved
      · cases moved
        exact ⟨more [], nothing⟩
      · cases moved
        exact ⟨more _, nothing⟩
      · cases moved
        exact ⟨settled, alone []⟩
  · cases waiting with
    | none => cases moved
    | some given =>
      have known : given.setting ∈ allowed := within given (by simp)
      dsimp only at moved
      split at moved
      · cases moved
        simpa [Within] using known
      · cases moved
        simpa [Within] using known

theorem within_scan {waiting : Option Given} {arguments after : List String} {givens : List Given}
    (within : Within allowed waiting.toList)
    (scanned : scan allowed waiting arguments = .ok (givens, after)) : Within allowed givens := by
  induction arguments generalizing waiting givens after with
  | nil =>
    obtain ⟨done, closed, scanned⟩ := bind_ok scanned
    cases scanned
    exact within_close within closed
  | cons argument rest ih =>
    by_cases stops : argument = "--" ∨ looksLikeSetting argument = false ∧ waiting = none
    · rw [scan.eq_def] at scanned
      rcases stops with rfl | ⟨plain, rfl⟩
      · obtain ⟨done, closed, scanned⟩ := bind_ok scanned
        cases rest with
        | nil => cases scanned; exact within_close within closed
        | cons => cases scanned
      · by_cases dashes : argument = "--"
        · subst dashes
          cases plain
        · simp only [if_neg dashes, plain, Bool.false_eq_true, if_false] at scanned
          cases scanned
          exact within
    · simp only [not_or, not_and_or, Bool.not_eq_false] at stops
      rw [scan_cons rest stops.1 stops.2] at scanned
      obtain ⟨⟨front, next⟩, moved, scanned⟩ := bind_ok scanned
      obtain ⟨⟨others, after'⟩, later, scanned⟩ := bind_ok scanned
      cases scanned
      obtain ⟨here, inside⟩ := within_move within moved
      intro given member
      exact (List.mem_append.mp member).elim (here given) (ih inside later given)

theorem ofSetting_absent {givens : List Given} {setting : Setting} (within : Within allowed givens)
    (absent : setting ∉ allowed) : ofSetting givens setting = [] := by
  rw [ofSetting, List.filter_eq_nil_iff]
  intro given member same
  exact absent (of_decide_eq_true same ▸ within given member)

theorem single?_absent {givens : List Given} (within : Within allowed givens) (setting : Setting)
    (absent : setting ∉ allowed) : single? givens setting = .ok none := by
  rw [single?, ofSetting_absent within absent]
  rfl

theorem flag_absent {givens : List Given} (within : Within allowed givens) (setting : Setting)
    (absent : setting ∉ allowed) : flag givens setting = .ok false := by
  rw [flag, ofSetting_absent within absent]

end Given

namespace Invocation

def shared : List Setting :=
  [.routes, .signatures, .strict, .logLevel]

def sharedOptions (givens : List Given) : Except UsageFault (String × Sources × Bool) := do
  let level ← Given.single? givens .logLevel
  let sources ← sources givens
  let strict ← Given.flag givens .strict
  return (level.getD "warn", sources, strict)

def checkOf (options : String × Sources × Bool) : Invocation :=
  ⟨options.1, .check ⟨options.2.1, none, "\x7b\x7d", options.2.2⟩⟩

def generateOf (options : String × Sources × Bool) : Invocation :=
  ⟨options.1, .generate ⟨options.2.1, none, none, options.2.2, false⟩⟩

variable {arguments : List String} {givens : List Given}

theorem parse_of_command {name : String} {allowed : List Setting}
    {make : List Given → Except UsageFault Command} (known : command? name = some (allowed, make))
    (first : Given.scan [.logLevel] none (name :: arguments) = .ok ([], name :: arguments))
    (scanned : Given.scan allowed none arguments = .ok (givens, [])) :
    parse (name :: arguments) = (do
      let level ← Given.single? givens .logLevel
      let command ← make givens
      return ⟨level.getD "warn", command⟩) := by
  have outer : Given.single? [] .logLevel = .ok none := rfl
  simp only [parse, first, outer, bind, Except.bind, known, scanned]
  cases Given.single? givens .logLevel with
  | error => rfl
  | ok level => cases level <;> rfl

theorem parse_check (scanned : Given.scan shared none arguments = .ok (givens, [])) :
    parse ("check" :: arguments) = (sharedOptions givens).map checkOf := by
  have known : command? "check" =
      some ([.routes, .signatures, .eval, .params, .strict, .logLevel], checkOptions) := rfl
  have within := Given.within_scan (by simp [Given.Within]) scanned
  rw [parse_of_command known rfl (Given.scan_of_subset (by decide) scanned)]
  simp only [checkOptions, Given.single?_absent within .eval (by decide),
    Given.single?_absent within .params (by decide), sharedOptions]
  cases Given.single? givens .logLevel with
  | error => rfl
  | ok level =>
    cases sources givens with
    | error => rfl
    | ok sources => cases Given.flag givens .strict <;> rfl

theorem parse_generate (scanned : Given.scan shared none arguments = .ok (givens, [])) :
    parse ("generate" :: arguments) = (sharedOptions givens).map generateOf := by
  have known : command? "generate" =
      some ([.routes, .signatures, .out, .runtimeOut, .strict, .noOp, .logLevel],
        generateOptions) := rfl
  have within := Given.within_scan (by simp [Given.Within]) scanned
  rw [parse_of_command known rfl (Given.scan_of_subset (by decide) scanned)]
  simp only [generateOptions, Given.single?_absent within .out (by decide),
    Given.single?_absent within .runtimeOut (by decide), sharedOptions,
    Given.flag_absent within .noOp (by decide)]
  cases Given.single? givens .logLevel with
  | error => rfl
  | ok level =>
    cases sources givens with
    | error => rfl
    | ok sources => cases Given.flag givens .strict <;> rfl

end Invocation

end RouteBindings
