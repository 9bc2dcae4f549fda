import RouteBindings.CommandLine.Run
import RouteBindings.Proofs.Bindings.Declarations
import RouteBindings.Proofs.Bindings.Logging
import RouteBindings.Proofs.Bindings.Sources
import RouteBindings.Proofs.CommandLine.Shared
import RouteBindings.Proofs.Document.Signatures

/-! Checking is generating without the output: both read the same sources, report the same and end
alike. Whatever is wrong with the sources is found before the first file is written. -/

namespace RouteBindings

open Logged (Yields)
open Sources (pathsOf resolved document routeTable)

/-- What can be wrong with sources, each fault by itself. A document may fail because it cannot be
read or because it cannot be decoded. -/
inductive Sources.Broken (t : FileTree) (sources : Sources) : Prop
  | resolving {pattern fault} : pattern ∈ sources.signatures →
      pathsOf t pattern = .error fault → Broken t sources
  | document {paths path error} : resolved t sources.signatures = .ok paths → path ∈ paths →
      document t path = .error error → Broken t sources
  | merging {paths documents error} : resolved t sources.signatures = .ok paths →
      paths.mapM (Sources.document t) = .ok documents →
      Environment.mergeAll documents = .error error → Broken t sources
  | routes {error} : routeTable t sources.routes = .error error → Broken t sources
  | generating {paths documents env routes error} :
      resolved t sources.signatures = .ok paths →
      paths.mapM (Sources.document t) = .ok documents → Environment.mergeAll documents = .ok env →
      routeTable t sources.routes = .ok routes →
      Generated.ofEnvironment env routes = .error error → Broken t sources

namespace FileTree

variable {t : FileTree} {sources : Sources}

def bindings (t : FileTree) (sources : Sources) : Except Failure Generated :=
  Id.run (Command.generated t.view sources).result

/-- What is logged on the way to the bindings, or to the first failure. -/
def logged (t : FileTree) (sources : Sources) : List LogEvent :=
  (Id.run ((Command.generated t.view sources).run.run [])).2

theorem bindings_eq :
    t.bindings sources = (do
      let paths ← (resolved t sources.signatures).mapError Failure.sources
      let env ← (Id.run (Sources.loadSignatures t.view paths)).mapError Failure.loading
      let routes ← (routeTable t sources.routes).mapError Failure.loading
      (Generated.ofEnvironment env routes).mapError Failure.generation) := by
  apply Yields.result_eq
  apply Yields.ask
  apply Yields.bind ⟨[], Logged.runs_except _⟩
  intro paths
  apply (Sources.yields_loadSignatures paths).adapt _ |>.bind
  intro env
  apply (Sources.yields_loadTable sources.routes).adapt _ |>.bind
  intro routes
  exact (Generated.yields_generate env routes).adapt _

theorem bindings_ok_iff {g : Generated} :
    t.bindings sources = .ok g ↔
      ∃ paths documents env routes, resolved t sources.signatures = .ok paths ∧
        paths.mapM (document t) = .ok documents ∧ Environment.mergeAll documents = .ok env ∧
        routeTable t sources.routes = .ok routes ∧ Generated.ofEnvironment env routes = .ok g := by
  rw [bindings_eq]
  constructor
  · intro succeeded
    obtain ⟨paths, found, succeeded⟩ := bind_ok succeeded
    obtain ⟨env, loaded, succeeded⟩ := bind_ok succeeded
    obtain ⟨routes, read, made⟩ := bind_ok succeeded
    rw [mapError_ok_iff] at found loaded read made
    obtain ⟨documents, all, merged⟩ := Sources.loadSignatures_ok_iff.mp loaded
    exact ⟨paths, documents, env, routes, found, all, merged, read, made⟩
  · rintro ⟨paths, documents, env, routes, found, all, merged, read, made⟩
    rw [found]
    change ((Id.run (Sources.loadSignatures t.view paths)).mapError Failure.loading >>= _) = _
    rw [Sources.loadSignatures_ok_iff.mpr ⟨documents, all, merged⟩, read]
    change (Generated.ofEnvironment env routes).mapError Failure.generation = _
    rw [made]
    rfl

/-- The stages are determined by the sources: where bindings are made, nothing is wrong. -/
theorem not_broken {g : Generated} (made : t.bindings sources = .ok g) : ¬ sources.Broken t := by
  obtain ⟨paths, documents, env, routes, found, all, merged, read, made⟩ := bindings_ok_iff.mp made
  have determined : ∀ {paths' documents'}, resolved t sources.signatures = .ok paths' →
      paths'.mapM (document t) = .ok documents' → documents' = documents := by
    intro paths' documents' found' all'
    obtain rfl := ok_inj found found'
    exact ok_inj all' all
  intro broken
  cases broken with
  | resolving member failed =>
    obtain ⟨groups, each, -⟩ := Sources.resolved_ok_iff.mp found
    obtain ⟨_, wrong⟩ := mapM_error_iff.mpr ⟨_, member, _, failed⟩
    exact not_ok_and_error each wrong
  | document found' member failed =>
    obtain rfl := ok_inj found found'
    obtain ⟨_, wrong⟩ := mapM_error_iff.mpr ⟨_, member, _, failed⟩
    exact not_ok_and_error all wrong
  | merging found' all' failed =>
    obtain rfl := determined found' all'
    exact not_ok_and_error merged failed
  | routes failed => exact not_ok_and_error read failed
  | generating found' all' merged' read' failed =>
    obtain rfl := determined found' all'
    obtain rfl := ok_inj merged merged'
    obtain rfl := ok_inj read read'
    exact not_ok_and_error made failed

theorem broken_of_unresolved {fault : SourceFault}
    (failed : resolved t sources.signatures = .error fault) : sources.Broken t := by
  rw [Sources.resolved_eq] at failed
  rcases ok_or_error (sources.signatures.mapM (pathsOf t)) with ⟨groups, each⟩ | one
  · rw [each] at failed
    cases failed
  · obtain ⟨pattern, member, _, failed⟩ := mapM_error_iff.mp one
    exact .resolving member failed

/-- Bindings fail exactly if something is wrong with their sources. -/
theorem bindings_error_iff :
    (∃ failure, t.bindings sources = .error failure) ↔ sources.Broken t := by
  constructor
  · rintro ⟨failure, failed⟩
    have never : ∀ g, t.bindings sources ≠ .ok g := fun g made => not_ok_and_error made failed
    simp only [ne_eq, bindings_ok_iff, not_exists, not_and] at never
    rcases ok_or_error (routeTable t sources.routes) with ⟨routes, read⟩ | ⟨_, failed⟩
    · rcases ok_or_error (resolved t sources.signatures) with ⟨paths, found⟩ | ⟨fault, failed⟩
      · rcases ok_or_error (paths.mapM (document t)) with ⟨documents, all⟩ | failed
        · rcases ok_or_error (Environment.mergeAll documents) with ⟨env, merged⟩ | ⟨_, failed⟩
          · rcases ok_or_error (Generated.ofEnvironment env routes) with ⟨g, made⟩ | ⟨_, failed⟩
            · exact (never g paths documents env routes found all merged read made).elim
            · exact .generating found all merged read failed
          · exact .merging found all failed
        · obtain ⟨path, member, _, failed⟩ := mapM_error_iff.mp failed
          exact .document found member failed
      · exact broken_of_unresolved failed
    · exact .routes failed
  · intro broken
    rcases ok_or_error (t.bindings sources) with ⟨g, made⟩ | failed
    · exact absurd broken (not_broken made)
    · exact failed

def reported (t : FileTree) (sources : Sources) : String :=
  match t.bindings sources with
  | .error failure => failure.line
  | .ok g => g.report

/-- Two runs of which the first is a dry run of the second. Both log the same events, each by its
own clock, so that the standard errors of runs by one clock are the same. -/
structure DryRun (logger : Logger) (level : String) (t : FileTree) (sources : Sources)
    (clock clock' : Clock) (check generate : Run × FileTree) : Prop where
  code : check.1.code = generate.1.code
  err : check.1.err = logger.text level clock (t.logged sources) ++ t.reported sources ∧
    generate.1.err = logger.text level clock' (t.logged sources) ++ t.reported sources
  same : clock = clock' → check.1.err = generate.1.err
  silent : check.1.out = ""
  unchanged : check.2 = t ∧ generate.2 = t
  prints : generate.1.code = .success → ∃ g, t.bindings sources = .ok g ∧ generate.1.out = g.text
  otherwise : generate.1.code ≠ .success → generate.1.out = ""

variable {logger : Logger} {clock clock' : Clock} {line line' : List String} {level : String}

def printed (logger : Logger) (level : String) (clock : Clock) (t : FileTree)
    (planned : Plan × List LogEvent) : Run × FileTree :=
  (⟨planned.1.code, planned.1.out, logger.text level clock planned.2 ++ planned.1.err⟩, t)

theorem runLogged_of_plan {command : Command} {plan : Plan} {events : List LogEvent}
    (parsed : Invocation.parse line = .ok ⟨level, command⟩)
    (planned : Id.run ((command.plan t.view level).run []) = (plan, events))
    (unwritten : plan.writes = []) :
    t.runLogged logger clock line = t.printed logger level clock (plan, events) := by
  have made : Id.run (Plan.ofArguments t.view logger clock line) =
      { plan with err := logger.text level clock events ++ plan.err } := by
    rw [Plan.ofArguments, parsed]
    exact congrArg (fun made : Plan × List LogEvent =>
      { made.1 with err := logger.text level clock made.2 ++ made.1.err }) planned
  rw [runLogged, made, Plan.carryOut, unwritten]
  rfl

theorem plan_check (t : FileTree) (level : String) (options : CheckOptions) :
    Id.run ((Command.plan t.view level (.check options)).run []) =
      (Command.planWith (Command.planCheck options) (t.bindings options.sources),
        t.logged options.sources) :=
  rfl

theorem plan_generate (t : FileTree) (level : String) (options : GenerateOptions)
    (real : options.noOp = false) :
    Id.run ((Command.plan t.view level (.generate options)).run []) =
      (Command.planWith (Command.planGenerate options) (t.bindings options.sources),
        t.logged options.sources) := by
  change Id.run (StateT.run (if options.noOp then _ else _) []) = _
  rw [real]
  rfl

theorem strictCode_cases (strict : Bool) (g : Generated) :
    (Command.strictCode strict g = .success ∧ ¬ (strict = true ∧ g.diagnostics ≠ [])) ∨
      Command.strictCode strict g = .failure ∧ strict = true ∧ g.diagnostics ≠ [] := by
  rw [Command.strictCode, Generated.isPartial]
  cases strict <;> cases g.diagnostics <;> simp

theorem planGenerate_failed {options : GenerateOptions} {g : Generated}
    (stopped : Command.strictCode options.strict g = .failure) :
    Command.planGenerate options g = ⟨.failure, "", g.report, []⟩ := by
  simp only [Command.planGenerate, stopped]

/-- A run that is planned like this fails, and leaves the tree as it is. -/
theorem fails_of_failed {options : GenerateOptions}
    (parsed : Invocation.parse line = .ok ⟨level, .generate options⟩) (real : options.noOp = false)
    (failed : (∃ failure, t.bindings options.sources = .error failure) ∨
      ∃ g, t.bindings options.sources = .ok g ∧ Command.strictCode options.strict g = .failure) :
    (t.runLogged logger clock line).1.code ≠ .success ∧ (t.runLogged logger clock line).2 = t := by
  have planned := plan_generate t level options real
  rcases failed with ⟨failure, broken⟩ | ⟨g, made, stopped⟩
  · rw [broken, Command.planWith] at planned
    rw [runLogged_of_plan parsed planned rfl]
    exact ⟨ExitCode.noConfusion, rfl⟩
  · rw [made, Command.planWith, planGenerate_failed stopped] at planned
    rw [runLogged_of_plan parsed planned rfl]
    exact ⟨ExitCode.noConfusion, rfl⟩

theorem dryRun_of_plans {checked generated : Plan} (code : checked.code = generated.code)
    (err : checked.err = t.reported sources ∧ generated.err = t.reported sources)
    (silent : checked.out = "")
    (prints : generated.code = .success → ∃ g, t.bindings sources = .ok g ∧ generated.out = g.text)
    (otherwise : generated.code ≠ .success → generated.out = "") :
    DryRun logger level t sources clock clock'
      (t.printed logger level clock (checked, t.logged sources))
      (t.printed logger level clock' (generated, t.logged sources)) where
  code := code
  err := by
    unfold printed
    rw [err.1, err.2]
    exact ⟨rfl, rfl⟩
  same := by
    rintro rfl
    unfold printed
    rw [err.1, err.2]
  silent := silent
  unchanged := ⟨rfl, rfl⟩
  prints := prints
  otherwise := otherwise

theorem dryRun_of_parse {params : String} {strict : Bool}
    (checked : Invocation.parse line = .ok ⟨level, .check ⟨sources, none, params, strict⟩⟩)
    (generated : Invocation.parse line' =
      .ok ⟨level, .generate ⟨sources, none, none, strict, false⟩⟩) :
    DryRun logger level t sources clock clock' (t.runLogged logger clock line)
      (t.runLogged logger clock' line') := by
  have check := plan_check t level ⟨sources, none, params, strict⟩
  have generate := plan_generate t level ⟨sources, none, none, strict, false⟩ rfl
  cases made : t.bindings sources with
  | error failure =>
    have report : "" ++ failure.line = t.reported sources := by
      rw [reported, made, String.empty_append]
    rw [made] at check generate
    rw [runLogged_of_plan checked check rfl, runLogged_of_plan generated generate rfl]
    exact dryRun_of_plans rfl ⟨report, report⟩ rfl ExitCode.noConfusion fun _ => rfl
  | ok g =>
    have report : g.report = t.reported sources := by rw [reported, made]
    rw [made] at check generate
    dsimp only [Command.planWith, Command.planCheck] at check generate
    rcases strictCode_cases strict g with ⟨passed, -⟩ | ⟨stopped, -⟩
    · have plan : Command.planGenerate ⟨sources, none, none, strict, false⟩ g =
          ⟨.success, g.text, g.report, []⟩ := by
        simp [Command.planGenerate, passed, Plan.write]
      rw [passed] at check
      rw [plan] at generate
      rw [runLogged_of_plan checked check rfl, runLogged_of_plan generated generate rfl]
      exact dryRun_of_plans rfl ⟨report, report⟩ rfl (fun _ => ⟨g, made, rfl⟩) (absurd rfl)
    · rw [stopped] at check
      rw [planGenerate_failed stopped] at generate
      rw [runLogged_of_plan checked check rfl, runLogged_of_plan generated generate rfl]
      exact dryRun_of_plans rfl ⟨report, report⟩ rfl ExitCode.noConfusion fun _ => rfl

/-- Checking ends like generating and reports the same, but prints and changes nothing, while
generating prints the text of the bindings exactly if it succeeds. The two commands accept the same
arguments for their sources. If anything is wrong with the sources, or a strict run leaves an action
out, then generating fails before any file is made, wherever its output should go. All of this holds
whatever is shown of the log. -/
theorem check_dry_run (t : FileTree) (logger : Logger) :
    (∀ line line' level sources params strict clock clock',
      Invocation.parse line = .ok ⟨level, .check ⟨sources, none, params, strict⟩⟩ →
      Invocation.parse line' = .ok ⟨level, .generate ⟨sources, none, none, strict, false⟩⟩ →
      DryRun logger level t sources clock clock' (t.runLogged logger clock line)
        (t.runLogged logger clock' line')) ∧
    (∀ arguments givens, Given.scan Invocation.shared none arguments = .ok (givens, []) →
      (∃ options, Invocation.parse ("check" :: arguments) = .ok (Invocation.checkOf options) ∧
        Invocation.parse ("generate" :: arguments) = .ok (Invocation.generateOf options)) ∨
      ∃ fault, Invocation.parse ("check" :: arguments) = .error fault ∧
        Invocation.parse ("generate" :: arguments) = .error fault) ∧
    ∀ line level options clock, Invocation.parse line = .ok ⟨level, .generate options⟩ →
      options.noOp = false →
      (options.sources.Broken t ∨
        options.strict = true ∧ ∃ g, t.bindings options.sources = .ok g ∧ g.diagnostics ≠ []) →
      (t.runLogged logger clock line).1.code ≠ .success ∧
        (t.runLogged logger clock line).2 = t := by
  refine ⟨fun _ _ _ _ _ _ _ _ checked generated => dryRun_of_parse checked generated, ?_, ?_⟩
  · intro arguments givens scanned
    rw [Invocation.parse_check scanned, Invocation.parse_generate scanned]
    rcases ok_or_error (Invocation.sharedOptions givens) with ⟨options, read⟩ | ⟨fault, refused⟩
    · exact .inl ⟨options, by rw [read]; exact ⟨rfl, rfl⟩⟩
    · exact .inr ⟨fault, by rw [refused]; exact ⟨rfl, rfl⟩⟩
  · intro line level options clock parsed real failed
    apply fails_of_failed parsed real
    rcases failed with broken | ⟨strict, g, made, diagnostics⟩
    · exact .inl (bindings_error_iff.mpr broken)
    · refine .inr ⟨g, made, ?_⟩
      rcases strictCode_cases options.strict g with ⟨-, complete⟩ | ⟨stopped, -⟩
      · exact absurd ⟨strict, diagnostics⟩ complete
      · exact stopped

/-- A tree of an empty route table, and the signatures of two classes with one key. -/
def reopenedTree : FileTree :=
  ⟨.directory [("routes.json", .file (some "[]")),
    ("sig.json", .file (some reopened.toJson.text))], []⟩

theorem bindings_reopened :
    reopenedTree.bindings ⟨"routes.json", ["sig.json"]⟩ = .ok (.ofValid reopened []) := by
  have floats : reopened.FloatsReadBack := by
    have numerals : reopened.toJson.numerals = [] := rfl
    intro x member
    rw [numerals] at member
    cases member
  have loaded : document reopenedTree "sig.json" = .ok reopened := by
    rw [Sources.document_of_read rfl, Environment.ofDocument_toJson floats,
      if_pos (by decide +kernel)]
  exact bindings_ok_iff.mpr ⟨["sig.json"], [reopened], reopened, [], rfl,
    mapM_ok_iff.mpr (.cons loaded .nil), rfl, rfl, Generated.ofEnvironment_of_valid rfl []⟩

/-- Lines in plain text, for a level that is set for the whole program. -/
def plainLogger : Logger where
  opening _ := ""
  line level time event :=
    let label := match event.level with
      | .debug => "DEBUG"
      | .info => " INFO"
      | .warn => " WARN"
    let fields := event.fields.map fun (name, text) => " " ++ name ++ "=" ++ text
    if level = "debug" || (level = "info" && event.level != .debug) ||
        (level = "warn" && event.level = .warn) then
      time ++ " " ++ label ++ " " ++ event.target ++ ": " ++ event.message ++
        String.join fields ++ "\n"
    else ""

def reopenedRun (line : List String) : Run × FileTree :=
  reopenedTree.runLogged plainLogger toString line

/-- An action is skipped here. A plain run succeeds all the same, a strict one writes nothing, and
neither does one that misses a document. -/
theorem check_dry_run_reopened :
    DryRun plainLogger "warn" reopenedTree ⟨"routes.json", ["sig.json"]⟩ toString toString
        (reopenedRun ["check", "-r", "routes.json", "-s", "sig.json"])
        (reopenedRun ["generate", "--signatures=sig.json", "--routes", "routes.json"]) ∧
      (reopenedRun ["generate", "--signatures=sig.json", "--routes", "routes.json"]).1.code =
        .success ∧
      DryRun plainLogger "info" reopenedTree ⟨"routes.json", ["sig.json"]⟩ toString toString
        (reopenedRun ["--log-level=info", "check", "-s", "sig.json", "--strict", "-r",
          "routes.json"])
        (reopenedRun ["generate", "-s", "sig.json", "--strict", "-r", "routes.json",
          "--log-level=info"]) ∧
      (∃ options,
        Invocation.parse ["check", "-s", "sig.json", "--strict", "-r", "routes.json"] =
          .ok (Invocation.checkOf options) ∧
        Invocation.parse ["generate", "-s", "sig.json", "--strict", "-r", "routes.json"] =
          .ok (Invocation.generateOf options)) ∧
      ((reopenedRun ["generate", "-r", "routes.json", "-s", "sig.json", "--strict", "-o",
          "out/a.ts"]).1.code ≠ .success ∧
        (reopenedRun ["generate", "-r", "routes.json", "-s", "sig.json", "--strict", "-o",
          "out/a.ts"]).2 = reopenedTree) ∧
      (reopenedRun ["generate", "-r", "routes.json", "-s", "gone.json", "-o", "out/a.ts"]).1.code ≠
          .success ∧
        (reopenedRun ["generate", "-r", "routes.json", "-s", "gone.json", "-o", "out/a.ts"]).2 =
          reopenedTree := by
  have reported : (Generated.ofValid reopened []).diagnostics ≠ [] := by decide +kernel
  have missing : document reopenedTree "gone.json" = .error (.file "gone.json" .notFound) := rfl
  have broken : Sources.Broken reopenedTree ⟨"routes.json", ["gone.json"]⟩ :=
    .document rfl (List.mem_singleton_self _) missing
  obtain ⟨dry, accepted, refused⟩ := check_dry_run reopenedTree plainLogger
  refine ⟨dry _ _ _ _ "\x7b\x7d" false _ _ rfl rfl, ?_, dry _ _ _ _ "\x7b\x7d" true _ _ rfl rfl,
    ?_, ?_, ?_⟩
  · have planned := plan_generate reopenedTree "warn"
      ⟨⟨"routes.json", ["sig.json"]⟩, none, none, false, false⟩ rfl
    rw [bindings_reopened] at planned
    rw [reopenedRun, runLogged_of_plan rfl planned rfl]
    rfl
  · rcases accepted ["-s", "sig.json", "--strict", "-r", "routes.json"] _ rfl with both | neither
    · exact both
    · obtain ⟨fault, wrong, -⟩ := neither
      cases wrong
  · unfold reopenedRun
    exact refused _ "warn" ⟨⟨"routes.json", ["sig.json"]⟩, some "out/a.ts", none, true, false⟩ _ rfl
      rfl (.inr ⟨rfl, _, bindings_reopened, reported⟩)
  · unfold reopenedRun
    exact refused _ "warn" ⟨⟨"routes.json", ["gone.json"]⟩, some "out/a.ts", none, false, false⟩ _
      rfl rfl (.inl broken)

end FileTree

end RouteBindings
