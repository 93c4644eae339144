import RunGate.Proofs.CommandLine.Session

/-! The exit code of a run whose scenario file stays as it is. Every way in which a run can fail is
told, and apart from these the exit code shows what a single evaluation makes of the scenario. -/

namespace RunGate

namespace Session.Ending

variable {ending : Ending}

theorem exitCode_eq_one_iff : ending.exitCode = 1 ↔ ∃ failure, ending.result = .error failure := by
  rw [exitCode]
  cases ending.result with
  | error failure => simp
  | ok outcome => cases outcome <;> simp [ite_eq_iff]

theorem exitCode_of_ok {outcome : Option Decision} (ended : ending.result = .ok outcome) :
    (ending.exitCode = 0 ↔ ∀ decision ∈ outcome, decision.admitted = true) ∧
      (ending.exitCode = 2 ↔ ¬∀ decision ∈ outcome, decision.admitted = true) := by
  rw [exitCode, ended]
  cases outcome <;> simp

end Session.Ending

namespace Args

/-- The run fails for this reason: the contents are no scenario; or it evaluates, and its interval
cannot be read or the scenario does not list the task or the run. -/
inductive FailsWith (args : Args) (parse : String → Except Fault Scenario)
    (contents : Option String) : Failure → Prop
  | loading {fault} (unread : Scenario.load parse contents = .error fault) :
      FailsWith args parse contents (.loading args.scenario fault)
  | badInterval {text fault} (evaluates : args.dryRun = false) (given : args.poll = some text)
      (refused : Duration.read text = .error fault) :
      FailsWith args parse contents (.badInterval fault)
  | unlistedTask {scenario} (evaluates : args.dryRun = false)
      (loaded : Scenario.load parse contents = .ok scenario)
      (unlisted : args.task ∉ scenario.tasks.names) :
      FailsWith args parse contents (.evaluating (.unknownTask scenario.workflow.name args.task))
  | unlistedRun {scenario} (evaluates : args.dryRun = false)
      (loaded : Scenario.load parse contents = .ok scenario)
      (unlisted : args.run ∉ scenario.runs.map (·.run)) :
      FailsWith args parse contents (.evaluating (.unknownRun scenario.workflow.name args.run))

/-- One evaluation of the scenario admits: the checks are those of its preset, in the mode of the
arguments or else in its own, and what the arguments waive is waived besides what it waives itself. -/
def AdmittedBy (args : Args) (scenario : Scenario) : Prop :=
  ∃ snapshot target,
    (Snapshot.ofScenario scenario args.request args.waivers).result = .ok snapshot ∧
    snapshot.workflow.target snapshot.subject = .ok target ∧
    ((evaluate (args.mode.getD scenario.settings.mode) scenario.settings.preset.checks target
      (scenario.waivers.merge args.waivers)).run History.store snapshot.history).Admits

/-- The run need only show the scenario, or an evaluation of the scenario admits. -/
def Succeeds (args : Args) (parse : String → Except Fault Scenario) (contents : Option String) :
    Prop :=
  args.dryRun = true ∨
    ∃ scenario, Scenario.load parse contents = .ok scenario ∧ args.AdmittedBy scenario

/-- How a run ends: it fails, or it shows the scenario only, or it comes to the decision of a single
evaluation. -/
inductive Settles (args : Args) (parse : String → Except Fault Scenario)
    (contents : Option String) : Except Failure (Option Decision) → Prop
  | failed {failure} (why : args.FailsWith parse contents failure) :
      Settles args parse contents (.error failure)
  | shown {scenario} (loaded : Scenario.load parse contents = .ok scenario)
      (dry : args.dryRun = true) :
      Settles args parse contents (.ok none)
  | decided {scenario interval decision} (loaded : Scenario.load parse contents = .ok scenario)
      (evaluates : args.dryRun = false) (paced : Session.interval args = .ok interval)
      (listed : args.ListedIn scenario)
      (decides : args.verdict scenario.settings scenario = .ok decision) :
      Settles args parse contents (.ok (some decision))

variable {parse : String → Except Fault Scenario} {args : Args} {contents : Option String}
  {scenario : Scenario} {decision : Decision} {interval : Option Nat}

theorem admittedBy_iff :
    args.AdmittedBy scenario ↔ ∃ decision, args.verdict scenario.settings scenario = .ok decision ∧
      decision.admitted = true := by
  unfold AdmittedBy verdict Evaluator.ending
  cases loaded : (Snapshot.ofScenario scenario args.request args.waivers).result with
  | error fault => simp
  | ok snapshot =>
    obtain ⟨granted, -⟩ := Snapshot.result_ofScenario_of_granted loaded {}
    have admits : (Gate.evaluate (args.evaluator scenario.settings) snapshot).Admits ↔ _ :=
      Gate.admits_evaluate_iff
    rw [granted] at admits
    simp only [Except.ok.injEq, exists_and_left, exists_eq_left', ok_bind]
    exact admits.symm

private theorem interval_eq_error_iff {fault : DurationFault} :
    Session.interval args = .error fault ↔
    ∃ text, args.poll = some text ∧ Duration.read text = .error fault := by
  unfold Session.interval
  cases given : args.poll with
  | none => simp
  | some text => cases read : Duration.read text <;> simp [read, Except.map]

private theorem exists_run_settles {rounds : Nat} (parse : String → Except Fault Scenario)
    (contents : Option String) (limited : args.poll = none ∨ ∃ limit, args.maxPolls = some limit)
    (enough : args.enoughRounds ≤ rounds) :
    ∃ ending, Session.run parse args (fun _ => contents) rounds = some ending ∧
      args.Settles parse contents ending.result := by
  cases loaded : Scenario.load parse contents with
  | error fault =>
    exact ⟨_, Session.run_of_ended (Session.start_of_error loaded), .failed (.loading loaded)⟩
  | ok scenario =>
    cases evaluates : args.dryRun with
    | true =>
      exact ⟨_, Session.run_of_ended (Session.start_of_dryRun loaded evaluates),
        .shown loaded evaluates⟩
    | false =>
      cases paced : Session.interval args with
      | error fault =>
        obtain ⟨text, given, refused⟩ := interval_eq_error_iff.mp paced
        exact ⟨_, Session.run_of_ended (Session.start_of_badInterval loaded evaluates paced),
          .failed (.badInterval evaluates given refused)⟩
      | ok interval =>
        obtain ⟨events, runs⟩ := exists_run_unchanged limited enough loaded evaluates paced
        refine ⟨_, runs, ?_⟩
        by_cases taskListed : args.task ∈ scenario.tasks.names
        · by_cases runListed : args.run ∈ scenario.runs.map (·.run)
          · have listed : args.ListedIn scenario := ⟨taskListed, runListed⟩
            obtain ⟨decision, decides⟩ := exists_verdict (Scenario.wellFormed_of_load loaded) listed
              scenario.settings
            rw [decides]
            exact .decided loaded evaluates paced listed decides
          · rw [verdict_of_unlisted_run (Scenario.wellFormed_of_load loaded) taskListed runListed]
            exact .failed (.unlistedRun evaluates loaded runListed)
        · rw [verdict_of_unlisted_task taskListed]
          exact .failed (.unlistedTask evaluates loaded taskListed)

namespace Settles

variable {result : Except Failure (Option Decision)} {outcome : Option Decision}

/-- A run that comes to an outcome does not also fail. -/
theorem not_failsWith (settles : args.Settles parse contents (.ok outcome)) {failure : Failure} :
    ¬args.FailsWith parse contents failure := by
  intro fails
  cases settles with
  | shown loaded dry =>
    cases fails with
    | loading unread => cases loaded.symm.trans unread
    | badInterval evaluates => cases dry.symm.trans evaluates
    | unlistedTask evaluates => cases dry.symm.trans evaluates
    | unlistedRun evaluates => cases dry.symm.trans evaluates
  | decided loaded _ paced listed =>
    cases fails with
    | loading unread => cases loaded.symm.trans unread
    | badInterval _ given refused =>
      cases paced.symm.trans (interval_eq_error_iff.mpr ⟨_, given, refused⟩)
    | unlistedTask _ loadedToo unlisted =>
      cases loaded.symm.trans loadedToo
      exact unlisted listed.task
    | unlistedRun _ loadedToo unlisted =>
      cases loaded.symm.trans loadedToo
      exact unlisted listed.run

private theorem exists_failsWith_iff (settles : args.Settles parse contents result) :
    (∃ failure, args.FailsWith parse contents failure) ↔ ∃ failure, result = .error failure := by
  cases result with
  | error failure =>
    cases settles with
    | failed why => exact iff_of_true ⟨failure, why⟩ ⟨failure, rfl⟩
  | ok outcome => exact iff_of_false (fun ⟨_, fails⟩ => settles.not_failsWith fails) (by simp)

private theorem succeeds_iff (settles : args.Settles parse contents (.ok outcome)) :
    args.Succeeds parse contents ↔ ∀ decision ∈ outcome, decision.admitted = true := by
  cases settles with
  | shown loaded dry => exact iff_of_true (.inl dry) (by simp)
  | decided loaded evaluates _ _ decides =>
    simp only [Succeeds, evaluates, Bool.false_eq_true, false_or, loaded, Except.ok.injEq,
      exists_eq_left', admittedBy_iff, decides, Option.mem_def, Option.some.injEq, forall_eq']

end Settles

/-- A run that either does not poll or has a limit to its attempts, and whose file stays as it is,
ends, whatever the file and the arguments are parsed to. Its exit code is one exactly if there is a
reason to fail, and it fails for no other reason. Without one the exit code is zero exactly if the
scenario is only to be shown or one evaluation of it admits, and two otherwise. The transcript of
the command line has this exit code at every level of logging. -/
theorem exitCode_of_unchanged {args : Args} {rounds : Nat}
    (parse : String → Except Fault Scenario) (contents : Option String)
    (limited : args.poll = none ∨ ∃ limit, args.maxPolls = some limit)
    (enough : args.enoughRounds ≤ rounds) :
    ∃ ending, Session.run parse args (fun _ => contents) rounds = some ending ∧
      (ending.exitCode = 1 ↔ ∃ failure, args.FailsWith parse contents failure) ∧
      ((¬∃ failure, args.FailsWith parse contents failure) →
        (ending.exitCode = 0 ↔ args.Succeeds parse contents) ∧
        (ending.exitCode = 2 ↔ ¬args.Succeeds parse contents)) ∧
      (∀ failure, ending.result = .error failure → args.FailsWith parse contents failure) ∧
      ∀ parseArgs arguments environment files, parseArgs arguments = .ok args →
        (∀ number, files args.scenario number = contents) →
        (transcript parse parseArgs arguments environment files rounds).map (·.exitCode) =
          some ending.exitCode := by
  obtain ⟨ending, runs, settles⟩ := exists_run_settles parse contents limited enough
  refine ⟨ending, runs, ?_, fun fine => ?_, fun failure failed => ?_,
    fun parseArgs arguments environment files given unchanged => ?_⟩
  · rw [Session.Ending.exitCode_eq_one_iff, settles.exists_failsWith_iff]
  · cases ended : ending.result with
    | error failure => exact absurd (settles.exists_failsWith_iff.mpr ⟨failure, ended⟩) fine
    | ok outcome =>
      rw [ended] at settles
      rw [settles.succeeds_iff]
      exact Session.Ending.exitCode_of_ok ended
  · rw [failed] at settles
    cases settles with
    | failed why => exact why
  · rw [transcript, given]
    dsimp only
    rw [funext unchanged, runs]
    rfl

/-- An instance that is only scheduled: a denial, unless the arguments choose the mode in which this
does not hold it back; and a failure if there is no file. -/
theorem exitCode_of_unchanged_scheduled :
    let contents := some (Scenario.singleDocument .runnable .scheduled)
    let lenient : Args := { everySecond with mode := some .hardBlockersOnly }
    (everySecond.poll = none ∨ ∃ limit, everySecond.maxPolls = some limit) ∧
    everySecond.enoughRounds ≤ 2 ∧
    (∃ ending, Session.run Scenario.read everySecond (fun _ => contents) 2 = some ending ∧
      ending.exitCode = 2) ∧
    (transcript Scenario.read Args.read everySecondWords none (fun _ _ => contents) 2).map
      (·.exitCode) = some 2 ∧
    (∃ ending, Session.run Scenario.read lenient (fun _ => contents) 2 = some ending ∧
      ending.exitCode = 0) ∧
    ∃ ending, Session.run Scenario.read everySecond (fun _ => none) 2 = some ending ∧
      ending.exitCode = 1 := by
  intro contents lenient
  have limited : everySecond.poll = none ∨ ∃ limit, everySecond.maxPolls = some limit :=
    .inr ⟨2, rfl⟩
  have limitedToo : lenient.poll = none ∨ ∃ limit, lenient.maxPolls = some limit := limited
  have enough : everySecond.enoughRounds ≤ 2 := by decide
  have listed := listedIn_single .runnable .scheduled
  have loaded := Scenario.load_single .scheduled
  let passed : Decision := ⟨true, .hardBlockersOnly, [⟨.instanceState, .stateForbidden .scheduled⟩,
    ⟨.notRunning, .idle⟩, ⟨.previousRun, .independentOfPast⟩]⟩
  have denied : everySecond.Settles Scenario.read contents (.ok (some .heldBack)) :=
    .decided loaded rfl rfl listed rfl
  have admitted : lenient.Settles Scenario.read contents (.ok (some passed)) :=
    .decided loaded rfl rfl ⟨listed.task, listed.run⟩ rfl
  obtain ⟨second, secondRuns, -, codes, -, shows⟩ :=
    exitCode_of_unchanged Scenario.read contents limited enough
  obtain ⟨-, two⟩ := codes fun ⟨_, fails⟩ => denied.not_failsWith fails
  have isTwo : second.exitCode = 2 := by
    rw [two, denied.succeeds_iff]
    simp [Decision.heldBack]
  have shown := shows Args.read everySecondWords none (fun _ _ => contents) read_everySecondWords
    fun _ => rfl
  rw [isTwo] at shown
  obtain ⟨third, thirdRuns, -, codes, -⟩ :=
    exitCode_of_unchanged Scenario.read contents limitedToo enough
  obtain ⟨zero, -⟩ := codes fun ⟨_, fails⟩ => admitted.not_failsWith fails
  have isZero : third.exitCode = 0 := by
    rw [zero, admitted.succeeds_iff]
    simp [passed]
  obtain ⟨first, firstRuns, one, -⟩ := exitCode_of_unchanged Scenario.read none limited enough
  exact ⟨limited, enough, ⟨second, secondRuns, isTwo⟩, shown, ⟨third, thirdRuns, isZero⟩, first,
    firstRuns, one.mpr ⟨_, .loading rfl⟩⟩

end Args

end RunGate
