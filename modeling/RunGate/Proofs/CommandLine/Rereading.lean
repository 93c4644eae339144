import RunGate.Proofs.CommandLine.Session

/-! A run that polls reads the scenario file once at the start and again for every attempt. Its decision
is the one on its last reading, but with the mode and the preset of the first: a fresh run on what was
read last comes to the same decision if these have not changed. -/

namespace RunGate

def Args.once (args : Args) : Args := { args with poll := none }

/-- The number of the last reading of the scenario file, counted from zero, if the run ends within so
many attempts. -/
def Session.lastReading (parse : String → Except Fault Scenario) (args : Args)
    (contents : Nat → Option String) (rounds : Nat) : Option Nat :=
  match start parse args (contents 0) with
  | .ended _ => some 0
  | .polling session _ =>
    (session.gate.poll (fun number => session.load parse (contents (number + 1))) rounds).map (·.loads)

variable {parse : String → Except Fault Scenario} {args : Args} {contents : Nat → Option String}
  {rounds last : Nat} {interval : Option Nat} {first latest : Scenario}

private theorem Args.verdict_congr {settings others : Settings}
    (preset : settings.preset = others.preset)
    (mode : args.mode = none → settings.mode = others.mode) (scenario : Scenario) :
    args.verdict settings scenario = args.verdict others scenario := by
  have same : args.mode.getD settings.mode = args.mode.getD others.mode := by
    cases given : args.mode with
    | none => exact mode given
    | some chosen => rfl
  rw [verdict, verdict, evaluator, evaluator, preset, same]

namespace Session

private theorem finish_eq_of_request {session other : Session}
    (same : session.request = other.request)
    (result : Except Fault Decision) (events others : List Event) :
    (session.finish result events).result = (other.finish result others).result ∧
      (session.finish result events).output = (other.finish result others).output := by
  cases result with
  | error fault => exact ⟨rfl, rfl⟩
  | ok decision => exact ⟨rfl, congrArg decision.report same⟩

private theorem lastReading_of_interval (evaluates : args.dryRun = false)
    (paced : Session.interval args = .ok interval)
    (loaded : Scenario.load parse (contents 0) = .ok first) :
    lastReading parse args contents rounds =
      ((args.session interval first.settings).gate.poll
        (fun number => (args.session interval first.settings).load parse (contents (number + 1)))
        rounds).map (·.loads) := by
  rw [lastReading, start_of_interval loaded evaluates paced]

/-- A run ends with what the scenario it has read last comes to under the settings of the first. -/
theorem exists_run_of_lastReading (evaluates : args.dryRun = false)
    (paced : Session.interval args = .ok interval)
    (ends : lastReading parse args contents rounds = some last)
    (loaded : Scenario.load parse (contents 0) = .ok first)
    (loadedLast : Scenario.load parse (contents last) = .ok latest) :
    ∃ events, run parse args contents rounds =
      some ((args.session interval first.settings).finish
        (args.verdict first.settings latest) events) := by
  rw [lastReading_of_interval evaluates paced loaded] at ends
  obtain ⟨polled, polls, counted⟩ := Option.map_eq_some_iff.mp ends
  obtain ⟨count, -, result, loads⟩ := Evaluator.exists_isLeast_of_poll polls
  -- The reading before polling is not one of its loads.
  obtain rfl : count + 1 = last := loads.symm.trans counted
  rw [ending_load loadedLast] at result
  rw [← result]
  exact ⟨_, run_of_polling (start_of_interval loaded evaluates paced) polls⟩

private theorem exists_run_once (args : Args) {contents : Option String}
    (evaluates : args.dryRun = false) (loaded : Scenario.load parse contents = .ok latest) :
    ∃ events, run parse args.once (fun _ => contents) 1 =
      some ((args.session none latest.settings).finish (args.verdict latest.settings latest)
        events) :=
  Args.exists_run_unchanged (.inl rfl) le_rfl loaded evaluates rfl

/-- Where every reading is a scenario that lists the task and the run, a run that ends comes to a
decision: the one on its last reading, under the settings of the first. If the preset is still the same,
and the mode too unless the arguments name one, then a fresh run without an interval, on what was read
last, has the same decision and report, whatever else was changed between the readings. -/
theorem decision_of_lastReading (evaluates : args.dryRun = false)
    (paced : Session.interval args = .ok interval)
    (ends : lastReading parse args contents rounds = some last)
    (read : ∀ number ≤ last, ∃ scenario, Scenario.load parse (contents number) = .ok scenario ∧
      args.ListedIn scenario) :
    ∃ first latest ending fresh decision,
      Scenario.load parse (contents 0) = .ok first ∧ Scenario.load parse (contents last) = .ok latest ∧
      run parse args contents rounds = some ending ∧ ending.result = .ok (some decision) ∧
      args.verdict first.settings latest = .ok decision ∧
      run parse args.once (fun _ => contents last) 1 = some fresh ∧
      (first.settings.preset = latest.settings.preset →
        (args.mode = none → first.settings.mode = latest.settings.mode) →
        fresh.result = ending.result ∧ fresh.output = ending.output) := by
  obtain ⟨first, loaded, -⟩ := read 0 (Nat.zero_le last)
  obtain ⟨latest, loadedLast, listed⟩ := read last le_rfl
  obtain ⟨decision, decides⟩ :=
    Args.exists_verdict (Scenario.wellFormed_of_load loadedLast) listed first.settings
  obtain ⟨events, runs⟩ := exists_run_of_lastReading evaluates paced ends loaded loadedLast
  obtain ⟨freshEvents, runsFresh⟩ := exists_run_once args evaluates loadedLast
  rw [decides] at runs
  refine ⟨first, latest, _, _, decision, loaded, loadedLast, runs, rfl, decides, runsFresh, ?_⟩
  intro preset mode
  rw [← Args.verdict_congr preset mode, decides]
  exact finish_eq_of_request rfl _ _ _

private theorem lastReading_of_scenarios {scenarios : Nat → Scenario}
    (evaluates : args.dryRun = false) (paced : Session.interval args = .ok interval)
    (loaded : ∀ number, Scenario.load parse (contents number) = .ok (scenarios number)) :
    lastReading parse args contents rounds =
      ((args.session interval (scenarios 0).settings).gate.poll
        (fun number => Snapshot.ofScenario (scenarios (number + 1)) args.request args.waivers)
        rounds).map (·.loads) := by
  have loads : (fun number => (args.session interval (scenarios 0).settings).load
      parse (contents (number + 1))) =
        fun number => Snapshot.ofScenario (scenarios (number + 1)) args.request args.waivers :=
    funext fun number => load_of_ok (loaded (number + 1))
  rw [lastReading_of_interval evaluates paced (loaded 0), loads]

/-- A sequence that changes once, between what the first attempt reads and what the second one reads. -/
def changedOnce {α : Type} (before after : α) (number : Nat) : α :=
  if number < 2 then before else after

private theorem load_changedOnce {before after : Option String} {old new : Scenario}
    (loadedOld : Scenario.load parse before = .ok old) (loadedNew : Scenario.load parse after = .ok new)
    (number : Nat) :
    Scenario.load parse (changedOnce before after number) = .ok (changedOnce old new number) := by
  unfold changedOnce
  split
  · exact loadedOld
  · exact loadedNew

private theorem listedIn_changedOnce {old new : Scenario} (listedOld : args.ListedIn old)
    (listedNew : args.ListedIn new) (number : Nat) : args.ListedIn (changedOnce old new number) := by
  unfold changedOnce
  split
  · exact listedOld
  · exact listedNew

/-- The instance is queued after the first attempt. The second one finds it so and admits, as a fresh
run does. -/
theorem decision_of_lastReading_queued :
    let contents := changedOnce (some (Scenario.singleDocument .runnable .scheduled))
      (some (Scenario.singleDocument .runnable .queued))
    Args.everySecond.dryRun = false ∧ Session.interval .everySecond = .ok (some 1000) ∧
    lastReading Scenario.read .everySecond contents 2 = some 2 ∧
    (∀ number ≤ 2, ∃ scenario, Scenario.load Scenario.read (contents number) = .ok scenario ∧
      Args.everySecond.ListedIn scenario) ∧
    ∃ ending fresh decision, run Scenario.read .everySecond contents 2 = some ending ∧
      ending.result = .ok (some decision) ∧ decision.admitted = true ∧
      run Scenario.read Args.everySecond.once (fun _ => contents 2) 1 = some fresh ∧
      fresh.result = ending.result := by
  intro contents
  have loaded := load_changedOnce (Scenario.load_single .scheduled) (Scenario.load_single .queued)
  have ends : lastReading Scenario.read .everySecond contents 2 = some 2 := by
    rw [lastReading_of_scenarios rfl rfl loaded]
    rfl
  have read : ∀ number ≤ 2, ∃ scenario, Scenario.load Scenario.read (contents number) = .ok scenario ∧
      Args.everySecond.ListedIn scenario :=
    fun number _ => ⟨_, loaded number, listedIn_changedOnce (Args.listedIn_single _ _)
      (Args.listedIn_single _ _) number⟩
  obtain ⟨first, latest, ending, fresh, decision, loadedFirst, loadedLast, runs, decided, decides,
    runsFresh, same⟩ := decision_of_lastReading rfl rfl ends read
  cases (loaded 0).symm.trans loadedFirst
  cases (loaded 2).symm.trans loadedLast
  cases decides
  exact ⟨rfl, rfl, ends, read, ending, fresh, _, runs, decided, rfl, runsFresh,
    (same rfl fun _ => rfl).1⟩

/-- The preset is changed after the first attempt, to the one for instances that are scheduled. The
second attempt still denies; a fresh run admits. -/
theorem decision_of_changed_preset :
    let contents := changedOnce (some (Scenario.singleDocument .runnable .scheduled))
      (some (Scenario.singleDocument .queueable .scheduled))
    Args.everySecond.dryRun = false ∧ Session.interval .everySecond = .ok (some 1000) ∧
    lastReading Scenario.read .everySecond contents 2 = some 2 ∧
    (∀ number ≤ 2, ∃ scenario, Scenario.load Scenario.read (contents number) = .ok scenario ∧
      Args.everySecond.ListedIn scenario) ∧
    ∃ ending fresh, run Scenario.read .everySecond contents 2 = some ending ∧
      ending.result = .ok (some .heldBack) ∧
      run Scenario.read Args.everySecond.once (fun _ => contents 2) 1 = some fresh ∧
      fresh.result = .ok (some ⟨true, .admission, [⟨.instanceState, .stateAllowed .scheduled⟩,
        ⟨.notRunning, .idle⟩, ⟨.previousRun, .independentOfPast⟩]⟩) := by
  intro contents
  have loaded := load_changedOnce (Scenario.load_single .scheduled) (Scenario.load_single .queueable)
  have ends : lastReading Scenario.read .everySecond contents 2 = some 2 := by
    rw [lastReading_of_scenarios rfl rfl loaded]
    rfl
  obtain ⟨events, runs⟩ := exists_run_of_lastReading rfl rfl ends (loaded 0) (loaded 2)
  obtain ⟨freshEvents, runsFresh⟩ := exists_run_once .everySecond rfl (loaded 2)
  exact ⟨rfl, rfl, ends, fun number _ => ⟨_, loaded number, listedIn_changedOnce
    (Args.listedIn_single _ _) (Args.listedIn_single _ _) number⟩, _, _, runs, rfl, runsFresh, rfl⟩

end Session

end RunGate
