import RunGate.CommandLine.Session
import RunGate.Scenario.Builder
import RunGate.Proofs.Admission.Leniency
import RunGate.Proofs.Admission.Polling

namespace RunGate

namespace Args

def request (args : Args) : Request := ⟨args.task, args.run, args.mapIndex⟩

/-- The preset is that of the settings, and so is the mode unless the arguments name one. -/
def evaluator (args : Args) (settings : Settings) : Evaluator :=
  .ofPreset settings.preset (args.mode.getD settings.mode)

/-- What one evaluation of a scenario comes to under settings, be they its own or not. -/
def verdict (args : Args) (settings : Settings) (scenario : Scenario) : Except Fault Decision :=
  (args.evaluator settings).ending (Snapshot.ofScenario scenario args.request args.waivers)

/-- The scenario lists the task and the run that the arguments name. -/
structure ListedIn (args : Args) (scenario : Scenario) : Prop where
  task : args.task ∈ scenario.tasks.names
  run : args.run ∈ scenario.runs.map (·.run)

def session (args : Args) (interval : Option Nat) (settings : Settings) : Session where
  path := args.scenario
  request := args.request
  waivers := args.waivers
  gate := ⟨args.evaluator settings, ⟨interval, args.maxPolls⟩, 0⟩

/-- How many attempts are enough for a run that does not poll without a limit. -/
def enoughRounds (args : Args) : Nat :=
  match args.poll with
  | none => 1
  | some _ => max 1 (args.maxPolls.elim 1 UInt32.toNat)

end Args

variable {parse : String → Except Fault Scenario} {args : Args} {contents : Option String}
  {scenario : Scenario} {fault : Fault} {interval : Option Nat} {settings : Settings}

def Toml.entriesOf (text : List Char) : Option (List (String × Value)) :=
  let text := match text with
    | '\ufeff' :: rest => rest
    | text => text
  (lines (text.length + 1) ⟨[], []⟩ text).map Node.finishedEntries

private theorem Toml.read_eq_entriesOf (document : String) :
    read document = entriesOf document.toList := rfl

private theorem Scenario.load_of_entriesOf {document : String} (valid : scenario.WellFormed)
    (found : ((Toml.entriesOf document.toList).bind fun entries =>
      (Scenario.ofValue (.table entries)).toOption) = some scenario) :
    Scenario.load Scenario.read (some document) = .ok scenario := by
  obtain ⟨entries, read, shaped⟩ := Option.bind_eq_some_iff.mp found
  have raw : Scenario.ofValue (.table entries) = .ok scenario := by
    cases result : Scenario.ofValue (.table entries) with
    | error fault => rw [result] at shaped; cases shaped
    | ok other => rw [result] at shaped; cases shaped; rfl
  rw [← Toml.read_eq_entriesOf] at read
  have loaded : Scenario.read document = .ok scenario := by
    simp only [Scenario.read, read, raw]
  unfold Scenario.load
  dsimp only
  rw [loaded, ok_bind]
  exact validated_of_wellFormed valid

theorem Scenario.wellFormed_of_load (loaded : Scenario.load parse contents = .ok scenario) :
    scenario.WellFormed := by
  cases contents with
  | none => cases loaded
  | some document =>
    unfold Scenario.load at loaded
    dsimp only at loaded
    cases found : parse document with
    | error fault => rw [found, error_bind] at loaded; cases loaded
    | ok raw =>
      rw [found, ok_bind] at loaded
      exact (wellFormed_of_validated loaded).2

namespace Args

theorem verdict_of_unlisted_task (unlisted : args.task ∉ scenario.tasks.names) :
    args.verdict settings scenario = .error (.unknownTask scenario.workflow.name args.task) := by
  rw [verdict, Evaluator.ending, Snapshot.result_ofScenario_unlisted_task unlisted]
  rfl

theorem verdict_of_unlisted_run (valid : scenario.WellFormed)
    (listed : args.task ∈ scenario.tasks.names)
    (unlisted : args.run ∉ scenario.runs.map (·.run)) :
    args.verdict settings scenario = .error (.unknownRun scenario.workflow.name args.run) := by
  rw [verdict, Evaluator.ending, Snapshot.result_ofScenario_unlisted_run valid listed unlisted]
  rfl

/-- On a well-formed scenario that lists the task and the run an evaluation comes to a decision. -/
theorem exists_verdict (valid : scenario.WellFormed) (listed : args.ListedIn scenario)
    (settings : Settings) : ∃ decision, args.verdict settings scenario = .ok decision := by
  obtain ⟨spec, found⟩ := Table.mem_names_iff_exists_get?.mp listed.task
  obtain ⟨run, runFound⟩ := Scenario.mem_runs_iff_exists_run?.mp listed.run
  have loaded : (Snapshot.ofScenario scenario args.request args.waivers).result =
      .ok (.taken scenario args.request args.waivers run) :=
    Snapshot.result_ofScenario valid found runFound
  have target : (Snapshot.taken scenario args.request args.waivers run).workflow.target
      (Snapshot.taken scenario args.request args.waivers run).subject = .ok _ :=
    Snapshot.target_taken valid found
  rw [verdict, Evaluator.ending, loaded, ok_bind, Gate.evaluate, target]
  exact Snapshot.exists_outcome_taken valid runFound _ _ _ _

end Args

namespace Session

theorem start_of_error (unread : Scenario.load parse contents = .error fault) :
    start parse args contents = .ended ⟨.error (.loading args.scenario fault), "", []⟩ := by
  rw [start, unread]

theorem start_of_dryRun (loaded : Scenario.load parse contents = .ok scenario)
    (dry : args.dryRun = true) :
    start parse args contents = .ended ⟨.ok none, scenario.overview, [.dryRunComplete]⟩ := by
  simp only [start, loaded, dry, ↓reduceIte]

theorem start_of_badInterval {fault : DurationFault}
    (loaded : Scenario.load parse contents = .ok scenario) (evaluates : args.dryRun = false)
    (refused : Session.interval args = .error fault) :
    start parse args contents = .ended ⟨.error (.badInterval fault), "", []⟩ := by
  simp only [start, loaded, evaluates, Bool.false_eq_true, ↓reduceIte, refused]

theorem start_of_interval (loaded : Scenario.load parse contents = .ok scenario)
    (evaluates : args.dryRun = false) (paced : Session.interval args = .ok interval) :
    start parse args contents = .polling (args.session interval scenario.settings) [.evaluating] := by
  simp only [start, loaded, evaluates, Bool.false_eq_true, ↓reduceIte, paced]
  rfl

theorem run_of_ended {contents : Nat → Option String} {ending : Ending} {rounds : Nat}
    (ended : start parse args (contents 0) = .ended ending) :
    run parse args contents rounds = some ending := by
  rw [run, ended]

theorem run_of_polling {contents : Nat → Option String} {session : Session} {events : List Event}
    {polled : Poller.Polled} {rounds : Nat}
    (begins : start parse args (contents 0) = .polling session events)
    (polls : session.gate.poll (fun number => session.load parse (contents (number + 1))) rounds =
      some polled) :
    run parse args contents rounds = some (session.finish polled.result (events ++ polled.events)) := by
  rw [run, begins]
  exact congrArg (Option.map _) polls

theorem load_of_ok {session : Session} (loaded : Scenario.load parse contents = .ok scenario) :
    session.load parse contents =
      Snapshot.ofScenario scenario session.request session.waivers := by
  rw [load, loaded]
  exact Journal.bind_of_ok rfl _

/-- What a load comes to is what the evaluation of the scenario comes to. -/
theorem ending_load (loaded : Scenario.load parse contents = .ok scenario) :
    (args.evaluator settings).ending ((args.session interval settings).load parse contents) =
      args.verdict settings scenario := by
  rw [load_of_ok loaded]
  rfl

end Session

namespace Args

/-- Either there is no interval, or there is a limit to the attempts: so polling stops. -/
private theorem exists_isLeast_stops
    (limited : args.poll = none ∨ ∃ limit, args.maxPolls = some limit)
    (paced : Session.interval args = .ok interval) (evaluator : Evaluator)
    (source : Nat → Journal Snapshot) :
    ∃ last, IsLeast (evaluator.stops ⟨interval, args.maxPolls⟩ source) last ∧
      last < args.enoughRounds := by
  rw [enoughRounds]
  cases polls : args.poll with
  | none =>
    have single : interval = none := by
      rw [Session.interval, polls] at paced
      exact (Except.ok.inj paced).symm
    exact ⟨0, evaluator.isLeast_zero_of_single source single, Nat.zero_lt_one⟩
  | some text =>
    obtain ⟨limit, limited⟩ := limited.resolve_left (by simp [polls])
    rw [limited]
    exact evaluator.exists_isLeast_of_limited source rfl

/-- On contents that stay as they are, a run that evaluates ends as a single evaluation does. -/
theorem exists_run_unchanged {rounds : Nat}
    (limited : args.poll = none ∨ ∃ limit, args.maxPolls = some limit)
    (enough : args.enoughRounds ≤ rounds) (loaded : Scenario.load parse contents = .ok scenario)
    (evaluates : args.dryRun = false) (paced : Session.interval args = .ok interval) :
    ∃ events, Session.run parse args (fun _ => contents) rounds =
      some ((args.session interval scenario.settings).finish
        (args.verdict scenario.settings scenario) events) := by
  obtain ⟨last, least, below⟩ := exists_isLeast_stops limited paced
    (args.evaluator scenario.settings)
    (fun _ => (args.session interval scenario.settings).load parse contents)
  obtain ⟨polled, polls, result, -⟩ :=
    Evaluator.poll_of_isLeast least (Nat.lt_of_lt_of_le below enough)
  rw [Session.ending_load loaded] at result
  rw [← result]
  exact ⟨_, Session.run_of_polling (Session.start_of_interval loaded evaluates paced) polls⟩

end Args

namespace Scenario

def single (preset : Preset) (state : TaskState) : Scenario :=
  (named "etl").withPreset preset |>.withTask "load" {}
    |>.withRun "monday" (.midnight 0) .running |>.withInstance "load" "monday" state

/-- A file that describes it. -/
def singleDocument (preset : Preset) (state : TaskState) : String :=
  textOfLines [
    "config.deps = \"" ++ preset.name ++ "\"",
    "dag.dag_id = \"etl\"",
    "[task.load]",
    "[[dag_run]]",
    "run_id = \"monday\"",
    "execution_date = \"2024-01-01T00:00:00Z\"",
    "[[task_instance]]",
    "task_id = \"load\"",
    "run_id = \"monday\"",
    "state = \"" ++ state.name ++ "\""]

theorem wellFormed_single (preset : Preset) (state : TaskState) :
    (single preset state).WellFormed := by
  have free : ∀ task dependency, ¬(single preset state).After task dependency := by
    intro task dependency listed
    obtain ⟨spec, entry, named⟩ := listed
    cases List.mem_singleton.mp entry
    cases named
  exact {
    hasTask := List.cons_ne_nil _ _
    hasName := ⟨'e', (by decide : _ ∈ "etl".toList), by decide⟩
    listedDependencies := fun task dependency listed => absurd listed (free task dependency)
    noCircle := fun task follows => by
      cases follows with
      | step listed => exact free _ _ listed
      | further listed => exact free _ _ listed
    runNames := List.nodup_singleton _
    runDates := List.nodup_singleton _
    listedInstances := fun entry listed => by
      cases List.mem_singleton.mp listed
      exact ⟨List.mem_singleton.mpr rfl, List.mem_singleton.mpr rfl, Int.le_refl _⟩
    instanceKeys := List.nodup_singleton _ }

inductive Sampled : Preset → TaskState → Prop
  | scheduled : Sampled .runnable .scheduled
  | queued : Sampled .runnable .queued
  | queueable : Sampled .queueable .scheduled

theorem load_single {preset : Preset} {state : TaskState} (sampled : Sampled preset state) :
    load read (some (singleDocument preset state)) = .ok (single preset state) := by
  refine load_of_entriesOf (wellFormed_single preset state) ?_
  cases sampled <;>
    simp only [singleDocument, textOfLines, String.join, Preset.name, TaskState.name, List.map,
      List.foldl, String.toList_append, String.reduceToList] <;>
    decide +kernel

end Scenario

/-- Arguments that ask about that instance every second, twice at most. -/
def Args.everySecond : Args where
  scenario := "Tideps.toml"
  task := "load"
  run := "monday"
  mapIndex := unmapped
  mode := none
  waivers := {}
  poll := some "1s"
  maxPolls := some 2
  logLevel := none
  dryRun := false

def Args.everySecondWords : List String :=
  ["--task", "load", "--run-id", "monday", "--poll", "1s", "--max-polls", "2"]

theorem Args.read_everySecondWords : Args.read everySecondWords = .ok everySecond := rfl

theorem Args.listedIn_single (preset : Preset) (state : TaskState) :
    Args.everySecond.ListedIn (.single preset state) where
  task := List.mem_singleton.mpr rfl
  run := List.mem_singleton.mpr rfl

/-- What is decided about that instance if it is scheduled and only what may start is admitted. -/
def Decision.heldBack : Decision :=
  ⟨false, .admission, [⟨.instanceState, .stateForbidden .scheduled⟩]⟩

end RunGate
