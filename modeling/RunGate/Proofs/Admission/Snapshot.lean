import RunGate.Proofs.Admission.Modes
import RunGate.Proofs.Check.Finding
import RunGate.Proofs.History.Recorded
import RunGate.Admission.Snapshot
import RunGate.Scenario.Builder

namespace RunGate

@[simp]
theorem Journal.result_bind {α β : Type} (first : Journal α) (next : α → Journal β) :
    (first >>= next).result = first.result >>= fun value => (next value).result := by
  cases ended : first.result with
  | error fault => rw [Journal.bind_of_error ended, error_bind]
  | ok value => rw [Journal.bind_of_ok ended, ok_bind]

@[simp]
theorem Journal.result_lift {α : Type} (result : Except Fault α) :
    (Journal.lift result).result = result := rfl

variable {scenario : Scenario} {request : Request} {waivers : Waivers} {run : RunEntry}
  {spec : TaskSpec} {name : String} {snapshot : Snapshot}

theorem Workflow.task_ofScenario (listed : scenario.tasks.get? name = some spec) :
    (Workflow.ofScenario scenario).task name = .ok (scenario.task name spec) := by
  rw [Workflow.task]
  simp [Workflow.ofScenario, Table.get?_map, listed]

private theorem Workflow.task_ofScenario_unlisted (unlisted : name ∉ scenario.tasks.names) :
    (Workflow.ofScenario scenario).task name =
      .error (.unknownTask scenario.workflow.name name) := by
  have absent : scenario.tasks.get? name = none := by
    refine Option.eq_none_iff_forall_ne_some.mpr fun spec listed => ?_
    exact unlisted (Table.mem_names_iff_exists_get?.mpr ⟨spec, listed⟩)
  rw [Workflow.task]
  simp [Workflow.ofScenario, Table.get?_map, absent]

namespace Snapshot

/-- The requested instance: the listed one, or else a fresh one of the run. -/
def requested (scenario : Scenario) (request : Request) (run : RunEntry) : TaskInstance :=
  (scenario.recorded.instance? (key scenario request)).getD
    ⟨key scenario request, run.date, .undecided⟩

/-- The snapshot of a scenario that records what it lists. -/
def taken (scenario : Scenario) (request : Request) (waivers : Waivers) (run : RunEntry) :
    Snapshot :=
  ⟨Workflow.ofScenario scenario, scenario.recorded, requested scenario request run,
    scenario.waivers.merge waivers⟩

theorem result_subjectOf (found : scenario.run? request.run = some run) :
    (subjectOf scenario request scenario.recorded).result =
      .ok (requested scenario request run) := by
  unfold subjectOf requested
  cases scenario.recorded.instance? (key scenario request) with
  | some subject => rfl
  | none => simp [found, Journal.log]

private theorem result_subjectOf_unlisted (valid : scenario.WellFormed)
    (unlisted : request.run ∉ scenario.runs.map (·.run)) :
    (subjectOf scenario request scenario.recorded).result =
      .error (.unknownRun scenario.workflow.name request.run) := by
  have absent : scenario.recorded.instance? (key scenario request) = none := by
    refine Option.eq_none_iff_forall_ne_some.mpr fun subject recorded => ?_
    obtain ⟨member, named⟩ := (Scenario.instance?_recorded_eq_some_iff valid).mp recorded
    obtain ⟨entry, -, listed, runListed, same, rfl⟩ :=
      (Scenario.mem_recordedInstances valid).mp member
    have runNamed : entry.run = request.run := congrArg InstanceKey.run named
    exact unlisted (List.mem_map.mpr ⟨listed, runListed, same.trans runNamed⟩)
  have missing : scenario.run? request.run = none := by
    refine Option.eq_none_iff_forall_ne_some.mpr fun run listed => ?_
    exact unlisted (Scenario.mem_runs_iff_exists_run?.mpr ⟨run, listed⟩)
  simp [subjectOf, absent, missing]

theorem requested_key (valid : scenario.WellFormed) :
    (requested scenario request run).key = key scenario request := by
  unfold requested
  cases recorded : scenario.recorded.instance? (key scenario request) with
  | none => rfl
  | some subject => exact ((Scenario.instance?_recorded_eq_some_iff valid).mp recorded).2

/-- Whether listed or fresh, the requested instance has the date of its run. -/
theorem requested_date (valid : scenario.WellFormed)
    (found : scenario.run? request.run = some run) :
    (requested scenario request run).date = run.date := by
  unfold requested
  cases recorded : scenario.recorded.instance? (key scenario request) with
  | none => rfl
  | some subject =>
    obtain ⟨member, named⟩ := (Scenario.instance?_recorded_eq_some_iff valid).mp recorded
    obtain ⟨entry, -, listed, runListed, same, rfl⟩ :=
      (Scenario.mem_recordedInstances valid).mp member
    have runNamed : entry.run = request.run := congrArg InstanceKey.run named
    have again := (Scenario.run?_eq_some_iff valid).mpr ⟨runListed, same.trans runNamed⟩
    rw [found] at again
    cases again
    rfl

theorem result_ofScenario (valid : scenario.WellFormed)
    (listed : scenario.tasks.get? request.task = some spec)
    (found : scenario.run? request.run = some run) :
    (ofScenario scenario request waivers).result = .ok (taken scenario request waivers run) := by
  simp [ofScenario, Workflow.task_ofScenario listed, History.ofScenario_eq valid,
    result_subjectOf found, taken]

theorem result_ofScenario_unlisted_task (unlisted : request.task ∉ scenario.tasks.names) :
    (ofScenario scenario request waivers).result =
      .error (.unknownTask scenario.workflow.name request.task) := by
  simp [ofScenario, Workflow.task_ofScenario_unlisted unlisted]

theorem result_ofScenario_unlisted_run (valid : scenario.WellFormed)
    (listed : request.task ∈ scenario.tasks.names)
    (unlisted : request.run ∉ scenario.runs.map (·.run)) :
    (ofScenario scenario request waivers).result =
      .error (.unknownRun scenario.workflow.name request.run) := by
  obtain ⟨spec, found⟩ := Table.mem_names_iff_exists_get?.mp listed
  simp [ofScenario, Workflow.task_ofScenario found, History.ofScenario_eq valid,
    result_subjectOf_unlisted valid unlisted]

/-- A snapshot is the one of a listed task in a listed run. -/
theorem eq_taken_of_result (valid : scenario.WellFormed)
    (loaded : (ofScenario scenario request waivers).result = .ok snapshot) :
    ∃ spec run, scenario.tasks.get? request.task = some spec ∧
      scenario.run? request.run = some run ∧ snapshot = taken scenario request waivers run := by
  by_cases listed : request.task ∈ scenario.tasks.names
  · by_cases runListed : request.run ∈ scenario.runs.map (·.run)
    · obtain ⟨spec, found⟩ := Table.mem_names_iff_exists_get?.mp listed
      obtain ⟨run, runFound⟩ := Scenario.mem_runs_iff_exists_run?.mp runListed
      rw [result_ofScenario valid found runFound] at loaded
      exact ⟨spec, run, found, runFound, (Except.ok.inj loaded).symm⟩
    · rw [result_ofScenario_unlisted_run valid listed runListed] at loaded
      cases loaded
  · rw [result_ofScenario_unlisted_task listed] at loaded
    cases loaded

theorem target_taken (valid : scenario.WellFormed)
    (listed : scenario.tasks.get? request.task = some spec) :
    (taken scenario request waivers run).workflow.target
        (taken scenario request waivers run).subject =
      .ok ⟨requested scenario request run, scenario.task request.task spec⟩ := by
  have named : (requested scenario request run).key = key scenario request := requested_key valid
  have workflow : (requested scenario request run).key.workflow =
      (Workflow.ofScenario scenario).name := by rw [named, key, Workflow.ofScenario]
  have task : (requested scenario request run).key.task = request.task := by rw [named, key]
  show (Workflow.ofScenario scenario).target (requested scenario request run) = _
  rw [Workflow.target, if_pos workflow, task, Workflow.task_ofScenario listed]
  rfl

/-- No evaluation on the snapshot meets a fault: the history knows the run of the instance. -/
theorem exists_outcome_taken (valid : scenario.WellFormed)
    (found : scenario.run? request.run = some run) (task : Task) (checks : List Check)
    (mode : Mode) (granted : Waivers) :
    ∃ decision, outcome scenario.recorded ⟨requested scenario request run, task⟩ granted checks
      mode = .ok decision := by
  refine exists_outcome (fun check _ => Check.exists_reading_status check ?_) mode
  rw [requested_key valid, key, Scenario.isSome_run?_recorded_iff valid]
  exact Scenario.mem_runs_iff_exists_run?.mpr ⟨run, found⟩

end Snapshot

namespace Scenario

/-- The history holds the listed runs, numbered in the order of the listing, and the listed
instances under their keys, and nothing else. -/
structure RecordedIn (scenario : Scenario) (history : History) : Prop where
  runs : history.runs = scenario.runs.mapIdx fun place entry =>
    ⟨place + 1, scenario.workflow.name, entry.run, entry.date, entry.state⟩
  listed : ∀ entry ∈ scenario.instances, ∃ run ∈ scenario.runs, run.run = entry.run ∧
    history.instance? ⟨scenario.workflow.name, entry.task, entry.run, entry.mapIndex⟩ =
      some ⟨⟨scenario.workflow.name, entry.task, entry.run, entry.mapIndex⟩, run.date, entry.state⟩
  nothingElse : ∀ key subject, history.instance? key = some subject →
    ∃ entry ∈ scenario.instances,
      key = ⟨scenario.workflow.name, entry.task, entry.run, entry.mapIndex⟩

theorem recordedIn_recorded (valid : scenario.WellFormed) :
    scenario.RecordedIn scenario.recorded where
  runs := rfl
  listed entry member := by
    obtain ⟨run, runListed, named, recorded⟩ := exists_recordedInstance valid member
    exact ⟨run, runListed, named, (instance?_recorded_eq_some_iff valid).mpr ⟨recorded, rfl⟩⟩
  nothingElse key subject found := by
    obtain ⟨recorded, named⟩ := (instance?_recorded_eq_some_iff valid).mp found
    obtain ⟨entry, member, _, _, _, rfl⟩ := (mem_recordedInstances valid).mp recorded
    exact ⟨entry, member, named.symm⟩

/-- Two tasks and two runs; nothing is recorded of the second run yet. -/
def daily : Scenario :=
  (named "etl").withTask "extract" {}
    |>.withTask "load" { after := ["extract"], dependsOnPast := true }
    |>.withRun "monday" (.midnight 0) .success
    |>.withRun "tuesday" (.midnight 1) .running
    |>.withInstance "extract" "monday" .success
    |>.withInstance "load" "monday" .failed

theorem after_daily_iff {task dependency : String} :
    daily.After task dependency ↔ task = "load" ∧ dependency = "extract" := by
  have entries : daily.tasks.entries =
      [("extract", {}), ("load", { after := ["extract"], dependsOnPast := true })] := rfl
  simp only [After, entries, List.mem_cons, Prod.mk.injEq, List.not_mem_nil, or_false]
  constructor
  · intro listed
    obtain ⟨spec, ⟨rfl, rfl⟩ | ⟨rfl, rfl⟩, named⟩ := listed
    · cases named
    · exact ⟨rfl, List.mem_singleton.mp named⟩
  · intro both
    obtain ⟨rfl, rfl⟩ := both
    exact ⟨_, .inr ⟨rfl, rfl⟩, List.mem_singleton_self _⟩

theorem wellFormed_daily : daily.WellFormed where
  hasTask := by decide
  hasName := ⟨'e', by decide, by decide⟩
  listedDependencies task dependency listed := by
    obtain ⟨rfl, rfl⟩ := after_daily_iff.mp listed
    decide
  noCircle task follows := by
    have apart : ∀ first second, daily.Follows first second →
        first = "load" ∧ second = "extract" := by
      intro first second follows
      induction follows with
      | step listed => exact after_daily_iff.mp listed
      | further listed _ ih => exact ⟨(after_daily_iff.mp listed).1, ih.2⟩
    obtain ⟨first, second⟩ := apart task task follows
    exact absurd (first.symm.trans second) (by decide)
  runNames := by decide
  runDates := by decide
  listedInstances := by decide
  instanceKeys := by decide

/-- A scenario that was checked makes nothing fail. Its history records what it lists; a snapshot is
there exactly for a listed task in a listed run, the task being looked for first; and on a snapshot
every list of checks comes to a decision, in every mode and under all waivers. -/
theorem faultless_of_validated {raw : Scenario} (accepted : raw.validated = .ok scenario) :
    (∃ history, History.ofScenario scenario = .ok history ∧ scenario.RecordedIn history) ∧
    ∀ request waivers,
      ((∃ snapshot, (Snapshot.ofScenario scenario request waivers).result = .ok snapshot) ↔
        request.task ∈ scenario.tasks.names ∧ request.run ∈ scenario.runs.map (·.run)) ∧
      (request.task ∉ scenario.tasks.names →
        (Snapshot.ofScenario scenario request waivers).result =
          .error (.unknownTask scenario.workflow.name request.task)) ∧
      (request.task ∈ scenario.tasks.names → request.run ∉ scenario.runs.map (·.run) →
        (Snapshot.ofScenario scenario request waivers).result =
          .error (.unknownRun scenario.workflow.name request.run)) ∧
      ∀ snapshot, (Snapshot.ofScenario scenario request waivers).result = .ok snapshot →
        ∃ target, snapshot.workflow.target snapshot.subject = .ok target ∧
          ∀ checks mode granted, ∃ decision,
            outcome snapshot.history target granted checks mode = .ok decision := by
  have valid := (wellFormed_of_validated accepted).2
  refine ⟨⟨_, History.ofScenario_eq valid, recordedIn_recorded valid⟩, fun request waivers =>
    ⟨⟨?_, ?_⟩, Snapshot.result_ofScenario_unlisted_task,
      Snapshot.result_ofScenario_unlisted_run valid, ?_⟩⟩
  · intro loads
    obtain ⟨snapshot, loaded⟩ := loads
    obtain ⟨spec, run, listed, found, -⟩ := Snapshot.eq_taken_of_result valid loaded
    exact ⟨Table.mem_names_iff_exists_get?.mpr ⟨spec, listed⟩,
      mem_runs_iff_exists_run?.mpr ⟨run, found⟩⟩
  · intro requested
    obtain ⟨listed, runListed⟩ := requested
    obtain ⟨spec, found⟩ := Table.mem_names_iff_exists_get?.mp listed
    obtain ⟨run, runFound⟩ := mem_runs_iff_exists_run?.mp runListed
    exact ⟨_, Snapshot.result_ofScenario valid found runFound⟩
  · intro snapshot loaded
    obtain ⟨spec, run, listed, found, rfl⟩ := Snapshot.eq_taken_of_result valid loaded
    exact ⟨_, Snapshot.target_taken valid listed, fun checks mode granted =>
      Snapshot.exists_outcome_taken valid found _ checks mode granted⟩

theorem faultless_daily :
    daily.validated = .ok daily ∧
    (∃ history, History.ofScenario daily = .ok history ∧ daily.RecordedIn history) ∧
    (∃ snapshot target decision,
      (Snapshot.ofScenario daily ⟨"load", "tuesday", unmapped⟩ {}).result = .ok snapshot ∧
      snapshot.workflow.target snapshot.subject = .ok target ∧
      outcome snapshot.history target {} Preset.runnable.checks .explain = .ok decision) ∧
    (Snapshot.ofScenario daily ⟨"clean", "sunday", unmapped⟩ {}).result =
      .error (.unknownTask "etl" "clean") ∧
    (Snapshot.ofScenario daily ⟨"load", "sunday", unmapped⟩ {}).result =
      .error (.unknownRun "etl" "sunday") := by
  have accepted : daily.validated = .ok daily := validated_of_wellFormed wellFormed_daily
  obtain ⟨recorded, requests⟩ := faultless_of_validated accepted
  obtain ⟨⟨-, loads⟩, -, -, decides⟩ := requests ⟨"load", "tuesday", unmapped⟩ {}
  obtain ⟨snapshot, loaded⟩ := loads ⟨by decide, by decide⟩
  obtain ⟨target, found, decided⟩ := decides snapshot loaded
  obtain ⟨decision, same⟩ := decided Preset.runnable.checks .explain {}
  exact ⟨accepted, recorded, ⟨snapshot, target, decision, loaded, found, same⟩,
    (requests ⟨"clean", "sunday", unmapped⟩ {}).2.1 (by decide),
    (requests ⟨"load", "sunday", unmapped⟩ {}).2.2.1 (by decide) (by decide)⟩

end Scenario

end RunGate
