import RunGate.Admission.Snapshot
import RunGate.Proofs.History.Listing
import RunGate.Proofs.History.Previous

/-! Scenarios of one workflow that agree on what counts for a requested instance. Otherwise they may
list other runs and other instances, and list them in another order. -/

namespace RunGate.Scenario

variable {scenario first second : Scenario} {request : Request} {task name : String}
  {run previous : RunEntry} {entry : InstanceEntry} {date : Instant}

/-- The scenarios differ at most in the runs and the instances that they list. -/
structure SameSections (first second : Scenario) : Prop where
  settings : first.settings = second.settings
  waivers : first.waivers = second.waivers
  workflow : first.workflow = second.workflow
  tasks : first.tasks = second.tasks

def listed? (scenario : Scenario) (request : Request) : Option InstanceEntry :=
  scenario.instances.find? fun entry =>
    identity entry == (request.task, request.run, request.mapIndex)

/-- The listed state of the requested instance; without an entry, none is decided. -/
def stateOf (scenario : Scenario) (request : Request) : TaskState :=
  (scenario.listed? request).elim .undecided (·.state)

/-- The run is the previous one of another, and has this name and this date. -/
def PreviousNamed (scenario : Scenario) (run : RunEntry) (name : String) (date : Instant) : Prop :=
  ∃ previous, scenario.PreviousRun run previous ∧ previous.run = name ∧ previous.date = date

/-- The task has an instance in a run that has an earlier date. -/
def ListedBefore (scenario : Scenario) (task : String) (date : Instant) : Prop :=
  ∃ earlier ∈ scenario.runs, earlier.date < date ∧
    ∃ entry, scenario.ListedIn task earlier.run entry

/-- Of the task and of those right after it, the same instances are listed in a run. -/
def SameIn (first second : Scenario) (task run : String) : Prop :=
  ∀ other, other = task ∨ first.After other task →
    ∀ entry, first.ListedIn other run entry ↔ second.ListedIn other run entry

/-- The scenarios agree on what counts for a requested instance: its run as the first one lists it,
its state, the previous run, what the task and those right after it did there, and whether the task
has an instance in any earlier run. -/
structure AgreesOn (first second : Scenario) (request : Request) (run : RunEntry) : Prop where
  listed : second.run? request.run = some run
  state : first.stateOf request = second.stateOf request
  previous : ∀ name date, first.PreviousNamed run name date ↔ second.PreviousNamed run name date
  past : ∀ previous, first.PreviousRun run previous →
    first.SameIn second request.task previous.run
  before : first.ListedBefore request.task run.date ↔ second.ListedBefore request.task run.date

/-- The scenarios differ in nothing that concerns the instances of a task in a run. With catch-up
they may differ in all that comes later and in the order of the runs; with it or without, in the
order of the instances and in those of tasks that are neither the task nor right after it. -/
structure DiffersElsewhere (first second : Scenario) (task : String) (run : RunEntry) : Prop where
  runs : first.runs = second.runs ∨ first.workflow.catchup = true ∧
    ∀ other, ¬ run.date < other.date → (other ∈ first.runs ↔ other ∈ second.runs)
  instances : ∀ other ∈ first.runs, (first.workflow.catchup = true → ¬ run.date < other.date) →
    first.SameIn second task other.run

private theorem SameSections.after_iff (same : first.SameSections second) {dependency : String} :
    first.After task dependency ↔ second.After task dependency := by
  rw [After, After, same.tasks]

theorem SameSections.task_eq (same : first.SameSections second) : first.task = second.task := by
  funext name spec
  rw [Scenario.task, Scenario.task, graph, graph, same.workflow, same.tasks]

theorem SameSections.follows (same : first.SameSections second) {dependency : String}
    (follows : second.Follows task dependency) : first.Follows task dependency := by
  induction follows with
  | step listed => exact .step (same.after_iff.mpr listed)
  | further listed _ ih => exact .further (same.after_iff.mpr listed) ih

theorem listed?_eq_some_iff (valid : scenario.WellFormed) :
    scenario.listed? request = some entry ↔ entry ∈ scenario.instances ∧
      identity entry = (request.task, request.run, request.mapIndex) := by
  have distinct := List.inj_on_of_nodup_map valid.instanceKeys
  rw [listed?, find?_eq_some_iff_of_unique, beq_iff_eq]
  intro one listed other listedToo named namedToo
  exact distinct listed listedToo ((beq_iff_eq.mp named).trans (beq_iff_eq.mp namedToo).symm)

/-- The previous run is a listed one, and with catch-up it is not later. -/
theorem PreviousRun.listed (isPrevious : scenario.PreviousRun run previous) :
    previous ∈ scenario.runs ∧
      (scenario.workflow.catchup = true → ¬ run.date < previous.date) := by
  unfold PreviousRun at isPrevious
  split at isPrevious
  · obtain ⟨listed, earlier, -⟩ := isPrevious
    exact ⟨listed, fun _ => Instant.lt_asymm earlier⟩
  · rename_i listing
    obtain ⟨place, held, -⟩ := isPrevious
    exact ⟨List.mem_of_getElem? held, fun catchup => absurd catchup listing⟩

namespace DiffersElsewhere

private theorem mem_runs_iff (elsewhere : first.DiffersElsewhere second task run) {other : RunEntry}
    (notLater : ¬ run.date < other.date) : other ∈ first.runs ↔ other ∈ second.runs := by
  rcases elsewhere.runs with same | ⟨-, same⟩
  · rw [same]
  · exact same other notLater

private theorem previousRun_iff (elsewhere : first.DiffersElsewhere second task run)
    (same : first.SameSections second) :
    first.PreviousRun run previous ↔ second.PreviousRun run previous := by
  have earlier {other : RunEntry} (sooner : other.date < run.date) :
      other ∈ first.runs ↔ other ∈ second.runs :=
    elsewhere.mem_runs_iff (Instant.lt_asymm sooner)
  unfold PreviousRun
  rw [← same.workflow]
  split
  · constructor
    · intro isPrevious
      obtain ⟨listed, sooner, latest⟩ := isPrevious
      exact ⟨(earlier sooner).mp listed, sooner, fun other otherListed otherSooner =>
        latest other ((earlier otherSooner).mpr otherListed) otherSooner⟩
    · intro isPrevious
      obtain ⟨listed, sooner, latest⟩ := isPrevious
      exact ⟨(earlier sooner).mpr listed, sooner, fun other otherListed otherSooner =>
        latest other ((earlier otherSooner).mp otherListed) otherSooner⟩
  · rename_i listing
    rcases elsewhere.runs with sameRuns | ⟨catchup, -⟩
    · rw [sameRuns]
    · exact absurd catchup listing

private theorem listedBefore_iff (elsewhere : first.DiffersElsewhere second task run) :
    first.ListedBefore task run.date ↔ second.ListedBefore task run.date := by
  refine exists_congr fun earlier => ?_
  by_cases sooner : earlier.date < run.date
  · have notLater := Instant.lt_asymm sooner
    have listed := elsewhere.mem_runs_iff notLater
    by_cases member : earlier ∈ first.runs
    · have same := elsewhere.instances earlier member (fun _ => notLater) task (.inl rfl)
      simp only [member, listed.mp member, same]
    · simp only [member, mt listed.mpr member, false_and]
  · simp only [sooner, false_and, and_false]

private theorem stateOf_eq (elsewhere : first.DiffersElsewhere second request.task run)
    (valid : first.WellFormed) (validToo : second.WellFormed)
    (listed : first.run? request.run = some run) :
    first.stateOf request = second.stateOf request := by
  obtain ⟨member, named⟩ := (run?_eq_some_iff valid).mp listed
  have same := elsewhere.instances run member (fun _ => Instant.lt_irrefl _) request.task (.inl rfl)
  have entries : first.listed? request = second.listed? request := by
    refine Option.ext fun entry => ?_
    rw [listed?_eq_some_iff valid, listed?_eq_some_iff validToo]
    refine and_congr_left fun requested => ?_
    simp only [identity, Prod.mk.injEq] at requested
    obtain ⟨ofTask, inRun, -⟩ := requested
    simpa [ListedIn, ofTask, inRun, named] using same entry
  rw [stateOf, stateOf, entries]

/-- Where nothing differs that concerns the instance, the scenarios agree on it. -/
theorem agreesOn (elsewhere : first.DiffersElsewhere second request.task run)
    (same : first.SameSections second) (valid : first.WellFormed) (validToo : second.WellFormed)
    (listed : first.run? request.run = some run) : first.AgreesOn second request run where
  listed := by
    obtain ⟨member, named⟩ := (run?_eq_some_iff valid).mp listed
    exact (run?_eq_some_iff validToo).mpr
      ⟨(elsewhere.mem_runs_iff (Instant.lt_irrefl _)).mp member, named⟩
  state := elsewhere.stateOf_eq valid validToo listed
  previous name date := exists_congr fun previous =>
    and_congr_left fun _ => elsewhere.previousRun_iff same
  past previous isPrevious := by
    obtain ⟨member, notLater⟩ := isPrevious.listed
    exact elsewhere.instances previous member notLater
  before := elsewhere.listedBefore_iff

end DiffersElsewhere

end RunGate.Scenario
