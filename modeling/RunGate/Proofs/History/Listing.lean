import RunGate.Proofs.History.Recorded
import RunGate.Proofs.Scenario.Dependencies

namespace RunGate

theorem TaskState.done_iff {state : TaskState} :
    state.done = true ↔ state = .success ∨ state = .skipped := by
  cases state <;> simp [TaskState.done]

namespace Scenario

variable {scenario : Scenario} {task run : String} {subject : TaskInstance} {date : Instant}
  {downstream : List String}

/-- The entry is of an instance of the task in the run. -/
def ListedIn (scenario : Scenario) (task run : String) (entry : InstanceEntry) : Prop :=
  entry ∈ scenario.instances ∧ entry.task = task ∧ entry.run = run

/-- The task has instances in the run, and every one of them succeeded or was skipped. -/
def AllDone (scenario : Scenario) (task run : String) : Prop :=
  (∃ entry, scenario.ListedIn task run entry) ∧
    ∀ entry, scenario.ListedIn task run entry → entry.state = .success ∨ entry.state = .skipped

theorem allInstances_recorded : scenario.recorded.allInstances = scenario.recordedInstances := by
  simp [History.allInstances, recorded, Function.comp_def]

theorem mem_instancesOf_recorded (valid : scenario.WellFormed) :
    subject ∈ scenario.recorded.instancesOf scenario.workflow.name run task ↔
      ∃ entry, scenario.ListedIn task run entry ∧ ∃ held ∈ scenario.runs, held.run = run ∧
        subject = ⟨scenario.keyOf entry, held.date, entry.state⟩ := by
  simp only [History.instancesOf, allInstances_recorded, List.mem_filter, Bool.and_eq_true,
    beq_iff_eq, mem_recordedInstances valid]
  constructor
  · intro recorded
    obtain ⟨⟨entry, listed, held, runListed, named, rfl⟩, ⟨-, sameRun⟩, sameTask⟩ := recorded
    exact ⟨entry, ⟨listed, sameTask, sameRun⟩, held, runListed, named.trans sameRun, rfl⟩
  · intro recorded
    obtain ⟨entry, ⟨listed, rfl, rfl⟩, held, runListed, named, rfl⟩ := recorded
    exact ⟨⟨entry, listed, held, runListed, named, rfl⟩, ⟨rfl, rfl⟩, rfl⟩

private theorem forall_instancesOf_recorded (valid : scenario.WellFormed)
    (holds : TaskState → Prop) :
    (∀ subject ∈ scenario.recorded.instancesOf scenario.workflow.name run task,
        holds subject.state) ↔ ∀ entry, scenario.ListedIn task run entry → holds entry.state := by
  constructor
  · intro all entry listed
    obtain ⟨held, runListed, named, -⟩ := exists_recordedInstance valid listed.1
    exact all _ ((mem_instancesOf_recorded valid).mpr
      ⟨entry, listed, held, runListed, named.trans listed.2.2, rfl⟩)
  · intro all subject member
    obtain ⟨entry, listed, _, _, _, rfl⟩ := (mem_instancesOf_recorded valid).mp member
    exact all entry listed

theorem instancesOf_recorded_eq_nil_iff (valid : scenario.WellFormed) :
    scenario.recorded.instancesOf scenario.workflow.name run task = [] ↔
      ∀ entry, ¬ scenario.ListedIn task run entry := by
  rw [List.eq_nil_iff_forall_not_mem]
  exact forall_instancesOf_recorded valid fun _ => False

theorem allDone_iff (valid : scenario.WellFormed) :
    scenario.AllDone task run ↔
      scenario.recorded.instancesOf scenario.workflow.name run task ≠ [] ∧
        ∀ subject ∈ scenario.recorded.instancesOf scenario.workflow.name run task,
          subject.state.done = true := by
  rw [ne_eq, instancesOf_recorded_eq_nil_iff valid, Classical.not_forall_not,
    forall_instancesOf_recorded valid (·.done = true), AllDone]
  simp only [TaskState.done_iff]

theorem downstreamDone_recorded_iff (valid : scenario.WellFormed)
    (workflow : subject.key.workflow = scenario.workflow.name) :
    scenario.recorded.downstreamDone subject downstream = true ↔
      ∀ later ∈ downstream, scenario.AllDone later subject.key.run := by
  simp only [History.downstreamDone, workflow, List.all_eq_true, Bool.and_eq_true,
    Bool.not_eq_true', allDone_iff valid, ← Bool.not_eq_true, List.isEmpty_iff, ne_eq]

/-- Where a task has instances in a run, what comes after them is what comes after the task. -/
theorem downstreamDone_instancesOf_iff (valid : scenario.WellFormed)
    (listed : task ∈ scenario.tasks.names)
    (present : scenario.recorded.instancesOf scenario.workflow.name run task ≠ []) :
    (∀ subject ∈ scenario.recorded.instancesOf scenario.workflow.name run task,
        scenario.recorded.downstreamDone subject (scenario.graph.downstreamOf task) = true) ↔
      ∀ later, scenario.After later task → scenario.AllDone later run := by
  have within (subject : TaskInstance)
      (member : subject ∈ scenario.recorded.instancesOf scenario.workflow.name run task) :
      scenario.recorded.downstreamDone subject (scenario.graph.downstreamOf task) = true ↔
        ∀ later, scenario.After later task → scenario.AllDone later run := by
    obtain ⟨entry, ⟨-, -, sameRun⟩, _, _, _, rfl⟩ := (mem_instancesOf_recorded valid).mp member
    have keyRun : (scenario.keyOf entry).run = run := sameRun
    rw [downstreamDone_recorded_iff valid rfl, keyRun]
    simp only [mem_downstreamOf listed]
  obtain ⟨subject, member⟩ := List.exists_mem_of_ne_nil _ present
  exact ⟨fun all => (within subject member).mp (all subject member),
    fun all subject member => (within subject member).mpr all⟩

theorem countPrior_recorded_eq_zero_iff (valid : scenario.WellFormed) :
    scenario.recorded.countPrior scenario.workflow.name task date = 0 ↔
      ∀ run ∈ scenario.runs, run.date < date →
        ∀ entry, ¬ scenario.ListedIn task run.run entry := by
  simp only [History.countPrior, allInstances_recorded, List.countP_eq_zero, Bool.and_eq_true,
    beq_iff_eq, decide_eq_true_eq, mem_recordedInstances valid]
  constructor
  · intro unlisted run runListed earlier entry listedIn
    obtain ⟨listed, named, sameRun⟩ := listedIn
    exact unlisted _ ⟨entry, listed, run, runListed, sameRun.symm, rfl⟩ ⟨⟨rfl, named⟩, earlier⟩
  · intro unlisted subject recorded counted
    obtain ⟨entry, listed, run, runListed, sameRun, rfl⟩ := recorded
    obtain ⟨⟨-, named⟩, earlier⟩ := counted
    exact unlisted run runListed earlier entry ⟨listed, named, sameRun.symm⟩

end Scenario

end RunGate
