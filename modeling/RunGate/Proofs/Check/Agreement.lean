import RunGate.Proofs.Check.PreviousRun
import RunGate.Proofs.Check.Protocol
import RunGate.Proofs.Scenario.Agreement

/-! What checks find in the histories of two scenarios that agree on what counts for the instance.
The histories may number the runs in other ways and give instances in another order; nothing that is
found shows it. -/

namespace RunGate

theorem History.key_of_mem_instancesOf {history : History} {workflow run task : String}
    {subject : TaskInstance} (member : subject ∈ history.instancesOf workflow run task) :
    subject.key = ⟨workflow, task, run, subject.key.mapIndex⟩ := by
  obtain ⟨⟨workflow', task', run', index⟩, date, state⟩ := subject
  simp only [instancesOf, List.mem_filter, Bool.and_eq_true, beq_iff_eq] at member
  obtain ⟨-, ⟨rfl, rfl⟩, rfl⟩ := member
  rfl

namespace Scenario

variable {scenario first second : Scenario} {task name : String} {run previous other : RunEntry}
  {subject : TaskInstance}

private theorem mem_instancesOf_iff_of_mem_runs (valid : scenario.WellFormed)
    (listed : run ∈ scenario.runs) :
    subject ∈ scenario.recorded.instancesOf scenario.workflow.name run.run task ↔
      ∃ entry, scenario.ListedIn task run.run entry ∧
        subject = ⟨scenario.keyOf entry, run.date, entry.state⟩ := by
  rw [mem_instancesOf_recorded valid]
  refine exists_congr fun entry => and_congr_right fun _ => ?_
  constructor
  · intro recorded
    obtain ⟨held, heldListed, named, same⟩ := recorded
    rw [same, List.inj_on_of_nodup_map valid.runNames heldListed listed named]
  · intro same
    exact ⟨run, listed, rfl, same⟩

private theorem nodup_mapIndexes_instancesOf (valid : scenario.WellFormed) :
    ((scenario.recorded.instancesOf scenario.workflow.name name task).map
      (·.key.mapIndex)).Nodup := by
  have distinct := nodup_keys_recordedInstances valid
  have apart := List.inj_on_of_nodup_map distinct
  have recorded : scenario.recorded.instancesOf scenario.workflow.name name task ⊆
      scenario.recordedInstances := by
    rw [History.instancesOf, allInstances_recorded]
    exact List.filter_subset_self _
  have inRun : (scenario.recorded.instancesOf scenario.workflow.name name task).Nodup := by
    rw [History.instancesOf, allInstances_recorded]
    exact distinct.of_map.filter _
  apply inRun.map_on
  intro one member other memberToo sameIndex
  apply apart (recorded member) (recorded memberToo)
  rw [History.key_of_mem_instancesOf member, sameIndex]
  exact (History.key_of_mem_instancesOf memberToo).symm

private theorem mem_instancesOf_congr (same : first.SameSections second) (valid : first.WellFormed)
    (validToo : second.WellFormed) (listed : previous ∈ first.runs)
    (listedToo : other ∈ second.runs) (named : other.run = previous.run)
    (dated : other.date = previous.date)
    (alike : ∀ entry, first.ListedIn task previous.run entry ↔
      second.ListedIn task previous.run entry) :
    subject ∈ first.recorded.instancesOf first.workflow.name previous.run task ↔
      subject ∈ second.recorded.instancesOf second.workflow.name other.run task := by
  rw [mem_instancesOf_iff_of_mem_runs valid listed,
    mem_instancesOf_iff_of_mem_runs validToo listedToo, named, dated]
  refine exists_congr fun entry => ?_
  rw [alike entry, keyOf, keyOf, same.workflow]

/-- Scenarios that list the same of a task and of those right after it, in the run of an instance,
agree whether what comes after the instance is done. -/
private theorem downstreamDone_congr (same : first.SameSections second) (valid : first.WellFormed)
    (validToo : second.WellFormed) (taskListed : task ∈ first.tasks.names)
    (workflow : subject.key.workflow = first.workflow.name)
    (alike : first.SameIn second task subject.key.run) :
    first.recorded.downstreamDone subject (first.graph.downstreamOf task) =
      second.recorded.downstreamDone subject (first.graph.downstreamOf task) := by
  have workflowToo : subject.key.workflow = second.workflow.name := by
    rw [workflow, same.workflow]
  rw [Bool.eq_iff_iff, downstreamDone_recorded_iff valid workflow,
    downstreamDone_recorded_iff validToo workflowToo]
  refine forall₂_congr fun later after => ?_
  have listedAfter := (mem_downstreamOf taskListed).mp after
  simp only [AllDone, alike later (.inr listedAfter)]

end Scenario

private theorem Target.IsOf.of_sameSections {first second : Scenario} {target : Target}
    {task : String} {spec : TaskSpec} {run : RunEntry} (about : target.IsOf first task spec run)
    (same : first.SameSections second) : target.IsOf second task spec run where
  definition := by rw [about.definition, same.task_eq]
  workflow := by rw [about.workflow, same.workflow]
  named := about.named
  within := about.within
  dated := about.dated

namespace Past

variable {firsts seconds : List TaskInstance}

/-- In the order of their map indexes, instances show nothing of the order in which they came. -/
theorem byMapIndex_eq (distinct : (firsts.map (·.key.mapIndex)).Nodup)
    (distinctToo : (seconds.map (·.key.mapIndex)).Nodup)
    (same : ∀ subject, subject ∈ firsts ↔ subject ∈ seconds) :
    byMapIndex firsts = byMapIndex seconds := by
  have one := ordered_byMapIndex firsts
  have other := ordered_byMapIndex seconds
  have given : firsts.Perm seconds :=
    (List.perm_ext_iff_of_nodup distinct.of_map distinctToo.of_map).mpr same
  refine List.Perm.eq_of_pairwise ?_ one.ascending other.ascending
    (one.same.trans (given.trans other.same.symm))
  intro subject later member memberToo upTo down
  have held := one.same.mem_iff.mp member
  have heldToo := (same later).mpr (other.same.mem_iff.mp memberToo)
  exact List.inj_on_of_nodup_map distinct held heldToo (Int.le_antisymm upTo down)

private theorem obstacle_congr {first second : History} {task : Task} {earlier : List TaskInstance}
    (same : ∀ subject ∈ earlier, first.downstreamDone subject task.downstream =
      second.downstreamDone subject task.downstream) :
    obstacle first task earlier = obstacle second task earlier := by
  have waiting : (earlier.filter fun subject => !first.downstreamDone subject task.downstream) =
      earlier.filter fun subject => !second.downstreamDone subject task.downstream := by
    apply List.filter_congr
    intro subject member
    rw [same subject member]
  rw [obstacle, obstacle, waiting]

variable {first second : Scenario} {target : Target} {request : Request} {spec : TaskSpec}
  {run previous other : RunEntry} {number otherNumber : Nat} {waivers : Waivers}

private theorem isFirst_eq_of_agreesOn (same : first.SameSections second) (valid : first.WellFormed)
    (validToo : second.WellFormed) (about : target.IsOf first request.task spec run)
    (agree : first.AgreesOn second request run) :
    isFirst first.recorded target = isFirst second.recorded target := by
  have unlisted (scenario : Scenario) : (∀ earlier ∈ scenario.runs, earlier.date < run.date →
      ∀ entry, ¬ scenario.ListedIn request.task earlier.run entry) ↔
        ¬ scenario.ListedBefore request.task run.date := by simp [Scenario.ListedBefore]
  rw [Bool.eq_iff_iff, isFirst_recorded_iff valid about,
    isFirst_recorded_iff validToo (about.of_sameSections same), unlisted first, unlisted second,
    agree.before]

private theorem findingAfter_eq_of_agreesOn (same : first.SameSections second)
    (valid : first.WellFormed)
    (validToo : second.WellFormed) (about : target.IsOf first request.task spec run)
    (agree : first.AgreesOn second request run)
    (taskListed : request.task ∈ first.tasks.names) (found : first.PreviousRun run previous)
    (foundToo : second.PreviousRun run other) (named : other.run = previous.run)
    (dated : other.date = previous.date) :
    findingAfter first.recorded target
        (Scenario.recordedRun first.workflow.name number previous) =
      findingAfter second.recorded target
        (Scenario.recordedRun second.workflow.name otherNumber other) := by
  have alike := agree.past previous found
  have earlier : byMapIndex (first.recorded.instancesOf first.workflow.name previous.run
        request.task) =
      byMapIndex (second.recorded.instancesOf second.workflow.name other.run request.task) := by
    apply byMapIndex_eq
    · exact Scenario.nodup_mapIndexes_instancesOf valid
    · exact Scenario.nodup_mapIndexes_instancesOf validToo
    · intro subject
      exact Scenario.mem_instancesOf_congr same valid validToo found.listed.1 foundToo.listed.1
        named dated (alike request.task (.inl rfl))
  have hindrance : obstacle first.recorded target.task (byMapIndex
        (second.recorded.instancesOf second.workflow.name other.run request.task)) =
      obstacle second.recorded target.task (byMapIndex
        (second.recorded.instancesOf second.workflow.name other.run request.task)) := by
    apply obstacle_congr
    intro subject member
    have key := History.key_of_mem_instancesOf (mem_byMapIndex.mp member)
    have workflow : subject.key.workflow = first.workflow.name := by rw [key, same.workflow]
    have within : subject.key.run = previous.run := by rw [key, named]
    rw [about.definition]
    exact Scenario.downstreamDone_congr same valid validToo taskListed workflow (within ▸ alike)
  have early : tooEarly (first.task request.task spec)
        (Scenario.recordedRun first.workflow.name number previous) =
      tooEarly (second.task request.task spec)
        (Scenario.recordedRun second.workflow.name otherNumber other) := by
    rw [same.task_eq, tooEarly, tooEarly, Scenario.recordedRun, Scenario.recordedRun, dated]
  rw [findingAfter_recordedRun about, findingAfter_recordedRun (about.of_sameSections same)]
  simp only [early, earlier, hindrance,
    isFirst_eq_of_agreesOn same valid validToo about agree]
  rw [named]

/-- The check on the previous run finds the same in two scenarios that agree on the instance. -/
theorem finding_eq_of_agreesOn (same : first.SameSections second) (valid : first.WellFormed)
    (validToo : second.WellFormed) (about : target.IsOf first request.task spec run)
    (agree : first.AgreesOn second request run)
    (taskListed : request.task ∈ first.tasks.names) (listed : run ∈ first.runs)
    (listedToo : run ∈ second.runs) :
    finding first.recorded target waivers = finding second.recorded target waivers := by
  by_cases waived : waivers.ignorePast = true
  · simp [finding, waived]
  by_cases dependent : target.task.dependsOnPast = true
  swap
  · simp [finding, waived, dependent]
  have counted := Bool.eq_false_iff.mpr waived
  obtain ⟨place, held⟩ := List.mem_iff_getElem?.mp listed
  obtain ⟨placeToo, heldToo⟩ := List.mem_iff_getElem?.mp listedToo
  rw [finding_recorded valid about held counted dependent,
    finding_recorded validToo (about.of_sameSections same) heldToo counted dependent]
  cases leads : first.recorded.previousRun
      (Scenario.recordedRun first.workflow.name (place + 1) run) first.workflow.catchup with
  | none =>
    cases leadsToo : second.recorded.previousRun
        (Scenario.recordedRun second.workflow.name (placeToo + 1) run)
        second.workflow.catchup with
    | none => rfl
    | some found =>
      obtain ⟨_, other, -, -, isPrevious⟩ := Scenario.previousRun_recorded heldToo leadsToo
      obtain ⟨previous, found, -⟩ := (agree.previous other.run other.date).mpr
        ⟨other, isPrevious, rfl, rfl⟩
      exact absurd found (Scenario.no_previousRun_recorded valid held leads)
  | some found =>
    obtain ⟨_, previous, -, rfl, isPrevious⟩ := Scenario.previousRun_recorded held leads
    obtain ⟨other, foundToo, named, dated⟩ := (agree.previous previous.run previous.date).mp
      ⟨previous, isPrevious, rfl, rfl⟩
    cases leadsToo : second.recorded.previousRun
        (Scenario.recordedRun second.workflow.name (placeToo + 1) run)
        second.workflow.catchup with
    | none => exact absurd foundToo (Scenario.no_previousRun_recorded validToo heldToo leadsToo)
    | some found =>
      obtain ⟨_, alike, -, rfl, isPreviousToo⟩ := Scenario.previousRun_recorded heldToo leadsToo
      cases isPreviousToo.unique validToo foundToo
      exact findingAfter_eq_of_agreesOn same valid validToo about agree taskListed
        isPrevious foundToo named dated

end Past

namespace Check

variable {first second : History} {target : Target} {waivers : Waivers}

/-- What a check yields depends on the history only in the state of the run and in what is found of
the previous run. -/
theorem yield_congr (check : Check)
    (run : (first.run? target.subject.key.workflow target.subject.key.run).map (·.state) =
      (second.run? target.subject.key.workflow target.subject.key.run).map (·.state))
    (past : Past.finding first target waivers = Past.finding second target waivers) :
    check.yield first target waivers = check.yield second target waivers := by
  simp only [yield, status_eq]
  split
  · rfl
  split
  · rfl
  cases check with
  | previousRun => exact Past.reading_check.trans (past ▸ Past.reading_check.symm)
  | instanceState allowed nonempty => rfl
  | notRunning => rfl
  | runActive =>
    show (runStatus target).reading first = (runStatus target).reading second
    rw [reading_runStatus, reading_runStatus, run]

end Check

variable {first second : Scenario} {request : Request} {target : Target} {spec : TaskSpec}
  {run : RunEntry} {waivers : Waivers}

private theorem Scenario.state_run?_recorded {scenario : Scenario} (valid : scenario.WellFormed)
    (listed : run ∈ scenario.runs) :
    (scenario.recorded.run? scenario.workflow.name run.run).map (·.state) = some run.state := by
  obtain ⟨place, held⟩ := List.mem_iff_getElem?.mp listed
  have found : scenario.recorded.run? scenario.workflow.name run.run =
      some (recordedRun scenario.workflow.name (place + 1) run) :=
    (run?_recorded_eq_some_iff valid).mpr ⟨mem_recordedRuns_of_getElem? held, rfl⟩
  rw [found]
  rfl

/-- Every check yields the same in two scenarios that agree on the instance. -/
theorem Check.yield_eq_of_agreesOn (check : Check) (same : first.SameSections second)
    (valid : first.WellFormed) (validToo : second.WellFormed)
    (about : target.IsOf first request.task spec run) (agree : first.AgreesOn second request run)
    (taskListed : request.task ∈ first.tasks.names) (found : first.run? request.run = some run) :
    check.yield first.recorded target waivers = check.yield second.recorded target waivers := by
  have aboutToo := about.of_sameSections same
  have listed := ((Scenario.run?_eq_some_iff valid).mp found).1
  have listedToo := ((Scenario.run?_eq_some_iff validToo).mp agree.listed).1
  apply check.yield_congr
  · rw [about.within, about.workflow, Scenario.state_run?_recorded valid listed, same.workflow,
      Scenario.state_run?_recorded validToo listedToo]
  · exact Past.finding_eq_of_agreesOn same valid validToo about agree taskListed listed listedToo

end RunGate
