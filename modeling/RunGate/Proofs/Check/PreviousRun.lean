import RunGate.Proofs.Admission.Snapshot
import RunGate.Proofs.History.Listing
import RunGate.Proofs.History.Previous

namespace RunGate

namespace Scenario

/-- What the task did in the previous run does not hold its instance back. -/
inductive ClearAfter (scenario : Scenario) (task : String) (spec : TaskSpec)
    (run previous : RunEntry) : Prop
  /-- With catch-up, the previous run is before the start of the task, or else of the workflow. -/
  | tooEarly {start : Instant} (catchup : scenario.workflow.catchup = true)
      (starts : (spec.startDate <|> scenario.workflow.startDate) = some start)
      (early : previous.date < start)
  /-- The task has no instance there, nor in any earlier run, and its first instance is exempt. -/
  | firstInstance (absent : ∀ entry, ¬ scenario.ListedIn task previous.run entry)
      (exempt : spec.ignoreFirst = true)
      (first : ∀ earlier ∈ scenario.runs, earlier.date < run.date →
        ∀ entry, ¬ scenario.ListedIn task earlier.run entry)
  /-- Its instances there are done, and so are the tasks right after it if it waits for them. -/
  | done (own : scenario.AllDone task previous.run)
      (downstream : spec.waitForDownstream = true →
        ∀ later, scenario.After later task → scenario.AllDone later previous.run)

/-- The past of a task does not hold back its instance in a run. -/
inductive GoesAhead (scenario : Scenario) (waivers : Waivers) (task : String) (spec : TaskSpec)
    (run : RunEntry) : Prop
  | waived (set : waivers.ignoreAllChecks = true ∨ waivers.ignoreTaskChecks = true ∨
      waivers.ignorePast = true)
  | independent (ignoresPast : spec.dependsOnPast = false)
      (waitsForNone : spec.waitForDownstream = false)
  | first (none : ∀ previous, ¬ scenario.PreviousRun run previous)
  | after {previous : RunEntry} (found : scenario.PreviousRun run previous)
      (clear : scenario.ClearAfter task spec run previous)

end Scenario

/-- The target is the instance of a task of the scenario in one of its runs. -/
structure Target.IsOf (target : Target) (scenario : Scenario) (task : String) (spec : TaskSpec)
    (run : RunEntry) : Prop where
  definition : target.task = scenario.task task spec
  workflow : target.subject.key.workflow = scenario.workflow.name
  named : target.subject.key.task = task
  within : target.subject.key.run = run.run
  dated : target.subject.date = run.date

namespace Past

variable {scenario : Scenario} {target : Target} {task : String} {spec : TaskSpec}
  {run previous : RunEntry} {number place : Nat} {history : History} {earlier : List TaskInstance}
  {waivers : Waivers}

/-- Nothing that was found fails. -/
def Clear (found : Option Status) : Prop :=
  ∀ status ∈ found.toList, status.passed = true

@[simp]
theorem clear_none : Clear none := nofun

@[simp]
theorem clear_some_iff {status : Status} : Clear (some status) ↔ status.passed = true := by
  simp [Clear]

theorem clear_obstacle_iff {definition : Task} :
    Clear ((obstacle history definition earlier).map status) ↔
      (∀ subject ∈ earlier, subject.state.done = true) ∧
        (definition.waitForDownstream = true →
          ∀ subject ∈ earlier, history.downstreamDone subject definition.downstream = true) := by
  have own : (earlier.filter fun subject => !subject.state.done).isEmpty = true ↔
      ∀ subject ∈ earlier, subject.state.done = true := by simp
  have others : (earlier.filter fun subject =>
      !history.downstreamDone subject definition.downstream).isEmpty = true ↔
        ∀ subject ∈ earlier, history.downstreamDone subject definition.downstream = true := by simp
  rw [← own, ← others, obstacle]
  cases (earlier.filter fun subject => !subject.state.done).isEmpty with
  | false => simp [Status.passed, status, Reason.passes]
  | true =>
    cases definition.waitForDownstream with
    | false => simp
    | true =>
      cases (earlier.filter fun subject =>
          !history.downstreamDone subject definition.downstream).isEmpty with
      | false => simp [Status.passed, status, Reason.passes]
      | true => simp

private theorem tooEarly_recordedRun_iff :
    tooEarly (scenario.task task spec)
        (Scenario.recordedRun scenario.workflow.name number previous) = true ↔
      scenario.workflow.catchup = true ∧ ∃ start,
        (spec.startDate <|> scenario.workflow.startDate) = some start ∧ previous.date < start := by
  simp only [tooEarly, Bool.and_eq_true, Option.any_eq_true, decide_eq_true_eq]
  rfl

theorem isFirst_recorded_iff (valid : scenario.WellFormed)
    (about : target.IsOf scenario task spec run) :
    isFirst scenario.recorded target = true ↔ spec.ignoreFirst = true ∧
      ∀ earlier ∈ scenario.runs, earlier.date < run.date →
        ∀ entry, ¬ scenario.ListedIn task earlier.run entry := by
  rw [isFirst, Bool.and_eq_true, beq_iff_eq, about.definition, about.workflow, about.named,
    about.dated, Scenario.countPrior_recorded_eq_zero_iff valid, Scenario.task]

theorem mem_byMapIndex {subject : TaskInstance} :
    subject ∈ byMapIndex earlier ↔ subject ∈ earlier := List.mem_mergeSort

theorem byMapIndex_eq_nil_iff : byMapIndex earlier = [] ↔ earlier = [] := by
  simp only [List.eq_nil_iff_forall_not_mem, mem_byMapIndex]

private theorem clear_obstacle_recorded_iff (valid : scenario.WellFormed)
    (about : target.IsOf scenario task spec run) (listed : task ∈ scenario.tasks.names)
    (present : scenario.recorded.instancesOf scenario.workflow.name previous.run task ≠ []) :
    Clear ((obstacle scenario.recorded target.task (byMapIndex
        (scenario.recorded.instancesOf scenario.workflow.name previous.run task))).map status) ↔
      scenario.AllDone task previous.run ∧ (spec.waitForDownstream = true →
        ∀ later, scenario.After later task → scenario.AllDone later previous.run) := by
  rw [clear_obstacle_iff, about.definition, Scenario.allDone_iff valid]
  simp only [mem_byMapIndex, Scenario.task, Scenario.downstreamDone_instancesOf_iff valid listed
    present, present, ne_eq, not_false_eq_true, true_and]

theorem findingAfter_recordedRun (about : target.IsOf scenario task spec run) :
    findingAfter scenario.recorded target
        (Scenario.recordedRun scenario.workflow.name number previous) =
      let earlier := byMapIndex
        (scenario.recorded.instancesOf scenario.workflow.name previous.run task)
      if tooEarly (scenario.task task spec)
        (Scenario.recordedRun scenario.workflow.name number previous) then some (status .noPast)
      else if earlier = [] then
        if isFirst scenario.recorded target then some (status .firstExempt)
        else some (status (.notYetRun task previous.run))
      else (obstacle scenario.recorded target.task earlier).map status := by
  simp only [findingAfter, about.definition, about.named, List.isEmpty_iff]
  rfl

private theorem clear_findingAfter_iff (valid : scenario.WellFormed)
    (about : target.IsOf scenario task spec run) (listed : task ∈ scenario.tasks.names) :
    Clear (findingAfter scenario.recorded target
        (Scenario.recordedRun scenario.workflow.name number previous)) ↔
      scenario.ClearAfter task spec run previous := by
  have unlisted : byMapIndex (scenario.recorded.instancesOf scenario.workflow.name previous.run
      task) = [] ↔ ∀ entry, ¬ scenario.ListedIn task previous.run entry :=
    byMapIndex_eq_nil_iff.trans (Scenario.instancesOf_recorded_eq_nil_iff valid)
  rw [findingAfter_recordedRun about]
  by_cases early : scenario.workflow.catchup = true ∧ ∃ start,
      (spec.startDate <|> scenario.workflow.startDate) = some start ∧ previous.date < start
  · obtain ⟨catchup, start, starts, sooner⟩ := early
    rw [if_pos (tooEarly_recordedRun_iff.mpr ⟨catchup, start, starts, sooner⟩)]
    exact iff_of_true (clear_some_iff.mpr rfl) (.tooEarly catchup starts sooner)
  · rw [if_neg (mt tooEarly_recordedRun_iff.mp early)]
    by_cases absent : ∀ entry, ¬ scenario.ListedIn task previous.run entry
    · rw [if_pos (unlisted.mpr absent)]
      by_cases first : isFirst scenario.recorded target = true
      · obtain ⟨exempt, none⟩ := (isFirst_recorded_iff valid about).mp first
        rw [if_pos first]
        exact iff_of_true (clear_some_iff.mpr rfl) (.firstInstance absent exempt none)
      · rw [if_neg first]
        refine iff_of_false (by simp [Status.passed, status, Reason.passes]) fun clear => ?_
        cases clear with
        | tooEarly catchup starts sooner => exact early ⟨catchup, _, starts, sooner⟩
        | firstInstance _ exempt none =>
          exact first ((isFirst_recorded_iff valid about).mpr ⟨exempt, none⟩)
        | done own _ => exact own.1.elim absent
    · have present := mt (Scenario.instancesOf_recorded_eq_nil_iff valid).mp absent
      rw [if_neg (mt unlisted.mp absent), clear_obstacle_recorded_iff valid about listed present]
      constructor
      · intro allDone
        obtain ⟨own, downstream⟩ := allDone
        exact .done own downstream
      · intro clear
        cases clear with
        | tooEarly catchup starts sooner => exact absurd ⟨catchup, _, starts, sooner⟩ early
        | firstInstance none => exact absurd none absent
        | done own downstream => exact ⟨own, downstream⟩

/-- A run that is listed is found, and so is the run right before it. -/
theorem finding_recorded (valid : scenario.WellFormed) (about : target.IsOf scenario task spec run)
    (held : scenario.runs[place]? = some run) (counted : waivers.ignorePast = false)
    (dependent : target.task.dependsOnPast = true) :
    finding scenario.recorded target waivers =
      (scenario.recorded.previousRun (Scenario.recordedRun scenario.workflow.name (place + 1) run)
        scenario.workflow.catchup).elim (some (status .noPast))
        (findingAfter scenario.recorded target) := by
  have found : scenario.recorded.run? scenario.workflow.name run.run =
      some (Scenario.recordedRun scenario.workflow.name (place + 1) run) :=
    (Scenario.run?_recorded_eq_some_iff valid).mpr
      ⟨Scenario.mem_recordedRuns_of_getElem? held, rfl⟩
  have catchup : target.task.catchup = scenario.workflow.catchup := by
    rw [about.definition, Scenario.task]
  simp only [finding, counted, dependent, about.workflow, about.within, found, catchup,
    Bool.false_eq_true, ↓reduceIte, Bool.not_true]
  cases scenario.recorded.previousRun
    (Scenario.recordedRun scenario.workflow.name (place + 1) run) scenario.workflow.catchup <;> rfl

private theorem clear_finding_iff (valid : scenario.WellFormed)
    (about : target.IsOf scenario task spec run) (listed : task ∈ scenario.tasks.names)
    (runListed : run ∈ scenario.runs) (counted : waivers.ignorePast = false) :
    Clear (finding scenario.recorded target waivers) ↔
      spec.dependsOnPast = false ∧ spec.waitForDownstream = false ∨
        (∀ previous, ¬ scenario.PreviousRun run previous) ∨
        ∃ previous, scenario.PreviousRun run previous ∧
          scenario.ClearAfter task spec run previous := by
  have settled : target.task.dependsOnPast = (spec.dependsOnPast || spec.waitForDownstream) := by
    rw [about.definition, Scenario.task]
  cases dependent : target.task.dependsOnPast with
  | false =>
    rw [dependent, eq_comm, Bool.or_eq_false_iff] at settled
    have found : finding scenario.recorded target waivers = some (status .independentOfPast) := by
      simp [finding, counted, dependent]
    rw [found]
    exact iff_of_true (clear_some_iff.mpr rfl) (.inl settled)
  | true =>
    have matters : ¬ (spec.dependsOnPast = false ∧ spec.waitForDownstream = false) := by
      rw [← Bool.or_eq_false_iff, ← settled, dependent]
      exact nofun
    obtain ⟨place, held⟩ := List.mem_iff_getElem?.mp runListed
    rw [finding_recorded valid about held counted dependent, or_iff_right matters]
    cases leads : scenario.recorded.previousRun
        (Scenario.recordedRun scenario.workflow.name (place + 1) run) scenario.workflow.catchup with
    | none =>
      exact iff_of_true (clear_some_iff.mpr rfl)
        (.inl fun _ => Scenario.no_previousRun_recorded valid held leads)
    | some found =>
      obtain ⟨before, previous, -, rfl, isPrevious⟩ := Scenario.previousRun_recorded held leads
      rw [Option.elim_some, clear_findingAfter_iff valid about listed]
      constructor
      · intro clear
        exact .inr ⟨previous, isPrevious, clear⟩
      · intro held
        rcases held with none | ⟨other, isOther, clear⟩
        · exact absurd isPrevious (none previous)
        · rwa [isPrevious.unique valid isOther]

end Past

namespace Check

variable {scenario : Scenario} {target : Target} {task : String} {spec : TaskSpec}
  {run : RunEntry} {found : Option Status} {history : History} {waivers : Waivers}

private theorem result_statuses {check : Check}
    (yielded : (check.status target waivers).reading history = .ok found) :
    ((check.statuses target waivers).run History.store history).result = .ok found.toList := by
  rw [Program.result_run, statuses_eq, Program.reading_bind, yielded]
  rfl

/-- The statuses of the check on the previous run, if there are any, let the instance go ahead
exactly where the scenario does. -/
theorem clear_previousRun_iff (waivers : Waivers) (valid : scenario.WellFormed)
    (about : target.IsOf scenario task spec run) (listed : task ∈ scenario.tasks.names)
    (runListed : run ∈ scenario.runs) :
    ∃ found, (previousRun.status target waivers).reading scenario.recorded = .ok found ∧
      (Past.Clear found ↔ scenario.GoesAhead waivers task spec run) := by
  refine ⟨_, reading_status_previousRun, ?_⟩
  by_cases all : waivers.ignoreAllChecks = true
  · rw [if_pos all]
    exact iff_of_true (Past.clear_some_iff.mpr rfl) (.waived (.inl all))
  · rw [if_neg all]
    by_cases ofTask : waivers.ignoreTaskChecks = true
    · rw [if_pos ofTask]
      exact iff_of_true (Past.clear_some_iff.mpr rfl) (.waived (.inr (.inl ofTask)))
    · rw [if_neg ofTask]
      by_cases past : waivers.ignorePast = true
      · have found : Past.finding scenario.recorded target waivers =
            some (Past.status .pastWaived) := by simp [Past.finding, past]
        rw [found]
        exact iff_of_true (Past.clear_some_iff.mpr rfl) (.waived (.inr (.inr past)))
      · rw [Past.clear_finding_iff valid about listed runListed (Bool.eq_false_iff.mpr past)]
        constructor
        · intro held
          rcases held with ⟨ignoresPast, waitsForNone⟩ | none | ⟨previous, found, clear⟩
          · exact .independent ignoresPast waitsForNone
          · exact .first none
          · exact .after found clear
        · intro clear
          cases clear with
          | waived set => exact absurd set (by simp [all, ofTask, past])
          | independent ignoresPast waitsForNone => exact .inl ⟨ignoresPast, waitsForNone⟩
          | first none => exact .inr (.inl none)
          | after found clear => exact .inr (.inr ⟨_, found, clear⟩)

/-- The target of a snapshot is the requested instance. -/
theorem isOf_taken {request : Request} (valid : scenario.WellFormed)
    (found : scenario.run? request.run = some run) :
    Target.IsOf ⟨Snapshot.requested scenario request run, scenario.task request.task spec⟩ scenario
      request.task spec run where
  definition := rfl
  workflow := by rw [Snapshot.requested_key valid, Snapshot.key]
  named := by rw [Snapshot.requested_key valid, Snapshot.key]
  within := by
    rw [Snapshot.requested_key valid, Snapshot.key]
    exact ((Scenario.run?_eq_some_iff valid).mp found).2.symm
  dated := Snapshot.requested_date valid found

/-- On a snapshot of a checked scenario the check on the previous run comes to an end, with one
status at most, and none of its statuses fails exactly if by the scenario the past of the task does
not hold the instance back. -/
theorem previousRun_passes_iff {raw : Scenario} {request : Request} {granted : Waivers}
    {snapshot : Snapshot} (accepted : raw.validated = .ok scenario)
    (loaded : (Snapshot.ofScenario scenario request granted).result = .ok snapshot) :
    ∃ spec run target statuses, (request.task, spec) ∈ scenario.tasks.entries ∧
      run ∈ scenario.runs ∧ run.run = request.run ∧
      snapshot.workflow.target snapshot.subject = .ok target ∧
      ((previousRun.statuses target snapshot.waivers).run History.store snapshot.history).result =
        .ok statuses ∧
      statuses.length ≤ 1 ∧
      ((∀ status ∈ statuses, status.passed = true) ↔
        scenario.GoesAhead (scenario.waivers.merge granted) request.task spec run) := by
  have valid := (Scenario.wellFormed_of_validated accepted).2
  obtain ⟨spec, run, listed, runFound, rfl⟩ := Snapshot.eq_taken_of_result valid loaded
  obtain ⟨runListed, named⟩ := (Scenario.run?_eq_some_iff valid).mp runFound
  obtain ⟨found, yielded, verdict⟩ := clear_previousRun_iff (scenario.waivers.merge granted) valid
    (isOf_taken valid runFound) (Table.mem_names_iff_exists_get?.mpr ⟨spec, listed⟩) runListed
  have single : found.toList.length ≤ 1 := by cases found <;> simp
  exact ⟨spec, run, _, found.toList, Table.get?_eq_some_iff.mp listed, runListed, named,
    Snapshot.target_taken valid listed, result_statuses yielded, single, verdict⟩

/-- The failure on Monday holds the instance of Tuesday back. -/
theorem previousRun_fails_daily :
    ∃ snapshot target statuses, Scenario.daily.validated = .ok .daily ∧
      (Snapshot.ofScenario .daily ⟨"load", "tuesday", unmapped⟩ {}).result = .ok snapshot ∧
      snapshot.workflow.target snapshot.subject = .ok target ∧
      ((previousRun.statuses target snapshot.waivers).run History.store snapshot.history).result =
        .ok statuses ∧ ¬ ∀ status ∈ statuses, status.passed = true := by
  have valid := Scenario.wellFormed_daily
  have accepted := Scenario.validated_of_wellFormed valid
  have loaded : (Snapshot.ofScenario .daily ⟨"load", "tuesday", unmapped⟩ {}).result = _ :=
    Snapshot.result_ofScenario valid rfl rfl
  obtain ⟨spec, run, target, statuses, listed, runListed, named, found, consumed, -, verdict⟩ :=
    previousRun_passes_iff accepted loaded
  refine ⟨_, target, statuses, accepted, loaded, found, consumed, mt verdict.mp fun goes => ?_⟩
  have theSpec : some _ = some spec := Table.get?_eq_some_iff.mpr listed
  have theRun : some _ = some run := (Scenario.run?_eq_some_iff valid).mpr ⟨runListed, named⟩
  cases theSpec
  cases theRun
  have monday : Scenario.daily.PreviousRun ⟨"tuesday", .midnight 1, .running⟩
      ⟨"monday", .midnight 0, .success⟩ := (if_pos rfl).mpr (by decide)
  cases goes with
  | waived set => rcases set with set | set | set <;> cases set
  | independent ignoresPast => cases ignoresPast
  | first none => exact none _ monday
  | after found clear =>
    cases found.unique valid monday
    cases clear with
    | tooEarly _ starts => cases starts
    | firstInstance _ exempt => cases exempt
    | done own =>
      have state := own.2 ⟨"load", "monday", unmapped, .failed⟩ ⟨by decide, rfl, rfl⟩
      rcases state with state | state <;> cases state

end Check

end RunGate
