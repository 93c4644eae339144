import RunGate.Proofs.Check.Statuses
import RunGate.Proofs.History.Reading

namespace RunGate

namespace Past

variable {history : History} {target : Target} {waivers : Waivers}

/-- What holds an instance back when the task had these instances in the previous run. -/
def obstacle (history : History) (task : Task) (earlier : List TaskInstance) : Option Reason :=
  let unsuccessful := earlier.filter fun subject => !subject.state.done
  let waiting := earlier.filter fun subject => !history.downstreamDone subject task.downstream
  if !unsuccessful.isEmpty then some (.notDone unsuccessful)
  else if task.waitForDownstream && !waiting.isEmpty then some (.downstreamNotDone waiting)
  else none

/-- Whether the instance is exempt as the first of its task. -/
def isFirst (history : History) (target : Target) : Bool :=
  target.task.ignoreFirst && history.countPrior target.subject.key.workflow
    target.subject.key.task target.subject.date == 0

/-- What is found when the previous run is this one. -/
def findingAfter (history : History) (target : Target) (previous : Run) : Option Status :=
  let key := target.subject.key
  let earlier := byMapIndex (history.instancesOf previous.workflow previous.name key.task)
  if tooEarly target.task previous then some (status .noPast)
  else if earlier.isEmpty then
    if isFirst history target then some (status .firstExempt)
    else some (status (.notYetRun key.task previous.name))
  else (obstacle history target.task earlier).map status

def finding (history : History) (target : Target) (waivers : Waivers) : Option Status :=
  let key := target.subject.key
  if waivers.ignorePast then some (status .pastWaived)
  else if !target.task.dependsOnPast then some (status .independentOfPast)
  else
    match history.run? key.workflow key.run with
    | none => some (status .runUnknown)
    | some run =>
      match history.previousRun run target.task.catchup with
      | none => some (status .noPast)
      | some previous => findingAfter history target previous

@[simp]
theorem reading_recordMet : (recordMet target waivers).reading history = .ok () := by
  unfold recordMet
  split <;> rfl

@[simp]
theorem reading_pass (reason : Reason) :
    (pass target waivers reason).reading history = .ok (some (status reason)) := by
  simp [pass]

@[simp]
theorem reading_unfinished (downstream : List String) (subjects : List TaskInstance) :
    (unfinished downstream subjects).reading history =
      .ok (subjects.filter fun subject => !history.downstreamDone subject downstream) := by
  induction subjects with
  | nil => rfl
  | cons subject rest ih =>
    have answered : (unfinished downstream (subject :: rest)).reading history =
        ((unfinished downstream rest).bind fun others => .done
          (if history.downstreamDone subject downstream then others
            else subject :: others)).reading history := rfl
    rw [answered, Program.reading_bind, ih, ok_bind, Program.reading_done, List.filter_cons]
    cases history.downstreamDone subject downstream <;> rfl

@[simp]
theorem reading_absentBefore (previous : Run) :
    (absentBefore target waivers previous).reading history =
      .ok (if isFirst history target then some (status .firstExempt)
        else some (status (.notYetRun target.subject.key.task previous.name))) := by
  unfold absentBefore isFirst
  cases target.task.ignoreFirst with
  | false => rfl
  | true =>
    show (if history.countPrior target.subject.key.workflow target.subject.key.task
        target.subject.date = 0 then pass target waivers .firstExempt
      else .note .earlierInstances (.done _)).reading history = _
    simp only [Bool.true_and, beq_iff_eq]
    split
    · exact reading_pass _
    · rfl

@[simp]
theorem reading_presentBefore (earlier : List TaskInstance) :
    (presentBefore target waivers earlier).reading history =
      .ok ((obstacle history target.task earlier).map status) := by
  unfold presentBefore obstacle
  simp only
  split
  · rfl
  · cases target.task.waitForDownstream with
    | false => simp
    | true =>
      simp only [↓reduceIte, Program.bind_eq, Program.reading_bind, reading_unfinished, ok_bind,
        Bool.true_and]
      split
      · rfl
      · simp

@[simp]
theorem reading_afterPrevious (previous : Run) :
    (afterPrevious target waivers previous).reading history =
      .ok (findingAfter history target previous) := by
  unfold afterPrevious findingAfter
  simp only
  split
  · simp
  · show (if (byMapIndex (history.instancesOf previous.workflow previous.name
        target.subject.key.task)).isEmpty then absentBefore target waivers previous
      else presentBefore target waivers _).reading history = _
    split
    · exact reading_absentBefore previous
    · exact reading_presentBefore _

/-- The check on the previous run never fails on a history. -/
@[simp]
theorem reading_check :
    (check target waivers).reading history = .ok (finding history target waivers) := by
  unfold check finding
  simp only
  split
  · simp
  · split
    · exact reading_pass _
    · simp only [Program.ask, Program.ofExcept, Program.bind_eq, Program.bind,
        Program.reading_call, History.answer]
      cases history.run? target.subject.key.workflow target.subject.key.run with
      | none => simp
      | some run =>
        simp only [Program.bind, Program.reading_call, History.answer]
        cases history.previousRun run target.task.catchup with
        | none => simp
        | some previous => simp

end Past

namespace Check

variable {history : History} {target : Target} {waivers : Waivers}

theorem reading_status_previousRun :
    (previousRun.status target waivers).reading history =
      .ok (if waivers.ignoreAllChecks then some (Past.status .allWaived)
        else if waivers.ignoreTaskChecks then some (Past.status .taskChecksWaived)
        else Past.finding history target waivers) := by
  simp only [status_eq, kind, CheckKind.waivable, CheckKind.ofTask, Bool.true_and]
  split
  · rfl
  · split
    · rfl
    · exact Past.reading_check

/-- The check on the run of the instance looks at the state of the run alone. -/
theorem reading_runStatus (history : History) (target : Target) :
    (runStatus target).reading history =
      ((history.run? target.subject.key.workflow target.subject.key.run).map (·.state)).elim
        (.error (.unknownRun target.subject.key.workflow target.subject.key.run))
        fun state => .ok (if state = .running then none
          else some ⟨.runActive, .runInactive state⟩) := by
  simp only [runStatus, Program.ask, Program.ofExcept, Program.bind_eq, Program.bind,
    Program.reading_call, History.answer]
  cases history.run? target.subject.key.workflow target.subject.key.run with
  | none => rfl
  | some run =>
    simp only [Option.map_some, Option.elim_some]
    split <;> rfl

private theorem exists_reading_runStatus
    (known : (history.run? target.subject.key.workflow target.subject.key.run).isSome) :
    ∃ found, (runStatus target).reading history = .ok found := by
  obtain ⟨run, found⟩ := Option.isSome_iff_exists.mp known
  rw [reading_runStatus, found]
  exact ⟨_, rfl⟩

/-- Where the history knows the run of the instance, no check fails. -/
theorem exists_reading_status (check : Check)
    (known : (history.run? target.subject.key.workflow target.subject.key.run).isSome) :
    ∃ found, (check.status target waivers).reading history = .ok found := by
  rw [status_eq]
  split
  · exact ⟨_, rfl⟩
  · split
    · exact ⟨_, rfl⟩
    · cases check with
      | previousRun => exact ⟨_, Past.reading_check⟩
      | instanceState allowed nonempty => exact ⟨_, rfl⟩
      | notRunning => exact ⟨_, rfl⟩
      | runActive => exact exists_reading_runStatus known

end Check

end RunGate
