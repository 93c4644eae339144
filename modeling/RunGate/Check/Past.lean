import RunGate.Check.Status
import RunGate.History.Program
import RunGate.Workflow.Basic
import RunGate.Waivers

namespace RunGate.Past

/-- The flag that tells later steps that this check passed. -/
def metFlag : String := "past_depends_met"

/-- Record that the check passed, if the waivers ask for it. -/
def recordMet (target : Target) (waivers : Waivers) : Program Unit :=
  if waivers.recordPast then Program.ask (.recordFlag target.subject.key metFlag true)
  else pure ()

def status (reason : Reason) : Status := ⟨.previousRun, reason⟩

/-- Pass for a reason, and record it. -/
def pass (target : Target) (waivers : Waivers) (reason : Reason) : Program (Option Status) := do
  recordMet target waivers
  pure (some (status reason))

def byMapIndex (subjects : List TaskInstance) : List TaskInstance :=
  subjects.mergeSort fun first second => first.key.mapIndex ≤ second.key.mapIndex

/-- The instances after which some task has not finished. -/
def unfinished (downstream : List String) : List TaskInstance → Program (List TaskInstance)
  | [] => pure []
  | subject :: rest => do
    let finished ← Program.ask (.downstreamDone subject downstream)
    let others ← unfinished downstream rest
    pure (if finished then others else subject :: others)

/-- The task has no instance in the previous run: that fails, unless the first instance of the task
is exempt and this is it. -/
def absentBefore (target : Target) (waivers : Waivers) (previous : Run) :
    Program (Option Status) := do
  let key := target.subject.key
  let reason : Reason := .notYetRun key.task previous.name
  if target.task.ignoreFirst then
    let prior ← Program.ask (.countPrior key.workflow key.task target.subject.date)
    if prior = 0 then pass target waivers .firstExempt
    else do
      Program.log .earlierInstances
      pure (some (status reason))
  else pure (some (status reason))

/-- The task has instances in the previous run: all must be done, and if the task waits for
downstream tasks, so must these be. -/
def presentBefore (target : Target) (waivers : Waivers) (earlier : List TaskInstance) :
    Program (Option Status) := do
  let unsuccessful := earlier.filter fun subject => !subject.state.done
  if !unsuccessful.isEmpty then pure (some (status (.notDone unsuccessful)))
  else do
    let waiting ← if target.task.waitForDownstream
      then unfinished target.task.downstream earlier else pure []
    if !waiting.isEmpty then pure (some (status (.downstreamNotDone waiting)))
    else do
      recordMet target waivers
      pure none

/-- Whether the previous run is too early to count: with catch-up, before the task's start. -/
def tooEarly (task : Task) (previous : Run) : Bool :=
  task.catchup && task.startDate.any fun start => previous.date < start

def afterPrevious (target : Target) (waivers : Waivers) (previous : Run) :
    Program (Option Status) := do
  if tooEarly target.task previous then
    Program.log .previousRunTooEarly
    pass target waivers .noPast
  else do
    let found ← Program.ask (.instances previous target.subject.key.task)
    let earlier := byMapIndex found
    if earlier.isEmpty then absentBefore target waivers previous
    else presentBefore target waivers earlier

/-- The check. No status at all means that everything was looked at and is in order. -/
def check (target : Target) (waivers : Waivers) : Program (Option Status) := do
  let key := target.subject.key
  if waivers.ignorePast then
    Program.log .pastIgnored
    pass target waivers .pastWaived
  else if !target.task.dependsOnPast then pass target waivers .independentOfPast
  else
    match ← Program.ask (.run key.workflow key.run) with
    | none =>
      Program.log .noRun
      pass target waivers .runUnknown
    | some run =>
      match ← Program.ask (.previousRun run target.task.catchup) with
      | none =>
        Program.log .noPreviousRun
        pass target waivers .noPast
      | some previous => afterPrevious target waivers previous

end RunGate.Past
