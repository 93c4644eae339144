import RunGate.Check.Past
import RunGate.Check.Pending
import RunGate.Mode

namespace RunGate

/-- A check of one instance. -/
inductive Check
  | previousRun
  /-- The instance must be in one of these states, of which there is at least one. -/
  | instanceState (allowed : List TaskState) (nonempty : allowed ≠ [] := by decide)
  | notRunning
  | runActive
deriving DecidableEq

namespace Check

/-- The check on the state of the instance; it needs at least one allowed state. -/
def ofStates (allowed : List TaskState) : Except Fault Check :=
  if nonempty : allowed ≠ [] then .ok (.instanceState allowed nonempty)
  else .error (.scenario .noStates)

def kind : Check → CheckKind
  | previousRun => .previousRun
  | instanceState _ _ => .instanceState
  | notRunning => .notRunning
  | runActive => .runActive

def stateStatus (allowed : List TaskState) (state : TaskState) (waivers : Waivers) : Status :=
  if waivers.ignoreState then ⟨.instanceState, .stateWaived⟩
  else if allowed.contains state then ⟨.instanceState, .stateAllowed state⟩
  else ⟨.instanceState, .stateForbidden state⟩

def notRunningStatus (state : TaskState) : Status :=
  if state = .running then ⟨.notRunning, .alreadyRunning⟩
  else ⟨.notRunning, .idle⟩

/-- Whether the run of the instance is running; nothing is said if it is. -/
def runStatus (target : Target) : Program (Option Status) := do
  let key := target.subject.key
  match ← Program.ask (.run key.workflow key.run) with
  | none => Program.fail (.unknownRun key.workflow key.run)
  | some run =>
    if run.state = .running then do
      Program.log .runActive
      pure none
    else pure (some ⟨.runActive, .runInactive run.state⟩)

/-- What the check finds when no waiver stands in its way. -/
def inspect (check : Check) (target : Target) (waivers : Waivers) : Program (Option Status) :=
  match check with
  | previousRun => Past.check target waivers
  | instanceState allowed _ =>
    pure (some (stateStatus allowed target.subject.state waivers))
  | notRunning => pure (some (notRunningStatus target.subject.state))
  | runActive => runStatus target

/-- The statuses of a check, none of which has been made yet. Waivers come first. -/
def sequence (check : Check) (target : Target) (waivers : Waivers) : Program (Pending Status) :=
  if check.kind.waivable && waivers.ignoreAllChecks then
    pure (.once ⟨check.kind, .allWaived⟩)
  else if check.kind.ofTask && waivers.ignoreTaskChecks then
    pure (.once ⟨check.kind, .taskChecksWaived⟩)
  else pure (.onceWith (check.inspect target waivers))

/-- What a reader has who takes that many statuses of a check. -/
def pull (check : Check) (target : Target) (waivers : Waivers) (count : Nat) :
    Program (List Status) := do
  (← check.sequence target waivers).take count

def statuses (check : Check) (target : Target) (waivers : Waivers) : Program (List Status) := do
  let items ← check.sequence target waivers
  let found ← items.forEach (fun item found => do
    let status ← Program.ofExcept item
    pure (.yield (found ++ [status]))) []
  pure found.value

/-- Whether no status fails. The first that fails decides. -/
def isMet (check : Check) (target : Target) (waivers : Waivers) : Program Bool := do
  let items ← check.sequence target waivers
  let met ← items.forEach (fun item _ => do
    let status ← Program.ofExcept item
    pure (if status.passed then .yield true else .done false)) true
  pure met.value

def failureReasons (check : Check) (target : Target) (waivers : Waivers) :
    Program (List String) := do
  let items ← check.sequence target waivers
  let reasons ← items.forEach (fun item reasons => do
    let status ← Program.ofExcept item
    pure (.yield (if status.passed then reasons else reasons ++ [status.reason.text]))) []
  pure reasons.value

end Check

/-- The checks of a preset, in the order in which they are asked. -/
def Preset.checks : Preset → List Check
  | .runnable => [.runActive, .instanceState TaskState.runnable, .notRunning, .previousRun]
  | .queueable => [.instanceState TaskState.queueable, .notRunning, .previousRun]

end RunGate
