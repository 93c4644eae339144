import RunGate.History.Program
import RunGate.Scenario.Basic

/-! The history of runs and task instances, kept in memory. A change that may fail gives its end and
the history afterwards, which is there in either case. -/

namespace RunGate

/-- Runs in the order of their creation, instances under their keys, and flags of instances. -/
structure History where
  runs : List Run
  instances : List (InstanceKey × TaskInstance)
  flags : InstanceKey → String → Option Bool
  /-- The number of the latest run. -/
  lastNumber : Nat

namespace History

def empty : History := ⟨[], [], fun _ _ => none, 0⟩

def run? (history : History) (workflow name : String) : Option Run :=
  history.runs.find? fun run => run.workflow == workflow && run.name == name

def instance? (history : History) (key : InstanceKey) : Option TaskInstance :=
  history.instances.lookup key

/-- The last of the runs for which no other one has a later place. -/
def latest (later : Run → Run → Bool) : List Run → Option Run
  | [] => none
  | run :: rest =>
    match latest later rest with
    | none => some run
    | some best => if later run best then some run else some best

/-- The run right before another one of its workflow: the latest with an earlier date, or else the
last with a smaller number. -/
def previousRun (history : History) (run : Run) (bySchedule : Bool) : Option Run :=
  let siblings := history.runs.filter (·.workflow == run.workflow)
  if bySchedule then
    latest (fun first second => second.date < first.date) (siblings.filter (·.date < run.date))
  else
    latest (fun first second => second.number < first.number)
      (siblings.filter (·.number < run.number))

def allInstances (history : History) : List TaskInstance :=
  history.instances.map (·.2)

def instancesOf (history : History) (workflow run task : String) : List TaskInstance :=
  history.allInstances.filter fun subject =>
    subject.key.workflow == workflow && subject.key.run == run && subject.key.task == task

/-- How many instances of a task have an earlier date. -/
def countPrior (history : History) (workflow task : String) (before : Instant) : Nat :=
  history.allInstances.countP fun subject =>
    subject.key.workflow == workflow && subject.key.task == task && subject.date < before

/-- Whether each task has an instance in the run of the subject, and none that is not done. -/
def downstreamDone (history : History) (subject : TaskInstance) (downstream : List String) :
    Bool :=
  downstream.all fun task =>
    let found := history.instancesOf subject.key.workflow subject.key.run task
    !found.isEmpty && found.all (·.state.done)

def flag? (history : History) (key : InstanceKey) (flag : String) : Option Bool :=
  history.flags key flag

/-- Create a run with the next number. Neither its name nor its date may be taken within the
workflow. -/
def createRun (history : History) (workflow name : String) (date : Instant) (state : RunState) :
    Except Fault Run × History :=
  if (history.run? workflow name).isSome then
    (.error (.store (.runExists workflow name)), history)
  else
    match history.runs.find? fun run => run.workflow == workflow && run.date == date with
    | some other => (.error (.store (.dateTaken workflow name other.name date)), history)
    | none =>
      let counted := { history with lastNumber := history.lastNumber + 1 }
      let run : Run := ⟨counted.lastNumber, workflow, name, date, state⟩
      (.ok run, { counted with runs := counted.runs ++ [run] })

/-- Put a value under a key, in the place of the one it had. -/
def place (key : InstanceKey) (subject : TaskInstance) :
    List (InstanceKey × TaskInstance) → List (InstanceKey × TaskInstance)
  | [] => [(key, subject)]
  | entry :: rest =>
    if entry.1 = key then (key, subject) :: rest else entry :: place key subject rest

theorem lookup_place (key other : InstanceKey) (subject : TaskInstance)
    (entries : List (InstanceKey × TaskInstance)) :
    (place key subject entries).lookup other =
      if other = key then some subject else entries.lookup other := by
  induction entries with
  | nil =>
    by_cases same : other = key
    · simp [place, same]
    · simp [place, List.lookup_cons, beq_eq_false_iff_ne.mpr same, same]
  | cons entry rest ih =>
    obtain ⟨held, old⟩ := entry
    by_cases same : other = held
    · subst same
      by_cases replaced : other = key <;> simp [place, replaced]
    · have passed := beq_eq_false_iff_ne.mpr same
      by_cases replaced : held = key
      · subst replaced
        simp [place, List.lookup_cons, passed, same]
      · simp [place, replaced, List.lookup_cons, passed, ih]

/-- Insert an instance, or put it in the place of the one with its key. Its run must exist. -/
def upsert (history : History) (subject : TaskInstance) : Except Fault Unit × History :=
  if (history.run? subject.key.workflow subject.key.run).isSome then
    (.ok (), { history with instances := place subject.key subject history.instances })
  else (.error (.unknownRun subject.key.workflow subject.key.run), history)

def setState (history : History) (key : InstanceKey) (state : TaskState) :
    Except Fault Unit × History :=
  match history.instance? key with
  | some subject =>
    (.ok (), { history with instances := place key { subject with state } history.instances })
  | none => (.error (.unknownInstance key), history)

def recordFlag (history : History) (key : InstanceKey) (flag : String) (value : Bool) : History :=
  { history with flags := fun other name =>
      if other = key ∧ name = flag then some value else history.flags other name }

theorem instance?_upsert {history after : History} {subject : TaskInstance}
    (done : history.upsert subject = (.ok (), after)) (key : InstanceKey) :
    after.instance? key = if key = subject.key then some subject else history.instance? key := by
  simp only [upsert] at done
  split at done
  · cases done
    exact lookup_place subject.key key subject history.instances
  · cases done

theorem instance?_setState {history after : History} {key : InstanceKey} {state : TaskState}
    (done : history.setState key state = (.ok (), after)) (other : InstanceKey) :
    after.instance? other =
      if other = key then (history.instance? key).map ({ · with state })
      else history.instance? other := by
  simp only [setState] at done
  split at done
  · rename_i subject found
    cases done
    rw [found]
    exact lookup_place key other _ history.instances
  · cases done

theorem flag?_recordFlag (history : History) (key other : InstanceKey) (flag name : String)
    (value : Bool) :
    (history.recordFlag key flag value).flag? other name =
      if other = key ∧ name = flag then some value else history.flag? other name := rfl

theorem runs_createRun {history after : History} {workflow name : String} {date : Instant}
    {state : RunState} {run : Run}
    (done : history.createRun workflow name date state = (.ok run, after)) :
    after.runs = history.runs ++ [run] ∧
      run = ⟨history.lastNumber + 1, workflow, name, date, state⟩ := by
  simp only [createRun] at done
  split at done
  · cases done
  · split at done
    · cases done
    · cases done
      exact ⟨rfl, rfl⟩

def answer (query : Query) (history : History) : query.Answer × History :=
  match query with
  | .run workflow name => (history.run? workflow name, history)
  | .previousRun run bySchedule => (history.previousRun run bySchedule, history)
  | .instances run task => (history.instancesOf run.workflow run.name task, history)
  | .countPrior workflow task before => (history.countPrior workflow task before, history)
  | .downstreamDone subject downstream => (history.downstreamDone subject downstream, history)
  | .recordFlag key flag value => ((), history.recordFlag key flag value)

/-- The history as a store; no call fails. -/
def store : Store History where
  answer query history :=
    let (given, after) := history.answer query
    (.ok given, after)

/-- Record the runs of a scenario in the order of their listing. -/
def addRuns (workflow : String) : List RunEntry → History → Except Fault History
  | [], history => .ok history
  | entry :: rest, history =>
    match history.createRun workflow entry.run entry.date entry.state with
    | (.error fault, _) => .error fault
    | (.ok _, after) => addRuns workflow rest after

/-- Record the instances of a scenario, each with the date of its run. -/
def addInstances (scenario : Scenario) : List InstanceEntry → History → Except Fault History
  | [], history => .ok history
  | entry :: rest, history =>
    match scenario.run? entry.run with
    | none => .error (.unknownRun scenario.workflow.name entry.run)
    | some run =>
      let key : InstanceKey := ⟨scenario.workflow.name, entry.task, entry.run, entry.mapIndex⟩
      match history.upsert ⟨key, run.date, entry.state⟩ with
      | (.error fault, _) => .error fault
      | (.ok _, after) => addInstances scenario rest after

def ofScenario (scenario : Scenario) : Except Fault History := do
  let history ← addRuns scenario.workflow.name scenario.runs .empty
  addInstances scenario scenario.instances history

end History

end RunGate
