import RunGate.Scenario.Decode
import RunGate.Workflow.Basic
import RunGate.Workflow.Ordering

namespace RunGate

def illFormed {α : Type} (fault : ScenarioFault) : Except Fault α :=
  .error (.scenario fault)

namespace Scenario

def checkDependencies (tasks : Table TaskSpec) (task : String) : List String → Except Fault Unit
  | [] => .ok ()
  | dependency :: rest =>
    if !tasks.has dependency then illFormed (.unknownDependency task dependency)
    else if dependency = task then illFormed (.ownDependency task)
    else checkDependencies tasks task rest

def checkTasks (tasks : Table TaskSpec) : List (String × TaskSpec) → Except Fault Unit
  | [] => .ok ()
  | (name, spec) :: rest => do
    checkDependencies tasks name spec.after
    checkTasks tasks rest

/-- No task comes after itself, however many steps away. -/
def checkCycles (scenario : Scenario) : Except Fault Unit :=
  match scenario.graph.network.onCycle? with
  | some task => .error (.cycle task)
  | none => .ok ()

/-- No run shares its name or its date with one listed earlier. -/
def checkRuns (earlier : List RunEntry) : List RunEntry → Except Fault Unit
  | [] => .ok ()
  | entry :: rest =>
    if earlier.any (·.run == entry.run) then illFormed (.repeatedRun entry.run)
    else
      match earlier.find? (·.date == entry.date) with
      | some other => illFormed (.sharedDate other.run entry.run entry.date)
      | none => checkRuns (entry :: earlier) rest

def sameInstance (first second : InstanceEntry) : Bool :=
  first.task == second.task && first.run == second.run && first.mapIndex == second.mapIndex

/-- Every instance is of a listed task and run, has a map index no smaller than that of an instance
that is not mapped, and is listed once. -/
def checkInstances (scenario : Scenario) (earlier : List InstanceEntry) :
    List InstanceEntry → Except Fault Unit
  | [] => .ok ()
  | entry :: rest =>
    if !scenario.tasks.has entry.task then illFormed (.unknownTask entry.task)
    else if !scenario.runs.any (·.run == entry.run) then
      illFormed (.unknownRun entry.task entry.run)
    else if entry.mapIndex < unmapped then
      illFormed (.badMapIndex entry.task entry.run entry.mapIndex)
    else if earlier.any (sameInstance entry) then
      illFormed (.repeatedInstance entry.task entry.run entry.mapIndex)
    else checkInstances scenario (entry :: earlier) rest

/-- There is a task, and the workflow has a name. -/
def checkHead (scenario : Scenario) : Except Fault Unit :=
  if scenario.tasks.entries.isEmpty then illFormed .noTasks
  else if (Text.trim scenario.workflow.name.toList).isEmpty then illFormed .blankWorkflow
  else .ok ()

/-- Every check, in the order in which the first fault is reported. -/
def validate (scenario : Scenario) : Except Fault Unit := do
  scenario.checkHead
  checkTasks scenario.tasks scenario.tasks.entries
  scenario.checkCycles
  checkRuns [] scenario.runs
  scenario.checkInstances [] scenario.instances

def validated (scenario : Scenario) : Except Fault Scenario := do
  scenario.validate
  pure scenario

/-- The scenario that a document describes, not yet checked. Where none can be read, a document with
a number that cannot be kept counts as no TOML, whatever else is wrong with it. -/
def read (document : String) : Except Fault Scenario :=
  match Toml.read document with
  | none => .error .notToml
  | some entries =>
    match ofValue (.table entries) with
    | .ok scenario => .ok scenario
    | .error fault =>
      if (Toml.Value.table entries).isKept then .error (.shape fault) else .error .notToml

/-- Check what the contents of a scenario file are parsed to, if the file can be read. -/
def load (parse : String → Except Fault Scenario) (contents : Option String) :
    Except Fault Scenario :=
  match contents with
  | none => .error .unreadable
  | some document => do
    let scenario ← parse document
    scenario.validated

end Scenario

end RunGate
