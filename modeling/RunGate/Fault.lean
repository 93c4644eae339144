import RunGate.Scenario.Shape
import RunGate.Workflow.Run

namespace RunGate

inductive ScenarioFault
  | noTasks
  | blankWorkflow
  | unknownDependency (task dependency : String)
  | ownDependency (task : String)
  | repeatedRun (run : String)
  | sharedDate (earlier later : String) (date : Instant)
  | unknownTask (task : String)
  | unknownRun (task run : String)
  | badMapIndex (task run : String) (mapIndex : Int)
  | repeatedInstance (task run : String) (mapIndex : Int)
  | noStates
deriving DecidableEq

def ScenarioFault.message : ScenarioFault → String
  | noTasks => "scenario must contain at least one [task.<id>] section"
  | blankWorkflow => "[dag].dag_id must not be empty"
  | unknownDependency task dependency =>
    "task '" ++ task ++ "' has unknown dependency '" ++ dependency ++ "' in `after`"
  | ownDependency task => "task '" ++ task ++ "' cannot depend on itself in `after`"
  | repeatedRun run => "dag run '" ++ run ++ "' is listed more than once"
  | sharedDate earlier later date =>
    "dag runs '" ++ earlier ++ "' and '" ++ later ++ "' share execution_date " ++ date.text
  | unknownTask task => "task instance references unknown task '" ++ task ++ "'"
  | unknownRun task run =>
    "task instance of '" ++ task ++ "' references unknown dag run '" ++ run ++ "'"
  | badMapIndex task run mapIndex =>
    "task instance of '" ++ task ++ "' in '" ++ run ++ "' has invalid map_index " ++
      toString mapIndex
  | repeatedInstance task run mapIndex =>
    "task instance of '" ++ task ++ "' in '" ++ run ++ "' (map_index " ++ toString mapIndex ++
      ") is listed more than once"
  | noStates => "ValidStateDep must be constructed with at least one valid state"

/-- What a history store refuses or fails to do. -/
inductive StoreFault
  | runExists (workflow run : String)
  | dateTaken (workflow run other : String) (date : Instant)
  | refused
  | unscripted
  | failed (cause : String)
deriving DecidableEq

def StoreFault.message : StoreFault → String
  | runExists workflow run => "dag run " ++ workflow ++ "/" ++ run ++ " already exists"
  | dateTaken workflow run other date =>
    "dag run " ++ workflow ++ "/" ++ run ++ " has the same execution_date as " ++ other ++ " (" ++
      date.text ++ ")"
  | refused => "connection refused"
  | unscripted => "no scenario scripted"
  | failed cause => cause

/-- Why an operation of the gate fails. -/
inductive Fault
  | unreadable
  | notToml
  | shape (fault : ShapeFault)
  | scenario (fault : ScenarioFault)
  /-- The dependencies lead from a task back to it. -/
  | cycle (task : String)
  | unknownTask (workflow task : String)
  | unknownInstance (key : InstanceKey)
  | foreignInstance (subject : TaskInstance) (workflow : String)
  | unknownRun (workflow run : String)
  | store (fault : StoreFault)
deriving DecidableEq

def Fault.message : Fault → String
  | unreadable => "IO error: the scenario file cannot be read"
  | notToml => "TOML parsing error: the scenario is not a TOML document"
  | shape fault => "TOML parsing error: " ++ fault.message
  | scenario fault => "Configuration error: " ++ fault.message
  | cycle task =>
    "Cycle detected in DAG: cycle detected in task DAG involving task '" ++ task ++ "'"
  | unknownTask workflow task => "Task not found: " ++ workflow ++ "." ++ task
  | unknownInstance key => "Task not found: " ++ key.text
  | foreignInstance subject workflow =>
    "Task not found: " ++ subject.text ++ " does not belong to DAG '" ++ workflow ++ "'"
  | unknownRun workflow run => "DAG run not found: " ++ workflow ++ "/" ++ run
  | store fault => "History store error: " ++ fault.message

/-- The fault beneath a fault: reading a file and reading TOML have a cause of their own. -/
def Fault.cause : Fault → Option String
  | unreadable => some "the scenario file cannot be read"
  | notToml => some "the scenario is not a TOML document"
  | shape fault => some fault.message
  | _ => none

end RunGate
