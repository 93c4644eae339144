import RunGate.Workflow.Run

namespace RunGate

/-- What a check found, and so whether it passes. -/
inductive Reason
  | allWaived
  /-- The checks on the task's own dependencies are waived. -/
  | taskChecksWaived
  | pastWaived
  | independentOfPast
  | runUnknown
  /-- There is no previous run, or none late enough to count. -/
  | noPast
  /-- The previous run has no instance of the task, and the first instance is exempt. -/
  | firstExempt
  | notYetRun (task run : String)
  | notDone (subjects : List TaskInstance)
  /-- Tasks after these instances of the previous run are not done. -/
  | downstreamNotDone (subjects : List TaskInstance)
  | stateWaived
  | stateAllowed (state : TaskState)
  | stateForbidden (state : TaskState)
  | alreadyRunning
  | idle
  | runInactive (state : RunState)
deriving DecidableEq

namespace Reason

def passes : Reason → Bool
  | notYetRun _ _ | notDone _ | downstreamNotDone _ => false
  | stateForbidden _ | alreadyRunning | runInactive _ => false
  | _ => true

def listed (subjects : List TaskInstance) : String :=
  ",".intercalate (subjects.map (·.text))

def text : Reason → String
  | allWaived => "Context specified all dependencies should be ignored."
  | taskChecksWaived => "Context specified all task dependencies should be ignored."
  | pastWaived => "The context specified that the state of past DAGs could be ignored."
  | independentOfPast => "The task did not have depends_on_past set."
  | runUnknown => "This task instance does not belong to a DAG."
  | noPast => "This task instance was the first task instance for its task."
  | firstExempt =>
    "ignore_first_depends_on_past is true for this task and it is the first task instance for " ++
      "its task."
  | notYetRun task run =>
    "depends_on_past is true for this task's DAG, but the previous task instance has not run " ++
      "yet (no instance of task '" ++ task ++ "' in DAG run '" ++ run ++ "')."
  | notDone subjects =>
    "depends_on_past is true for this task, but the previous task instance(s) " ++
      listed subjects ++ " are not in a successful state."
  | downstreamNotDone subjects =>
    "The tasks downstream of the previous task instance(s) " ++ listed subjects ++
      " haven't completed (and wait_for_downstream is True)."
  | stateWaived => "Context specified that state should be ignored."
  | stateAllowed state => "Task state " ++ state.name ++ " was valid."
  | stateForbidden state => "Task is in the '" ++ state.name ++ "' state."
  | alreadyRunning => "Task is in the running state"
  | idle => "Task is not in running state."
  | runInactive state =>
    "Task instance's dagrun was not in the 'running' state but in the state '" ++ state.name ++
      "'."

end Reason

end RunGate
