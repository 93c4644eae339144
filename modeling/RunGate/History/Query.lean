import RunGate.Workflow.Run
import RunGate.Fault

namespace RunGate

/-- A call of a history store. -/
inductive Query
  | run (workflow name : String)
  /-- The run right before another, by execution date or else by creation. -/
  | previousRun (run : Run) (bySchedule : Bool)
  /-- Every instance of a task in a run, in any order. -/
  | instances (run : Run) (task : String)
  /-- How many instances of a task have an earlier date. -/
  | countPrior (workflow task : String) (before : Instant)
  /-- Whether each of these tasks has finished in the run of the instance. -/
  | downstreamDone (subject : TaskInstance) (downstream : List String)
  /-- Give a flag of an instance a value. -/
  | recordFlag (key : InstanceKey) (flag : String) (value : Bool)
deriving DecidableEq

namespace Query

abbrev Answer : Query → Type
  | run _ _ => Option Run
  | previousRun _ _ => Option Run
  | instances _ _ => List TaskInstance
  | countPrior _ _ _ => Nat
  | downstreamDone _ _ => Bool
  | recordFlag _ _ _ => Unit

def isRead : Query → Bool
  | recordFlag _ _ _ => false
  | _ => true

end Query

end RunGate
