import RunGate.State
import RunGate.Calendar.Instant

namespace RunGate

/-- One logical execution of a workflow. Numbers ascend in the order of creation. -/
structure Run where
  number : Nat
  workflow : String
  name : String
  date : Instant
  state : RunState
deriving DecidableEq

/-- Identity of a task instance. A negative map index belongs to an instance that is not mapped. -/
structure InstanceKey where
  workflow : String
  task : String
  run : String
  mapIndex : Int
deriving DecidableEq

/-- The map index where there is one to show. -/
def mapIndexText (mapIndex : Int) : String :=
  if 0 ≤ mapIndex then " map_index=" ++ toString mapIndex else ""

def InstanceKey.text (key : InstanceKey) : String :=
  key.workflow ++ "." ++ key.task ++ " " ++ key.run ++ mapIndexText key.mapIndex

/-- One task within one run. The date is that of the run. -/
structure TaskInstance where
  key : InstanceKey
  date : Instant
  state : TaskState
deriving DecidableEq

def TaskInstance.text (subject : TaskInstance) : String :=
  "<TaskInstance: " ++ subject.key.text ++ " [" ++ subject.state.name ++ "]>"

end RunGate
