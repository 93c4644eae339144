import RunGate.Table
import RunGate.State
import RunGate.Mode
import RunGate.Waivers
import RunGate.Calendar.Instant

namespace RunGate

/-- How an instance is evaluated unless the caller says otherwise. -/
structure Settings where
  mode : Mode := .admission
  preset : Preset := .runnable
deriving DecidableEq, Inhabited

/-- The workflow itself. With catch-up its runs follow one another by execution date, without it by
creation. The start date is that of every task without its own. -/
structure WorkflowSpec where
  name : String
  catchup : Bool := true
  startDate : Option Instant := none
deriving DecidableEq

/-- One task: the tasks it comes after, and how it depends on earlier runs. -/
structure TaskSpec where
  after : List String := []
  dependsOnPast : Bool := false
  waitForDownstream : Bool := false
  ignoreFirst : Bool := false
  startDate : Option Instant := none
deriving DecidableEq, Inhabited

structure RunEntry where
  run : String
  date : Instant
  state : RunState := .running
deriving DecidableEq

/-- The map index of an instance that is not mapped. -/
def unmapped : Int := -1

structure InstanceEntry where
  task : String
  run : String
  mapIndex : Int := unmapped
  state : TaskState := .undecided
deriving DecidableEq

/-- A scenario; its runs are listed in the order of their creation. -/
structure Scenario where
  settings : Settings := {}
  waivers : Waivers := {}
  workflow : WorkflowSpec
  tasks : Table TaskSpec := .empty
  runs : List RunEntry := []
  instances : List InstanceEntry := []
deriving DecidableEq

def Scenario.run? (scenario : Scenario) (name : String) : Option RunEntry :=
  scenario.runs.find? (·.run == name)

end RunGate
