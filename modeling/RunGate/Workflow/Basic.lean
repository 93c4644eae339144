import RunGate.Workflow.Graph
import RunGate.Workflow.Run
import RunGate.Scenario.Basic
import RunGate.Fault

namespace RunGate

structure Task where
  name : String
  workflow : String
  dependsOnPast : Bool
  waitForDownstream : Bool
  ignoreFirst : Bool
  startDate : Option Instant
  /-- Whether the runs of the workflow follow one another by execution date. -/
  catchup : Bool
  /-- The tasks right after this one, in ascending order. -/
  downstream : List String
deriving DecidableEq

structure Workflow where
  name : String
  catchup : Bool
  startDate : Option Instant
  tasks : Table Task

/-- An instance together with the definition of its task: what a check looks at. -/
structure Target where
  subject : TaskInstance
  task : Task

namespace Scenario

def graph (scenario : Scenario) : Graph :=
  ⟨scenario.tasks.map fun _ spec => spec.after⟩

/-- A task with its flags settled: waiting for downstream tasks implies depending on the past, and
the start date of the workflow stands in for a missing one. -/
def task (scenario : Scenario) (name : String) (spec : TaskSpec) : Task where
  name := name
  workflow := scenario.workflow.name
  dependsOnPast := spec.dependsOnPast || spec.waitForDownstream
  waitForDownstream := spec.waitForDownstream
  ignoreFirst := spec.ignoreFirst
  startDate := spec.startDate <|> scenario.workflow.startDate
  catchup := scenario.workflow.catchup
  downstream := scenario.graph.downstreamOf name

end Scenario

namespace Workflow

def ofScenario (scenario : Scenario) : Workflow where
  name := scenario.workflow.name
  catchup := scenario.workflow.catchup
  startDate := scenario.workflow.startDate
  tasks := scenario.tasks.map scenario.task

def task (workflow : Workflow) (name : String) : Except Fault Task :=
  match workflow.tasks.get? name with
  | some task => .ok task
  | none => .error (.unknownTask workflow.name name)

def target (workflow : Workflow) (subject : TaskInstance) : Except Fault Target :=
  if subject.key.workflow = workflow.name then
    (workflow.task subject.key.task).map fun task => ⟨subject, task⟩
  else .error (.foreignInstance subject workflow.name)

end Workflow

end RunGate
