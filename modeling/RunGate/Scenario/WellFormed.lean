import RunGate.Scenario.Validation

namespace RunGate

namespace Scenario

/-- One task names another among those that it comes after. -/
def After (scenario : Scenario) (task dependency : String) : Prop :=
  ∃ spec, (task, spec) ∈ scenario.tasks.entries ∧ dependency ∈ spec.after

/-- One task comes after another, directly or through others. -/
inductive Follows (scenario : Scenario) : String → String → Prop where
  | step {task dependency : String} (listed : scenario.After task dependency) :
      Follows scenario task dependency
  | further {task middle dependency : String} (listed : scenario.After task middle)
      (rest : Follows scenario middle dependency) : Follows scenario task dependency

/-- There are tasks and the workflow has a name; dependencies are other tasks and lead in no
circle; runs differ in name and in date; instances are of listed tasks and runs and differ in
their keys. -/
structure WellFormed (scenario : Scenario) : Prop where
  hasTask : scenario.tasks.names ≠ []
  hasName : ∃ c ∈ scenario.workflow.name.toList, Text.isBlank c = false
  listedDependencies : ∀ task dependency, scenario.After task dependency →
    dependency ∈ scenario.tasks.names ∧ dependency ≠ task
  noCircle : ∀ task, ¬ scenario.Follows task task
  runNames : (scenario.runs.map (·.run)).Nodup
  runDates : (scenario.runs.map (·.date)).Nodup
  listedInstances : ∀ entry ∈ scenario.instances, entry.task ∈ scenario.tasks.names ∧
    entry.run ∈ scenario.runs.map (·.run) ∧ unmapped ≤ entry.mapIndex
  instanceKeys :
    (scenario.instances.map fun entry => (entry.task, entry.run, entry.mapIndex)).Nodup

end Scenario

end RunGate
