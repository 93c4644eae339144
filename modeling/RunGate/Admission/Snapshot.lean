import RunGate.History.Basic
import RunGate.Journal
import RunGate.Workflow.Basic

namespace RunGate

/-- Which instance to evaluate. -/
structure Request where
  task : String
  run : String
  mapIndex : Int := unmapped
deriving DecidableEq

/-- Everything that one attempt needs. -/
structure Snapshot where
  workflow : Workflow
  history : History
  subject : TaskInstance
  waivers : Waivers

namespace Snapshot

def key (scenario : Scenario) (request : Request) : InstanceKey :=
  ⟨scenario.workflow.name, request.task, request.run, request.mapIndex⟩

/-- The requested instance: the recorded one, or else a fresh one of the named run. -/
def subjectOf (scenario : Scenario) (request : Request) (history : History) :
    Journal TaskInstance :=
  match history.instance? (key scenario request) with
  | some subject => pure subject
  | none =>
    match scenario.run? request.run with
    | none => Journal.lift (.error (.unknownRun scenario.workflow.name request.run))
    | some run => do
      Journal.log .freshInstance
      pure ⟨key scenario request, run.date, .undecided⟩

/-- The snapshot of a scenario for a request, the waivers added to those of the scenario. -/
def ofScenario (scenario : Scenario) (request : Request) (waivers : Waivers) :
    Journal Snapshot := do
  let workflow := Workflow.ofScenario scenario
  let _ ← Journal.lift (workflow.task request.task)
  let history ← ⟨History.ofScenario scenario, scenario.runs.map fun _ => Event.runCreated⟩
  let subject ← subjectOf scenario request history
  pure ⟨workflow, history, subject, scenario.waivers.merge waivers⟩

end Snapshot

end RunGate
