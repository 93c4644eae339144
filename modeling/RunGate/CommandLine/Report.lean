import RunGate.Admission.Decision
import RunGate.Admission.Snapshot
import RunGate.Text.Quoted

namespace RunGate

def textOfLines (lines : List String) : String :=
  String.join (lines.map (· ++ "\n"))

namespace Decision

def headLine (request : Request) (decision : Decision) : String :=
  "task instance " ++ request.task ++ " in run " ++ request.run ++ " (map_index=" ++
    toString request.mapIndex ++ "), mode " ++ decision.mode.label

/-- The line of a status; a failure that can be waived is marked. -/
def statusLine (status : Status) : String :=
  "  " ++ status.text ++ if !status.passed && status.waivable then " (ignorable)" else ""

def verdictLine (decision : Decision) : String :=
  "decision: " ++ if decision.admitted then "ADMITTED" else "DENIED"

/-- The lines of a report: what was asked, every status in order, and the verdict. -/
def reportLines (request : Request) (decision : Decision) : List String :=
  decision.headLine request :: decision.statuses.map statusLine ++ [decision.verdictLine]

def report (request : Request) (decision : Decision) : String :=
  textOfLines (decision.reportLines request)

end Decision

def Waivers.text (waivers : Waivers) : String :=
  "DepContext \x7b " ++
    ", ".intercalate (waivers.flags.map fun (name, value) =>
      name ++ ": " ++ if value then "true" else "false") ++ " \x7d"

namespace Scenario

/-- The lines on a task: its name, and the settings that differ from their defaults. -/
def taskLines (name : String) (spec : TaskSpec) : List String :=
  let setting (present : Bool) (line : String) : List String :=
    if present then ["      " ++ line] else []
  ["  - " ++ name] ++
    setting (!spec.after.isEmpty) ("after: " ++ Text.quotedList spec.after) ++
    setting spec.dependsOnPast "depends_on_past: true" ++
    setting spec.waitForDownstream "wait_for_downstream: true" ++
    setting spec.ignoreFirst "ignore_first_depends_on_past: true" ++
    spec.startDate.toList.map fun date => "      start_date: " ++ date.text

def runLine (entry : RunEntry) : String :=
  "  - " ++ entry.run ++ " @ " ++ entry.date.text ++ " [" ++ entry.state.name ++ "]"

def instanceLine (entry : InstanceEntry) : String :=
  "  - " ++ entry.task ++ " in " ++ entry.run ++ " (map_index=" ++ toString entry.mapIndex ++
    ") [" ++ entry.state.name ++ "]"

def overview (scenario : Scenario) : String :=
  textOfLines (
    ["tideps dry-run",
      "  config.mode = " ++ scenario.settings.mode.label,
      "  config.deps = " ++ scenario.settings.preset.label,
      "  context = " ++ scenario.waivers.text,
      "",
      "dag " ++ scenario.workflow.name ++ " (catchup = " ++
        (if scenario.workflow.catchup then "true" else "false") ++ "):"] ++
    scenario.tasks.entries.flatMap (fun (name, spec) => taskLines name spec) ++
    ["", "dag runs (" ++ toString scenario.runs.length ++ "):"] ++
    scenario.runs.map runLine ++
    ["", "task instances (" ++ toString scenario.instances.length ++ "):"] ++
    scenario.instances.map instanceLine)

end Scenario

end RunGate
