import RunGate.Scenario.Basic

namespace RunGate

namespace Scenario

/-- A workflow of that name with catch-up, and nothing else. -/
def named (name : String) : Scenario where
  workflow := ⟨name, true, none⟩

/-- Whether runs follow one another by execution date. -/
def withCatchup (scenario : Scenario) (catchup : Bool) : Scenario :=
  { scenario with workflow := { scenario.workflow with catchup } }

/-- Set the start date of tasks without their own. -/
def withStartDate (scenario : Scenario) (date : Instant) : Scenario :=
  { scenario with workflow := { scenario.workflow with startDate := some date } }

def withMode (scenario : Scenario) (mode : Mode) : Scenario :=
  { scenario with settings := { scenario.settings with mode } }

def withPreset (scenario : Scenario) (preset : Preset) : Scenario :=
  { scenario with settings := { scenario.settings with preset } }

def withWaivers (scenario : Scenario) (waivers : Waivers) : Scenario :=
  { scenario with waivers }

/-- Add a task, in the place of one with its name. -/
def withTask (scenario : Scenario) (name : String) (spec : TaskSpec) : Scenario :=
  { scenario with tasks := scenario.tasks.insert name spec }

def withRun (scenario : Scenario) (run : String) (date : Instant) (state : RunState) : Scenario :=
  { scenario with runs := scenario.runs ++ [⟨run, date, state⟩] }

def withInstance (scenario : Scenario) (task run : String) (state : TaskState)
    (mapIndex : Int := unmapped) : Scenario :=
  { scenario with instances := scenario.instances ++ [⟨task, run, mapIndex, state⟩] }

end Scenario

end RunGate
