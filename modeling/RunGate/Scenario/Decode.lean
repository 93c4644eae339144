import RunGate.Scenario.Basic
import RunGate.Scenario.Shape
import RunGate.Toml.Document

namespace RunGate

open Toml (Value)
open Shape (Record)

namespace Scenario

def settingsRecord : Record Settings where
  title := "struct ConfigSection"
  fields := [
    ("mode", fun draft value => do
      pure { draft with mode := ← Shape.variant Mode.name Mode.all value }),
    ("deps", fun draft value => do
      pure { draft with preset := ← Shape.variant Preset.name Preset.all value })]
  required := []

def waiversRecord : Record Waivers where
  title := "struct DepContext"
  fields := [
    ("ignore_all_deps", fun draft value => do
      pure { draft with ignoreAllChecks := ← Shape.boolean value }),
    ("ignore_depends_on_past", fun draft value => do
      pure { draft with ignorePast := ← Shape.boolean value }),
    ("ignore_task_deps", fun draft value => do
      pure { draft with ignoreTaskChecks := ← Shape.boolean value }),
    ("ignore_ti_state", fun draft value => do
      pure { draft with ignoreState := ← Shape.boolean value }),
    ("wait_for_past_depends_before_skipping", fun draft value => do
      pure { draft with recordPast := ← Shape.boolean value })]
  required := []

def workflowRecord : Record WorkflowSpec where
  title := "struct DagSection"
  fields := [
    ("dag_id", fun draft value => do pure { draft with name := ← Shape.text value }),
    ("catchup", fun draft value => do pure { draft with catchup := ← Shape.boolean value }),
    ("start_date", fun draft value => do
      pure { draft with startDate := some (← Shape.date value) })]
  required := ["dag_id"]

def taskRecord : Record TaskSpec where
  title := "struct TaskConfig"
  fields := [
    ("after", fun draft value => do pure { draft with after := ← Shape.list Shape.text value }),
    ("depends_on_past", fun draft value => do
      pure { draft with dependsOnPast := ← Shape.boolean value }),
    ("wait_for_downstream", fun draft value => do
      pure { draft with waitForDownstream := ← Shape.boolean value }),
    ("ignore_first_depends_on_past", fun draft value => do
      pure { draft with ignoreFirst := ← Shape.boolean value }),
    ("start_date", fun draft value => do
      pure { draft with startDate := some (← Shape.date value) })]
  required := []

def runRecord : Record RunEntry where
  title := "struct DagRunConfig"
  fields := [
    ("run_id", fun draft value => do pure { draft with run := ← Shape.text value }),
    ("execution_date", fun draft value => do pure { draft with date := ← Shape.date value }),
    ("state", fun draft value => do
      pure { draft with state := ← Shape.variant RunState.name RunState.all value })]
  required := ["run_id", "execution_date"]

def instanceRecord : Record InstanceEntry where
  title := "struct TaskInstanceConfig"
  fields := [
    ("task_id", fun draft value => do pure { draft with task := ← Shape.text value }),
    ("run_id", fun draft value => do pure { draft with run := ← Shape.text value }),
    ("map_index", fun draft value => do pure { draft with mapIndex := ← Shape.integer value }),
    ("state", fun draft value => do
      pure { draft with state := ← Shape.variant TaskState.name TaskState.all value })]
  required := ["task_id", "run_id"]

def taskSpec : Value → Except ShapeFault TaskSpec :=
  taskRecord.fill {}

/-- The tasks by name, read in the order of the names. A date takes the place of a table with one
entry. -/
def taskTable : Value → Except ShapeFault (Table TaskSpec)
  | .table entries => do
    let tasks ← (Table.ofList entries).entries.mapM fun (name, value) => do
      pure (name, ← taskSpec value)
    pure (Table.ofList tasks)
  | .moment text => do
    let _ ← taskSpec (.text text)
    pure .empty
  | value => Shape.mismatch value "a map"

def documentRecord : Record Scenario where
  title := "struct RawConfigFile"
  fields := [
    ("config", fun draft value => do
      pure { draft with settings := ← settingsRecord.fill {} value }),
    ("context", fun draft value => do
      pure { draft with waivers := ← waiversRecord.fill {} value }),
    ("dag", fun draft value => do
      pure { draft with workflow := ← workflowRecord.fill ⟨"", true, none⟩ value }),
    ("task", fun draft value => do pure { draft with tasks := ← taskTable value }),
    ("dag_run", fun draft value => do
      pure { draft with runs := ← Shape.list (runRecord.fill ⟨"", default, .running⟩) value }),
    ("task_instance", fun draft value => do
      let entry := instanceRecord.fill ⟨"", "", unmapped, .undecided⟩
      pure { draft with instances := ← Shape.list entry value })]
  required := ["dag"]

/-- The scenario that a table of TOML values describes. -/
def ofValue (document : Value) : Except ShapeFault Scenario :=
  documentRecord.fill ⟨{}, {}, ⟨"", true, none⟩, .empty, [], []⟩ document

end Scenario

end RunGate
