import RunGate.History.Basic

namespace RunGate

/-- A call that changes a history. -/
inductive Change
  | createRun (workflow name : String) (date : Instant) (state : RunState)
  | upsert (subject : TaskInstance)
  | setState (key : InstanceKey) (state : TaskState)
  | recordFlag (key : InstanceKey) (flag : String) (value : Bool)
deriving DecidableEq

namespace History

/-- Make a change: its answer, which is the new run where one is created, and the history
afterwards. -/
def change (history : History) : Change → Except Fault (Option Run) × History
  | .createRun workflow name date state =>
    let (created, after) := history.createRun workflow name date state
    (created.map some, after)
  | .upsert subject =>
    let (stored, after) := history.upsert subject
    (stored.map fun _ => none, after)
  | .setState key state =>
    let (restated, after) := history.setState key state
    (restated.map fun _ => none, after)
  | .recordFlag key flag value => (.ok none, history.recordFlag key flag value)

/-- The history after changes made one after another, whether they succeed or fail. -/
def afterChanges (history : History) (changes : List Change) : History :=
  changes.foldl (fun current change => (current.change change).2) history

/-- A history that some changes of the empty one lead to. -/
def Reachable (history : History) : Prop :=
  ∃ changes, history = empty.afterChanges changes

end History

end RunGate
