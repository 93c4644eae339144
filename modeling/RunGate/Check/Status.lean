import RunGate.Check.Reason

namespace RunGate

inductive CheckKind
  | previousRun
  | instanceState
  | notRunning
  | runActive
deriving DecidableEq

namespace CheckKind

def label : CheckKind → String
  | previousRun => "Previous Dagrun State"
  | instanceState => "Task Instance State"
  | notRunning => "Task Instance Not Running"
  | runActive => "Dagrun Running"

def waivable : CheckKind → Bool
  | notRunning => false
  | _ => true

/-- Whether the check concerns the task's own dependencies. -/
def ofTask : CheckKind → Bool
  | previousRun => true
  | _ => false

end CheckKind

structure Status where
  kind : CheckKind
  reason : Reason
deriving DecidableEq

namespace Status

def passed (status : Status) : Bool :=
  status.reason.passes

def waivable (status : Status) : Bool :=
  status.kind.waivable

def text (status : Status) : String :=
  "[" ++ (if status.passed then "PASS" else "FAIL") ++ "] " ++ status.kind.label ++ ": " ++
    status.reason.text

end Status

end RunGate
