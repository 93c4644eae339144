import RunGate.Text.LowerCase

namespace RunGate

/-- Life-cycle state of a task instance. An undecided instance exists, but nothing has been done
with it yet. -/
inductive TaskState
  | undecided
  | scheduled
  | queued
  | running
  | success
  | failed
  | skipped
  | dependencyFailed
  | upForRetry
  | upForReschedule
  | removed
  | restarting
  | deferred
deriving DecidableEq

namespace TaskState

def all : List TaskState :=
  [undecided, scheduled, queued, running, success, failed, skipped, dependencyFailed, upForRetry,
    upForReschedule, removed, restarting, deferred]

def name : TaskState → String
  | undecided => "none"
  | scheduled => "scheduled"
  | queued => "queued"
  | running => "running"
  | success => "success"
  | failed => "failed"
  | skipped => "skipped"
  | dependencyFailed => "upstream_failed"
  | upForRetry => "up_for_retry"
  | upForReschedule => "up_for_reschedule"
  | removed => "removed"
  | restarting => "restarting"
  | deferred => "deferred"

/-- States in which an earlier instance does not hold back a later one: success and skipped. -/
def done : TaskState → Bool
  | success | skipped => true
  | _ => false

/-- States from which an instance may start. A worker sees `queued` right before it starts. -/
def runnable : List TaskState := [undecided, upForRetry, upForReschedule, queued]

/-- States from which an instance may be handed to an executor. -/
def queueable : List TaskState := [scheduled]

def named? (text : String) : Option TaskState :=
  all.find? (·.name == text)

/-- The state a text names, whatever its case and surrounding white space; the error is the text
that names none, in lower case and trimmed. -/
def read (text : String) : Except String TaskState :=
  let wanted := Text.fold text
  match named? wanted with
  | some state => .ok state
  | none => .error wanted

def unknownText (folded : String) : String :=
  "invalid task instance state: " ++ folded

theorem mem_all (state : TaskState) : state ∈ all := by
  cases state <;> decide

theorem named?_name (state : TaskState) : named? state.name = some state := by
  cases state <;> rfl

end TaskState

inductive RunState
  | queued
  | running
  | success
  | failed
deriving DecidableEq

namespace RunState

def all : List RunState := [queued, running, success, failed]

def name : RunState → String
  | queued => "queued"
  | running => "running"
  | success => "success"
  | failed => "failed"

def named? (text : String) : Option RunState :=
  all.find? (·.name == text)

theorem named?_name (state : RunState) : named? state.name = some state := by
  cases state <;> rfl

end RunState

end RunGate
