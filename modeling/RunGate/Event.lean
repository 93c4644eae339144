namespace RunGate

/-- How serious an event is, from the most serious down. -/
inductive Level
  | error
  | warn
  | info
  | debug
  | trace
deriving DecidableEq

namespace Level

/-- Every level, the most serious first. -/
def all : List Level := [error, warn, info, debug, trace]

def name : Level → String
  | error => "error"
  | warn => "warn"
  | info => "info"
  | debug => "debug"
  | trace => "trace"

def label : Level → String
  | error => "ERROR"
  | warn => "WARN"
  | info => "INFO"
  | debug => "DEBUG"
  | trace => "TRACE"

def rank : Level → Nat
  | error => 0
  | warn => 1
  | info => 2
  | debug => 3
  | trace => 4

def named? (text : String) : Option Level :=
  all.find? (·.name == text)

end Level

/-- Something worth logging. -/
inductive Event
  | runCreated
  | dryRunComplete
  | evaluating
  | pollingStarted
  | pollingEnded
  | freshInstance
  | statusSeen
  | stoppedEarly
  | evaluated
  | attemptFinished
  | admitted
  | blocked
  | limitReached
  | runActive
  | pastIgnored
  | noRun
  | noPreviousRun
  | previousRunTooEarly
  | earlierInstances
deriving DecidableEq

namespace Event

def level : Event → Level
  | blocked | noRun => .warn
  | evaluating | pollingStarted | pollingEnded | evaluated | admitted | limitReached => .info
  | _ => .debug

def message : Event → String
  | runCreated => "created dag run"
  | dryRunComplete => "dry-run complete (no evaluation)"
  | evaluating => "evaluating task instance"
  | pollingStarted => "tideps runtime started"
  | pollingEnded => "runtime exiting"
  | freshInstance => "task instance not in history; evaluating a fresh one"
  | statusSeen => "dependency status"
  | stoppedEarly => "short-circuiting on blocking failure"
  | evaluated => "dependency evaluation finished"
  | attemptFinished => "admission attempt finished"
  | admitted => "task instance admitted"
  | blocked => "task instance blocked"
  | limitReached => "attempt limit reached; giving up"
  | runActive => "dag run is running"
  | pastIgnored => "past dependencies ignored by context"
  | noRun => "task instance has no dag run; letting it through"
  | noPreviousRun => "no previous dag run"
  | previousRunTooEarly => "previous dag run predates the task's start_date"
  | earlierInstances => "earlier instances exist; not a first run"

end Event

def shown (level : Level) (events : List Event) : List Event :=
  events.filter fun event => event.level.rank ≤ level.rank

end RunGate
