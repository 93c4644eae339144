import RunGate.Text.LowerCase

namespace RunGate

/-- How the statuses of an evaluation are consumed. -/
inductive Mode
  /-- Stop at the first failure; any failure denies. -/
  | admission
  /-- Ask every check; any failure denies. -/
  | explain
  /-- Ask every check; only failures that cannot be waived deny. -/
  | hardBlockersOnly
deriving DecidableEq

namespace Mode

def all : List Mode := [admission, explain, hardBlockersOnly]

def name : Mode → String
  | admission => "admission"
  | explain => "explain"
  | hardBlockersOnly => "hard_blockers_only"

def label : Mode → String
  | admission => "Admission"
  | explain => "Explain"
  | hardBlockersOnly => "HardBlockersOnly"

def named? (text : String) : Option Mode :=
  all.find? (·.name == text)

/-- The mode a text names, whatever its case and surrounding white space, with a hyphen as good as
an underscore; the error is the folded text that names none. -/
def read (text : String) : Except String Mode :=
  let wanted := (Text.fold text).map fun c => if c == '-' then '_' else c
  match named? wanted with
  | some mode => .ok mode
  | none => .error wanted

def unknownText (folded : String) : String :=
  "invalid evaluation mode: " ++ folded ++
    " (expected \"admission\", \"explain\" or \"hard_blockers_only\")"

theorem named?_name (mode : Mode) : named? mode.name = some mode := by
  cases mode <;> rfl

end Mode

/-- A named list of checks. -/
inductive Preset
  /-- What is asked before an instance may start. -/
  | runnable
  /-- What is asked before an instance is handed to an executor. -/
  | queueable
deriving DecidableEq

namespace Preset

def all : List Preset := [runnable, queueable]

def name : Preset → String
  | runnable => "runnable"
  | queueable => "queueable"

def label : Preset → String
  | runnable => "Runnable"
  | queueable => "Queueable"

def named? (text : String) : Option Preset :=
  all.find? (·.name == text)

theorem named?_name (preset : Preset) : named? preset.name = some preset := by
  cases preset <;> rfl

end Preset

end RunGate
