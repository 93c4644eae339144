import RunGate.Check.Basic

namespace RunGate

/-- Whether a status denies admission in a mode. -/
def Mode.blocks (mode : Mode) (status : Status) : Bool :=
  !status.passed && (mode != .hardBlockersOnly || !status.waivable)

/-- The outcome of one evaluation: whether the instance is admitted, and every status that was
consumed, in order. -/
structure Decision where
  admitted : Bool
  mode : Mode
  statuses : List Status
deriving DecidableEq

namespace Decision

def failing (decision : Decision) : List Status :=
  decision.statuses.filter (!·.passed)

/-- The statuses that deny admission. -/
def blocking (decision : Decision) : List Status :=
  decision.statuses.filter decision.mode.blocks

def failureReasons (decision : Decision) : List String :=
  decision.failing.map (·.reason.text)

def consider (sofar : Decision) (mode : Mode) (status : Status) : Decision :=
  { sofar with
    admitted := sofar.admitted && !mode.blocks status
    statuses := sofar.statuses ++ [status] }

end Decision

/-- Take one more status into account. In admission mode the first that denies is the last. -/
def weigh (mode : Mode) (item : Except Fault Status) (sofar : Decision) :
    Program (ForInStep Decision) := do
  let status ← Program.ofExcept item
  Program.log .statusSeen
  if mode.blocks status && mode == .admission then do
    Program.log .stoppedEarly
    pure (.done (sofar.consider mode status))
  else pure (.yield (sofar.consider mode status))

/-- Ask the checks one after another; `sofar` decides what was found before. -/
def consume (mode : Mode) (target : Target) (waivers : Waivers) :
    List Check → Decision → Program Decision
  | [], sofar => pure sofar
  | check :: rest, sofar => do
    let items ← check.sequence target waivers
    match ← items.forEach (weigh mode) sofar with
    | .yield now => consume mode target waivers rest now
    | .done now => pure now

/-- Ask the checks in order and decide. -/
def evaluate (mode : Mode) (checks : List Check) (target : Target) (waivers : Waivers) :
    Program Decision := do
  let decision ← consume mode target waivers checks ⟨true, mode, []⟩
  Program.log .evaluated
  pure decision

/-- An ordered list of checks and the mode in which their statuses are consumed. -/
structure Evaluator where
  checks : List Check
  mode : Mode

namespace Evaluator

def ofPreset (preset : Preset) (mode : Mode) : Evaluator :=
  ⟨preset.checks, mode⟩

def evaluate (evaluator : Evaluator) (target : Target) (waivers : Waivers) : Program Decision :=
  RunGate.evaluate evaluator.mode evaluator.checks target waivers

end Evaluator

end RunGate
