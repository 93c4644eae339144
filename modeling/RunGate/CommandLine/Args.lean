import RunGate.Digits
import RunGate.Event
import RunGate.Mode
import RunGate.Waivers
import RunGate.Scenario.Basic

namespace RunGate

/-- What the command line asks for. -/
structure Args where
  scenario : String
  task : String
  run : String
  mapIndex : Int
  mode : Option Mode
  waivers : Waivers
  poll : Option String
  maxPolls : Option UInt32
  logLevel : Option Level
  dryRun : Bool
deriving DecidableEq

/-- Why arguments yield nothing to evaluate: a wish for help or for the version, or a mistake. -/
inductive ArgsFault
  | help
  | version
  | missingArgument
  | unknownArgument
  | missingValue
  | unreadableValue
  | repeated
  | needlessValue
deriving DecidableEq

namespace Args

inductive Slot
  | scenario
  | task
  | run
  | mapIndex
  | mode
  | poll
  | maxPolls
  | logLevel
deriving DecidableEq

inductive Switch
  | ignoreAllChecks
  | ignorePast
  | ignoreTaskChecks
  | ignoreState
  | recordPast
  | dryRun
deriving DecidableEq

def slots : List (String × Slot) :=
  [("scenario", .scenario), ("task", .task), ("run-id", .run), ("map-index", .mapIndex),
    ("mode", .mode), ("poll", .poll), ("max-polls", .maxPolls), ("log-level", .logLevel)]

def switches : List (String × Switch) :=
  [("ignore-all-deps", .ignoreAllChecks), ("ignore-depends-on-past", .ignorePast),
    ("ignore-task-deps", .ignoreTaskChecks), ("ignore-ti-state", .ignoreState),
    ("wait-for-past-depends", .recordPast), ("dry-run", .dryRun)]

/-- An integer between two bounds, in digits with or without a sign. -/
def integer? (low high : Int) (text : String) : Option Int :=
  let (negative, digits) := match text.toList with
    | '-' :: rest => (true, rest)
    | '+' :: rest => (false, rest)
    | rest => (false, rest)
  if digits.isEmpty || !digits.all Char.isDigit then none
  else
    let magnitude : Int := Digits.value 10 digits
    let value := if negative then -magnitude else magnitude
    if low ≤ value ∧ value ≤ high then some value else none

def mapIndex? (text : String) : Option Int :=
  integer? (-2147483648) 2147483647 text

def maxPolls? (text : String) : Option UInt32 :=
  (integer? 0 4294967295 text).map fun value => UInt32.ofNat value.toNat

def Slot.fault? (slot : Slot) (value : String) : Option ArgsFault :=
  match slot with
  | mapIndex => if (mapIndex? value).isNone then some .unreadableValue else none
  | maxPolls => if (maxPolls? value).isNone then some .unreadableValue else none
  | mode => if (Mode.read value).toOption.isNone then some .unreadableValue else none
  | logLevel => if (Level.named? value).isNone then some .missingValue else none
  | _ => none

/-- The options read so far, and the option that still waits for its value to be settled: with the
value, once it is there. -/
structure Draft where
  values : List (Slot × String) := []
  given : List Switch := []
  pending : Option (Slot × Option String) := none

namespace Draft

/-- Give an option its value. It must not have one yet. -/
def put (draft : Draft) (slot : Slot) (value : String) : Except ArgsFault Draft :=
  if (draft.values.lookup slot).isSome then .error .repeated
  else
    match slot.fault? value with
    | some fault => .error fault
    | none => .ok { draft with values := draft.values ++ [(slot, value)] }

def settle (draft : Draft) : Except ArgsFault Draft :=
  match draft.pending with
  | none => .ok draft
  | some (_, none) => .error .missingValue
  | some (slot, some value) => { draft with pending := none }.put slot value

def turnOn (draft : Draft) (switch : Switch) : Except ArgsFault Draft :=
  if switch ∈ draft.given then .error .repeated
  else .ok { draft with given := draft.given ++ [switch] }

/-- Whether the next argument is a value, whatever it looks like. -/
def takesAnything (draft : Draft) : Bool :=
  draft.pending == some (.mapIndex, none)

end Draft

inductive Word
  /-- Two hyphens, which end the options. -/
  | endOfOptions
  /-- A name after two hyphens, with the value after an equals sign. -/
  | long (name : String) (value : Option String)
  | short (first : Char)
  | plain
deriving DecidableEq

def Word.of (argument : String) : Word :=
  match argument.toList with
  | ['-', '-'] => .endOfOptions
  | '-' :: '-' :: rest =>
    let name := rest.takeWhile (· != '=')
    let value := match rest.dropWhile (· != '=') with
      | [] => none
      | _ :: value => some (String.ofList value)
    .long (String.ofList name) value
  | '-' :: first :: _ => .short first
  | _ => .plain

def takeLong (draft : Draft) (name : String) (value : Option String) : Except ArgsFault Draft :=
  match slots.lookup name, switches.lookup name, value with
  | some slot, _, some value => do (← draft.settle).put slot value
  | some slot, _, none => do pure { ← draft.settle with pending := some (slot, none) }
  | none, some switch, none => do (← draft.settle).turnOn switch
  | none, some _, some _ => .error .needlessValue
  | none, none, _ =>
    if name = "help" || name = "version" then
      if value.isSome then .error .needlessValue
      else do
        let _ ← draft.settle
        .error (if name = "help" then .help else .version)
    else .error .unknownArgument

def takeShort (draft : Draft) (letter : Char) : Except ArgsFault Draft := do
  if letter = 'h' || letter = 'V' then
    let _ ← draft.settle
    .error (if letter = 'h' then .help else .version)
  else .error .unknownArgument

/-- Take an argument that is not an option: the value of the option that waits for one. -/
def takePlain (draft : Draft) (argument : String) : Except ArgsFault Draft :=
  match draft.pending with
  | some (slot, none) => .ok { draft with pending := some (slot, some argument) }
  | _ => .error .unknownArgument

/-- Go through the arguments from left to right. -/
def scan (draft : Draft) : List String → Except ArgsFault Draft
  | [] => draft.settle
  | argument :: rest =>
    if draft.takesAnything then do scan (← takePlain draft argument) rest
    else
      match Word.of argument with
      | .endOfOptions => if rest.isEmpty then draft.settle else .error .unknownArgument
      | .long name value => do scan (← takeLong draft name value) rest
      | .short letter => do scan (← takeShort draft letter) rest
      | .plain => do scan (← takePlain draft argument) rest

def waiversOf (given : List Switch) : Waivers where
  ignoreAllChecks := given.contains .ignoreAllChecks
  ignorePast := given.contains .ignorePast
  ignoreTaskChecks := given.contains .ignoreTaskChecks
  ignoreState := given.contains .ignoreState
  recordPast := given.contains .recordPast

def read (arguments : List String) : Except ArgsFault Args := do
  let draft ← scan {} arguments
  let value (slot : Slot) : Option String := draft.values.lookup slot
  match value .task, value .run with
  | some task, some run =>
    pure {
      scenario := (value .scenario).getD "Tideps.toml"
      task := task
      run := run
      mapIndex := ((value .mapIndex).bind mapIndex?).getD unmapped
      mode := (value .mode).bind fun text => (Mode.read text).toOption
      waivers := waiversOf draft.given
      poll := value .poll
      maxPolls := (value .maxPolls).bind maxPolls?
      logLevel := (value .logLevel).bind Level.named?
      dryRun := draft.given.contains .dryRun }
  | _, _ => .error .missingArgument

end Args

end RunGate
