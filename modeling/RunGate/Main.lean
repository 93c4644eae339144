import RunGate.CommandLine.Session

namespace RunGate

def usage : String :=
  textOfLines [
    "Explain whether a task instance may run, given its DAG's run history.",
    "",
    "Usage: tideps [OPTIONS] --task <ID> --run-id <ID>",
    "",
    "Options:",
    "      --scenario <PATH>         Path to the scenario file (TOML) [default: Tideps.toml]",
    "      --task <ID>               Task id of the instance to evaluate",
    "      --run-id <ID>             Run id of the DAG run the instance belongs to",
    "      --map-index <N>           Map index of the instance (-1 for unmapped) [default: -1]",
    "      --mode <MODE>             admission, explain or hard-blockers-only",
    "      --ignore-all-deps",
    "      --ignore-depends-on-past",
    "      --ignore-task-deps",
    "      --ignore-ti-state",
    "      --wait-for-past-depends   Record when the past-dependency check passes",
    "      --poll <DURATION>         Re-evaluate on this interval (e.g. \"5s\") until admitted",
    "      --max-polls <N>           Give up after this many attempts when polling",
    "      --log-level <LEVEL>       error, warn, info, debug or trace",
    "      --dry-run                 Print the scenario, but don't evaluate anything",
    "  -h, --help                    Print help",
    "  -V, --version                 Print version"]

def ArgsFault.message : ArgsFault → String
  | help => usage
  | version => versionText
  | missingArgument => "error: a required argument was not provided\n"
  | unknownArgument => "error: unexpected argument found\n"
  | missingValue => "error: a value is missing or not allowed\n"
  | unreadableValue => "error: a value cannot be read\n"
  | repeated => "error: an argument cannot be used multiple times\n"
  | needlessValue => "error: unexpected value for an argument\n"

/-- The contents of a file, if it can be read. -/
def contentsOf (path : String) : IO (Option String) := do
  try
    return some (← IO.FS.readFile path)
  catch _ =>
    return none

def writeEvents (level : Level) (events : List Event) : IO Unit := do
  for event in shown level events do
    IO.eprintln (event.level.label ++ " tideps: " ++ event.message)

/-- Poll until polling ends. -/
partial def pollLoop (level : Level) (session : Session) (poller : Poller) :
    IO (Except Fault Decision) := do
  let (step, events) := poller.step (session.load Scenario.read (← contentsOf session.path))
  writeEvents level events
  match step with
  | .ended result => return result
  | .paused after interval =>
    IO.sleep (UInt32.ofNat (min interval 4294967295))
    pollLoop level session after

def runArgs (args : Args) : IO UInt32 := do
  let level := Level.choose args.logLevel (← IO.getEnv "TIDEPS_LOG")
  let ending ← match Session.start Scenario.read args (← contentsOf args.scenario) with
    | .ended ending => do
      writeEvents level ending.events
      pure ending
    | .polling session events => do
      writeEvents level (events ++ [.pollingStarted])
      pure (session.finish (← pollLoop level session session.gate.poller) [])
  IO.print ending.output
  if let some text := ending.errorText then IO.eprintln text
  return UInt32.ofNat ending.exitCode

end RunGate

open RunGate in
def main (arguments : List String) : IO UInt32 := do
  match Args.read arguments with
  | .ok args => runArgs args
  | .error fault =>
    if fault.transcript.exitCode = 0 then IO.print fault.message
    else IO.eprint fault.message
    return UInt32.ofNat fault.transcript.exitCode
