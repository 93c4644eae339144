import RunGate.Admission.Duration
import RunGate.Admission.Polling
import RunGate.CommandLine.Args
import RunGate.CommandLine.LogLevel
import RunGate.CommandLine.Report
import RunGate.Scenario.Validation

/-! One run of the command line, from its arguments to its exit code. The scenario file is read once
at the start and once more for every attempt. What parses the file and the arguments is given; the
program uses `Scenario.read` and `Args.read`. -/

namespace RunGate

/-- Why a run of the command line fails. -/
inductive Failure
  | loading (path : String) (fault : Fault)
  | badInterval (fault : DurationFault)
  | evaluating (fault : Fault)
deriving DecidableEq

namespace Failure

/-- What went wrong, the outermost description first and then its causes. -/
def chain : Failure → List String
  | loading path fault => ("loading scenario " ++ path) :: fault.message :: fault.cause.toList
  | badInterval fault => ["invalid --poll: " ++ fault.message]
  | evaluating fault => fault.message :: fault.cause.toList

/-- A text with every line but the first behind a margin. -/
def indented (margin : String) (text : String) : String :=
  String.ofList (text.toList.flatMap fun c => if c == '\n' then c :: margin.toList else [c])

/-- The causes, one below the other; several of them are numbered. -/
def causeLines : List String → List String
  | [cause] => ["    " ++ indented "    " cause]
  | causes => causes.zipIdx.map fun (cause, index) =>
      let number := toString index
      "".pushn ' ' (5 - number.length) ++ number ++ ": " ++ indented "       " cause

def text (failure : Failure) : String :=
  match failure.chain with
  | [] => ""
  | [only] => only
  | outer :: causes => "\n".intercalate ([outer, "", "Caused by:"] ++ causeLines causes)

end Failure

/-- Everything that the command line needs for polling. -/
structure Session where
  path : String
  request : Request
  waivers : Waivers
  gate : Gate

namespace Session

def load (session : Session) (parse : String → Except Fault Scenario) (contents : Option String) :
    Journal Snapshot := do
  let scenario ← Journal.lift (Scenario.load parse contents)
  Snapshot.ofScenario scenario session.request session.waivers

/-- The end of a run: its decision, if there is one, and what it prints. -/
structure Ending where
  result : Except Failure (Option Decision)
  output : String
  events : List Event

/-- How a run begins: at its end already, or with a session of polling and the events so far. -/
inductive Start
  | ended (ending : Ending)
  | polling (session : Session) (events : List Event)

def interval (args : Args) : Except DurationFault (Option Nat) :=
  match args.poll with
  | none => .ok none
  | some text => (Duration.read text).map some

/-- Begin a run with the contents of the scenario file. The mode and the preset are settled here. -/
def start (parse : String → Except Fault Scenario) (args : Args) (contents : Option String) :
    Start :=
  match Scenario.load parse contents with
  | .error fault => .ended ⟨.error (.loading args.scenario fault), "", []⟩
  | .ok scenario =>
    if args.dryRun then .ended ⟨.ok none, scenario.overview, [.dryRunComplete]⟩
    else
      match interval args with
      | .error fault => .ended ⟨.error (.badInterval fault), "", []⟩
      | .ok interval =>
        let mode := args.mode.getD scenario.settings.mode
        .polling {
          path := args.scenario
          request := ⟨args.task, args.run, args.mapIndex⟩
          waivers := args.waivers
          gate := {
            evaluator := Evaluator.ofPreset scenario.settings.preset mode
            options := ⟨interval, args.maxPolls⟩ } } [.evaluating]

/-- The end of a run after the end of its polling. -/
def finish (session : Session) (result : Except Fault Decision) (events : List Event) : Ending :=
  match result with
  | .error fault => ⟨.error (.evaluating fault), "", events⟩
  | .ok decision => ⟨.ok (some decision), decision.report session.request, events⟩

/-- A whole run on a sequence of contents, with at most so many attempts; nothing if that does not
suffice. -/
def run (parse : String → Except Fault Scenario) (args : Args) (contents : Nat → Option String)
    (rounds : Nat) : Option Ending :=
  match start parse args (contents 0) with
  | .ended ending => some ending
  | .polling session events =>
    (session.gate.poll (fun number => session.load parse (contents (number + 1))) rounds).map
      fun polled => session.finish polled.result (events ++ polled.events)

/-- The exit code: 0 for an admission or a mere overview, 2 for a denial, 1 for a failure. -/
def Ending.exitCode (ending : Ending) : Nat :=
  match ending.result with
  | .error _ => 1
  | .ok none => 0
  | .ok (some decision) => if decision.admitted then 0 else 2

/-- What is written to the error stream about a failure. -/
def Ending.errorText (ending : Ending) : Option String :=
  match ending.result with
  | .error failure => some ("tideps error: " ++ failure.text)
  | .ok _ => none

end Session

/-- What a run of the command line shows: its exit code, what it prints, its error and the levels of
the events it logs. -/
structure Transcript where
  exitCode : Nat
  output : String
  error : Option String
  log : List Level

def versionText : String := "tideps 0.1.0\n"

/-- The transcript of arguments that yield nothing to evaluate. -/
def ArgsFault.transcript : ArgsFault → Transcript
  | help => ⟨0, "", none, []⟩
  | version => ⟨0, versionText, none, []⟩
  | _ => ⟨2, "", none, []⟩

/-- The transcript of a run, given its arguments, the setting of the environment for logging, and
the contents of scenario files by path and by number of reading. -/
def transcript (parse : String → Except Fault Scenario)
    (parseArgs : List String → Except ArgsFault Args) (arguments : List String)
    (environment : Option String) (contents : String → Nat → Option String) (rounds : Nat) :
    Option Transcript :=
  match parseArgs arguments with
  | .error fault => some fault.transcript
  | .ok args =>
    (Session.run parse args (contents args.scenario) rounds).map fun ending =>
      let level := Level.choose args.logLevel environment
      ⟨ending.exitCode, ending.output, ending.errorText, (shown level ending.events).map (·.level)⟩

end RunGate
