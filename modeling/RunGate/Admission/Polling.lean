import RunGate.Admission.Decision
import RunGate.Admission.Snapshot

namespace RunGate

/-- How to poll: the milliseconds between attempts, without which there is one attempt only, and
the number of attempts after which to give up. -/
structure PollOptions where
  interval : Option Nat := none
  maxAttempts : Option UInt32 := none
deriving DecidableEq

structure Attempt where
  decision : Decision
  number : UInt32
  again : Bool
deriving DecidableEq

/-- The state between attempts. The number of attempts so far counts modulo `2 ^ 32`. -/
structure Gate where
  evaluator : Evaluator
  options : PollOptions
  attempts : UInt32 := 0

namespace Gate

def spent (gate : Gate) : Bool :=
  gate.options.maxAttempts.any fun limit => limit ≤ gate.attempts

def counted (gate : Gate) : Gate :=
  { gate with attempts := gate.attempts + 1 }

def conclude (gate : Gate) (decision : Decision) : Attempt where
  decision := decision
  number := gate.attempts
  again := !decision.admitted && gate.options.interval.isSome && !gate.spent

/-- The events that an attempt logs after its decision. -/
def verdictEvents (gate : Gate) (decision : Decision) : List Event :=
  if decision.admitted then [.admitted]
  else decision.blocking.map (fun _ => .blocked) ++ if gate.spent then [.limitReached] else []

/-- Evaluate the instance of a snapshot on the history of the snapshot: the end of the evaluation
and the history afterwards. -/
def evaluate (evaluator : Evaluator) (snapshot : Snapshot) : Outcome History Decision :=
  match snapshot.workflow.target snapshot.subject with
  | .error fault => ⟨.error fault, snapshot.history, [], []⟩
  | .ok target =>
    (evaluator.evaluate target snapshot.waivers).run History.store snapshot.history

/-- Make one attempt. The attempt counts even if it fails. -/
def attempt (gate : Gate) (snapshot : Snapshot) : Gate × Outcome History Attempt :=
  let gate := gate.counted
  let outcome := evaluate gate.evaluator snapshot
  match outcome.result with
  | .error fault => (gate, ⟨.error fault, outcome.state, outcome.calls, outcome.events⟩)
  | .ok decision =>
    (gate, ⟨.ok (gate.conclude decision), outcome.state, outcome.calls,
      outcome.events ++ gate.verdictEvents decision⟩)

end Gate

/-- What polls: a gate, and the options that settle the pauses between its attempts. -/
structure Poller where
  gate : Gate
  options : PollOptions

namespace Poller

/-- Where polling stands after a load: at its end, or before a pause and another load. -/
inductive Step
  | ended (result : Except Fault Decision)
  | paused (poller : Poller) (interval : Nat)

/-- One round of polling: a loaded snapshot, and the attempt on it. -/
def step (poller : Poller) (load : Journal Snapshot) : Step × List Event :=
  match load.result with
  | .error fault => (.ended (.error fault), load.events)
  | .ok snapshot =>
    let (after, outcome) := poller.gate.attempt snapshot
    let events := load.events ++ outcome.events
    match outcome.result with
    | .error fault => (.ended (.error fault), events)
    | .ok attempt =>
      match poller.options.interval with
      | none => (.ended (.ok attempt.decision), events ++ [.attemptFinished, .pollingEnded])
      | some interval =>
        if attempt.again then
          (.paused { poller with gate := after } interval, events ++ [.attemptFinished])
        else (.ended (.ok attempt.decision), events ++ [.attemptFinished, .pollingEnded])

/-- The end of polling, how many loads it took, and the events logged. -/
structure Polled where
  result : Except Fault Decision
  loads : Nat
  events : List Event

/-- Poll on a sequence of loads, of which number `next` comes next, for at most so many rounds;
nothing if that does not suffice. -/
def pollFrom (source : Nat → Journal Snapshot) : Nat → Nat → Poller → Option Polled
  | 0, _, _ => none
  | rounds + 1, next, poller =>
    match poller.step (source next) with
    | (.ended result, events) => some ⟨result, next + 1, events⟩
    | (.paused after _, events) =>
      (pollFrom source rounds (next + 1) after).map fun later =>
        { later with events := events ++ later.events }

/-- Poll on a sequence of loads for at most so many rounds. -/
def poll (poller : Poller) (source : Nat → Journal Snapshot) (rounds : Nat) : Option Polled :=
  (pollFrom source rounds 0 poller).map fun polled =>
    { polled with events := .pollingStarted :: polled.events }

end Poller

namespace Gate

/-- The poller of a gate, which pauses as the options of the gate say. -/
def poller (gate : Gate) : Poller := ⟨gate, gate.options⟩

/-- Poll with a gate on a sequence of loads for at most so many rounds. -/
def poll (gate : Gate) (source : Nat → Journal Snapshot) (rounds : Nat) : Option Poller.Polled :=
  gate.poller.poll source rounds

end Gate

end RunGate
