import RunGate.Scenario.Builder
import RunGate.Scenario.WellFormed
import RunGate.History.Change
import RunGate.History.Store
import RunGate.Main
import RunGate.Proofs.Scenario.Acceptance
import RunGate.Proofs.Admission.Modes
import RunGate.Proofs.Admission.Snapshot
import RunGate.Proofs.Check.PreviousRun
import RunGate.Proofs.History.Consistency
import RunGate.Text.LowerCase
import RunGate.Proofs.Check.Protocol
import RunGate.Proofs.Admission.Abort
import RunGate.Proofs.Admission.Noninterference
import RunGate.Proofs.Admission.Verdict
import RunGate.Proofs.Admission.Leniency
import RunGate.Proofs.Admission.Sequence
import RunGate.Proofs.Admission.Polling
import RunGate.Proofs.History.Walk
import RunGate.Proofs.Scenario.Blame
import RunGate.Proofs.CommandLine.ExitCode
import RunGate.Proofs.CommandLine.Rereading
import RunGate.Proofs.Workflow.Inversion
import RunGate.Proofs.Admission.Progress
import RunGate.Proofs.Admission.Marking
import RunGate.Proofs.Admission.Duration
import RunGate.Proofs.CommandLine.Report
import RunGate.Proofs.Check.Ordering
