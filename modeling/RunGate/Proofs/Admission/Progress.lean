import RunGate.Proofs.Admission.Abort
import RunGate.Proofs.Admission.Verdict
import RunGate.Proofs.Check.PreviousRun
import RunGate.Proofs.History.Progress

/-! Progress in a history never takes an admission back. Where more is done, every check that leaves
admission open goes on leaving it open, and none fails that did not fail before; so an evaluation that
admits goes on admitting, and one that denies has denied while less was done. -/

namespace RunGate

variable {first second history : History} {target : Target} {waivers : Waivers} {mode : Mode}
  {check : Check} {checks : List Check} {sofar other : Decision} {found later : Option Status}
  {fault : Fault} {previous : Run}

namespace Past

private theorem clear_obstacle_of_advances {task : Task} {earlier changed : List TaskInstance}
    (advances : first.Advances second)
    (same : List.Forall₂ TaskInstance.Advances earlier changed)
    (clear : Clear ((obstacle first task (byMapIndex earlier)).map status)) :
    Clear ((obstacle second task (byMapIndex changed)).map status) := by
  simp only [clear_obstacle_iff, mem_byMapIndex] at clear ⊢
  obtain ⟨own, downstream⟩ := clear
  refine ⟨TaskInstance.done_of_advances same own, fun waits => ?_⟩
  exact TaskInstance.forall_mem_of_advances same
    (fun _ _ moves done => advances.downstreamDone moves done) (downstream waits)

private theorem isFirst_eq_of_advances (advances : first.Advances second) :
    isFirst first target = isFirst second target := by
  rw [isFirst, isFirst, advances.countPrior_eq]

private theorem clear_findingAfter_of_advances (advances : first.Advances second)
    (clear : Clear (findingAfter first target previous)) :
    Clear (findingAfter second target previous) := by
  have none : first.instancesOf previous.workflow previous.name target.subject.key.task = [] ↔
      second.instancesOf previous.workflow previous.name target.subject.key.task = [] :=
    advances.instancesOf_eq_nil_iff
  simp only [findingAfter, List.isEmpty_iff, byMapIndex_eq_nil_iff, none,
    isFirst_eq_of_advances advances] at clear ⊢
  by_cases early : tooEarly target.task previous = true
  · rw [if_pos early]
    exact clear_some_iff.mpr rfl
  · rw [if_neg early] at clear ⊢
    split
    · rename_i absent
      rwa [if_pos absent] at clear
    · rename_i present
      rw [if_neg present] at clear
      exact clear_obstacle_of_advances advances (advances.instancesOf ..) clear

private theorem clear_finding_of_advances (advances : first.Advances second)
    (clear : Clear (finding first target waivers)) : Clear (finding second target waivers) := by
  have run (workflow name : String) : first.run? workflow name = second.run? workflow name := by
    rw [History.run?, History.run?, advances.runs]
  have previousRun (run : Run) (bySchedule : Bool) :
      first.previousRun run bySchedule = second.previousRun run bySchedule := by
    rw [History.previousRun, History.previousRun, advances.runs]
  simp only [finding, run, previousRun] at clear ⊢
  by_cases waived : waivers.ignorePast = true
  · rwa [if_pos waived] at clear ⊢
  by_cases alone : (!target.task.dependsOnPast) = true
  · rwa [if_neg waived, if_pos alone] at clear ⊢
  rw [if_neg waived, if_neg alone] at clear ⊢
  cases known : second.run? target.subject.key.workflow target.subject.key.run with
  | none => rwa [known] at clear
  | some run =>
    rw [known] at clear
    cases before : second.previousRun run target.task.catchup with
    | none => simpa only [before] using clear
    | some previous =>
      simp only [before] at clear ⊢
      exact clear_findingAfter_of_advances advances clear

private theorem kind_of_finding {status : Status}
    (found : finding history target waivers = some status) :
    status.kind = .previousRun := by
  have named {reason : Option Reason} {status : Status}
      (found : reason.map Past.status = some status) : status.kind = .previousRun := by
    obtain ⟨reason, -, rfl⟩ := Option.map_eq_some_iff.mp found
    rfl
  simp only [finding, findingAfter] at found
  repeat' split at found
  all_goals first
    | exact named found
    | cases found; rfl

end Past

/-- Both fail with the same fault, or both come to an end, and then the second leaves admission open
wherever the first does. -/
def NoWorse (yielded later : Except Fault (Option Status)) : Prop :=
  (∃ fault, yielded = .error fault ∧ later = .error fault) ∨
    ∃ found foundLater, yielded = .ok found ∧ later = .ok foundLater ∧
      ∀ mode : Mode, mode.allows found = true → mode.allows foundLater = true

theorem NoWorse.refl (yielded : Except Fault (Option Status)) : NoWorse yielded yielded := by
  cases yielded with
  | error fault => exact .inl ⟨fault, rfl, rfl⟩
  | ok found => exact .inr ⟨found, found, rfl, rfl, fun _ => id⟩

private theorem Past.allows_finding_iff {mode : Mode} :
    mode.allows (Past.finding history target waivers) = true ↔
      mode = .hardBlockersOnly ∨ Past.Clear (Past.finding history target waivers) := by
  cases found : Past.finding history target waivers with
  | none => simp [Mode.allows]
  | some status =>
    have waivable : status.waivable = true := by
      rw [Status.waivable, Past.kind_of_finding found]
      rfl
    cases mode <;> simp [Mode.allows, waivable]

/-- Where more is done, a check is no worse. -/
theorem Check.yield_of_advances (check : Check) (advances : first.Advances second) :
    NoWorse (check.yield first target waivers) (check.yield second target waivers) := by
  simp only [yield, status_eq]
  split
  · exact .refl _
  split
  · exact .refl _
  cases check with
  | previousRun =>
    simp only [inspect, Past.reading_check]
    refine .inr ⟨_, _, rfl, rfl, fun mode allows => ?_⟩
    rw [Past.allows_finding_iff] at allows ⊢
    exact allows.imp_right (Past.clear_finding_of_advances advances)
  | instanceState allowed nonempty => exact .refl _
  | notRunning => exact .refl _
  | runActive =>
    have run : first.run? target.subject.key.workflow target.subject.key.run =
        second.run? target.subject.key.workflow target.subject.key.run := by
      rw [History.run?, History.run?, advances.runs]
    simp only [inspect, reading_runStatus, run]
    exact .refl _

private theorem Mode.goesOn_of_opens (opens : mode.allows found = true → mode.allows later = true)
    (goesOn : mode.stops found = false) : mode.stops later = false := by
  rw [← Bool.not_eq_true, stops_iff] at goesOn ⊢
  intro stops
  obtain ⟨isAdmission, denied⟩ := stops
  refine goesOn ⟨isAdmission, Bool.eq_false_iff.mpr fun allowed => ?_⟩
  rw [opens allowed] at denied
  cases denied

theorem History.Advances.run (advances : first.Advances second) {α : Type} (program : Program α) :
    (program.run History.store first).state.Advances (program.run History.store second).state :=
  ((program.sameRecords_run first).symm.advances.trans advances).trans
    (program.sameRecords_run second).advances

/-- A fault that an evaluation meets where less is done it meets where more is done: nothing stops it
sooner. -/
private theorem result_consume_of_advances (advances : first.Advances second)
    (failed : ((consume mode target waivers checks sofar).run History.store first).result =
      .error fault) :
    ((consume mode target waivers checks other).run History.store second).result =
      .error fault := by
  induction checks generalizing first second sofar other with
  | nil => cases failed
  | cons check rest ih =>
    have ended (history : History) :
        ((check.status target waivers).run History.store history).result =
          check.yield history target waivers := Program.result_run _ history
    rcases check.yield_of_advances advances with
      ⟨met, yielded, yieldedToo⟩ | ⟨found, later, yielded, yieldedToo, opens⟩
    · rw [(run_consume_of_error mode rest sofar ((ended first).trans yielded)).1] at failed
      rw [(run_consume_of_error mode rest other ((ended second).trans yieldedToo)).1]
      exact failed
    · cases stops : mode.stops found with
      | true =>
        rw [(run_consume_of_stops rest sofar ((ended first).trans yielded) stops).1] at failed
        cases failed
      | false =>
        have goesOn := Mode.goesOn_of_opens (opens mode) stops
        rw [(run_consume_of_goesOn rest sofar ((ended first).trans yielded) stops).1] at failed
        rw [(run_consume_of_goesOn rest other ((ended second).trans yieldedToo) goesOn).1]
        exact ih (advances.run _) failed

/-- The run ends with a decision that denies. -/
def Outcome.Denies {σ : Type} (outcome : Outcome σ Decision) : Prop :=
  ∃ decision, outcome.result = .ok decision ∧ decision.admitted = false

theorem admits_of_advances (advances : first.Advances second)
    (admits : ((evaluate mode checks target waivers).run History.store first).Admits) :
    ((evaluate mode checks target waivers).run History.store second).Admits := by
  rw [admits_history_iff] at admits ⊢
  intro check asked
  obtain ⟨found, yielded, allowed⟩ := admits check asked
  rcases check.yield_of_advances advances with
    ⟨met, failed, -⟩ | ⟨_, later, ended, endedToo, opens⟩
  · rw [yielded] at failed
    cases failed
  · rw [yielded] at ended
    cases ended
    exact ⟨later, endedToo, opens mode allowed⟩

theorem denies_of_advances (advances : first.Advances second)
    (denies : ((evaluate mode checks target waivers).run History.store second).Denies) :
    ((evaluate mode checks target waivers).run History.store first).Denies := by
  obtain ⟨denial, denied, verdict⟩ := denies
  cases ended : ((evaluate mode checks target waivers).run History.store first).result with
  | error fault =>
    rw [(run_evaluate ..).result] at ended denied
    rw [result_consume_of_advances advances ended] at denied
    cases denied
  | ok decision =>
    refine ⟨decision, ended, Bool.eq_false_iff.mpr fun admitted => ?_⟩
    obtain ⟨other, again, still⟩ := admits_of_advances advances ⟨decision, ended, admitted⟩
    rw [denied] at again
    cases again
    rw [verdict] at still
    cases still

/-- Progress in a history never takes an admission back, and setbacks never grant one. An evaluation has
admitted, and then instances are set to success or to skipped, one after another: it admits again. It has
denied, and then instances are set to other states: it denies again. Instances that the history does not
hold may be among them; nothing comes of these. -/
theorem admission_follows_progress (history : History) (target : Target) (waivers : Waivers)
    (checks : List Check) (mode : Mode) (settings : List (InstanceKey × TaskState)) :
    let ask := (evaluate mode checks target waivers).run History.store
    let before := ask history
    let after := ask (before.state.afterSetting settings)
    ((∀ setting ∈ settings, setting.2 = .success ∨ setting.2 = .skipped) →
        before.Admits → after.Admits) ∧
      ((∀ setting ∈ settings, ¬(setting.2 = .success ∨ setting.2 = .skipped)) →
        before.Denies → after.Denies) := by
  intro ask before after
  have left : history.SameRecords before.state := Program.sameRecords_run _ history
  constructor
  · intro done admits
    have advances : before.state.Advances (before.state.afterSetting settings) :=
      History.advances_afterSetting fun setting member =>
        TaskState.done_iff.mpr (done setting member)
    exact admits_of_advances (left.advances.trans advances) admits
  · intro pending denies
    have advances : (before.state.afterSetting settings).Advances before.state :=
      History.afterSetting_advances fun setting member =>
        Bool.eq_false_iff.mpr (mt TaskState.done_iff.mp (pending setting member))
    exact denies_of_advances (advances.trans left.symm.advances) denies

/-- Monday is over and Tuesday goes on. On Monday the task `load` has succeeded, and `check`, which comes
right after it, is in this state. -/
def History.mondayOver (check : TaskState) : History :=
  History.empty.afterChanges
    [.createRun "etl" "monday" (.midnight 0) .success,
      .createRun "etl" "tuesday" (.midnight 1) .running,
      .upsert ⟨⟨"etl", "load", "monday", unmapped⟩, .midnight 0, .success⟩,
      .upsert ⟨⟨"etl", "check", "monday", unmapped⟩, .midnight 0, check⟩]

/-- The instance of `load` on Tuesday, which waits for what comes after that of Monday. -/
def waitingTarget : Target where
  subject := ⟨⟨"etl", "load", "tuesday", unmapped⟩, .midnight 1, .scheduled⟩
  task := ⟨"load", "etl", true, true, false, none, true, ["check"]⟩

private theorem finding_mondayOver (check : TaskState) :
    Past.finding (.mondayOver check) waitingTarget {} =
      if check.done then none else some (Past.status (.downstreamNotDone
        [⟨⟨"etl", "load", "monday", unmapped⟩, .midnight 0, .success⟩])) := by
  have before : Past.finding (.mondayOver check) waitingTarget {} =
      Past.findingAfter (.mondayOver check) waitingTarget
        ⟨1, "etl", "monday", .midnight 0, .success⟩ := rfl
  have single : Past.byMapIndex ((History.mondayOver check).instancesOf "etl" "monday" "load") =
      [⟨⟨"etl", "load", "monday", unmapped⟩, .midnight 0, .success⟩] :=
    List.mergeSort_singleton _
  rw [before, Past.findingAfter]
  simp only [waitingTarget, single]
  cases check <;> rfl

/-- Skipping what has succeeded leaves the admission as it is. What denies may be another: first `check`
goes on, and then `load` itself has failed. -/
theorem admission_follows_progress_monday :
    let ask := (evaluate .admission [.previousRun] waitingTarget {}).run History.store
    let skipped := [(⟨"etl", "check", "monday", unmapped⟩, TaskState.skipped)]
    let failed := [(⟨"etl", "load", "monday", unmapped⟩, TaskState.failed)]
    (ask (.mondayOver .success)).Admits ∧
      (ask ((ask (.mondayOver .success)).state.afterSetting skipped)).Admits ∧
      (ask (.mondayOver .running)).Denies ∧
      (ask ((ask (.mondayOver .running)).state.afterSetting failed)).Denies := by
  intro ask skipped failed
  obtain ⟨admitsAgain, -⟩ := admission_follows_progress (.mondayOver .success) waitingTarget {}
    [.previousRun] .admission skipped
  obtain ⟨-, deniesAgain⟩ := admission_follows_progress (.mondayOver .running) waitingTarget {}
    [.previousRun] .admission failed
  have result (check : TaskState) : (ask (.mondayOver check)).result =
      .ok (Decision.including ⟨true, .admission, []⟩ .admission
        (Past.finding (.mondayOver check) waitingTarget {})) := by
    refine (run_evaluate ..).result.trans (run_consume_single .admission _ ?_).1
    exact (Program.result_run _ _).trans Check.reading_status_previousRun
  have admits : (ask (.mondayOver .success)).Admits := by
    refine ⟨_, result .success, ?_⟩
    rw [finding_mondayOver]
    rfl
  have denies : (ask (.mondayOver .running)).Denies := by
    refine ⟨_, result .running, ?_⟩
    rw [finding_mondayOver]
    rfl
  exact ⟨admits, admitsAgain (by simp [skipped]) admits, denies,
    deniesAgain (by simp [failed]) denies⟩

end RunGate
