import RunGate.Proofs.Admission.Sequence
import RunGate.Proofs.Admission.Verdict

/-! The record that the check on the previous run passed, and the admission that it comes with. Where
that check is asked last and the first denial ends the evaluation, nothing is left to deny what has
been recorded, and nothing is recorded after a denial. -/

namespace RunGate

variable {σ : Type} {store : Store σ} {state : σ} {history : History} {target : Target}
  {waivers : Waivers} {check : Check} {before : List Check} {sofar : Decision} {found : Option Status}
  {calls : List Query}

/-- The waivers ask for the record, and leave the check that makes it in place. -/
structure Waivers.Record (waivers : Waivers) : Prop where
  asked : waivers.recordPast = true
  someCheck : waivers.ignoreAllChecks = false
  taskChecks : waivers.ignoreTaskChecks = false

private theorem exists_recordFlag_iff :
    (∃ key flag value, Query.recordFlag key flag value ∈ calls) ↔
      ∃ query ∈ calls, query.isRead = false := by
  constructor
  · intro recorded
    obtain ⟨key, flag, value, member⟩ := recorded
    exact ⟨_, member, rfl⟩
  · intro written
    obtain ⟨query, member, writes⟩ := written
    cases query with
    | recordFlag key flag value => exact ⟨key, flag, value, member⟩
    | _ => cases writes

/-- In admission mode every status that fails denies. -/
theorem Mode.allows_admission_iff :
    Mode.admission.allows found = true ↔ ∀ status ∈ found.toList, status.passed = true := by
  cases found <;> simp [allows]

private theorem Check.exists_mem_records_iff :
    (∃ query, query ∈ previousRun.records target waivers found) ↔
      waivers.Record ∧ Mode.admission.allows found = true := by
  rw [Mode.allows_admission_iff]
  constructor
  · intro recorded
    obtain ⟨query, member⟩ := recorded
    unfold records at member
    split at member
    · rename_i asked
      obtain ⟨exchange, closes, -⟩ := List.mem_map.mp member
      obtain ⟨asksFlag, passes, -⟩ := Past.mem_closing.mp closes
      exact ⟨⟨asksFlag, asked.2.1, asked.2.2⟩, passes⟩
    · cases member
  · intro due
    obtain ⟨⟨asked, someCheck, taskChecks⟩, passes⟩ := due
    rw [records, if_pos ⟨rfl, someCheck, taskChecks⟩]
    exact ⟨_, List.mem_map_of_mem (Past.mem_closing.mpr ⟨asked, passes, rfl⟩)⟩

private theorem Check.writes_iff
    (ended : ((check.status target waivers).run store state).result = .ok found) :
    (∃ query ∈ ((check.status target waivers).run store state).calls, query.isRead = false) ↔
      ∃ query, query ∈ check.records target waivers found := by
  obtain ⟨reads, onlyReads, same⟩ := calls_status_of_ok ended
  rw [same]
  constructor
  · intro written
    obtain ⟨query, member, writes⟩ := written
    rcases List.mem_append.mp member with early | last
    · rw [onlyReads query early] at writes
      cases writes
    · exact ⟨query, last⟩
  · intro recorded
    obtain ⟨query, member⟩ := recorded
    obtain ⟨-, -, rfl, -⟩ := of_mem_records member
    exact ⟨_, List.mem_append_right reads member, rfl⟩

private theorem writes_consume_last :
    (∃ query ∈ ((consume .admission target waivers [.previousRun] sofar).run History.store
        history).calls, query.isRead = false) ↔
      waivers.Record ∧ AllAllow History.store .admission target waivers [.previousRun] history := by
  have ended := (Program.result_run (Check.previousRun.status target waivers) history).trans
    Check.reading_status_previousRun
  obtain ⟨-, same⟩ := run_consume_single .admission sofar ended
  rw [same, Check.writes_iff ended, Check.exists_mem_records_iff, AllAllow, ended]
  simp [AllAllow]

/-- An evaluation that asks about the previous run last writes exactly if it is to record and nothing
denies. -/
private theorem writes_consume_iff (others : .previousRun ∉ before) :
    (∃ query ∈ ((consume .admission target waivers (before ++ [.previousRun]) sofar).run
        History.store history).calls, query.isRead = false) ↔
      waivers.Record ∧
        AllAllow History.store .admission target waivers (before ++ [.previousRun]) history := by
  induction before generalizing sofar history with
  | nil => exact writes_consume_last
  | cons check rest ih =>
    obtain ⟨other, later⟩ := List.ne_and_not_mem_of_not_mem_cons others
    have unwritten : ¬∃ query ∈ ((check.status target waivers).run History.store history).calls,
        query.isRead = false := by
      simpa using Check.isRead_of_ne other.symm History.store history
    rw [List.cons_append, AllAllow]
    cases ended : ((check.status target waivers).run History.store history).result with
    | error fault =>
      obtain ⟨-, same, -⟩ := run_consume_of_error .admission (rest ++ [.previousRun]) sofar ended
      rw [same]
      exact iff_of_false unwritten (by simp)
    | ok found =>
      cases stops : Mode.admission.stops found with
      | true =>
        obtain ⟨-, same, -⟩ := run_consume_of_stops (rest ++ [.previousRun]) sofar ended stops
        rw [same]
        exact iff_of_false unwritten (by simp [Mode.allows_of_stops stops])
      | false =>
        obtain ⟨-, same, -⟩ := run_consume_of_goesOn (rest ++ [.previousRun]) sofar ended stops
        have allowed : Mode.admission.allows found = true := by
          rw [← Bool.not_eq_true, Mode.stops_iff] at stops
          simpa using stops
        simp only [same, List.mem_append, or_and_right, exists_or, unwritten, false_or]
        rw [ih later]
        simp [allowed]

private theorem Preset.exists_checks_eq (preset : Preset) :
    ∃ before, .previousRun ∉ before ∧ preset.checks = before ++ [.previousRun] := by
  cases preset with
  | runnable =>
    exact ⟨[.runActive, .instanceState TaskState.runnable, .notRunning], by decide, rfl⟩
  | queueable => exact ⟨[.instanceState TaskState.queueable, .notRunning], by decide, rfl⟩

/-- In admission mode the record and the admission go together. A preset makes the record exactly if
the waivers ask for it and leave the check in place, and the evaluation comes to a decision that admits;
it is then all that has changed. An evaluation that denies or meets a fault leaves the history, its flags
included, as it was. -/
theorem recorded_iff_admitted (history : History) (target : Target) (waivers : Waivers)
    (preset : Preset) :
    let outcome := ((Evaluator.ofPreset preset .admission).evaluate target waivers).run
      History.store history
    ((∃ key flag value, Query.recordFlag key flag value ∈ outcome.calls) ↔
        waivers.recordPast = true ∧ waivers.ignoreAllChecks = false ∧
          waivers.ignoreTaskChecks = false ∧ outcome.Admits) ∧
      (waivers.Record → outcome.Admits →
        outcome.state = history.recordFlag target.subject.key Past.metFlag true) ∧
      (¬outcome.Admits → outcome.state = history) := by
  intro outcome
  let inquiry : Inquiry := ⟨target, waivers, preset.checks, .admission⟩
  have writes : (∃ query ∈ outcome.calls, query.isRead = false) ↔
      waivers.Record ∧ outcome.Admits := by
    obtain ⟨before, others, checks⟩ := preset.exists_checks_eq
    have admits : outcome.Admits ↔
        AllAllow History.store .admission target waivers preset.checks history :=
      admits_evaluate_iff
    have calls : outcome.calls = ((consume .admission target waivers preset.checks
        ⟨true, .admission, []⟩).run History.store history).calls := (run_evaluate ..).calls
    rw [admits, calls, checks, writes_consume_iff others]
  have records : inquiry.records history = true ↔ waivers.Record ∧ outcome.Admits := by
    rw [← writes]
    simp [Inquiry.records, outcome, inquiry, Inquiry.on, Evaluator.evaluate, Evaluator.ofPreset]
  have left : outcome.state = if inquiry.records history then
      history.recordFlag target.subject.key Past.metFlag true else history := inquiry.state_on history
  refine ⟨?_, fun record admits => ?_, fun denied => ?_⟩
  · rw [exists_recordFlag_iff, writes]
    constructor
    · intro due
      obtain ⟨⟨asked, someCheck, taskChecks⟩, admits⟩ := due
      exact ⟨asked, someCheck, taskChecks, admits⟩
    · intro due
      obtain ⟨asked, someCheck, taskChecks, admits⟩ := due
      exact ⟨⟨asked, someCheck, taskChecks⟩, admits⟩
  · rw [left, if_pos (records.mpr ⟨record, admits⟩)]
  · rw [left, if_neg fun recorded => denied (records.mp recorded).2]

/-- A running instance is denied and leaves no record; one that is scheduled is admitted and leaves
one. -/
theorem recorded_iff_admitted_running :
    let scheduled : Target :=
      { runningTarget with subject := { runningTarget.subject with state := .scheduled } }
    let waivers : Waivers := { recordPast := true }
    let run := fun target => ((Evaluator.ofPreset .queueable .admission).evaluate target waivers).run
      History.store .empty
    (run runningTarget).state = .empty ∧
      (∃ key flag value, Query.recordFlag key flag value ∈ (run scheduled).calls) ∧
      (run scheduled).state = History.empty.recordFlag scheduled.subject.key Past.metFlag true := by
  intro scheduled waivers run
  obtain ⟨-, -, untouched⟩ := recorded_iff_admitted .empty runningTarget waivers .queueable
  obtain ⟨recorded, changed, -⟩ := recorded_iff_admitted .empty scheduled waivers .queueable
  have admits : (run scheduled).Admits := ⟨_, rfl, rfl⟩
  have denied : ¬(run runningTarget).Admits := by
    intro admits
    obtain ⟨decision, ended, admitted⟩ := admits
    cases ended
    cases admitted
  exact ⟨untouched denied, recorded.mpr ⟨rfl, rfl, rfl, admits⟩,
    changed ⟨rfl, rfl, rfl⟩ admits⟩

/-- Explaining asks on after a denial, so there a denied instance may leave its record. -/
example : (((Evaluator.ofPreset .queueable .explain).evaluate runningTarget
    { recordPast := true }).run History.store .empty).calls =
      [.recordFlag runningTarget.subject.key Past.metFlag true] := by
  rfl

end RunGate
