import RunGate.Admission.Polling
import RunGate.Proofs.Admission.Snapshot
import RunGate.Proofs.Admission.Verdict

/-! Waivers only ever help. With more of them a check finds what it found before, or it passes; so an
evaluation that admits still admits. -/

namespace RunGate

variable {history : History} {target : Target} {fewer more : Waivers} {scenario : Scenario}
  {request : Request} {snapshot : Snapshot}

private theorem Past.finding_of_within (within : fewer.Within more) :
    finding history target more = finding history target fewer ∨
      finding history target more = some (status .pastWaived) := by
  obtain ⟨-, kept, -⟩ := within
  by_cases waived : more.ignorePast = true
  · exact .inr (by simp [finding, waived])
  · have before : ¬fewer.ignorePast = true := mt kept waived
    exact .inl (by simp [finding, waived, before])

namespace Check

private theorem stateStatus_of_within (within : fewer.Within more) (allowed : List TaskState)
    (state : TaskState) :
    stateStatus allowed state more = stateStatus allowed state fewer ∨
      stateStatus allowed state more = ⟨.instanceState, .stateWaived⟩ := by
  obtain ⟨-, -, -, kept, -⟩ := within
  by_cases waived : more.ignoreState = true
  · exact .inr (by simp [stateStatus, waived])
  · have before : ¬fewer.ignoreState = true := mt kept waived
    exact .inl (by simp [stateStatus, waived, before])

private theorem inspect_of_within (within : fewer.Within more) (check : Check) :
    (check.inspect target more).reading history = (check.inspect target fewer).reading history ∨
      ∃ status, (check.inspect target more).reading history = .ok (some status) ∧
        status.passed = true := by
  cases check with
  | previousRun =>
    simp only [inspect, Past.reading_check]
    have looked : Past.finding history target more = _ ∨ _ := Past.finding_of_within within
    rcases looked with same | passes
    · exact .inl (by rw [same])
    · exact .inr ⟨_, by rw [passes], rfl⟩
  | instanceState allowed nonempty =>
    simp only [inspect, Program.pure_eq, Program.reading_done]
    rcases stateStatus_of_within within allowed target.subject.state with same | passes
    · exact .inl (by rw [same])
    · exact .inr ⟨_, by rw [passes], rfl⟩
  | notRunning => exact .inl rfl
  | runActive => exact .inl rfl

/-- With more waivers a check yields what it yielded before, be it a fault, or it passes. -/
theorem yield_of_within (within : fewer.Within more) (check : Check) :
    check.yield history target more = check.yield history target fewer ∨
      ∃ status, check.yield history target more = .ok (some status) ∧ status.passed = true := by
  simp only [yield, status_eq]
  have allKept := within.1
  have ofTaskKept := within.2.2.1
  by_cases all : (check.kind.waivable && more.ignoreAllChecks) = true
  · exact .inr ⟨⟨check.kind, .allWaived⟩, by rw [if_pos all]; rfl, rfl⟩
  · by_cases ofTask : (check.kind.ofTask && more.ignoreTaskChecks) = true
    · exact .inr ⟨⟨check.kind, .taskChecksWaived⟩, by rw [if_neg all, if_pos ofTask]; rfl, rfl⟩
    · have allBefore : ¬(check.kind.waivable && fewer.ignoreAllChecks) = true := by
        simp only [Bool.and_eq_true] at all ⊢
        exact mt (And.imp_right allKept) all
      have ofTaskBefore : ¬(check.kind.ofTask && fewer.ignoreTaskChecks) = true := by
        simp only [Bool.and_eq_true] at ofTask ⊢
        exact mt (And.imp_right ofTaskKept) ofTask
      rw [if_neg all, if_neg ofTask, if_neg allBefore, if_neg ofTaskBefore]
      exact inspect_of_within within check

end Check

private theorem Mode.allows_of_passed {status : Status} (mode : Mode)
    (passes : status.passed = true) :
    mode.allows (some status) = true := by
  simp [allows, blocks, passes]

theorem admits_of_within (within : fewer.Within more) {mode : Mode} {checks : List Check}
    (admits : ((evaluate mode checks target fewer).run History.store history).Admits) :
    ((evaluate mode checks target more).run History.store history).Admits := by
  rw [admits_history_iff] at admits ⊢
  intro check asked
  rcases check.yield_of_within within with same | ⟨status, yielded, passes⟩
  · rw [same]
    exact admits check asked
  · exact ⟨some status, yielded, mode.allows_of_passed passes⟩

namespace Snapshot

/-- What is granted besides the waivers of the scenario shows in the waivers of a snapshot alone. -/
theorem result_ofScenario_of_granted
    (loaded : (ofScenario scenario request fewer).result = .ok snapshot) (more : Waivers) :
    snapshot.waivers = scenario.waivers.merge fewer ∧
      (ofScenario scenario request more).result =
        .ok { snapshot with waivers := scenario.waivers.merge more } := by
  simp only [ofScenario, Journal.result_bind, Journal.result_lift, Journal.pure_eq] at loaded ⊢
  cases found : (Workflow.ofScenario scenario).task request.task with
  | error fault => simp [found] at loaded
  | ok task =>
    cases recorded : History.ofScenario scenario with
    | error fault => simp [found, recorded] at loaded
    | ok history =>
      cases requested : (subjectOf scenario request history).result with
      | error fault => simp [found, recorded, requested] at loaded
      | ok subject =>
        simp only [found, recorded, requested, ok_bind, Except.ok.injEq] at loaded ⊢
        subst loaded
        exact ⟨rfl, rfl⟩

end Snapshot

/-- The evaluation of a snapshot admits if the instance has a task there and the evaluation of the
two admits. -/
theorem Gate.admits_evaluate_iff {evaluator : Evaluator} :
    (Gate.evaluate evaluator snapshot).Admits ↔
      ∃ target, snapshot.workflow.target snapshot.subject = .ok target ∧
        ((evaluator.evaluate target snapshot.waivers).run History.store snapshot.history).Admits := by
  unfold Gate.evaluate
  cases snapshot.workflow.target snapshot.subject with
  | error fault => simp [Outcome.Admits]
  | ok target => simp

/-- Waivers never turn an admission into a denial or a fault. On a history, an evaluation that admits
under some waivers admits under more. Likewise, where a scenario has a snapshot whose evaluation
admits, it has one whose evaluation admits if more is granted besides the waivers of its own. -/
theorem waivers_only_help :
    (∀ (history : History) (target : Target) (checks : List Check) (mode : Mode)
        (fewer more : Waivers), fewer.Within more →
      ((evaluate mode checks target fewer).run History.store history).Admits →
      ((evaluate mode checks target more).run History.store history).Admits) ∧
    ∀ (scenario : Scenario) (request : Request) (evaluator : Evaluator) (fewer more : Waivers),
      fewer.Within more →
      (∃ snapshot, (Snapshot.ofScenario scenario request fewer).result = .ok snapshot ∧
        (Gate.evaluate evaluator snapshot).Admits) →
      ∃ snapshot, (Snapshot.ofScenario scenario request more).result = .ok snapshot ∧
        (Gate.evaluate evaluator snapshot).Admits := by
  refine ⟨fun _ _ _ _ _ _ within => admits_of_within within, ?_⟩
  intro scenario request evaluator fewer more within admitted
  obtain ⟨snapshot, loaded, admits⟩ := admitted
  obtain ⟨granted, loadedToo⟩ := Snapshot.result_ofScenario_of_granted loaded more
  obtain ⟨target, found, admits⟩ := Gate.admits_evaluate_iff.mp admits
  rw [granted] at admits
  exact ⟨_, loadedToo, Gate.admits_evaluate_iff.mpr
    ⟨target, found, admits_of_within (within.merge scenario.waivers) admits⟩⟩

/-- On Tuesday the failure of Monday is in the way. Once the past is ignored the evaluation admits, and
it still does so when the flag is asked for as well. -/
theorem waivers_only_help_daily :
    let request : Request := ⟨"load", "tuesday", unmapped⟩
    let past : Waivers := { ignorePast := true }
    let more := past.merge { recordPast := true }
    let ask : Evaluator := .ofPreset .runnable .admission
    past.Within more ∧
      (∃ snapshot, (Snapshot.ofScenario .daily request past).result = .ok snapshot ∧
        (Gate.evaluate ask snapshot).Admits) ∧
      (∃ snapshot, (Snapshot.ofScenario .daily request more).result = .ok snapshot ∧
        (Gate.evaluate ask snapshot).Admits) ∧
      ((evaluate .explain [.previousRun] runningTarget past).run History.store .empty).Admits ∧
      ((evaluate .explain [.previousRun] runningTarget more).run History.store .empty).Admits := by
  intro request past more ask
  obtain ⟨onHistories, onScenarios⟩ := waivers_only_help
  have within : past.Within more := Waivers.within_merge ..
  have loaded : (Snapshot.ofScenario .daily request past).result = _ :=
    Snapshot.result_ofScenario Scenario.wellFormed_daily rfl rfl
  have admitted : ∃ snapshot, (Snapshot.ofScenario .daily request past).result = .ok snapshot ∧
      (Gate.evaluate ask snapshot).Admits := ⟨_, loaded, _, rfl, rfl⟩
  have before : ((evaluate .explain [.previousRun] runningTarget past).run History.store
      .empty).Admits := ⟨_, rfl, rfl⟩
  exact ⟨within, admitted, onScenarios _ _ _ _ _ within admitted, before,
    onHistories _ _ _ _ _ _ within before⟩

end RunGate
