import RunGate.Proofs.Admission.Steps

/-! When an evaluation admits: exactly if the checks, asked one after another, all come to an end and
find nothing that denies. A check that always denies therefore rules out admission wherever it stands
in the list and whatever the store answers. -/

namespace RunGate

variable {σ : Type} {store : Store σ} {state : σ} {history : History} {target : Target}
  {waivers : Waivers} {mode : Mode} {check : Check} {checks : List Check} {sofar : Decision}
  {found : Option Status}

/-- Whether what a check has found leaves admission open. -/
def Mode.allows (mode : Mode) (found : Option Status) : Bool :=
  found.all fun status => !mode.blocks status

/-- Asked one after another, the checks all come to an end and leave admission open. -/
def AllAllow (store : Store σ) (mode : Mode) (target : Target) (waivers : Waivers) :
    List Check → σ → Prop
  | [], _ => True
  | check :: rest, state =>
    let first := (check.status target waivers).run store state
    ∃ found, first.result = .ok found ∧ mode.allows found = true ∧
      AllAllow store mode target waivers rest first.state

/-- The run ends with a decision that admits. -/
def Outcome.Admits (outcome : Outcome σ Decision) : Prop :=
  ∃ decision, outcome.result = .ok decision ∧ decision.admitted = true

theorem Mode.allows_of_stops (stops : mode.stops found = true) : mode.allows found = false := by
  cases found with
  | none => cases stops
  | some status =>
    have blocks : (mode.blocks status && mode == .admission) = true := stops
    simp only [Bool.and_eq_true] at blocks
    simp [allows, blocks.1]

theorem Mode.stops_iff :
    mode.stops found = true ↔ mode = .admission ∧ mode.allows found = false := by
  cases found with
  | none => simp [stops, allows]
  | some status => simp [stops, allows, and_comm]

private theorem Decision.admitted_including (sofar : Decision) (mode : Mode)
    (found : Option Status) :
    (sofar.including mode found).admitted = (sofar.admitted && mode.allows found) := by
  cases found with
  | none => exact (Bool.and_true _).symm
  | some status => rfl

/-- What was found before counts, and each check counts from where the one before it has left the
store. -/
private theorem admits_consume_iff :
    ((consume mode target waivers checks sofar).run store state).Admits ↔
      sofar.admitted = true ∧ AllAllow store mode target waivers checks state := by
  unfold Outcome.Admits
  induction checks generalizing sofar state with
  | nil => simp [consume, Program.run, AllAllow]
  | cons check rest ih =>
    rw [AllAllow]
    cases ended : ((check.status target waivers).run store state).result with
    | error fault =>
      obtain ⟨result, -, -⟩ := run_consume_of_error mode rest sofar ended
      simp [result]
    | ok found =>
      cases stops : mode.stops found with
      | true =>
        obtain ⟨result, -, -⟩ := run_consume_of_stops rest sofar ended stops
        simp [result, Decision.admitted_including, Mode.allows_of_stops stops]
      | false =>
        obtain ⟨result, -, -⟩ := run_consume_of_goesOn rest sofar ended stops
        simp [result, ih, Decision.admitted_including, and_assoc]

theorem admits_evaluate_iff :
    ((evaluate mode checks target waivers).run store state).Admits ↔
      AllAllow store mode target waivers checks state := by
  have same := (run_evaluate mode checks target waivers store state).result
  rw [Outcome.Admits, same]
  exact admits_consume_iff.trans (and_iff_right rfl)

/-- On a history no check notices the others, so each can be asked by itself. -/
theorem allAllow_history_iff :
    AllAllow History.store mode target waivers checks history ↔
      ∀ check ∈ checks, ∃ found, check.yield history target waivers = .ok found ∧
        mode.allows found = true := by
  induction checks generalizing history with
  | nil => simp [AllAllow]
  | cons check rest ih =>
    have unchanged (next : Check) :
        next.yield ((check.status target waivers).run History.store history).state target waivers =
          next.yield history target waivers :=
      Program.reading_of_sameRecords (Program.sameRecords_run _ history).symm _
    rw [AllAllow, List.forall_mem_cons, Program.result_run]
    simp only [ih, unchanged]
    constructor
    · intro all
      obtain ⟨found, yielded, allowed, later⟩ := all
      exact ⟨⟨found, yielded, allowed⟩, later⟩
    · intro each
      obtain ⟨⟨found, yielded, allowed⟩, later⟩ := each
      exact ⟨found, yielded, allowed, later⟩

/-- On a history, an evaluation admits exactly if every check yields without a fault and leaves
admission open. -/
theorem admits_history_iff :
    ((evaluate mode checks target waivers).run History.store history).Admits ↔
      ∀ check ∈ checks, ∃ found, check.yield history target waivers = .ok found ∧
        mode.allows found = true :=
  admits_evaluate_iff.trans allAllow_history_iff

/-- A check that denies in every state of the store rules out admission. -/
theorem not_admits_of_mem (asked : check ∈ checks)
    (denies : ∀ state found, ((check.status target waivers).run store state).result = .ok found →
      mode.allows found = false) :
    ¬((evaluate mode checks target waivers).run store state).Admits := by
  rw [admits_evaluate_iff]
  induction checks generalizing state with
  | nil => cases asked
  | cons first rest ih =>
    rw [AllAllow]
    intro all
    obtain ⟨found, ended, allowed, later⟩ := all
    rcases List.mem_cons.mp asked with rfl | further
    · rw [denies state found ended] at allowed
      cases allowed
    · exact ih further later

/-- No waiver reaches the check that the instance is not running, and no mode forgives it. -/
private theorem denies_of_running (running : target.subject.state = .running)
    (ended : ((Check.notRunning.status target waivers).run store state).result = .ok found) :
    mode.allows found = false := by
  have status : Check.notRunning.status target waivers =
      .done (some ⟨.notRunning, .alreadyRunning⟩) := by
    show Program.done (some (Check.notRunningStatus target.subject.state)) = _
    rw [running]
    rfl
  rw [status] at ended
  cases ended
  cases mode <;> rfl

/-- A running instance is never admitted where somebody asks whether it is running: not in any place
among the checks, not under any waivers, not in any mode, and whatever the store answers. Both
presets ask. -/
theorem running_not_admitted (store : Store σ) (state : σ)
    (running : target.subject.state = .running) (waivers : Waivers) (mode : Mode) :
    (∀ checks, .notRunning ∈ checks →
      ¬((evaluate mode checks target waivers).run store state).Admits) ∧
    ∀ preset,
      ¬(((Evaluator.ofPreset preset mode).evaluate target waivers).run store state).Admits := by
  have denied (checks : List Check) (asked : .notRunning ∈ checks) :
      ¬((evaluate mode checks target waivers).run store state).Admits :=
    not_admits_of_mem asked fun _ _ => denies_of_running running
  have asked (preset : Preset) : .notRunning ∈ preset.checks := by
    cases preset <;> decide
  exact ⟨denied, fun preset => denied _ (asked preset)⟩

/-- With all that can be waived waived, in the mode that forgives most, the evaluation comes to a
decision, and that denies. -/
theorem running_not_admitted_allWaived :
    runningTarget.subject.state = .running ∧
      .notRunning ∈ [Check.runActive, .notRunning, .previousRun] ∧
      (∃ decision, ((evaluate .hardBlockersOnly [.runActive, .notRunning, .previousRun] runningTarget
        { ignoreAllChecks := true }).run History.store .empty).result = .ok decision) ∧
      ¬((evaluate .hardBlockersOnly [.runActive, .notRunning, .previousRun] runningTarget
        { ignoreAllChecks := true }).run History.store .empty).Admits ∧
      ¬(((Evaluator.ofPreset .runnable .hardBlockersOnly).evaluate runningTarget
        { ignoreAllChecks := true }).run History.store .empty).Admits := by
  obtain ⟨denied, presets⟩ := running_not_admitted History.store .empty
    (rfl : runningTarget.subject.state = .running) { ignoreAllChecks := true } .hardBlockersOnly
  exact ⟨rfl, by decide, ⟨_, rfl⟩, denied _ (by decide), presets .runnable⟩

end RunGate
