import RunGate.Proofs.Check.Statuses
import RunGate.Proofs.History.Reading

/-! How the three modes compare. Two of them consume every status, so they differ only in what they
make of it; the third stops at the first failure and so consumes an initial part. -/

namespace RunGate

variable {history : History} {target : Target} {waivers : Waivers} {mode : Mode}
  {checks others : List Check} {statuses : List Status} {sofar : Decision} {fault : Fault}

def Check.yield (history : History) (target : Target) (waivers : Waivers) (check : Check) :
    Except Fault (Option Status) :=
  (check.status target waivers).reading history

/-- Every status of the checks in order, or the first fault. -/
def everyStatus (history : History) (target : Target) (waivers : Waivers) :
    List Check → Except Fault (List Status)
  | [] => .ok []
  | check :: rest => do
    let found ← check.yield history target waivers
    (everyStatus history target waivers rest).map (found.toList ++ ·)

private theorem everyStatus_cons_eq_ok_iff {check : Check} :
    everyStatus history target waivers (check :: checks) = .ok statuses ↔
      ∃ found later, check.yield history target waivers = .ok found ∧
        everyStatus history target waivers checks = .ok later ∧
        statuses = found.toList ++ later := by
  rw [everyStatus]
  cases check.yield history target waivers with
  | error fault => simp
  | ok found =>
    cases everyStatus history target waivers checks with
    | error fault => simp [Except.map]
    | ok later => simp [Except.map, eq_comm]

/-- The statuses up to the first failure. -/
def untilFailure : List Status → List Status
  | [] => []
  | status :: rest => if status.passed then status :: untilFailure rest else [status]

/-- Asking one more check is asking for its one status and then considering that. -/
theorem consume_cons (check : Check) :
    consume mode target waivers (check :: checks) sofar =
      (check.status target waivers).bind fun
        | none => consume mode target waivers checks sofar
        | some status => .note .statusSeen
          (if mode.blocks status && mode == .admission then
            .note .stoppedEarly (.done (sofar.consider mode status))
          else consume mode target waivers checks (sofar.consider mode status)) := by
  refine (check.forEach_sequence target waivers (fun _ _ => rfl) _ _).trans ?_
  congr 1
  funext found
  cases found with
  | none => rfl
  | some status =>
    simp only [weigh, Option.elim_some, Program.ofExcept, Program.bind_eq, Program.log,
      Program.bind]
    split <;> rfl

private theorem reading_consume_cons (check : Check) :
    (consume mode target waivers (check :: checks) sofar).reading history =
      check.yield history target waivers >>= fun found =>
        match found with
        | none => (consume mode target waivers checks sofar).reading history
        | some status =>
          if mode.blocks status && mode == .admission then .ok (sofar.consider mode status)
          else
            (consume mode target waivers checks (sofar.consider mode status)).reading history := by
  rw [consume_cons, Program.reading_bind, Check.yield]
  refine bind_congr fun found => ?_
  cases found with
  | none => rfl
  | some status =>
    simp only [Program.reading]
    split <;> rfl

private theorem reading_evaluate :
    (evaluate mode checks target waivers).reading history =
      (consume mode target waivers checks ⟨true, mode, []⟩).reading history := by
  simp only [evaluate, Program.bind_eq, Program.reading_bind, Program.reading_log, ok_bind,
    Program.pure_eq, Program.reading_done]
  cases (consume mode target waivers checks ⟨true, mode, []⟩).reading history <;> rfl

/-- What a mode makes of statuses when it consumes them all. -/
def Decision.considerAll (sofar : Decision) (mode : Mode) (statuses : List Status) : Decision :=
  { sofar with
    admitted := sofar.admitted && statuses.all (!mode.blocks ·)
    statuses := sofar.statuses ++ statuses }

private theorem reading_consume_exhaustive (exhaustive : mode ≠ .admission) :
    (consume mode target waivers checks sofar).reading history =
      (everyStatus history target waivers checks).map (sofar.considerAll mode) := by
  induction checks generalizing sofar with
  | nil => simp [consume, everyStatus, Decision.considerAll, Except.map]
  | cons check rest ih =>
    rw [reading_consume_cons, everyStatus]
    cases check.yield history target waivers with
    | error fault => rfl
    | ok found =>
      cases found with
      | none =>
        simp only [ok_bind, ih]
        cases everyStatus history target waivers rest <;> rfl
      | some status =>
        simp only [ok_bind, ih, beq_eq_false_iff_ne.mpr exhaustive, Bool.and_false,
          Bool.false_eq_true, ↓reduceIte]
        cases everyStatus history target waivers rest with
        | error fault => rfl
        | ok later =>
          simp [Except.map, Decision.considerAll, Decision.consider, Bool.and_assoc]

@[simp]
theorem blocks_admission (status : Status) : Mode.admission.blocks status = !status.passed := by
  simp [Mode.blocks]

@[simp]
theorem blocks_explain (status : Status) : Mode.explain.blocks status = !status.passed := by
  simp [Mode.blocks]

@[simp]
theorem blocks_hardBlockersOnly (status : Status) :
    Mode.hardBlockersOnly.blocks status = (!status.passed && !status.waivable) := by
  simp [Mode.blocks]

private theorem reading_consume_admission
    (all : everyStatus history target waivers checks = .ok statuses) :
    (consume .admission target waivers checks sofar).reading history =
      .ok (sofar.considerAll .admission (untilFailure statuses)) := by
  induction checks generalizing sofar statuses with
  | nil =>
    cases all
    simp [consume, untilFailure, Decision.considerAll]
  | cons check rest ih =>
    obtain ⟨found, later, yielded, others, same⟩ := everyStatus_cons_eq_ok_iff.mp all
    subst same
    rw [reading_consume_cons, yielded, ok_bind]
    cases found with
    | none => simpa using ih others
    | some status =>
      cases verdict : status.passed with
      | false => simp [untilFailure, verdict, Decision.consider, Decision.considerAll]
      | true => simp [untilFailure, verdict, ih others, Decision.consider, Decision.considerAll]

/-- The last of the statuses fails. -/
def EndsInFailure (statuses : List Status) : Prop :=
  ∃ status, statuses.getLast? = some status ∧ status.passed = false

private theorem reading_consume_admission_of_error
    (failed : everyStatus history target waivers checks = .error fault) :
    (consume .admission target waivers checks sofar).reading history = .error fault ∨
      ∃ denial, (consume .admission target waivers checks sofar).reading history = .ok denial ∧
        denial.admitted = false ∧ EndsInFailure denial.statuses := by
  induction checks generalizing sofar with
  | nil => cases failed
  | cons check rest ih =>
    rw [reading_consume_cons]
    rw [everyStatus] at failed
    cases found : check.yield history target waivers with
    | error other =>
      simp only [found, error_bind, Except.error.injEq] at failed
      exact .inl (by rw [error_bind, failed])
    | ok yielded =>
      have later : everyStatus history target waivers rest = .error fault := by
        cases more : everyStatus history target waivers rest with
        | error other => simpa [found, more, Except.map] using failed
        | ok others => simp [found, more, Except.map] at failed
      cases yielded with
      | none => exact ih later
      | some status =>
        cases verdict : status.passed with
        | true => simpa [verdict] using ih later
        | false =>
          right
          refine ⟨sofar.consider .admission status, by simp [verdict], ?_, status, ?_, verdict⟩
          · simp [Decision.consider, verdict]
          · simp [Decision.consider]

/-- The shortest initial part that ends in a failure, or all of it if nothing in it fails. -/
structure StopsAtFailure (part whole : List Status) : Prop where
  initial : part <+: whole
  all : (∀ status ∈ whole, status.passed = true) → part = whole
  ends : (∃ status ∈ whole, status.passed = false) → EndsInFailure part
  shortest : ∀ other, other <+: whole → EndsInFailure other → part.length ≤ other.length

private theorem stopsAtFailure_untilFailure (statuses : List Status) :
    StopsAtFailure (untilFailure statuses) statuses := by
  induction statuses with
  | nil => exact ⟨List.nil_prefix, fun _ => rfl, by simp, by simp [untilFailure]⟩
  | cons status rest ih =>
    cases verdict : status.passed with
    | false =>
      simp only [untilFailure, verdict, Bool.false_eq_true, ↓reduceIte]
      refine ⟨⟨rest, rfl⟩, fun all => ?_, fun _ => ⟨status, rfl, verdict⟩, fun other _ ends => ?_⟩
      · have passed := all status (List.mem_cons_self ..)
        rw [verdict] at passed
        cases passed
      · obtain ⟨last, found, -⟩ := ends
        exact List.length_pos_of_mem (List.mem_of_getLast? found)
    | true =>
      simp only [untilFailure, verdict, ↓reduceIte]
      refine ⟨(List.prefix_cons_inj status).mpr ih.initial, fun all => ?_, fun failing => ?_,
        fun other isPrefix ends => ?_⟩
      · rw [ih.all fun next member => all next (List.mem_cons_of_mem _ member)]
      · obtain ⟨failure, member, fails⟩ := failing
        rcases List.mem_cons.mp member with same | later
        · rw [same, verdict] at fails
          cases fails
        · obtain ⟨last, found, lastFails⟩ := ih.ends ⟨failure, later, fails⟩
          exact ⟨last, by simp [List.getLast?_cons, found], lastFails⟩
      · obtain ⟨last, found, lastFails⟩ := ends
        cases other with
        | nil => cases found
        | cons first more =>
          obtain ⟨same, shorter⟩ := List.cons_prefix_cons.mp isPrefix
          subst same
          have endsLater : EndsInFailure more := by
            cases more with
            | nil =>
              simp only [List.getLast?_singleton, Option.some.injEq] at found
              rw [← found, verdict] at lastFails
              cases lastFails
            | cons second more => exact ⟨last, by simpa using found, lastFails⟩
          exact Nat.succ_le_succ (ih.shortest more shorter endsLater)

/-- Asking the same checks in another order gives the same statuses in another order. -/
theorem everyStatus_perm (same : checks.Perm others)
    (all : everyStatus history target waivers checks = .ok statuses) :
    ∃ rearranged, everyStatus history target waivers others = .ok rearranged ∧
      statuses.Perm rearranged := by
  induction same generalizing statuses with
  | nil => exact ⟨statuses, all, .refl _⟩
  | cons check _ ih =>
    obtain ⟨found, later, yielded, rest, rfl⟩ := everyStatus_cons_eq_ok_iff.mp all
    obtain ⟨rearranged, given, perm⟩ := ih rest
    exact ⟨_, everyStatus_cons_eq_ok_iff.mpr ⟨found, rearranged, yielded, given, rfl⟩,
      perm.append_left _⟩
  | swap first second _ =>
    obtain ⟨found, _, yielded, rest, rfl⟩ := everyStatus_cons_eq_ok_iff.mp all
    obtain ⟨next, later, yieldedNext, others, rfl⟩ := everyStatus_cons_eq_ok_iff.mp rest
    have swapped := everyStatus_cons_eq_ok_iff.mpr ⟨found, later, yielded, others, rfl⟩
    refine ⟨_, everyStatus_cons_eq_ok_iff.mpr ⟨next, _, yieldedNext, swapped, rfl⟩, ?_⟩
    rw [← List.append_assoc, ← List.append_assoc]
    exact List.perm_append_comm.append_right later
  | trans _ _ first second =>
    obtain ⟨middle, given, perm⟩ := first all
    obtain ⟨rearranged, givenLast, permLast⟩ := second given
    exact ⟨rearranged, givenLast, perm.trans permLast⟩

/-- A decision admits exactly if nothing in it blocks. -/
def Decision.Settled (decision : Decision) : Prop :=
  decision.admitted = true ↔ decision.blocking = []

theorem Decision.Settled.consider (settled : sofar.Settled) (status : Status) :
    (sofar.consider sofar.mode status).Settled := by
  simp only [Decision.Settled, Decision.blocking, List.filter_eq_nil_iff] at settled
  simp [Decision.Settled, Decision.blocking, Decision.consider, settled]

/-- Whatever a mode consumes, its decision stays settled and keeps its mode. -/
private theorem settled_of_consume {decision : Decision} (settled : sofar.Settled)
    (same : sofar.mode = mode)
    (consumed : (consume mode target waivers checks sofar).reading history = .ok decision) :
    decision.Settled ∧ decision.mode = mode := by
  induction checks generalizing sofar with
  | nil =>
    cases consumed
    exact ⟨settled, same⟩
  | cons check rest ih =>
    rw [reading_consume_cons] at consumed
    cases yielded : check.yield history target waivers with
    | error fault => simp [yielded] at consumed
    | ok found =>
      rw [yielded, ok_bind] at consumed
      cases found with
      | none => exact ih settled same consumed
      | some status =>
        have next : (sofar.consider mode status).Settled := same ▸ settled.consider status
        simp only at consumed
        split at consumed
        · cases consumed
          exact ⟨next, same⟩
        · exact ih next same consumed

/-- The outcome of an evaluation on a history. -/
def outcome (history : History) (target : Target) (waivers : Waivers) (checks : List Check)
    (mode : Mode) : Except Fault Decision :=
  ((evaluate mode checks target waivers).run History.store history).result

private theorem outcome_eq_reading :
    outcome history target waivers checks mode =
      (consume mode target waivers checks ⟨true, mode, []⟩).reading history := by
  rw [outcome, Program.result_run, reading_evaluate]

theorem settled_of_outcome {decision : Decision}
    (decided : outcome history target waivers checks mode = .ok decision) :
    decision.Settled ∧ decision.mode = mode := by
  rw [outcome_eq_reading] at decided
  exact settled_of_consume (by simp [Decision.Settled, Decision.blocking]) rfl decided

theorem outcome_exhaustive (exhaustive : mode ≠ .admission) :
    outcome history target waivers checks mode =
      (everyStatus history target waivers checks).map fun statuses =>
        ⟨statuses.all (!mode.blocks ·), mode, statuses⟩ := by
  rw [outcome_eq_reading, reading_consume_exhaustive exhaustive]
  rfl

private theorem outcome_admission (all : everyStatus history target waivers checks = .ok statuses) :
    outcome history target waivers checks .admission =
      .ok ⟨(untilFailure statuses).all (·.passed), .admission, untilFailure statuses⟩ := by
  rw [outcome_eq_reading, reading_consume_admission all]
  simp [Decision.considerAll]

private theorem all_untilFailure (statuses : List Status) :
    (untilFailure statuses).all (·.passed) = statuses.all (·.passed) := by
  induction statuses with
  | nil => rfl
  | cons status rest ih => cases verdict : status.passed <;> simp [untilFailure, verdict, ih]

private theorem outcome_of_everyStatus
    (all : everyStatus history target waivers checks = .ok statuses) (mode : Mode) :
    ∃ decision, outcome history target waivers checks mode = .ok decision ∧
      decision.admitted = statuses.all (!mode.blocks ·) := by
  cases mode with
  | admission => exact ⟨_, outcome_admission all, by simp [all_untilFailure]⟩
  | explain => exact ⟨_, by rw [outcome_exhaustive (by decide), all]; rfl, rfl⟩
  | hardBlockersOnly => exact ⟨_, by rw [outcome_exhaustive (by decide), all]; rfl, rfl⟩

theorem exists_outcome
    (answers : ∀ check ∈ checks, ∃ found, check.yield history target waivers = .ok found)
    (mode : Mode) : ∃ decision, outcome history target waivers checks mode = .ok decision := by
  have all : ∃ statuses, everyStatus history target waivers checks = .ok statuses := by
    induction checks with
    | nil => exact ⟨[], rfl⟩
    | cons check rest ih =>
      obtain ⟨first, others⟩ := List.forall_mem_cons.mp answers
      obtain ⟨found, yielded⟩ := first
      obtain ⟨later, rest⟩ := ih others
      exact ⟨_, everyStatus_cons_eq_ok_iff.mpr ⟨found, later, yielded, rest, rfl⟩⟩
  obtain ⟨statuses, all⟩ := all
  obtain ⟨decision, decided, -⟩ := outcome_of_everyStatus all mode
  exact ⟨decision, decided⟩

/-- An instance that is running already, of a run that no history need know. -/
def runningTarget : Target where
  subject := ⟨⟨"etl", "load", "monday", unmapped⟩, .midnight 0, .running⟩
  task := ⟨"load", "etl", false, false, false, none, true, []⟩

/-- The modes agree. Where explaining meets no fault, the others meet none; they consume the same
statuses, or those up to the first failure, and admit if no status fails, or none that cannot be
waived, in whatever order the checks are asked. Where explaining meets a fault, the others meet the
same, unless a failure comes before it. -/
theorem modes_agree (history : History) (target : Target) (waivers : Waivers)
    (checks : List Check) :
    (∀ explained, outcome history target waivers checks .explain = .ok explained →
      ∃ hard admission, outcome history target waivers checks .hardBlockersOnly = .ok hard ∧
        outcome history target waivers checks .admission = .ok admission ∧
        hard.statuses = explained.statuses ∧
        StopsAtFailure admission.statuses explained.statuses ∧
        (explained.admitted = true ↔ ∀ status ∈ explained.statuses, status.passed = true) ∧
        (admission.admitted = true ↔ ∀ status ∈ explained.statuses, status.passed = true) ∧
        (hard.admitted = true ↔ ∀ status ∈ explained.statuses,
          status.passed = true ∨ status.waivable = true) ∧
        ∀ others, checks.Perm others → ∀ mode, ∃ decision rearranged,
          outcome history target waivers checks mode = .ok decision ∧
          outcome history target waivers others mode = .ok rearranged ∧
          rearranged.admitted = decision.admitted) ∧
    (∀ mode decision, outcome history target waivers checks mode = .ok decision →
      decision.mode = mode ∧ (decision.admitted = true ↔ decision.blocking = [])) ∧
    ∀ fault, outcome history target waivers checks .explain = .error fault →
      outcome history target waivers checks .hardBlockersOnly = .error fault ∧
        (outcome history target waivers checks .admission = .error fault ∨
          ∃ denial, outcome history target waivers checks .admission = .ok denial ∧
            denial.admitted = false ∧ EndsInFailure denial.statuses) := by
  refine ⟨?_, fun mode decision decided => (settled_of_outcome decided).symm, ?_⟩
  · intro explained decided
    rw [outcome_exhaustive (by decide)] at decided
    cases all : everyStatus history target waivers checks with
    | error fault => simp [all, Except.map] at decided
    | ok statuses =>
      simp only [all, Except.map, Except.ok.injEq] at decided
      subst decided
      refine ⟨⟨_, .hardBlockersOnly, statuses⟩, _,
        by rw [outcome_exhaustive (by decide), all]; rfl, outcome_admission all, rfl,
        stopsAtFailure_untilFailure statuses, by simp, by simp [all_untilFailure], by simp, ?_⟩
      intro others same mode
      obtain ⟨rearranged, given, perm⟩ := everyStatus_perm same all
      obtain ⟨decision, decided, verdict⟩ := outcome_of_everyStatus all mode
      obtain ⟨other, decidedOther, verdictOther⟩ := outcome_of_everyStatus given mode
      exact ⟨decision, other, decided, decidedOther,
        by rw [verdict, verdictOther, perm.all_eq]⟩
  · intro fault failed
    rw [outcome_exhaustive (by decide)] at failed
    cases all : everyStatus history target waivers checks with
    | ok statuses => simp [all, Except.map] at failed
    | error other =>
      simp only [all, Except.map, Except.error.injEq] at failed
      subst failed
      refine ⟨by rw [outcome_exhaustive (by decide), all]; rfl, ?_⟩
      rw [outcome_eq_reading]
      exact reading_consume_admission_of_error all

/-- Two failures, of which the first ends admission, and a fault that admission does not reach. -/
theorem modes_agree_runningTarget :
    (∃ explained hard admission,
      outcome .empty runningTarget {} [.notRunning, .instanceState [.scheduled]] .explain =
        .ok explained ∧
      outcome .empty runningTarget {} [.notRunning, .instanceState [.scheduled]] .hardBlockersOnly =
        .ok hard ∧
      outcome .empty runningTarget {} [.notRunning, .instanceState [.scheduled]] .admission =
        .ok admission ∧
      explained.statuses.length = 2 ∧ hard.statuses = explained.statuses ∧
      StopsAtFailure admission.statuses explained.statuses ∧
      ∃ rearranged,
        outcome .empty runningTarget {} [.instanceState [.scheduled], .notRunning] .admission =
          .ok rearranged ∧ rearranged.admitted = admission.admitted) ∧
    ∃ fault,
      outcome .empty runningTarget {} [.notRunning, .runActive] .explain = .error fault ∧
      outcome .empty runningTarget {} [.notRunning, .runActive] .hardBlockersOnly = .error fault ∧
      (outcome .empty runningTarget {} [.notRunning, .runActive] .admission = .error fault ∨
        ∃ denial, outcome .empty runningTarget {} [.notRunning, .runActive] .admission =
          .ok denial ∧ denial.admitted = false ∧ EndsInFailure denial.statuses) := by
  constructor
  · obtain ⟨agree, -, -⟩ :=
      modes_agree .empty runningTarget {} [.notRunning, .instanceState [.scheduled]]
    obtain ⟨hard, admission, decided, admitted, same, stops, -, -, -, reordered⟩ := agree
      ⟨false, .explain, [⟨.notRunning, .alreadyRunning⟩,
        ⟨.instanceState, .stateForbidden .running⟩]⟩ rfl
    obtain ⟨decision, rearranged, again, others, verdict⟩ := reordered
      [.instanceState [.scheduled], .notRunning] (.swap ..) .admission
    rw [admitted] at again
    cases again
    exact ⟨_, hard, admission, rfl, decided, admitted, rfl, same, stops, rearranged, others,
      verdict⟩
  · obtain ⟨-, -, faults⟩ := modes_agree .empty runningTarget {} [.notRunning, .runActive]
    exact ⟨.unknownRun "etl" "monday", rfl, faults _ rfl⟩

end RunGate
