import RunGate.Proofs.History.Recorded

namespace RunGate

namespace Run

variable {bySchedule : Bool} {first second third : Run}

/-- One run comes before another: in date by schedule, and otherwise in number. -/
def Before (bySchedule : Bool) (first second : Run) : Prop :=
  if bySchedule then first.date < second.date else first.number < second.number

instance : Decidable (first.Before bySchedule second) :=
  match bySchedule with
  | true => inferInstanceAs (Decidable (first.date < second.date))
  | false => inferInstanceAs (Decidable (first.number < second.number))

theorem Before.irrefl (run : Run) : ¬ run.Before bySchedule run := by
  cases bySchedule with
  | true => exact Instant.lt_irrefl run.date
  | false => exact Nat.lt_irrefl run.number

theorem Before.trans (left : first.Before bySchedule second)
    (right : second.Before bySchedule third) : first.Before bySchedule third := by
  cases bySchedule with
  | true => exact Instant.lt_trans left right
  | false => exact Nat.lt_trans left right

end Run

namespace History

variable {history : History} {run previous best : Run} {runs : List Run} {bySchedule : Bool}
  {later : Run → Run → Bool}

theorem latest_eq_none_iff : latest later runs = none ↔ runs = [] := by
  cases runs with
  | nil => simp [latest]
  | cons run rest =>
    simp only [latest, reduceCtorEq, iff_false]
    cases latest later rest with
    | none => simp
    | some best => cases compared : later run best <;> simp [compared]

private theorem latest_spec (irrefl : ∀ run, later run run = false)
    (trans : ∀ first second third, later first second = true → later second third = true →
      later first third = true)
    (found : latest later runs = some best) :
    best ∈ runs ∧ ∀ run ∈ runs, later run best = false := by
  induction runs generalizing best with
  | nil => cases found
  | cons run rest ih =>
    rw [latest] at found
    cases others : latest later rest with
    | none =>
      simp only [others, Option.some.injEq] at found
      subst found
      rw [latest_eq_none_iff.mp others]
      exact ⟨List.mem_singleton_self run, fun other member =>
        List.mem_singleton.mp member ▸ irrefl other⟩
    | some candidate =>
      obtain ⟨member, unbeaten⟩ := ih others
      simp only [others] at found
      cases compared : later run candidate with
      | false =>
        simp only [compared, Bool.false_eq_true, ↓reduceIte, Option.some.injEq] at found
        subst found
        exact ⟨List.mem_cons_of_mem _ member, List.forall_mem_cons.mpr ⟨compared, unbeaten⟩⟩
      | true =>
        simp only [compared, ↓reduceIte, Option.some.injEq] at found
        subst found
        refine ⟨List.mem_cons_self .., List.forall_mem_cons.mpr ⟨irrefl run, ?_⟩⟩
        intro other listed
        rw [← Bool.not_eq_true]
        intro beyond
        have contradiction := unbeaten other listed
        rw [trans other run candidate beyond compared] at contradiction
        cases contradiction

private theorem previousRun_eq_latest :
    history.previousRun run bySchedule =
      latest (fun first second => second.Before bySchedule first)
        ((history.runs.filter (·.workflow == run.workflow)).filter (·.Before bySchedule run)) := by
  cases bySchedule <;> rfl

private theorem mem_candidates {candidate : Run} :
    candidate ∈ (history.runs.filter (·.workflow == run.workflow)).filter
        (·.Before bySchedule run) ↔
      candidate ∈ history.runs ∧ candidate.workflow = run.workflow ∧
        candidate.Before bySchedule run := by
  rw [List.mem_filter, List.mem_filter, beq_iff_eq, decide_eq_true_iff, and_assoc]

/-- The run is the latest of its workflow that comes before another one. -/
structure RightBefore (history : History) (bySchedule : Bool) (previous run : Run) : Prop where
  recorded : previous ∈ history.runs
  workflow : previous.workflow = run.workflow
  before : previous.Before bySchedule run
  latest : ∀ other ∈ history.runs, other.workflow = run.workflow → other.Before bySchedule run →
    ¬ previous.Before bySchedule other

theorem rightBefore_of_previousRun (found : history.previousRun run bySchedule = some previous) :
    history.RightBefore bySchedule previous run := by
  rw [previousRun_eq_latest] at found
  obtain ⟨member, unbeaten⟩ := latest_spec
    (fun run => decide_eq_false (Run.Before.irrefl run))
    (fun first second third left right => decide_eq_true
      ((of_decide_eq_true right).trans (of_decide_eq_true left))) found
  obtain ⟨recorded, workflow, before⟩ := mem_candidates.mp member
  exact ⟨recorded, workflow, before, fun other listed same earlier =>
    of_decide_eq_false (unbeaten other (mem_candidates.mpr ⟨listed, same, earlier⟩))⟩

theorem not_before_of_previousRun (missing : history.previousRun run bySchedule = none) :
    ∀ other ∈ history.runs, other.workflow = run.workflow → ¬ other.Before bySchedule run := by
  intro other listed same earlier
  rw [previousRun_eq_latest, latest_eq_none_iff] at missing
  have member := mem_candidates.mpr ⟨listed, same, earlier⟩
  rw [missing] at member
  cases member

end History

namespace Scenario

variable {scenario : Scenario} {run previous other : RunEntry} {place before : Nat} {found : Run}

/-- A listed run is the previous one of another: with catch-up the latest of those with an earlier
date, and without it the one that is listed right before. -/
def PreviousRun (scenario : Scenario) (run previous : RunEntry) : Prop :=
  if scenario.workflow.catchup then
    previous ∈ scenario.runs ∧ previous.date < run.date ∧
      ∀ other ∈ scenario.runs, other.date < run.date → ¬ previous.date < other.date
  else ∃ place, scenario.runs[place]? = some previous ∧ scenario.runs[place + 1]? = some run

private theorem place_unique (valid : scenario.WellFormed)
    (first : scenario.runs[place]? = some run)
    (second : scenario.runs[before]? = some run) : place = before := by
  obtain ⟨inside, -⟩ := List.getElem?_eq_some_iff.mp first
  exact (List.getElem?_inj inside (valid.runNames.of_map _)).mp (first.trans second.symm)

theorem PreviousRun.unique (valid : scenario.WellFormed)
    (first : scenario.PreviousRun run previous) (second : scenario.PreviousRun run other) :
    previous = other := by
  unfold PreviousRun at first second
  split at first <;> rename_i catchup
  · rw [if_pos catchup] at second
    obtain ⟨listed, earlier, latest⟩ := first
    obtain ⟨listedToo, earlierToo, latestToo⟩ := second
    have sameDate : previous.date = other.date := by
      refine Classical.byContradiction fun different => ?_
      exact latestToo previous listed earlier
        (Instant.lt_of_not_lt_of_ne (latest other listedToo earlierToo) different)
    exact List.inj_on_of_nodup_map valid.runDates listed listedToo sameDate
  · rw [if_neg catchup] at second
    obtain ⟨place, listed, next⟩ := first
    obtain ⟨before, listedToo, nextToo⟩ := second
    have same : place = before := Nat.succ.inj (place_unique valid next nextToo)
    rw [← same, listed] at listedToo
    exact Option.some.inj listedToo

theorem mem_recordedRuns_of_getElem? (listed : scenario.runs[place]? = some run) :
    recordedRun scenario.workflow.name (place + 1) run ∈ scenario.recordedRuns :=
  mem_recordedRuns.mpr ⟨place, run, listed, rfl⟩

/-- The run that the history finds right before a listed one is the previous run by the listing. -/
theorem previousRun_recorded (listed : scenario.runs[place]? = some run)
    (leads : scenario.recorded.previousRun
      (recordedRun scenario.workflow.name (place + 1) run) scenario.workflow.catchup = some found) :
    ∃ before previous, scenario.runs[before]? = some previous ∧
      found = recordedRun scenario.workflow.name (before + 1) previous ∧
      scenario.PreviousRun run previous := by
  obtain ⟨recorded, -, earlier, latest⟩ := History.rightBefore_of_previousRun leads
  obtain ⟨before, previous, held, rfl⟩ := mem_recordedRuns.mp recorded
  refine ⟨before, previous, held, rfl, ?_⟩
  unfold PreviousRun
  cases catchup : scenario.workflow.catchup with
  | true =>
    rw [catchup] at earlier latest
    refine ⟨List.mem_of_getElem? held, earlier, fun other otherListed sooner => ?_⟩
    obtain ⟨otherPlace, otherHeld⟩ := List.mem_iff_getElem?.mp otherListed
    exact latest _ (mem_recordedRuns_of_getElem? otherHeld) rfl sooner
  | false =>
    rw [catchup] at earlier latest
    have sooner : before < place := Nat.lt_of_succ_lt_succ earlier
    obtain ⟨inside, -⟩ := List.getElem?_eq_some_iff.mp listed
    have between : scenario.runs[place - 1]? = some scenario.runs[place - 1] :=
      List.getElem?_eq_getElem (by omega)
    have last : ¬ before + 1 < place - 1 + 1 :=
      latest _ (mem_recordedRuns_of_getElem? between) rfl
        (show place - 1 + 1 < place + 1 by omega)
    have next : before + 1 = place := by omega
    exact ⟨before, held, next ▸ listed⟩

theorem no_previousRun_recorded (valid : scenario.WellFormed)
    (listed : scenario.runs[place]? = some run)
    (missing : scenario.recorded.previousRun (recordedRun scenario.workflow.name (place + 1) run)
      scenario.workflow.catchup = none) :
    ¬ scenario.PreviousRun run previous := by
  have unbeaten := History.not_before_of_previousRun missing
  unfold PreviousRun
  cases catchup : scenario.workflow.catchup with
  | true =>
    intro isPrevious
    obtain ⟨held, earlier, -⟩ := isPrevious
    obtain ⟨before, held⟩ := List.mem_iff_getElem?.mp held
    refine unbeaten _ (mem_recordedRuns_of_getElem? held) rfl ?_
    rw [catchup]
    exact earlier
  | false =>
    intro isPrevious
    obtain ⟨before, held, next⟩ := isPrevious
    have same : place = before + 1 := place_unique valid listed next
    refine unbeaten _ (mem_recordedRuns_of_getElem? held) rfl ?_
    rw [catchup, same]
    exact Nat.lt_succ_self (before + 1)

end Scenario

end RunGate
