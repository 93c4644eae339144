import RunGate.Proofs.History.Consistency
import RunGate.Proofs.History.Previous

/-! The walk back from a run through the runs before it. On a history that changes lead to, no two runs
of a workflow tie in either order, so the walk skips none and comes to none twice. -/

namespace RunGate

/-- What is known of a run but for its number, which tells only when it was created. -/
def Run.unnumbered (run : Run) : Run := { run with number := 0 }

namespace History

/-- The walk back from a run: on to the previous run, and so on until there is none. -/
inductive WalksBack (history : History) (bySchedule : Bool) : Run → List Run → Prop
  | ended {run} (missing : history.previousRun run bySchedule = none) :
      WalksBack history bySchedule run []
  | further {run previous visited} (found : history.previousRun run bySchedule = some previous)
      (rest : WalksBack history bySchedule previous visited) :
      WalksBack history bySchedule run (previous :: visited)

variable {history other : History} {bySchedule : Bool} {run twin previous first second : Run}
  {visited again : List Run}

theorem WalksBack.unique (walk : history.WalksBack bySchedule run visited)
    (walkToo : history.WalksBack bySchedule run again) : visited = again := by
  induction walk generalizing again with
  | ended missing =>
    cases walkToo with
    | ended _ => rfl
    | further found _ => cases missing.symm.trans found
  | further found rest ih =>
    cases walkToo with
    | ended missing => cases missing.symm.trans found
    | further foundToo restToo =>
      obtain rfl := Option.some.inj (found.symm.trans foundToo)
      exact congrArg _ (ih restToo)

/-- The runs of the same workflow that come before a run. -/
def earlier (history : History) (bySchedule : Bool) (run : Run) : List Run :=
  history.runs.filter fun candidate =>
    candidate.workflow == run.workflow && candidate.Before bySchedule run

private theorem mem_earlier : first ∈ history.earlier bySchedule run ↔
    first ∈ history.runs ∧ first.workflow = run.workflow ∧ first.Before bySchedule run := by
  simp [earlier]

/-- Two runs of one workflow do not tie: one comes before the other, or they are the same. -/
theorem Consistent.before_or_eq (consistent : history.Consistent) (recorded : first ∈ history.runs)
    (recordedToo : second ∈ history.runs) (workflow : first.workflow = second.workflow) :
    first.Before bySchedule second ∨ first = second ∨ second.Before bySchedule first := by
  cases bySchedule with
  | true =>
    by_cases before : first.date < second.date
    · exact .inl before
    · by_cases sameDate : first.date = second.date
      · have same : (first.workflow, first.date) = (second.workflow, second.date) :=
          Prod.ext workflow sameDate
        exact .inr (.inl (List.inj_on_of_nodup_map consistent.dates recorded recordedToo same))
      · exact .inr (.inr (Instant.lt_of_not_lt_of_ne before sameDate))
  | false =>
    have distinct : (history.runs.map (·.number)).Nodup :=
      consistent.numbers ▸ List.nodup_range'
    rcases Nat.lt_trichotomy first.number second.number with before | same | after
    · exact .inl before
    · exact .inr (.inl (List.inj_on_of_nodup_map distinct recorded recordedToo same))
    · exact .inr (.inr after)

/-- Before a run come the one right before it and those before that one. -/
private theorem RightBefore.mem_earlier_iff (consistent : history.Consistent)
    (next : history.RightBefore bySchedule previous run) :
    first ∈ history.earlier bySchedule run ↔
      first = previous ∨ first ∈ history.earlier bySchedule previous := by
  rw [mem_earlier, mem_earlier]
  constructor
  · intro before
    obtain ⟨recorded, workflow, before⟩ := before
    have same : first.workflow = previous.workflow := workflow.trans next.workflow.symm
    rcases consistent.before_or_eq recorded next.recorded same with further | equal | between
    · exact .inr ⟨recorded, same, further⟩
    · exact .inl equal
    · exact absurd between (next.latest first recorded workflow before)
  · intro before
    rcases before with rfl | ⟨recorded, workflow, further⟩
    · exact ⟨next.recorded, next.workflow, next.before⟩
    · exact ⟨recorded, workflow.trans next.workflow, further.trans next.before⟩

private theorem RightBefore.length_earlier_lt (next : history.RightBefore bySchedule previous run) :
    (history.earlier bySchedule previous).length < (history.earlier bySchedule run).length := by
  have left : history.earlier bySchedule previous =
      (history.earlier bySchedule run).filter (·.Before bySchedule previous) := by
    rw [earlier, earlier, List.filter_filter]
    apply List.filter_congr
    intro candidate _
    rw [Bool.eq_iff_iff]
    simp only [next.workflow, Bool.and_eq_true, beq_iff_eq, decide_eq_true_eq]
    constructor
    · intro further
      exact ⟨further.2, further.1, further.2.trans next.before⟩
    · intro further
      exact ⟨further.2.1, further.1⟩
  rw [left, List.length_filter_lt_length_iff_exists]
  refine ⟨previous, mem_earlier.mpr ⟨next.recorded, next.workflow, next.before⟩, ?_⟩
  simpa using Run.Before.irrefl previous

/-- A list of the runs before a run, the latest first. -/
structure Retraces (history : History) (bySchedule : Bool) (run : Run) (visited : List Run) :
    Prop where
  members : ∀ candidate, candidate ∈ visited ↔ candidate ∈ history.runs ∧
    candidate.workflow = run.workflow ∧ candidate.Before bySchedule run
  descending : visited.Pairwise fun later sooner => sooner.Before bySchedule later

theorem Retraces.cons (consistent : history.Consistent)
    (next : history.RightBefore bySchedule previous run)
    (rest : history.Retraces bySchedule previous visited) :
    history.Retraces bySchedule run (previous :: visited) where
  members candidate := by
    rw [← mem_earlier, next.mem_earlier_iff consistent, List.mem_cons, rest.members, mem_earlier]
  descending := List.pairwise_cons.mpr
    ⟨fun candidate member => ((rest.members candidate).mp member).2.2, rest.descending⟩

theorem WalksBack.retraces (consistent : history.Consistent)
    (walk : history.WalksBack bySchedule run visited) :
    history.Retraces bySchedule run visited := by
  induction walk with
  | ended missing =>
    refine ⟨fun candidate => ⟨nofun, fun candidateBefore => ?_⟩, .nil⟩
    obtain ⟨recorded, workflow, before⟩ := candidateBefore
    exact absurd before (not_before_of_previousRun missing candidate recorded workflow)
  | further found rest ih => exact ih.cons consistent (rightBefore_of_previousRun found)

/-- Every walk ends, since each step leaves fewer runs to come. -/
theorem exists_walksBack (history : History) (bySchedule : Bool) (run : Run) :
    ∃ visited, history.WalksBack bySchedule run visited := by
  cases found : history.previousRun run bySchedule with
  | none => exact ⟨[], .ended found⟩
  | some previous =>
    have fewer := (rightBefore_of_previousRun found).length_earlier_lt
    obtain ⟨visited, walk⟩ := history.exists_walksBack bySchedule previous
    exact ⟨previous :: visited, .further found walk⟩
termination_by (history.earlier bySchedule run).length

private theorem nodup_of_descending {runs : List Run}
    (descending : runs.Pairwise fun later sooner => sooner.Before bySchedule later) :
    runs.Nodup := by
  refine descending.imp fun {later sooner} before same => ?_
  rw [same] at before
  exact Run.Before.irrefl sooner before

/-- Two histories hold the same runs, created in whatever order. -/
def SameRuns (history other : History) : Prop :=
  ∀ facts, facts ∈ history.runs.map Run.unnumbered ↔ facts ∈ other.runs.map Run.unnumbered

private theorem Retraces.mem_map_unnumbered_iff (retraces : history.Retraces true run visited)
    {facts : Run} : facts ∈ visited.map Run.unnumbered ↔
      facts ∈ history.runs.map Run.unnumbered ∧ facts.workflow = run.workflow ∧
        facts.date < run.date := by
  simp only [List.mem_map]
  constructor
  · intro member
    obtain ⟨candidate, member, rfl⟩ := member
    obtain ⟨recorded, before⟩ := (retraces.members candidate).mp member
    exact ⟨⟨candidate, recorded, rfl⟩, before⟩
  · intro listed
    obtain ⟨⟨candidate, recorded, rfl⟩, before⟩ := listed
    exact ⟨candidate, (retraces.members candidate).mpr ⟨recorded, before⟩, rfl⟩

private theorem Retraces.descending_map_unnumbered (retraces : history.Retraces true run visited) :
    (visited.map Run.unnumbered).Pairwise fun later sooner => sooner.Before true later :=
  List.pairwise_map.mpr retraces.descending

private theorem Retraces.map_unnumbered_eq (same : history.SameRuns other)
    (sameStart : twin.unnumbered = run.unnumbered)
    (retraces : history.Retraces true run visited) (retracesToo : other.Retraces true twin again) :
    again.map Run.unnumbered = visited.map Run.unnumbered := by
  have workflow : twin.workflow = run.workflow := (congrArg Run.workflow sameStart :)
  have date : twin.date = run.date := (congrArg Run.date sameStart :)
  have members (facts : Run) :
      facts ∈ again.map Run.unnumbered ↔ facts ∈ visited.map Run.unnumbered := by
    rw [retracesToo.mem_map_unnumbered_iff, retraces.mem_map_unnumbered_iff, same, workflow, date]
  have one := retracesToo.descending_map_unnumbered
  have two := retraces.descending_map_unnumbered
  refine List.Perm.eq_of_pairwise ?_ one two
    ((List.perm_ext_iff_of_nodup (nodup_of_descending one) (nodup_of_descending two)).mpr members)
  intro facts others _ _ after before
  exact absurd (after.trans before) (Run.Before.irrefl others)

private theorem Consistent.number_of_getElem? (consistent : history.Consistent) {place : Nat}
    (placed : history.runs[place]? = some run) : run.number = place + 1 := by
  have numbered : (history.runs.map (·.number))[place]? = some run.number := by
    rw [List.getElem?_map, placed]
    rfl
  rw [consistent.numbers] at numbered
  obtain ⟨inside, counted⟩ := List.getElem?_eq_some_iff.mp numbered
  rw [List.getElem_range'] at counted
  omega

private theorem Consistent.before_iff_mem_take (consistent : history.Consistent) {place : Nat}
    (placed : history.runs[place]? = some run) (recorded : first ∈ history.runs) :
    first.Before false run ↔ first ∈ history.runs.take place := by
  have number := consistent.number_of_getElem? placed
  rw [List.mem_take_iff_getElem]
  constructor
  · intro before
    obtain ⟨spot, inside, held⟩ := List.getElem_of_mem recorded
    have spotNumber := consistent.number_of_getElem? (List.getElem?_eq_some_iff.mpr ⟨inside, held⟩)
    have sooner : first.number < run.number := before
    exact ⟨spot, by omega, held⟩
  · intro taken
    obtain ⟨spot, inside, held⟩ := taken
    have spotNumber := consistent.number_of_getElem?
      (List.getElem?_eq_some_iff.mpr ⟨Nat.lt_of_lt_of_le inside (Nat.min_le_right ..), held⟩)
    show first.number < run.number
    omega

theorem Reachable.consistent (reachable : history.Reachable) : history.Consistent := by
  obtain ⟨changes, rfl⟩ := reachable
  exact consistent_empty.afterChanges changes

/-- On a history that changes lead to, the walk back from a run ends, and there is one such walk. It
goes through the runs of the workflow that come before the run, through each once, the latest first.
Those that come before it in number are those created before it. Histories that hold the same runs,
created in whatever order, have the same walk by schedule. -/
theorem walksBack_of_reachable (reachable : history.Reachable) :
    (∀ bySchedule run, ∃ visited, history.WalksBack bySchedule run visited ∧
      (∀ again, history.WalksBack bySchedule run again → again = visited) ∧
      history.Retraces bySchedule run visited ∧ visited.Nodup) ∧
    (∀ place run, history.runs[place]? = some run → ∀ candidate ∈ history.runs,
      candidate.Before false run ↔ candidate ∈ history.runs.take place) ∧
    ∀ other : History, other.Reachable → history.SameRuns other →
      ∀ run ∈ history.runs, ∀ twin ∈ other.runs, twin.unnumbered = run.unnumbered →
        ∀ visited again, history.WalksBack true run visited → other.WalksBack true twin again →
          again.map Run.unnumbered = visited.map Run.unnumbered := by
  refine ⟨fun bySchedule run => ?_, fun place run placed candidate recorded =>
    reachable.consistent.before_iff_mem_take placed recorded, ?_⟩
  · obtain ⟨visited, walk⟩ := history.exists_walksBack bySchedule run
    have retraces := walk.retraces reachable.consistent
    exact ⟨visited, walk, fun again walkToo => walkToo.unique walk, retraces,
      nodup_of_descending retraces.descending⟩
  · intro other reachableToo same run _ twin _ sameStart visited again walk walkToo
    exact (walk.retraces reachable.consistent).map_unnumbered_eq same sameStart
      (walkToo.retraces reachableToo.consistent)

/-- Runs of two workflows, created neither in the order of their dates nor one workflow after the
other. -/
def interleaved : List Change :=
  [.createRun "etl" "tuesday" (.midnight 1) .success,
    .createRun "web" "monday" (.midnight 0) .success,
    .createRun "etl" "monday" (.midnight 0) .success,
    .createRun "etl" "wednesday" (.midnight 2) .running]

/-- From Wednesday the walk by schedule comes to Tuesday first, and the one by creation to Monday. If
the runs are created the other way round, the walk by schedule stays the same. -/
theorem walksBack_interleaved :
    let history := empty.afterChanges interleaved
    let other := empty.afterChanges interleaved.reverse
    let wednesday (number : Nat) : Run := ⟨number, "etl", "wednesday", .midnight 2, .running⟩
    (history.Reachable ∧ other.Reachable ∧ history.SameRuns other) ∧
    (∃ visited, history.WalksBack false (wednesday 4) visited ∧
      history.Retraces false (wednesday 4) visited ∧
      visited.map (·.name) = ["monday", "tuesday"]) ∧
    ∃ visited again, history.WalksBack true (wednesday 4) visited ∧
      other.WalksBack true (wednesday 1) again ∧
      visited.map (·.name) = ["tuesday", "monday"] ∧
      again.map Run.unnumbered = visited.map Run.unnumbered := by
  intro history other wednesday
  have reachable : history.Reachable := ⟨interleaved, rfl⟩
  have reachableToo : other.Reachable := ⟨interleaved.reverse, rfl⟩
  have sameRuns : history.SameRuns other := by
    intro facts
    rw [show other.runs.map Run.unnumbered = (history.runs.map Run.unnumbered).reverse from rfl,
      List.mem_reverse]
  obtain ⟨walks, -, sameWalk⟩ := walksBack_of_reachable reachable
  obtain ⟨visited, walk, only, retraces, -⟩ := walks false (wednesday 4)
  have byCreation : history.WalksBack false (wednesday 4) _ :=
    .further rfl (.further rfl (.ended rfl))
  have bySchedule : history.WalksBack true (wednesday 4) _ :=
    .further rfl (.further rfl (.ended rfl))
  have again : other.WalksBack true (wednesday 1) _ :=
    .further rfl (.further rfl (.ended rfl))
  refine ⟨⟨reachable, reachableToo, sameRuns⟩, ⟨visited, walk, retraces, ?_⟩,
    ⟨_, _, bySchedule, again, rfl, ?_⟩⟩
  · rw [← only _ byCreation]
    rfl
  · exact sameWalk other reachableToo sameRuns (wednesday 4)
      (List.mem_iff_getElem?.mpr ⟨3, rfl⟩) (wednesday 1) (List.mem_iff_getElem?.mpr ⟨0, rfl⟩) rfl
      _ _ bySchedule again

end History

end RunGate
