import Mathlib.Data.List.Nodup
import RunGate.History.Change

/-! The invariant of histories. It holds of every history that changes lead to, whether they succeed
or fail; a change that fails changes nothing, and no change touches the runs there are. -/

namespace RunGate.History

variable {history after : History} {workflow name : String} {date : Instant} {state : RunState}
  {run : Run} {subject : TaskInstance} {key : InstanceKey}
  {entries : List (InstanceKey × TaskInstance)}

/-- The runs are numbered from 1 in the order of their creation, and within a workflow they differ
in name and in date. An instance is stored once, under its own key, and its run is there. -/
structure Consistent (history : History) : Prop where
  numbers : history.runs.map (·.number) = List.range' 1 history.lastNumber
  names : (history.runs.map fun run => (run.workflow, run.name)).Nodup
  dates : (history.runs.map fun run => (run.workflow, run.date)).Nodup
  keys : (history.instances.map (·.1)).Nodup
  ownKeys : ∀ entry ∈ history.instances, entry.2.key = entry.1
  knownRuns : ∀ entry ∈ history.instances, ∃ run ∈ history.runs,
    run.workflow = entry.2.key.workflow ∧ run.name = entry.2.key.run

theorem consistent_empty : empty.Consistent where
  numbers := rfl
  names := .nil
  dates := .nil
  keys := .nil
  ownKeys := nofun
  knownRuns := nofun

/-- What a change that succeeds makes of a history. -/
inductive Changed (history : History) : History → Prop
  /-- A new run comes last. No run of its workflow has its name or its date. -/
  | run {workflow name : String} {date : Instant} (state : RunState)
      (untaken : ∀ other ∈ history.runs, other.workflow = workflow →
        other.name ≠ name ∧ other.date ≠ date) :
      Changed history { history with
        runs := history.runs ++ [⟨history.lastNumber + 1, workflow, name, date, state⟩]
        lastNumber := history.lastNumber + 1 }
  /-- An instance of a run that is there is stored under its key. -/
  | stored {subject : TaskInstance}
      (known : ∃ run ∈ history.runs,
        run.workflow = subject.key.workflow ∧ run.name = subject.key.run) :
      Changed history { history with instances := place subject.key subject history.instances }
  | restated {key : InstanceKey} {subject : TaskInstance} (state : TaskState)
      (held : (key, subject) ∈ history.instances) :
      Changed history
        { history with instances := place key { subject with state } history.instances }
  | flagged (key : InstanceKey) (flag : String) (value : Bool) :
      Changed history (history.recordFlag key flag value)

/-- A call fails and leaves the history as it was, or it succeeds and makes one change. -/
def AllOrNothing {α : Type} (history : History) (call : Except Fault α × History) : Prop :=
  (∃ fault, call = (.error fault, history)) ∨
    ∃ value after, call = (.ok value, after) ∧ history.Changed after

private theorem AllOrNothing.map {α β : Type} {call : Except Fault α × History}
    (settled : history.AllOrNothing call) (answer : α → β) :
    history.AllOrNothing (call.1.map answer, call.2) := by
  rcases settled with ⟨fault, rfl⟩ | ⟨value, after, rfl, changed⟩
  · exact .inl ⟨fault, rfl⟩
  · exact .inr ⟨answer value, after, rfl, changed⟩

theorem createRun_cases (history : History) (workflow name : String) (date : Instant)
    (state : RunState) : history.AllOrNothing (history.createRun workflow name date state) := by
  unfold createRun
  split
  · exact .inl ⟨_, rfl⟩
  · rename_i unnamed
    split
    · exact .inl ⟨_, rfl⟩
    · rename_i undated
      refine .inr ⟨_, _, rfl, .run state fun other member same => ⟨?_, ?_⟩⟩
      · intro sameName
        exact unnamed (List.find?_isSome.mpr ⟨other, member, by simp [same, sameName]⟩)
      · intro sameDate
        exact List.find?_eq_none.mp undated other member (by simp [same, sameDate])

theorem upsert_cases (history : History) (subject : TaskInstance) :
    history.AllOrNothing (history.upsert subject) := by
  unfold upsert
  split
  · rename_i known
    obtain ⟨run, member, named⟩ := List.find?_isSome.mp known
    simp only [Bool.and_eq_true, beq_iff_eq] at named
    exact .inr ⟨_, _, rfl, .stored ⟨run, member, named⟩⟩
  · exact .inl ⟨_, rfl⟩

theorem setState_cases (history : History) (key : InstanceKey) (state : TaskState) :
    history.AllOrNothing (history.setState key state) := by
  unfold setState
  split
  · rename_i subject found
    obtain ⟨first, second, held, -⟩ := List.lookup_eq_some_iff.mp found
    exact .inr ⟨_, _, rfl, .restated state (by simp [held])⟩
  · exact .inl ⟨_, rfl⟩

theorem change_cases (history : History) (change : Change) :
    history.AllOrNothing (history.change change) := by
  cases change with
  | createRun workflow name date state =>
    exact (history.createRun_cases workflow name date state).map some
  | upsert subject => exact (history.upsert_cases subject).map fun _ => none
  | setState key state => exact (history.setState_cases key state).map fun _ => none
  | recordFlag key flag value => exact .inr ⟨_, _, rfl, .flagged key flag value⟩

theorem change_of_error {change : Change} {fault : Fault}
    (failed : (history.change change).1 = .error fault) :
    (history.change change).2 = history := by
  rcases history.change_cases change with ⟨other, same⟩ | ⟨answer, after, same, -⟩
  · rw [same]
  · rw [same] at failed
    cases failed

private theorem Changed.runs_prefix (changed : history.Changed after) :
    history.runs <+: after.runs := by
  cases changed with
  | run state untaken => exact List.prefix_append ..
  | stored known => exact List.prefix_rfl
  | restated state held => exact List.prefix_rfl
  | flagged key flag value => exact List.prefix_rfl

theorem runs_prefix_change (history : History) (change : Change) :
    history.runs <+: (history.change change).2.runs := by
  rcases history.change_cases change with ⟨fault, same⟩ | ⟨answer, after, same, changed⟩
  · have failed : (history.change change).1 = .error fault := by rw [same]
    exact (congrArg History.runs (change_of_error failed)).symm ▸ List.prefix_rfl
  · rw [same]
    exact changed.runs_prefix

theorem runs_prefix_afterChanges (history : History) (changes : List Change) :
    history.runs <+: (history.afterChanges changes).runs := by
  induction changes generalizing history with
  | nil => exact List.prefix_rfl
  | cons change rest ih => exact (history.runs_prefix_change change).trans (ih _)

theorem mem_place {entry : InstanceKey × TaskInstance}
    (member : entry ∈ place key subject entries) :
    entry = (key, subject) ∨ entry ∈ entries := by
  induction entries with
  | nil => exact .inl (List.mem_singleton.mp member)
  | cons head rest ih =>
    rw [place] at member
    split at member
    · rcases List.mem_cons.mp member with same | later
      · exact .inl same
      · exact .inr (List.mem_cons_of_mem _ later)
    · rcases List.mem_cons.mp member with same | later
      · exact .inr (same ▸ List.mem_cons_self ..)
      · exact (ih later).imp_right (List.mem_cons_of_mem _)

theorem keys_place : (place key subject entries).map (·.1) =
    if key ∈ entries.map (·.1) then entries.map (·.1) else entries.map (·.1) ++ [key] := by
  induction entries with
  | nil => rfl
  | cons head rest ih =>
    by_cases same : head.1 = key
    · simp [place, same]
    · simp only [place, if_neg same, List.map_cons, ih, List.mem_cons, Ne.symm same, false_or]
      split <;> rfl

private theorem nodup_append_singleton {α : Type} {values : List α} {value : α}
    (distinct : values.Nodup) (fresh : value ∉ values) : (values ++ [value]).Nodup :=
  List.concat_eq_append ▸ distinct.concat fresh

/-- Storing an instance of a run that is there under its own key keeps the invariant. -/
theorem Consistent.place (consistent : history.Consistent) (own : subject.key = key)
    (known : ∃ run ∈ history.runs,
      run.workflow = subject.key.workflow ∧ run.name = subject.key.run) :
    { history with instances := place key subject history.instances }.Consistent := by
  refine { consistent with keys := ?_, ownKeys := ?_, knownRuns := ?_ }
  · rw [keys_place]
    split
    · exact consistent.keys
    · rename_i fresh
      exact nodup_append_singleton consistent.keys fresh
  · intro entry member
    rcases mem_place member with rfl | old
    · exact own
    · exact consistent.ownKeys entry old
  · intro entry member
    rcases mem_place member with rfl | old
    · exact known
    · exact consistent.knownRuns entry old

theorem Consistent.changed (consistent : history.Consistent) (changed : history.Changed after) :
    after.Consistent := by
  cases changed with
  | run state untaken =>
    refine { consistent with numbers := ?_, names := ?_, dates := ?_, knownRuns := ?_ }
    · rw [List.map_append, consistent.numbers, List.range'_concat]
      simp [Nat.add_comm]
    · rw [List.map_append]
      refine nodup_append_singleton consistent.names fun taken => ?_
      obtain ⟨other, member, same⟩ := List.mem_map.mp taken
      exact (untaken other member (congrArg Prod.fst same)).1 (congrArg Prod.snd same)
    · rw [List.map_append]
      refine nodup_append_singleton consistent.dates fun taken => ?_
      obtain ⟨other, member, same⟩ := List.mem_map.mp taken
      exact (untaken other member (congrArg Prod.fst same)).2 (congrArg Prod.snd same)
    · intro entry member
      obtain ⟨held, recorded, same⟩ := consistent.knownRuns entry member
      exact ⟨held, List.mem_append_left _ recorded, same⟩
  | stored known => exact consistent.place rfl known
  | restated state held =>
    exact consistent.place (consistent.ownKeys _ held) (consistent.knownRuns _ held)
  | flagged key flag value => exact { consistent with }

theorem Consistent.change (consistent : history.Consistent) (change : Change) :
    (history.change change).2.Consistent := by
  rcases history.change_cases change with ⟨fault, same⟩ | ⟨answer, after, same, changed⟩
  · rw [same]
    exact consistent
  · rw [same]
    exact consistent.changed changed

theorem Consistent.afterChanges (consistent : history.Consistent) (changes : List Change) :
    (history.afterChanges changes).Consistent := by
  induction changes generalizing history with
  | nil => exact consistent
  | cons change rest ih => exact ih (consistent.change change)

/-- Every history that changes lead to is consistent. From there on a change that fails leaves it as
it is, counter and all, and whatever changes follow, its runs stay the first ones, as they are. -/
theorem consistent_of_reachable (reachable : history.Reachable) :
    history.Consistent ∧
      (∀ change fault, (history.change change).1 = .error fault →
        (history.change change).2 = history) ∧
      ∀ changes, history.runs <+: (history.afterChanges changes).runs := by
  obtain ⟨changes, rfl⟩ := reachable
  exact ⟨consistent_empty.afterChanges changes, fun _ _ => change_of_error,
    runs_prefix_afterChanges _⟩

/-- Runs of two workflows, which may share names and dates, and an instance that is stored twice. -/
def twoWorkflows : List Change :=
  [.createRun "etl" "monday" (.midnight 0) .success,
    .createRun "etl" "again" (.midnight 0) .running,
    .createRun "web" "monday" (.midnight 0) .running,
    .upsert ⟨⟨"etl", "load", "monday", unmapped⟩, .midnight 0, .running⟩,
    .setState ⟨"etl", "load", "monday", unmapped⟩ .success,
    .recordFlag ⟨"etl", "load", "monday", unmapped⟩ "past_depends_met" true]

/-- The second of these changes fails, as does the same run once more; a further one succeeds. -/
theorem consistent_twoWorkflows :
    (empty.afterChanges twoWorkflows).Consistent ∧
      ((empty.afterChanges twoWorkflows).change
        (.createRun "web" "monday" (.midnight 1) .queued)).2.runs.length = 2 ∧
      (empty.afterChanges twoWorkflows).runs <+: ((empty.afterChanges twoWorkflows).afterChanges
        [.createRun "web" "tuesday" (.midnight 1) .queued]).runs := by
  obtain ⟨consistent, unchanged, first⟩ := consistent_of_reachable ⟨twoWorkflows, rfl⟩
  refine ⟨consistent, ?_, first _⟩
  rw [unchanged _ (.store (.runExists "web" "monday")) rfl]
  rfl

end RunGate.History
