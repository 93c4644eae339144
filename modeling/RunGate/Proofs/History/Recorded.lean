import Mathlib.Data.List.Nodup
import RunGate.Proofs.Scenario.Acceptance
import RunGate.Proofs.History.Reading

/-! The history of a well-formed scenario. What validation has accepted no insertion refuses, so the
history records what the scenario lists, in the order of the listing. -/

namespace RunGate

namespace History

variable {history : History} {workflow name : String} {date : Instant} {state : RunState}
  {key : InstanceKey} {subject : TaskInstance} {instances : List (InstanceKey × TaskInstance)}

/-- No recorded run has the name or the date. -/
def Untaken (history : History) (name : String) (date : Instant) : Prop :=
  ∀ run ∈ history.runs, run.name ≠ name ∧ run.date ≠ date

def withRun (history : History) (workflow name : String) (date : Instant) (state : RunState) :
    History :=
  { history with
    runs := history.runs ++ [⟨history.lastNumber + 1, workflow, name, date, state⟩]
    lastNumber := history.lastNumber + 1 }

private theorem createRun_of_untaken (untaken : history.Untaken name date) :
    history.createRun workflow name date state =
      (.ok ⟨history.lastNumber + 1, workflow, name, date, state⟩,
        history.withRun workflow name date state) := by
  have unnamed : history.run? workflow name = none := by
    refine List.find?_eq_none.mpr fun run member => ?_
    simp [(untaken run member).1]
  have undated : (history.runs.find? fun run => run.workflow == workflow && run.date == date) =
      none := by
    refine List.find?_eq_none.mpr fun run member => ?_
    simp [(untaken run member).2]
  simp [createRun, unnamed, undated, withRun]

private theorem place_of_fresh (fresh : key ∉ instances.map (·.1)) :
    place key subject instances = instances ++ [(key, subject)] := by
  induction instances with
  | nil => rfl
  | cons entry rest ih =>
    rw [List.map_cons, List.mem_cons, not_or] at fresh
    rw [place, if_neg (Ne.symm fresh.1), ih fresh.2, List.cons_append]

/-- The history after an instance under a new key. -/
def withInstance (history : History) (subject : TaskInstance) : History :=
  { history with instances := history.instances ++ [(subject.key, subject)] }

private theorem upsert_of_fresh (known : (history.run? subject.key.workflow subject.key.run).isSome)
    (fresh : subject.key ∉ history.instances.map (·.1)) :
    history.upsert subject = (.ok (), history.withInstance subject) := by
  rw [upsert, if_pos known, place_of_fresh fresh, withInstance]

/-- Among instances under different keys, the one under a key is the one that is listed with it. -/
theorem lookup_eq_some_iff (distinct : (instances.map (·.1)).Nodup) :
    instances.lookup key = some subject ↔ (key, subject) ∈ instances := by
  induction instances with
  | nil => simp
  | cons entry rest ih =>
    obtain ⟨absent, later⟩ := List.nodup_cons.mp distinct
    obtain ⟨held, first⟩ := entry
    by_cases same : key = held
    · subst same
      have missing : (key, subject) ∉ rest := fun member =>
        absent (List.mem_map.mpr ⟨_, member, rfl⟩)
      simp [missing, eq_comm]
    · simp [List.lookup_cons, beq_eq_false_iff_ne.mpr same, same, ih later]

end History

namespace Scenario

variable {scenario : Scenario}

def recordedRun (workflow : String) (number : Nat) (entry : RunEntry) : Run :=
  ⟨number, workflow, entry.run, entry.date, entry.state⟩

/-- The listed runs as the history records them: in the same order, numbered from 1. -/
def recordedRuns (scenario : Scenario) : List Run :=
  scenario.runs.mapIdx fun place => recordedRun scenario.workflow.name (place + 1)

def keyOf (scenario : Scenario) (entry : InstanceEntry) : InstanceKey :=
  ⟨scenario.workflow.name, entry.task, entry.run, entry.mapIndex⟩

/-- A listed instance as the history records it, with the date of its run. -/
def recordedInstance (scenario : Scenario) (entry : InstanceEntry) : Option TaskInstance :=
  (scenario.run? entry.run).map fun run => ⟨scenario.keyOf entry, run.date, entry.state⟩

def recordedInstances (scenario : Scenario) : List TaskInstance :=
  scenario.instances.filterMap scenario.recordedInstance

/-- The history that records what the scenario lists. -/
def recorded (scenario : Scenario) : History where
  runs := scenario.recordedRuns
  instances := scenario.recordedInstances.map fun subject => (subject.key, subject)
  flags := fun _ _ => none
  lastNumber := scenario.runs.length

end Scenario

namespace History

variable {scenario : Scenario} {history : History} {workflow : String} {runs : List RunEntry}

private theorem addRuns_of_apart (untaken : ∀ entry ∈ runs, history.Untaken entry.run entry.date)
    (apart : runs.Pairwise Scenario.RunsApart) :
    addRuns workflow runs history = .ok { history with
      runs := history.runs ++ runs.mapIdx fun place =>
        Scenario.recordedRun workflow (history.lastNumber + place + 1)
      lastNumber := history.lastNumber + runs.length } := by
  induction runs generalizing history with
  | nil => simp [addRuns]
  | cons entry rest ih =>
    obtain ⟨first, later⟩ := List.pairwise_cons.mp apart
    have others : ∀ next ∈ rest, (history.withRun workflow entry.run entry.date
        entry.state).Untaken next.run next.date := by
      intro next member run recorded
      rcases List.mem_append.mp recorded with old | new
      · exact untaken next (List.mem_cons_of_mem _ member) run old
      · rw [List.mem_singleton.mp new]
        exact first next member
    rw [addRuns, createRun_of_untaken (untaken entry (List.mem_cons_self ..))]
    simp only [ih others later, List.mapIdx_cons, List.length_cons]
    simp [withRun, Scenario.recordedRun, Nat.add_comm, Nat.add_left_comm]

private theorem addInstances_cons {entry : InstanceEntry} {rest : List InstanceEntry}
    {subject : TaskInstance} {after : History}
    (recorded : scenario.recordedInstance entry = some subject)
    (stored : history.upsert subject = (.ok (), after)) :
    addInstances scenario (entry :: rest) history = addInstances scenario rest after := by
  obtain ⟨run, found, rfl⟩ := Option.map_eq_some_iff.mp recorded
  rw [Scenario.keyOf] at stored
  simp only [addInstances, found, stored]

private theorem addInstances_of_fresh {entries : List InstanceEntry}
    (known : ∀ entry ∈ entries, (scenario.run? entry.run).isSome ∧
      (history.run? scenario.workflow.name entry.run).isSome)
    (fresh : ∀ entry ∈ entries, scenario.keyOf entry ∉ history.instances.map (·.1))
    (distinct : entries.Pairwise fun first second => scenario.keyOf first ≠ scenario.keyOf second) :
    addInstances scenario entries history = .ok { history with
      instances := history.instances ++ (entries.filterMap scenario.recordedInstance).map
        fun subject => (subject.key, subject) } := by
  induction entries generalizing history with
  | nil => simp [addInstances]
  | cons entry rest ih =>
    obtain ⟨first, later⟩ := List.pairwise_cons.mp distinct
    obtain ⟨listed, held⟩ := known entry (List.mem_cons_self ..)
    obtain ⟨run, found⟩ := Option.isSome_iff_exists.mp listed
    let subject : TaskInstance := ⟨scenario.keyOf entry, run.date, entry.state⟩
    have recorded : scenario.recordedInstance entry = some subject := by
      simp [Scenario.recordedInstance, found, subject]
    have knownLater : ∀ next ∈ rest, (scenario.run? next.run).isSome ∧
        ((history.withInstance subject).run? scenario.workflow.name next.run).isSome :=
      fun next member => known next (List.mem_cons_of_mem _ member)
    have freshLater : ∀ next ∈ rest, scenario.keyOf next ∉
        (history.withInstance subject).instances.map (·.1) := by
      intro next member
      simp only [withInstance, List.map_append, List.map_cons, List.map_nil, List.mem_append,
        List.mem_singleton, not_or]
      exact ⟨fresh next (List.mem_cons_of_mem _ member), (first next member).symm⟩
    have stored : history.upsert subject = (.ok (), history.withInstance subject) :=
      upsert_of_fresh held (fresh entry (List.mem_cons_self ..))
    rw [addInstances_cons recorded stored, ih knownLater freshLater later]
    simp [withInstance, recorded]

end History

/-- Where at most one entry passes a test, finding it is as good as its being listed. -/
theorem find?_eq_some_iff_of_unique {α : Type} {entries : List α} {test : α → Bool} {entry : α}
    (unique : ∀ first ∈ entries, ∀ second ∈ entries, test first → test second → first = second) :
    entries.find? test = some entry ↔ entry ∈ entries ∧ test entry := by
  constructor
  · intro found
    exact ⟨List.mem_of_find?_eq_some found, List.find?_some found⟩
  · intro listed
    obtain ⟨member, passes⟩ := listed
    obtain ⟨other, found⟩ := Option.isSome_iff_exists.mp
      (List.find?_isSome.mpr ⟨entry, member, passes⟩)
    rw [found, unique other (List.mem_of_find?_eq_some found) entry member
      (List.find?_some found) passes]

namespace Scenario

variable {scenario : Scenario} {name : String} {run : Run} {entry : RunEntry}
  {subject : TaskInstance} {key : InstanceKey}

theorem run?_eq_some_iff (valid : scenario.WellFormed) :
    scenario.run? name = some entry ↔ entry ∈ scenario.runs ∧ entry.run = name := by
  have distinct := List.inj_on_of_nodup_map valid.runNames
  rw [run?, find?_eq_some_iff_of_unique, beq_iff_eq]
  intro first listed second listedToo named namedToo
  exact distinct listed listedToo ((beq_iff_eq.mp named).trans (beq_iff_eq.mp namedToo).symm)

theorem mem_runs_iff_exists_run? :
    name ∈ scenario.runs.map (·.run) ↔ ∃ entry, scenario.run? name = some entry := by
  rw [← Option.isSome_iff_exists, run?, List.find?_isSome]
  simp

theorem mem_recordedRuns :
    run ∈ scenario.recordedRuns ↔ ∃ place entry, scenario.runs[place]? = some entry ∧
      run = recordedRun scenario.workflow.name (place + 1) entry := by
  simp only [recordedRuns, List.mem_iff_getElem?, List.getElem?_mapIdx, Option.map_eq_some_iff]
  constructor
  · intro placed
    obtain ⟨place, entry, listed, same⟩ := placed
    exact ⟨place, entry, listed, same.symm⟩
  · intro placed
    obtain ⟨place, entry, listed, same⟩ := placed
    exact ⟨place, entry, listed, same.symm⟩

private theorem map_recordedRuns {β : Type} {read : Run → β} {readEntry : RunEntry → β}
    (same : ∀ number entry, read (recordedRun scenario.workflow.name number entry) =
      readEntry entry) :
    scenario.recordedRuns.map read = scenario.runs.map readEntry :=
  List.ext_getElem? fun place => by simp [recordedRuns, same, Function.comp_def]

private theorem workflow_of_mem_recordedRuns (recorded : run ∈ scenario.recordedRuns) :
    run.workflow = scenario.workflow.name := by
  obtain ⟨_, _, _, rfl⟩ := mem_recordedRuns.mp recorded
  rfl

theorem run?_recorded_eq_some_iff (valid : scenario.WellFormed) :
    scenario.recorded.run? scenario.workflow.name name = some run ↔
      run ∈ scenario.recordedRuns ∧ run.name = name := by
  have names : scenario.recordedRuns.map (·.name) = scenario.runs.map (·.run) :=
    map_recordedRuns fun _ _ => rfl
  have distinct := List.inj_on_of_nodup_map (names ▸ valid.runNames)
  rw [History.run?, find?_eq_some_iff_of_unique]
  · simp only [Bool.and_eq_true, beq_iff_eq]
    constructor
    · intro found
      obtain ⟨recorded, -, named⟩ := found
      exact ⟨recorded, named⟩
    · intro found
      obtain ⟨recorded, named⟩ := found
      exact ⟨recorded, workflow_of_mem_recordedRuns recorded, named⟩
  · simp only [Bool.and_eq_true, beq_iff_eq]
    intro first listed second listedToo named namedToo
    exact distinct listed listedToo (named.2.trans namedToo.2.symm)

theorem isSome_run?_recorded_iff (valid : scenario.WellFormed) :
    (scenario.recorded.run? scenario.workflow.name name).isSome ↔
      name ∈ scenario.runs.map (·.run) := by
  have names : scenario.recordedRuns.map (·.name) = scenario.runs.map (·.run) :=
    map_recordedRuns fun _ _ => rfl
  rw [Option.isSome_iff_exists, ← names, List.mem_map]
  exact exists_congr fun run => run?_recorded_eq_some_iff valid

theorem mem_recordedInstances (valid : scenario.WellFormed) :
    subject ∈ scenario.recordedInstances ↔ ∃ entry ∈ scenario.instances,
      ∃ run ∈ scenario.runs, run.run = entry.run ∧
        subject = ⟨scenario.keyOf entry, run.date, entry.state⟩ := by
  simp only [recordedInstances, List.mem_filterMap, recordedInstance, Option.map_eq_some_iff,
    run?_eq_some_iff valid, and_assoc]
  constructor
  · intro recorded
    obtain ⟨entry, listed, run, runListed, named, rfl⟩ := recorded
    exact ⟨entry, listed, run, runListed, named, rfl⟩
  · intro recorded
    obtain ⟨entry, listed, run, runListed, named, rfl⟩ := recorded
    exact ⟨entry, listed, run, runListed, named, rfl⟩

/-- Every listed instance is recorded, with its key, its state and the date of its run. -/
theorem exists_recordedInstance (valid : scenario.WellFormed) {entry : InstanceEntry}
    (listed : entry ∈ scenario.instances) : ∃ run ∈ scenario.runs, run.run = entry.run ∧
      ⟨scenario.keyOf entry, run.date, entry.state⟩ ∈ scenario.recordedInstances := by
  obtain ⟨run, runListed, named⟩ := List.mem_map.mp (valid.listedInstances entry listed).2.1
  exact ⟨run, runListed, named,
    (mem_recordedInstances valid).mpr ⟨entry, listed, run, runListed, named, rfl⟩⟩

private theorem identity_of_keyOf {first second : InstanceEntry}
    (same : scenario.keyOf first = scenario.keyOf second) : identity first = identity second := by
  simp only [keyOf, InstanceKey.mk.injEq] at same
  simp [identity, same]

theorem nodup_keys_recordedInstances (valid : scenario.WellFormed) :
    (scenario.recordedInstances.map (·.key)).Nodup := by
  have distinct := List.pairwise_map.mp valid.instanceKeys
  rw [List.Nodup, List.pairwise_map, recordedInstances, List.pairwise_filterMap]
  refine distinct.imp fun {first second} different subject recorded other recordedToo same => ?_
  obtain ⟨_, _, rfl⟩ := Option.map_eq_some_iff.mp recorded
  obtain ⟨_, _, rfl⟩ := Option.map_eq_some_iff.mp recordedToo
  exact different (identity_of_keyOf same)

theorem instance?_recorded_eq_some_iff (valid : scenario.WellFormed) :
    scenario.recorded.instance? key = some subject ↔
      subject ∈ scenario.recordedInstances ∧ subject.key = key := by
  have distinct : (scenario.recorded.instances.map (·.1)).Nodup := by
    simpa [recorded, Function.comp_def] using nodup_keys_recordedInstances valid
  rw [History.instance?, History.lookup_eq_some_iff distinct]
  simp only [recorded, List.mem_map, Prod.mk.injEq]
  constructor
  · intro recorded
    obtain ⟨other, member, named, rfl⟩ := recorded
    exact ⟨member, named⟩
  · intro recorded
    obtain ⟨member, named⟩ := recorded
    exact ⟨subject, member, named, rfl⟩

end Scenario

/-- The history of a well-formed scenario records what the scenario lists. -/
theorem History.ofScenario_eq {scenario : Scenario} (valid : scenario.WellFormed) :
    History.ofScenario scenario = .ok scenario.recorded := by
  let started : History := ⟨scenario.recordedRuns, [], fun _ _ => none, scenario.runs.length⟩
  have runs : addRuns scenario.workflow.name scenario.runs .empty = .ok started := by
    have untaken : ∀ entry ∈ scenario.runs, History.empty.Untaken entry.run entry.date := nofun
    rw [addRuns_of_apart untaken
      ((List.pairwise_map.mp valid.runNames).and (List.pairwise_map.mp valid.runDates))]
    simp [empty, started, Scenario.recordedRuns]
  have known : ∀ entry ∈ scenario.instances, (scenario.run? entry.run).isSome ∧
      (started.run? scenario.workflow.name entry.run).isSome := by
    intro entry member
    have listed := (valid.listedInstances entry member).2.1
    exact ⟨Option.isSome_iff_exists.mpr (Scenario.mem_runs_iff_exists_run?.mp listed),
      (Scenario.isSome_run?_recorded_iff valid).mpr listed⟩
  have distinct : scenario.instances.Pairwise fun first second =>
      scenario.keyOf first ≠ scenario.keyOf second :=
    (List.pairwise_map.mp valid.instanceKeys).imp fun different same =>
      different (Scenario.identity_of_keyOf same)
  rw [ofScenario, runs, ok_bind, addInstances_of_fresh known (by simp [started]) distinct]
  simp [started, Scenario.recorded, Scenario.recordedInstances]

end RunGate
