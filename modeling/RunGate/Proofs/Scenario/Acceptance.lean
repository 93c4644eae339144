import Mathlib.Data.List.TakeWhile
import RunGate.Proofs.Scenario.Dependencies

/-! The checks on a scenario accept exactly the well-formed ones. Every check is set against the
part of well-formedness that it looks after. -/

namespace RunGate

theorem Text.trim_eq_nil_iff {text : List Char} :
    Text.trim text = [] ↔ ∀ c ∈ text, Text.isBlank c = true := by
  simp only [trim, trimRight, trimLeft, List.reverse_eq_nil_iff, List.dropWhile_eq_nil_iff,
    List.mem_reverse]
  constructor
  · intro blank c member
    rw [← List.takeWhile_append_dropWhile (p := isBlank) (l := text)] at member
    rcases List.mem_append.mp member with front | back
    · exact List.mem_takeWhile_imp front
    · exact blank c back
  · intro blank c member
    exact blank c ((List.dropWhile_suffix _).subset member)

namespace Scenario

variable {scenario : Scenario} {tasks : Table TaskSpec} {task : String}

private theorem bind_eq_ok_iff {first : Except Fault Unit} {next : Unit → Except Fault Unit} :
    (first >>= next) = .ok () ↔ first = .ok () ∧ next () = .ok () := by
  cases first <;> simp [bind, Except.bind]

@[simp]
theorem illFormed_ne_ok {α : Type} {fault : ScenarioFault} {value : α} :
    illFormed fault ≠ .ok value := nofun

private theorem checkHead_eq_ok_iff :
    scenario.checkHead = .ok () ↔ scenario.tasks.names ≠ [] ∧
      ∃ c ∈ scenario.workflow.name.toList, Text.isBlank c = false := by
  have hasName : (Text.trim scenario.workflow.name.toList).isEmpty = false ↔
      ∃ c ∈ scenario.workflow.name.toList, Text.isBlank c = false := by
    rw [← Bool.not_eq_true, List.isEmpty_iff, Text.trim_eq_nil_iff]
    simp
  have hasTask : scenario.tasks.entries.isEmpty = false ↔ scenario.tasks.names ≠ [] := by
    simp [Table.names]
  rw [← hasName, ← hasTask, checkHead]
  cases scenario.tasks.entries.isEmpty <;>
    cases (Text.trim scenario.workflow.name.toList).isEmpty <;> simp

private theorem checkDependencies_eq_ok_iff {dependencies : List String} :
    checkDependencies tasks task dependencies = .ok () ↔
      ∀ dependency ∈ dependencies, dependency ∈ tasks.names ∧ dependency ≠ task := by
  induction dependencies with
  | nil => simp [checkDependencies]
  | cons dependency rest ih =>
    rw [List.forall_mem_cons, ← ih, checkDependencies, Table.mem_names_iff]
    cases tasks.has dependency with
    | false => simp
    | true => by_cases same : dependency = task <;> simp [same]

private theorem checkTasks_eq_ok_iff {entries : List (String × TaskSpec)} :
    checkTasks tasks entries = .ok () ↔
      ∀ entry ∈ entries, ∀ dependency ∈ entry.2.after,
        dependency ∈ tasks.names ∧ dependency ≠ entry.1 := by
  induction entries with
  | nil => simp [checkTasks]
  | cons entry rest ih =>
    rw [List.forall_mem_cons, ← ih, checkTasks, bind_eq_ok_iff, checkDependencies_eq_ok_iff]

theorem checkTasks_entries_eq_ok_iff :
    checkTasks scenario.tasks scenario.tasks.entries = .ok () ↔ scenario.DependenciesListed := by
  rw [checkTasks_eq_ok_iff]
  constructor
  · intro checked task dependency after
    obtain ⟨spec, member, named⟩ := after
    exact checked (task, spec) member dependency named
  · intro listed entry member dependency named
    obtain ⟨task, spec⟩ := entry
    exact listed task dependency ⟨spec, member, named⟩

private theorem checkCycles_eq_ok_iff (listed : scenario.DependenciesListed) :
    scenario.checkCycles = .ok () ↔ ∀ task, ¬ scenario.Follows task task := by
  rw [← onCycle?_network_eq_none_iff listed, checkCycles]
  cases scenario.graph.network.onCycle? <;> simp

/-- A check that looks at entries one by one, and at each together with those before it, accepts
exactly the lists of sound entries that are apart from one another. -/
private theorem accepts_iff_pairwise {α : Type} (accepts : List α → List α → Prop)
    (sound : α → Prop) (apart : α → α → Prop) (ended : ∀ earlier, accepts earlier [])
    (step : ∀ earlier entry rest, accepts earlier (entry :: rest) ↔
      sound entry ∧ (∀ other ∈ earlier, apart other entry) ∧ accepts (entry :: earlier) rest)
    {earlier entries : List α} :
    accepts earlier entries ↔ (∀ entry ∈ entries, sound entry) ∧
      (∀ entry ∈ entries, ∀ other ∈ earlier, apart other entry) ∧ entries.Pairwise apart := by
  induction entries generalizing earlier with
  | nil => simp [ended]
  | cons entry rest ih =>
    rw [step, ih]
    simp only [List.forall_mem_cons, List.pairwise_cons]
    constructor
    · intro accepted
      obtain ⟨own, before, sounds, both, later⟩ := accepted
      exact ⟨⟨own, sounds⟩, ⟨before, fun next member => (both next member).2⟩,
        fun next member => (both next member).1, later⟩
    · intro sound
      obtain ⟨⟨own, sounds⟩, ⟨before, others⟩, first, later⟩ := sound
      exact ⟨own, before, sounds,
        fun next member => ⟨first next member, others next member⟩, later⟩

/-- Two runs can be told apart by name and by date. -/
def RunsApart (first second : RunEntry) : Prop :=
  first.run ≠ second.run ∧ first.date ≠ second.date

private theorem checkRuns_cons_eq_ok_iff {earlier rest : List RunEntry} {entry : RunEntry} :
    checkRuns earlier (entry :: rest) = .ok () ↔
      (∀ other ∈ earlier, RunsApart other entry) ∧ checkRuns (entry :: earlier) rest = .ok () := by
  rw [checkRuns]
  by_cases named : ∃ other ∈ earlier, other.run = entry.run
  · obtain ⟨other, member, same⟩ := named
    have repeated : earlier.any (·.run == entry.run) = true :=
      List.any_eq_true.mpr ⟨other, member, beq_iff_eq.mpr same⟩
    simp only [repeated, ↓reduceIte, illFormed_ne_ok, false_iff]
    exact fun distinct => (distinct.1 other member).1 same
  · have fresh : earlier.any (·.run == entry.run) = false := by simpa using named
    simp only [fresh, Bool.false_eq_true, ↓reduceIte]
    cases dated : earlier.find? (·.date == entry.date) with
    | some other =>
      have same : other.date = entry.date := by simpa using List.find?_some dated
      simp only [illFormed_ne_ok, false_iff]
      exact fun distinct => (distinct.1 other (List.mem_of_find?_eq_some dated)).2 same
    | none =>
      have apart : ∀ other ∈ earlier, RunsApart other entry := fun other member =>
        ⟨fun same => named ⟨other, member, same⟩,
          by simpa using List.find?_eq_none.mp dated other member⟩
      exact ⟨fun accepted => ⟨apart, accepted⟩, And.right⟩

private theorem checkRuns_eq_ok_iff {runs : List RunEntry} :
    checkRuns [] runs = .ok () ↔ (runs.map (·.run)).Nodup ∧ (runs.map (·.date)).Nodup := by
  rw [accepts_iff_pairwise (fun earlier runs => checkRuns earlier runs = .ok ()) (fun _ => True)
    RunsApart (fun _ => rfl) (fun _ _ _ => by rw [checkRuns_cons_eq_ok_iff, true_and])]
  rw [List.Nodup, List.Nodup, List.pairwise_map, List.pairwise_map, ← List.pairwise_and_iff]
  simp only [implies_true, List.not_mem_nil, false_implies, true_and]
  rfl

/-- The instance is of a listed task and run, with a map index that instances can have. -/
def InstanceListed (scenario : Scenario) (entry : InstanceEntry) : Prop :=
  entry.task ∈ scenario.tasks.names ∧ entry.run ∈ scenario.runs.map (·.run) ∧
    unmapped ≤ entry.mapIndex

/-- What tells one instance of a scenario from another. -/
def identity (entry : InstanceEntry) : String × String × Int :=
  (entry.task, entry.run, entry.mapIndex)

private theorem sameInstance_iff {first second : InstanceEntry} :
    sameInstance first second = true ↔ identity second = identity first := by
  simp only [sameInstance, identity, Bool.and_eq_true, beq_iff_eq, Prod.mk.injEq, and_assoc]
  constructor
  · intro same
    obtain ⟨task, run, index⟩ := same
    exact ⟨task.symm, run.symm, index.symm⟩
  · intro same
    obtain ⟨task, run, index⟩ := same
    exact ⟨task.symm, run.symm, index.symm⟩

private theorem checkInstances_cons_eq_ok_iff {earlier rest : List InstanceEntry}
    {entry : InstanceEntry} :
    scenario.checkInstances earlier (entry :: rest) = .ok () ↔
      scenario.InstanceListed entry ∧ (∀ other ∈ earlier, identity other ≠ identity entry) ∧
        scenario.checkInstances (entry :: earlier) rest = .ok () := by
  have known : scenario.runs.any (·.run == entry.run) = true ↔
      entry.run ∈ scenario.runs.map (·.run) := by simp
  have repeated : earlier.any (sameInstance entry) = true ↔
      ¬ ∀ other ∈ earlier, identity other ≠ identity entry := by
    simp [sameInstance_iff]
  rw [checkInstances, InstanceListed, Table.mem_names_iff, ← known, ← Int.not_lt]
  cases scenario.tasks.has entry.task with
  | false => simp
  | true =>
    cases scenario.runs.any (·.run == entry.run) with
    | false => simp
    | true =>
      by_cases low : entry.mapIndex < unmapped
      · simp [low]
      · by_cases listed : earlier.any (sameInstance entry) = true
        · simp [low, listed, repeated.mp listed]
        · have distinct := Classical.not_not.mp (mt repeated.mpr listed)
          simp [low, listed]
          exact fun _ => distinct

private theorem checkInstances_eq_ok_iff {entries : List InstanceEntry} :
    scenario.checkInstances [] entries = .ok () ↔
      (∀ entry ∈ entries, scenario.InstanceListed entry) ∧ (entries.map identity).Nodup := by
  rw [accepts_iff_pairwise
    (fun earlier entries => scenario.checkInstances earlier entries = .ok ())
    scenario.InstanceListed (fun first second => identity first ≠ identity second) (fun _ => rfl)
    (fun _ _ _ => checkInstances_cons_eq_ok_iff)]
  simp [List.Nodup, List.pairwise_map]

theorem validate_eq_ok_iff : scenario.validate = .ok () ↔ scenario.WellFormed := by
  rw [validate, bind_eq_ok_iff, bind_eq_ok_iff, bind_eq_ok_iff, bind_eq_ok_iff,
    checkHead_eq_ok_iff, checkTasks_entries_eq_ok_iff, checkRuns_eq_ok_iff,
    checkInstances_eq_ok_iff]
  constructor
  · intro checked
    obtain ⟨⟨hasTask, hasName⟩, listed, acyclic, ⟨names, dates⟩, known, distinct⟩ := checked
    exact ⟨hasTask, hasName, listed, (checkCycles_eq_ok_iff listed).mp acyclic, names, dates, known,
      distinct⟩
  · intro valid
    obtain ⟨hasTask, hasName, listed, acyclic, names, dates, known, distinct⟩ := valid
    exact ⟨⟨hasTask, hasName⟩, listed, (checkCycles_eq_ok_iff listed).mpr acyclic, ⟨names, dates⟩,
      known, distinct⟩

theorem validated_of_wellFormed (valid : scenario.WellFormed) :
    scenario.validated = .ok scenario := by
  rw [validated, validate_eq_ok_iff.mpr valid]
  rfl

theorem wellFormed_of_validated {raw : Scenario} (accepted : raw.validated = .ok scenario) :
    scenario = raw ∧ scenario.WellFormed := by
  rw [validated] at accepted
  cases checked : raw.validate with
  | error fault => simp [checked, bind, Except.bind] at accepted
  | ok done =>
    simp only [checked, bind, Except.bind, pure, Except.pure, Except.ok.injEq] at accepted
    exact ⟨accepted.symm, accepted ▸ validate_eq_ok_iff.mp checked⟩

instance : Decidable scenario.WellFormed :=
  decidable_of_iff (scenario.validate = .ok ()) validate_eq_ok_iff

/-- Checking a scenario returns it unchanged if it is well formed, and otherwise nothing. -/
theorem validated_eq_ok_iff {result : Scenario} :
    scenario.validated = .ok result ↔ result = scenario ∧ scenario.WellFormed := by
  constructor
  · intro accepted
    obtain ⟨same, valid⟩ := wellFormed_of_validated accepted
    exact ⟨same, same ▸ valid⟩
  · intro wellFormed
    obtain ⟨same, valid⟩ := wellFormed
    rw [same]
    exact validated_of_wellFormed valid

end Scenario

end RunGate
