import Mathlib.Data.List.Permutation
import RunGate.Proofs.Scenario.Acceptance
import RunGate.Scenario.Builder

/-! The task that is named when the dependencies lead in a circle. Other tasks may lead to the circle or
come after it; the one that is named comes after itself. -/

namespace RunGate.Scenario

variable {scenario : Scenario} {tasks : Table TaskSpec} {task : String} {fault : Fault}

private theorem bind_eq_error_iff {first : Except Fault Unit} {next : Unit → Except Fault Unit} :
    (first >>= next) = .error fault ↔
      first = .error fault ∨ first = .ok () ∧ next () = .error fault := by
  cases first <;> simp [bind, Except.bind]

private theorem illFormed_ne_cycle {α : Type} {flaw : ScenarioFault} :
    (illFormed flaw : Except Fault α) ≠ .error (.cycle task) := nofun

private theorem checkHead_ne_cycle : scenario.checkHead ≠ .error (.cycle task) := by
  fun_cases checkHead scenario with
  | case1 => exact illFormed_ne_cycle
  | case2 => exact illFormed_ne_cycle
  | case3 => nofun

private theorem checkDependencies_ne_cycle {name : String} {dependencies : List String} :
    checkDependencies tasks name dependencies ≠ .error (.cycle task) := by
  fun_induction checkDependencies tasks name dependencies with
  | case1 => nofun
  | case2 => exact illFormed_ne_cycle
  | case3 => exact illFormed_ne_cycle
  | case4 _ _ _ _ ih => exact ih

private theorem checkTasks_ne_cycle {entries : List (String × TaskSpec)} :
    checkTasks tasks entries ≠ .error (.cycle task) := by
  induction entries with
  | nil => nofun
  | cons entry rest ih =>
    rw [checkTasks, Ne, bind_eq_error_iff]
    intro failed
    rcases failed with first | ⟨-, later⟩
    · exact checkDependencies_ne_cycle first
    · exact ih later

private theorem checkRuns_ne_cycle {earlier runs : List RunEntry} :
    checkRuns earlier runs ≠ .error (.cycle task) := by
  fun_induction checkRuns earlier runs with
  | case1 => nofun
  | case2 => exact illFormed_ne_cycle
  | case3 => exact illFormed_ne_cycle
  | case4 _ _ _ _ _ ih => exact ih

private theorem checkInstances_ne_cycle {earlier entries : List InstanceEntry} :
    scenario.checkInstances earlier entries ≠ .error (.cycle task) := by
  fun_induction checkInstances scenario earlier entries with
  | case1 => nofun
  | case2 => exact illFormed_ne_cycle
  | case3 => exact illFormed_ne_cycle
  | case4 => exact illFormed_ne_cycle
  | case5 => exact illFormed_ne_cycle
  | case6 _ _ _ _ _ _ _ ih => exact ih

private theorem checkCycles_eq_error_iff :
    scenario.checkCycles = .error (.cycle task) ↔ scenario.graph.network.onCycle? = some task := by
  rw [checkCycles]
  cases scenario.graph.network.onCycle? <;> simp

private theorem validated_eq_error_iff :
    scenario.validated = .error fault ↔ scenario.validate = .error fault := by
  rw [validated]
  cases scenario.validate <;> simp [bind, Except.bind, pure, Except.pure]

/-- A task is named for a circle exactly if the checks before that one pass and the search names it. -/
theorem validate_eq_cycle_iff :
    scenario.validate = .error (.cycle task) ↔ scenario.checkHead = .ok () ∧
      scenario.DependenciesListed ∧ scenario.graph.network.onCycle? = some task := by
  rw [validate, bind_eq_error_iff, bind_eq_error_iff, bind_eq_error_iff, bind_eq_error_iff,
    checkTasks_entries_eq_ok_iff, checkCycles_eq_error_iff]
  simp only [checkHead_ne_cycle, checkTasks_ne_cycle, checkRuns_ne_cycle, checkInstances_ne_cycle,
    false_or, and_false, or_false]

private theorem follows_of_onCycle? (listed : scenario.DependenciesListed)
    (found : scenario.graph.network.onCycle? = some task) : scenario.Follows task task :=
  transGen_leads_iff.mp (Network.onCycle_of_onCycle?_eq_some (closed_network listed) found)

private theorem Follows.mem_names {dependency : String}
    (follows : scenario.Follows task dependency) :
    task ∈ scenario.tasks.names := by
  cases follows with
  | step listed => exact mem_names_of_after listed
  | further listed rest => exact mem_names_of_after listed

/-- A task that a scenario is refused for because of a circle is a listed one, and comes after itself.
Where the checks before that one pass and some task comes after itself, the scenario is refused so. -/
theorem blamed_follows_itself (scenario : Scenario) :
    (∀ task, scenario.validated = .error (.cycle task) →
      task ∈ scenario.tasks.names ∧ scenario.Follows task task) ∧
    (scenario.checkHead = .ok () → checkTasks scenario.tasks scenario.tasks.entries = .ok () →
      (∃ task, scenario.Follows task task) →
        ∃ blamed, scenario.validated = .error (.cycle blamed)) := by
  constructor
  · intro task refused
    obtain ⟨-, listed, found⟩ := validate_eq_cycle_iff.mp (validated_eq_error_iff.mp refused)
    have follows := follows_of_onCycle? listed found
    exact ⟨follows.mem_names, follows⟩
  · intro head tasks circle
    have listed := checkTasks_entries_eq_ok_iff.mp tasks
    obtain ⟨task, follows⟩ := circle
    cases found : scenario.graph.network.onCycle? with
    | none => exact absurd follows ((onCycle?_network_eq_none_iff listed).mp found task)
    | some blamed =>
      exact ⟨blamed, validated_eq_error_iff.mpr (validate_eq_cycle_iff.mpr ⟨head, listed, found⟩)⟩

/-- Two tasks come after each other. One leads to them, and two come after them. -/
def entangled : Scenario :=
  (named "etl").withTask "archive" { after := ["clean"] }
    |>.withTask "clean" { after := ["load"] }
    |>.withTask "extract" {}
    |>.withTask "load" { after := ["extract", "report"] }
    |>.withTask "report" { after := ["load"] }

/-- Of the five tasks one of the two is named. -/
theorem blamed_follows_itself_entangled :
    entangled.validated = .error (.cycle "report") ∧ entangled.Follows "report" "report" ∧
      ∃ blamed, entangled.validated = .error (.cycle blamed) := by
  obtain ⟨blames, refuses⟩ := blamed_follows_itself entangled
  have refused : entangled.validated = .error (.cycle "report") := by cbv
  obtain ⟨head, listed, -⟩ := validate_eq_cycle_iff.mp (validated_eq_error_iff.mp refused)
  obtain ⟨-, follows⟩ := blames "report" refused
  exact ⟨refused, follows, refuses head (checkTasks_entries_eq_ok_iff.mpr listed) ⟨_, follows⟩⟩

end RunGate.Scenario
