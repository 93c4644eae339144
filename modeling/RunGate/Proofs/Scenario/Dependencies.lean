import RunGate.Proofs.Workflow.Cycles
import RunGate.Scenario.WellFormed

namespace RunGate.Scenario

open Relation

variable {scenario : Scenario} {task dependency later : String}

theorem mem_names_of_after (listed : scenario.After task dependency) :
    task ∈ scenario.tasks.names := by
  obtain ⟨spec, member, -⟩ := listed
  exact List.mem_map.mpr ⟨_, member, rfl⟩

private theorem nodes_network : scenario.graph.network.nodes = scenario.tasks.names :=
  Table.names_map scenario.tasks fun _ spec => spec.after

theorem leads_iff_after :
    scenario.graph.network.Leads dependency task ↔ scenario.After task dependency := by
  simp only [Network.Leads, Graph.network, graph, Table.map, List.flatMap_map, List.mem_flatMap,
    List.mem_map, List.mem_eraseDups]
  constructor
  · intro leads
    obtain ⟨⟨name, spec⟩, member, _, named, same⟩ := leads
    cases same
    exact ⟨spec, member, named⟩
  · intro after
    obtain ⟨spec, member, named⟩ := after
    exact ⟨(task, spec), member, dependency, named, rfl⟩

theorem transGen_leads_iff :
    TransGen scenario.graph.network.Leads dependency task ↔ scenario.Follows task dependency := by
  constructor
  · intro path
    induction path with
    | single leads => exact .step (leads_iff_after.mp leads)
    | tail _ leads ih => exact .further (leads_iff_after.mp leads) ih
  · intro follows
    induction follows with
    | step listed => exact .single (leads_iff_after.mpr listed)
    | further listed _ ih => exact ih.tail (leads_iff_after.mpr listed)

def DependenciesListed (scenario : Scenario) : Prop :=
  ∀ task dependency, scenario.After task dependency →
    dependency ∈ scenario.tasks.names ∧ dependency ≠ task

theorem closed_network (listed : scenario.DependenciesListed) :
    scenario.graph.network.Closed where
  unique := nodes_network ▸ scenario.tasks.nodup_names
  source leads := nodes_network ▸ (listed _ _ (leads_iff_after.mp leads)).1
  target leads := nodes_network ▸ mem_names_of_after (leads_iff_after.mp leads)

/-- The search for a cycle among the tasks finds none exactly when no task comes after itself. -/
theorem onCycle?_network_eq_none_iff (listed : scenario.DependenciesListed) :
    scenario.graph.network.onCycle? = none ↔ ∀ task, ¬ scenario.Follows task task := by
  have noLoop (task : String) : ¬ scenario.graph.network.Leads task task := fun leads =>
    (listed task task (leads_iff_after.mp leads)).2 rfl
  rw [Network.onCycle?_eq_none_iff (closed_network listed) noLoop]
  exact forall_congr' fun task => not_congr transGen_leads_iff

theorem mem_downstreamOf (listed : task ∈ scenario.tasks.names) :
    later ∈ scenario.graph.downstreamOf task ↔ scenario.After later task := by
  have has : scenario.graph.dependencies.has task = true := by
    rw [← Table.mem_names_iff]
    exact (Table.names_map scenario.tasks fun _ spec => spec.after) ▸ listed
  simp only [Graph.downstreamOf, Graph.downstreamAlong, has, ↓reduceIte, List.mem_mergeSort,
    Graph.collect, List.mem_flatMap, List.mem_replicate, ne_eq, List.count_eq_zero,
    Classical.not_not]
  simp only [graph, Table.map, List.mem_map]
  constructor
  · intro collected
    obtain ⟨_, ⟨⟨name, spec⟩, member, rfl⟩, named, rfl⟩ := collected
    exact ⟨spec, member, named⟩
  · intro after
    obtain ⟨spec, member, named⟩ := after
    exact ⟨(later, spec.after), ⟨(later, spec), member, rfl⟩, named, rfl⟩

end RunGate.Scenario
