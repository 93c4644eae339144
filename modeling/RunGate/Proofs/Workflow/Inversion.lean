import Mathlib.Data.List.Sort
import RunGate.Proofs.Text.Bytes
import RunGate.Workflow.Graph

/-! The inversion of a graph, step by step: the tasks are visited one after another, and each is added to
what comes after its dependencies. Whatever the order of the visits, every task ends up with those that
list it, each as often as it does, in the order of their bytes. -/

namespace RunGate

theorem Table.get?_ofList {α : Type} (entries : List (String × α)) (name : String) :
    (Table.ofList entries).get? name = entries.reverse.lookup name := by
  rw [Table.ofList, List.foldl_eq_foldr_reverse]
  induction entries.reverse with
  | nil => rfl
  | cons entry earlier ih =>
    rw [List.foldr_cons, get?_insert, ih, List.lookup_cons]
    by_cases same : entry.1 = name
    · simp [same]
    · simp [same, beq_eq_false_iff_ne.mpr (Ne.symm same)]

namespace Graph

/-- A task in a graph that is being inverted: the tasks it comes after, and those found so far to come
after it. -/
structure Node where
  dependencies : List String
  later : List String

/-- The node with more tasks found to come after it. -/
def Node.adding (node : Node) (more : List String) : Node :=
  { node with later := node.later ++ more }

/-- The node with the tasks after it in ascending order. -/
def Node.sorted (node : Node) : Node :=
  { node with later := node.later.mergeSort fun first second => first ≤ second }

/-- The tasks before any of them has been visited. -/
def nodes (graph : Graph) : Table Node :=
  graph.dependencies.map fun _ dependencies => ⟨dependencies, []⟩

/-- Add a task to what comes after another; nothing comes after what is no task. -/
def follow (task : String) (nodes : Table Node) (dependency : String) : Table Node :=
  match nodes.get? dependency with
  | some node => nodes.insert dependency (node.adding [task])
  | none => nodes

def listedBy (nodes : Table Node) (task : String) : List String :=
  (nodes.get? task).elim [] (·.dependencies)

/-- Follow the dependencies of a task, as its node lists them by then. -/
def visit (nodes : Table Node) (task : String) : Table Node :=
  (listedBy nodes task).foldl (follow task) nodes

/-- Visit tasks in an order, and sort what was found. -/
def inverted (graph : Graph) (order : List String) : Table Node :=
  (order.foldl visit graph.nodes).map fun _ node => node.sorted

variable {graph : Graph} {start : Table Node} {task name other : String} {order : List String}
  {visited visitedToo : List (String × List String)}

@[simp]
theorem Node.adding_nil (node : Node) : node.adding [] = node := by
  simp [adding]

@[simp]
theorem Node.adding_adding (node : Node) (more further : List String) :
    (node.adding more).adding further = node.adding (more ++ further) := by
  simp [adding]

private theorem get?_follow (task : String) (start : Table Node) (dependency name : String) :
    (follow task start dependency).get? name =
      (start.get? name).map (·.adding (if dependency = name then [task] else [])) := by
  unfold follow
  split
  · rename_i node found
    rw [Table.get?_insert]
    split
    · rename_i same
      rw [← same, found]
      rfl
    · simp
  · rename_i missing
    split
    · rename_i same
      rw [← same, missing]
      rfl
    · simp

private theorem get?_foldl_follow (task : String) (dependencies : List String) (start : Table Node)
    (name : String) :
    (dependencies.foldl (follow task) start).get? name =
      (start.get? name).map (·.adding (List.replicate (dependencies.count name) task)) := by
  induction dependencies generalizing start with
  | nil => simp
  | cons dependency rest ih =>
    rw [List.foldl_cons, ih, get?_follow, Option.map_map, List.count_cons]
    refine congrArg (Option.map · _) (funext fun node => ?_)
    by_cases same : dependency = name
    · simp [same, List.replicate_succ]
    · simp [same]

/-- A visit adds the task to a node once for every time that the task lists it. -/
private theorem get?_visit (start : Table Node) (task name : String) :
    (visit start task).get? name = (start.get? name).map
      (·.adding (List.replicate ((listedBy start task).count name) task)) :=
  get?_foldl_follow task _ start name

private theorem listedBy_visit (start : Table Node) (task : String) :
    listedBy (visit start task) = listedBy start := by
  funext name
  show ((visit start task).get? name).elim [] _ = (start.get? name).elim [] _
  rw [get?_visit]
  cases start.get? name <;> rfl

private theorem get?_foldl_visit (order : List String) (start : Table Node) (name : String) :
    (order.foldl visit start).get? name = (start.get? name).map
      (·.adding (collect (order.map fun task => (task, listedBy start task)) name)) := by
  induction order generalizing start with
  | nil => simp [collect]
  | cons task rest ih =>
    rw [List.foldl_cons, ih, listedBy_visit, get?_visit, Option.map_map]
    refine congrArg (Option.map · _) (funext fun node => ?_)
    simp [collect]

private theorem listedBy_nodes (graph : Graph) : listedBy graph.nodes = graph.dependenciesOf := by
  funext name
  rw [listedBy, nodes, Table.get?_map, dependenciesOf]
  cases graph.dependencies.get? name <;> rfl

private theorem later_inverted (graph : Graph) (order : List String) (task : String) :
    ((graph.inverted order).get? task).elim [] (·.later) =
      graph.downstreamAlong (order.map fun other => (other, graph.dependenciesOf other)) task := by
  rw [inverted, Table.get?_map, get?_foldl_visit, listedBy_nodes, nodes, Table.get?_map,
    downstreamAlong, Table.has_eq_isSome_get?]
  cases graph.dependencies.get? task <;> rfl

private theorem ascending_downstreamAlong : (graph.downstreamAlong visited task).Pairwise
    (· ≤ ·) := by
  unfold downstreamAlong
  split
  · exact List.pairwise_mergeSort' (· ≤ ·) _
  · exact .nil

/-- Once they are in order, the tasks found show nothing of the order of the visits. -/
theorem downstreamAlong_congr (same : visited.Perm visitedToo) :
    graph.downstreamAlong visited task = graph.downstreamAlong visitedToo task := by
  have collected : (graph.downstreamAlong visited task).Perm
      (graph.downstreamAlong visitedToo task) := by
    unfold downstreamAlong
    split
    · exact (List.mergeSort_perm ..).trans
        ((same.flatMap_right _).trans (List.mergeSort_perm ..).symm)
    · exact .refl _
  exact List.Perm.eq_of_pairwise (fun _ _ _ _ => String.le_antisymm) ascending_downstreamAlong
    ascending_downstreamAlong collected

private theorem count_collect_of_ascending
    (ascending : visited.Pairwise fun first second => first.1 < second.1) :
    (collect visited task).count other =
      (((visited.find? (·.1 == other)).map (·.2)).getD []).count task := by
  rw [count_collect]
  induction visited with
  | nil => rfl
  | cons entry rest ih =>
    obtain ⟨below, later⟩ := List.pairwise_cons.mp ascending
    rw [List.foldr_cons, ih later, List.find?_cons]
    by_cases same : entry.1 = other
    · have unlisted : rest.find? (·.1 == other) = none := by
        rw [List.find?_eq_none]
        intro next member named
        have before := below next member
        rw [same, beq_iff_eq.mp named] at before
        exact String.lt_irrefl _ before
      simp [same, unlisted]
    · simp [same, beq_eq_false_iff_ne.mpr same]

theorem count_downstreamOf (listed : graph.dependencies.has task = true) :
    (graph.downstreamOf task).count other = (graph.dependenciesOf other).count task := by
  rw [downstreamOf, downstreamAlong, if_pos listed, (List.mergeSort_perm ..).count_eq,
    count_collect_of_ascending graph.dependencies.ascending, dependenciesOf, Table.get?]

private theorem map_names_eq_entries (graph : Graph) :
    graph.dependencies.names.map (fun task => (task, graph.dependenciesOf task)) =
      graph.dependencies.entries := by
  rw [Table.names, List.map_map]
  refine (List.map_congr_left fun entry member => ?_).trans (List.map_id _)
  have found : graph.dependencies.get? entry.1 = some entry.2 := Table.get?_eq_some_iff.mpr member
  simp [dependenciesOf, found]

private theorem has_ofEdges_iff {edges : List (String × List String)} :
    (ofEdges edges).dependencies.has task = true ↔ task ∈ edges.map (·.1) := by
  rw [Table.has_eq_isSome_get?, ofEdges, Table.get?_ofList, List.lookup_isSome_iff]
  constructor
  · intro listed
    obtain ⟨entry, member, named⟩ := listed
    exact List.mem_map.mpr ⟨entry, List.mem_reverse.mp member, (beq_iff_eq.mp named).symm⟩
  · intro listed
    obtain ⟨entry, member, rfl⟩ := List.mem_map.mp listed
    exact ⟨entry, List.mem_reverse.mpr member, beq_self_eq_true _⟩

/-- The order in which the tasks are visited does not matter as long as each is visited once. -/
theorem later_inverted_of_perm (once : order.Perm graph.dependencies.names) :
    ((graph.inverted order).get? task).elim [] (·.later) = graph.downstreamOf task := by
  rw [later_inverted, downstreamOf, ← map_names_eq_entries]
  exact downstreamAlong_congr (once.map _)

/-- The tasks right after a task are those that list it, each as often as it lists it in its last entry,
in the order of their bytes. Nothing comes after what is no task. Inverting the graph step by step finds
them in whatever order the tasks are visited. -/
theorem downstreamOf_inverts (edges : List (String × List String)) (task : String) :
    let graph := ofEdges edges
    let later := graph.downstreamOf task
    later.Pairwise (fun first second => Text.bytes first ≤ Text.bytes second) ∧
      (task ∉ edges.map (·.1) → later = []) ∧
      (task ∈ edges.map (·.1) → ∀ other,
        later.count other = ((edges.reverse.lookup other).getD []).count task) ∧
      ∀ order : List String, order.Nodup → (∀ name, name ∈ order ↔ name ∈ edges.map (·.1)) →
        ((graph.inverted order).get? task).elim [] (·.later) = later := by
  intro graph later
  refine ⟨ascending_downstreamAlong.imp Text.bytes_le, fun unlisted => ?_, fun listed other => ?_,
    fun order once all => ?_⟩
  · exact if_neg (mt has_ofEdges_iff.mp unlisted)
  · rw [count_downstreamOf (has_ofEdges_iff.mpr listed), dependenciesOf, ofEdges, Table.get?_ofList]
  · refine later_inverted_of_perm ((List.perm_ext_iff_of_nodup once
      graph.dependencies.nodup_names).mpr fun name => ?_)
    rw [all, Table.mem_names_iff, has_ofEdges_iff]

/-- An entry that is replaced, a task that is listed twice, and a name that is no task. -/
theorem downstreamOf_inverts_repeated :
    let edges := [("load", ["clean"]), ("extract", []), ("check", ["extract", "clean", "extract"]),
      ("load", ["check", "extract"])]
    let graph := ofEdges edges
    let later := graph.downstreamOf "extract"
    later.Pairwise (fun first second => Text.bytes first ≤ Text.bytes second) ∧
      later.count "check" = 2 ∧ later.count "load" = 1 ∧ later.count "extract" = 0 ∧
      graph.downstreamOf "clean" = [] ∧
      ((graph.inverted ["load", "extract", "check"]).get? "extract").elim [] (·.later) = later := by
  intro edges graph later
  obtain ⟨ascending, -, counted, anyOrder⟩ := downstreamOf_inverts edges "extract"
  obtain ⟨-, none, -, -⟩ := downstreamOf_inverts edges "clean"
  have listed : "extract" ∈ edges.map (·.1) := by decide
  refine ⟨ascending, counted listed "check", counted listed "load", counted listed "extract",
    none (by decide), anyOrder _ (by decide) ?_⟩
  simp [edges, or_comm, or_left_comm]

end Graph
end RunGate
