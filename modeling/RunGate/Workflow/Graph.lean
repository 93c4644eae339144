import RunGate.Table

namespace RunGate

/-- For every task the tasks it comes after. Names that are no tasks may occur in the lists. -/
structure Graph where
  dependencies : Table (List String)

namespace Graph

/-- The graph of a list of tasks with their dependencies; of several entries for one task the
last one stands. -/
def ofEdges (edges : List (String × List String)) : Graph :=
  ⟨Table.ofList edges⟩

def dependenciesOf (graph : Graph) (task : String) : List String :=
  (graph.dependencies.get? task).getD []

/-- The tasks that depend on `task`, once for every time they list it, in the order in which their
entries are visited. -/
def collect (visited : List (String × List String)) (task : String) : List String :=
  visited.flatMap fun entry => List.replicate (entry.2.count task) entry.1

/-- The tasks right after `task` in ascending order, found by visiting entries in some order;
nothing comes after what is no task. -/
def downstreamAlong (graph : Graph) (visited : List (String × List String)) (task : String) :
    List String :=
  if graph.dependencies.has task then
    (collect visited task).mergeSort fun first second => first ≤ second
  else []

/-- The tasks right after `task` in ascending order; nothing comes after what is no task. -/
def downstreamOf (graph : Graph) (task : String) : List String :=
  graph.downstreamAlong graph.dependencies.entries task

theorem count_collect (visited : List (String × List String)) (task other : String) :
    (collect visited task).count other =
      visited.foldr (fun entry total => (if entry.1 = other then entry.2.count task else 0) + total)
        0 := by
  induction visited with
  | nil => rfl
  | cons entry rest ih =>
    simp only [collect, List.flatMap_cons, List.count_append, List.count_replicate,
      List.foldr_cons, beq_iff_eq] at ih ⊢
    rw [ih]

end Graph

end RunGate
