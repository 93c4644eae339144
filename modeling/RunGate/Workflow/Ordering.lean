import RunGate.Workflow.Graph

/-! Search for a cycle in two passes. The first lists the nodes in the order in which a depth-first
search over the edges finishes them. The second searches against the edges, starting from the nodes
finished last: each search stays within one strongly connected part, so a second node in it lies on
a cycle. -/

namespace RunGate

/-- A directed graph by its nodes and its edges, both in the order in which they count. -/
structure Network where
  nodes : List String
  edges : List (String × String)

namespace Network

def successors (network : Network) (node : String) : List String :=
  network.edges.filterMap fun edge => if edge.1 = node then some edge.2 else none

def predecessors (network : Network) (node : String) : List String :=
  network.edges.filterMap fun edge => if edge.2 = node then some edge.1 else none

/-- Search along the edges with a stack, its top first. A node on top for the first time stays, and
its new successors go above it, the last of them on top; on top again, it is finished. Returns the
nodes not yet reached, and the nodes finished, the latest first. -/
def finish (network : Network) (stack fresh finished : List String) : List String × List String :=
  match stack with
  | [] => (fresh, finished)
  | node :: below =>
    if node ∈ fresh then
      let left := fresh.erase node
      network.finish (((network.successors node).filter (· ∈ left)).reverse ++ node :: below) left
        finished
    else if node ∈ finished then network.finish below fresh finished
    else network.finish below fresh (node :: finished)
termination_by (fresh.length, stack.length)
decreasing_by
  · rename_i member
    apply Prod.Lex.left
    have shorter := List.length_erase_of_mem member
    have present := List.length_pos_of_mem member
    omega
  · apply Prod.Lex.right
    simp
  · apply Prod.Lex.right
    simp

/-- All nodes, those finished last in front. -/
def finishOrder (network : Network) : List String :=
  (network.nodes.foldl (fun state node =>
    if node ∈ state.1 then network.finish [node] state.1 state.2 else state)
    (network.nodes, [])).2

/-- Search against the edges with a stack, and return the nodes reached in order and the nodes not
yet reached. -/
def gather (network : Network) (stack fresh reached : List String) : List String × List String :=
  match stack with
  | [] => (reached.reverse, fresh)
  | node :: below =>
    if node ∈ fresh then
      let left := fresh.erase node
      network.gather (((network.predecessors node).filter (· ∈ left)).reverse ++ below) left
        (node :: reached)
    else network.gather below fresh reached
termination_by (fresh.length, stack.length)
decreasing_by
  · rename_i member
    apply Prod.Lex.left
    have shorter := List.length_erase_of_mem member
    have present := List.length_pos_of_mem member
    omega
  · apply Prod.Lex.right
    simp

/-- The second node of the first search that reaches more than its start. -/
def firstOnCycle (network : Network) : List String → List String → Option String
  | [], _ => none
  | start :: rest, fresh =>
    match network.gather [start] fresh [] with
    | (_ :: second :: _, _) => some second
    | (_, left) => network.firstOnCycle rest left

/-- A node on a cycle of at least two nodes, if there is a cycle. -/
def onCycle? (network : Network) : Option String :=
  network.firstOnCycle network.finishOrder network.nodes

end Network

/-- The network of a graph: an edge from every task to each that depends on it, counted once,
in the order of the tasks that depend. -/
def Graph.network (graph : Graph) : Network where
  nodes := graph.dependencies.names
  edges := graph.dependencies.entries.flatMap fun entry =>
    entry.2.eraseDups.map fun dependency => (dependency, entry.1)

end RunGate
