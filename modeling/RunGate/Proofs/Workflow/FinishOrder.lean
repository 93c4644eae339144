import Mathlib.Logic.Relation
import RunGate.Workflow.Ordering

/-! The order in which the first pass of the cycle search finishes nodes. Whatever a node leads to
is finished before it, or leads back to it: that is all the second pass needs to know. -/

namespace RunGate.Network

open Relation

variable {network : Network}

def Leads (network : Network) (source target : String) : Prop :=
  (source, target) ∈ network.edges

/-- Edges lead, one after another, from one node to the other, or the two are one. -/
def Reaches (network : Network) : String → String → Prop :=
  ReflTransGen network.Leads

theorem mem_successors : target ∈ network.successors source ↔ network.Leads source target := by
  simp only [successors, List.mem_filterMap, Leads]
  constructor
  · intro chosen
    obtain ⟨⟨start, stop⟩, listed, chosen⟩ := chosen
    split at chosen
    · rename_i same
      cases chosen
      exact same ▸ listed
    · cases chosen
  · intro listed
    exact ⟨(source, target), listed, by simp⟩

theorem mem_predecessors : source ∈ network.predecessors target ↔ network.Leads source target := by
  simp only [predecessors, List.mem_filterMap, Leads]
  constructor
  · intro chosen
    obtain ⟨⟨start, stop⟩, listed, chosen⟩ := chosen
    split at chosen
    · rename_i same
      cases chosen
      exact same ▸ listed
    · cases chosen
  · intro listed
    exact ⟨(source, target), listed, by simp⟩

/-- Nodes are listed once and edges join listed nodes. -/
structure Closed (network : Network) : Prop where
  unique : network.nodes.Nodup
  source : network.Leads first second → first ∈ network.nodes
  target : network.Leads first second → second ∈ network.nodes

/-- The rule of finishing orders, the latest in front: what a node leads to was finished before it,
or reaches it. -/
def Returning (network : Network) (finished : List String) : Prop :=
  ∀ later node earlier, finished = later ++ node :: earlier →
    ∀ next, network.Leads node next → next ∈ node :: earlier ∨ network.Reaches next node

/-- A node that is open, reached but not finished, holds above its place in the stack only nodes
that it reaches, and among these all its fresh successors. -/
def Grounded (network : Network) (stack fresh finished : List String) : Prop :=
  ∀ above node below, stack = above ++ node :: below → node ∉ fresh → node ∉ finished →
    node ∉ above → (∀ item ∈ above, network.Reaches node item) ∧
      ∀ next, network.Leads node next → next ∈ fresh → next ∈ above

/-- What every step of the first pass keeps. -/
structure Searching (network : Network) (stack fresh finished : List String) : Prop where
  freshUnique : fresh.Nodup
  finishedUnique : finished.Nodup
  apart : ∀ node ∈ finished, node ∉ fresh
  known : ∀ node, node ∈ stack ∨ node ∈ finished → node ∈ network.nodes
  kept : ∀ node ∈ network.nodes, node ∈ fresh ∨ node ∈ finished ∨ node ∈ stack
  grounded : network.Grounded stack fresh finished
  returning : network.Returning finished

private theorem Grounded.pop (valid : network.Grounded (node :: rest) fresh finished)
    (reached : node ∉ fresh) (grown : ∀ item, item ∉ after → item ∉ finished ∧ item ≠ node) :
    network.Grounded rest fresh after := by
  intro above item below split notFresh notFinished notAbove
  obtain ⟨wasOpen, different⟩ := grown item notFinished
  obtain ⟨reach, hold⟩ := valid (node :: above) item below (by rw [split]; rfl) notFresh wasOpen
    (by simp [different, notAbove])
  refine ⟨fun other member => reach other (List.mem_cons_of_mem _ member), ?_⟩
  intro next leads isFresh
  rcases List.mem_cons.mp (hold next leads isFresh) with same | member
  · exact absurd (same ▸ isFresh) reached
  · exact member

private theorem split_past {added base above below : List String}
    (split : added ++ base = above ++ item :: below) (absent : item ∉ added) :
    ∃ under, above = added ++ under ∧ base = under ++ item :: below := by
  rcases List.append_eq_append_iff.mp split with ⟨under, same, place⟩ | ⟨tail, same, place⟩
  · exact ⟨under, same, place⟩
  · cases tail with
    | nil => exact ⟨[], by simpa using same.symm, place.symm⟩
    | cons first tail =>
      cases place
      simp [same] at absent

/-- The successors of a node that are still to be reached, the last of them on top. -/
def pending (network : Network) (node : String) (left : List String) : List String :=
  ((network.successors node).filter (· ∈ left)).reverse

private theorem mem_pending :
    item ∈ network.pending node left ↔ network.Leads node item ∧ item ∈ left := by
  simp [pending, mem_successors]

/-- A node reached for the first time stays under its fresh successors. -/
theorem Grounded.visit (valid : network.Grounded (node :: rest) fresh finished)
    (unique : fresh.Nodup) :
    network.Grounded (network.pending node (fresh.erase node) ++ node :: rest)
      (fresh.erase node) finished := by
  intro above item below split notFresh notFinished notAbove
  have absent : item ∉ network.pending node (fresh.erase node) :=
    fun member => notFresh (mem_pending.mp member).2
  obtain ⟨under, same, place⟩ := split_past split absent
  subst same
  cases under with
  | nil =>
    cases place
    rw [List.append_nil]
    exact ⟨fun other member => .single (mem_pending.mp member).1,
      fun next leads isFresh => mem_pending.mpr ⟨leads, isFresh⟩⟩
  | cons first under =>
    cases place
    have different : item ≠ node := fun same => notAbove (by simp [same])
    have reached : item ∉ fresh := fun member =>
      notFresh (unique.mem_erase_iff.mpr ⟨different, member⟩)
    obtain ⟨reach, hold⟩ := valid (node :: under) item below rfl reached notFinished
      (fun member => notAbove (List.mem_append_right _ member))
    constructor
    · intro other member
      rcases List.mem_append.mp member with added | old
      · exact (reach node (List.mem_cons_self ..)).tail (mem_pending.mp added).1
      · exact reach other old
    · intro next leads isFresh
      exact List.mem_append_right _ (hold next leads (List.mem_of_mem_erase isFresh))

/-- A node on top again leads only to nodes finished before, or to open ones below it, which reach
it. -/
private theorem Searching.returning_cons (valid : network.Searching (node :: rest) fresh finished)
    (closed : network.Closed) (reached : node ∉ fresh) (isOpen : node ∉ finished) :
    network.Returning (node :: finished) := by
  intro later item earlier split next leads
  cases later with
  | cons first later =>
    obtain ⟨-, old⟩ := List.cons.inj split
    exact valid.returning later item earlier old next leads
  | nil =>
    cases split
    by_cases done : next ∈ node :: finished
    · exact .inl done
    · right
      obtain ⟨different, notFinished⟩ := not_or.mp (mt List.mem_cons.mpr done)
      have notFresh : next ∉ fresh := fun member =>
        nomatch (valid.grounded [] node rest rfl reached isOpen (by simp)).2 next leads member
      have stacked : next ∈ rest := by
        rcases valid.kept next (closed.target leads) with member | member | member
        · exact absurd member notFresh
        · exact absurd member notFinished
        · exact (List.mem_cons.mp member).resolve_left different
      obtain ⟨above, below, place, notAbove⟩ := List.eq_append_cons_of_mem stacked
      have grounded := valid.grounded (node :: above) next below (by rw [place]; rfl) notFresh
        notFinished (by simp [different, notAbove])
      exact grounded.1 node (List.mem_cons_self ..)

theorem Searching.visit (valid : network.Searching (node :: rest) fresh finished)
    (closed : network.Closed) :
    network.Searching (network.pending node (fresh.erase node) ++ node :: rest)
      (fresh.erase node) finished where
  freshUnique := valid.freshUnique.erase node
  finishedUnique := valid.finishedUnique
  apart other member left := valid.apart other member (List.mem_of_mem_erase left)
  known other member := by
    rcases member with stacked | member
    · rcases List.mem_append.mp stacked with added | old
      · exact closed.target (mem_pending.mp added).1
      · exact valid.known other (.inl old)
    · exact valid.known other (.inr member)
  kept other listed := by
    rcases valid.kept other listed with member | member | member
    · by_cases same : other = node
      · exact .inr (.inr (by simp [same]))
      · exact .inl (valid.freshUnique.mem_erase_iff.mpr ⟨same, member⟩)
    · exact .inr (.inl member)
    · exact .inr (.inr (List.mem_append_right _ member))
  grounded := valid.grounded.visit valid.freshUnique
  returning := valid.returning

private theorem Searching.pop (valid : network.Searching (node :: rest) fresh finished)
    (reached : node ∉ fresh) (done : node ∈ finished) : network.Searching rest fresh finished where
  freshUnique := valid.freshUnique
  finishedUnique := valid.finishedUnique
  apart := valid.apart
  known other member := valid.known other (member.imp_left (List.mem_cons_of_mem _))
  kept other listed := by
    rcases valid.kept other listed with member | member | member
    · exact .inl member
    · exact .inr (.inl member)
    · rcases List.mem_cons.mp member with same | member
      · exact .inr (.inl (same ▸ done))
      · exact .inr (.inr member)
  grounded := valid.grounded.pop reached fun _ absent =>
    ⟨absent, fun same => absent (same ▸ done)⟩
  returning := valid.returning

private theorem Searching.close (valid : network.Searching (node :: rest) fresh finished)
    (closed : network.Closed) (reached : node ∉ fresh) (isOpen : node ∉ finished) :
    network.Searching rest fresh (node :: finished) where
  freshUnique := valid.freshUnique
  finishedUnique := List.nodup_cons.mpr ⟨isOpen, valid.finishedUnique⟩
  apart := List.forall_mem_cons.mpr ⟨reached, valid.apart⟩
  known other member := by
    rcases member with stacked | member
    · exact valid.known other (.inl (List.mem_cons_of_mem _ stacked))
    · rcases List.mem_cons.mp member with same | old
      · exact valid.known other (.inl (by simp [same]))
      · exact valid.known other (.inr old)
  kept other listed := by
    rcases valid.kept other listed with member | member | member
    · exact .inl member
    · exact .inr (.inl (List.mem_cons_of_mem _ member))
    · rcases List.mem_cons.mp member with same | member
      · exact .inr (.inl (by simp [same]))
      · exact .inr (.inr member)
  grounded := valid.grounded.pop reached fun _ absent => by
    simpa only [List.mem_cons, not_or, and_comm] using absent
  returning := valid.returning_cons closed reached isOpen

/-- A search to the end leaves an empty stack, whatever it starts with. -/
theorem Searching.finish (closed : network.Closed)
    (valid : network.Searching stack fresh finished) :
    network.Searching [] (network.finish stack fresh finished).1
      (network.finish stack fresh finished).2 := by
  fun_induction Network.finish network stack fresh finished with
  | case1 fresh finished => exact valid
  | case2 fresh finished node rest isFresh left ih => exact ih (valid.visit closed)
  | case3 fresh finished node rest reached done ih => exact ih (valid.pop reached done)
  | case4 fresh finished node rest reached isOpen ih => exact ih (valid.close closed reached isOpen)

private theorem mem_fresh_of_mem_finish (left : item ∈ (network.finish stack fresh finished).1) :
    item ∈ fresh := by
  fun_induction Network.finish network stack fresh finished with
  | case1 => exact left
  | case2 fresh finished node rest isFresh kept ih => exact List.mem_of_mem_erase (ih left)
  | case3 fresh finished node rest reached done ih => exact ih left
  | case4 fresh finished node rest reached isOpen ih => exact ih left

private theorem top_not_mem_finish (unique : fresh.Nodup) :
    node ∉ (network.finish (node :: rest) fresh finished).1 := by
  rw [Network.finish]
  split
  · exact fun left => unique.not_mem_erase (mem_fresh_of_mem_finish left)
  · rename_i reached
    split
    · exact fun left => reached (mem_fresh_of_mem_finish left)
    · exact fun left => reached (mem_fresh_of_mem_finish left)

/-- One round of the first pass: search from a node that is still fresh. -/
def round (network : Network) (state : List String × List String) (node : String) :
    List String × List String :=
  if node ∈ state.1 then network.finish [node] state.1 state.2 else state

theorem Searching.start (valid : network.Searching [] fresh finished) (isFresh : node ∈ fresh)
    (listed : node ∈ network.nodes) : network.Searching [node] fresh finished where
  freshUnique := valid.freshUnique
  finishedUnique := valid.finishedUnique
  apart := valid.apart
  known other member := by
    rcases member with stacked | member
    · exact (List.mem_singleton.mp stacked) ▸ listed
    · exact valid.known other (.inr member)
  kept other member := (valid.kept other member).imp_right (·.imp_right (nomatch ·))
  grounded above item below split notFresh _ _ := by
    rcases List.append_eq_singleton_iff.mp split.symm with ⟨_, same⟩ | ⟨_, impossible⟩
    · cases same
      exact absurd isFresh notFresh
    · cases impossible
  returning := valid.returning

theorem Searching.round {state : List String × List String}
    (valid : network.Searching [] state.1 state.2) (closed : network.Closed)
    (listed : node ∈ network.nodes) :
    network.Searching [] (network.round state node).1 (network.round state node).2 := by
  unfold Network.round
  split
  · rename_i isFresh
    exact (valid.start isFresh listed).finish closed
  · exact valid

/-- Rounds from several nodes, after which none of these is fresh. -/
theorem Searching.rounds (items : List String) (state : List String × List String)
    (closed : network.Closed) (listed : ∀ node ∈ items, node ∈ network.nodes)
    (valid : network.Searching [] state.1 state.2) :
    network.Searching [] (items.foldl network.round state).1 (items.foldl network.round state).2 ∧
      (∀ node ∈ (items.foldl network.round state).1, node ∈ state.1 ∧ node ∉ items) := by
  induction items generalizing state with
  | nil => exact ⟨valid, fun node member => ⟨member, List.not_mem_nil⟩⟩
  | cons first rest ih =>
    obtain ⟨ended, left⟩ := ih _ (fun node member => listed node (List.mem_cons_of_mem _ member))
      (valid.round closed (listed first (List.mem_cons_self ..)))
    refine ⟨ended, fun node member => ?_⟩
    obtain ⟨isFresh, notLater⟩ := left node member
    unfold Network.round at isFresh
    split at isFresh
    · have different : node ≠ first := fun same =>
        top_not_mem_finish valid.freshUnique (same ▸ isFresh)
      exact ⟨mem_fresh_of_mem_finish isFresh, by simp [different, notLater]⟩
    · rename_i reached
      have different : node ≠ first := fun same => reached (same ▸ isFresh)
      exact ⟨isFresh, by simp [different, notLater]⟩

private theorem finishOrder_eq_foldl (network : Network) :
    network.finishOrder = (network.nodes.foldl network.round (network.nodes, [])).2 := rfl

private theorem searching_initially (closed : network.Closed) :
    network.Searching [] network.nodes [] where
  freshUnique := closed.unique
  finishedUnique := List.nodup_nil
  apart := nofun
  known := nofun
  kept _ member := .inl member
  grounded above item below split := by simp at split
  returning later item earlier split := by simp at split

/-- The first pass finishes every node once and keeps the rule of finishing orders. -/
theorem finishOrder_spec (closed : network.Closed) :
    network.finishOrder.Nodup ∧ (∀ node, node ∈ network.finishOrder ↔ node ∈ network.nodes) ∧
      network.Returning network.finishOrder := by
  obtain ⟨ended, left⟩ := Searching.rounds network.nodes (network.nodes, []) closed
    (fun _ member => member) (searching_initially closed)
  rw [finishOrder_eq_foldl]
  refine ⟨ended.finishedUnique, fun node => ⟨fun member => ended.known node (.inr member), ?_⟩,
    ended.returning⟩
  intro listed
  rcases ended.kept node listed with member | member | member
  · exact absurd listed (left node member).2
  · exact member
  · cases member

end RunGate.Network
