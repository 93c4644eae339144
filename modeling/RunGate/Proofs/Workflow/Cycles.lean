import RunGate.Proofs.Workflow.FinishOrder

/-! The cycle search as a whole. It names a node exactly when there is a cycle of at least two
nodes, and the node that it names lies on one. -/

namespace RunGate.Network

open Relation

variable {network : Network} {fresh order rest : List String}

/-- Edges lead, one or more, from a node back to it. -/
def OnCycle (network : Network) (node : String) : Prop :=
  TransGen network.Leads node node

private theorem gather_extends (network : Network) (stack fresh reached : List String) :
    ∃ more, (network.gather stack fresh reached).1 = reached.reverse ++ more := by
  fun_induction Network.gather network stack fresh reached with
  | case1 fresh reached => exact ⟨[], (List.append_nil _).symm⟩
  | case2 fresh reached node rest isFresh left ih =>
    obtain ⟨more, same⟩ := ih
    exact ⟨node :: more, by rw [same]; simp⟩
  | case3 fresh reached node rest notFresh ih => exact ih

/-- The nodes that lead to a node and are still to be reached, the last of them on top. -/
def pendingBefore (network : Network) (node : String) (left : List String) : List String :=
  ((network.predecessors node).filter (· ∈ left)).reverse

private theorem mem_pendingBefore :
    item ∈ network.pendingBefore node left ↔ network.Leads item node ∧ item ∈ left := by
  simp [pendingBefore, mem_predecessors]

private theorem gather_start (isFresh : start ∈ fresh) :
    network.gather [start] fresh [] =
      network.gather (network.pendingBefore start (fresh.erase start)) (fresh.erase start)
        [start] := by
  rw [Network.gather]
  simp [isFresh, pendingBefore]

private theorem gather_alone (isFresh : start ∈ fresh)
    (alone : ∀ source, network.Leads source start → source ∉ fresh.erase start) :
    network.gather [start] fresh [] = ([start], fresh.erase start) := by
  have nothing : network.pendingBefore start (fresh.erase start) = [] :=
    List.eq_nil_iff_forall_not_mem.mpr fun source member =>
      alone source (mem_pendingBefore.mp member).1 (mem_pendingBefore.mp member).2
  rw [gather_start isFresh, nothing, Network.gather]
  rfl

private theorem gather_more (isFresh : start ∈ fresh) (leads : network.Leads source start)
    (left : source ∈ fresh.erase start) :
    ∃ second more, (network.gather [start] fresh []).1 = start :: second :: more ∧
      network.Leads second start ∧ second ∈ fresh.erase start := by
  rw [gather_start isFresh]
  have waiting := mem_pendingBefore.mpr ⟨leads, left⟩
  cases stacked : network.pendingBefore start (fresh.erase start) with
  | nil => rw [stacked] at waiting; cases waiting
  | cons second below =>
    obtain ⟨leadsThere, isLeft⟩ :=
      mem_pendingBefore.mp (stacked ▸ List.mem_cons_self .. : second ∈ _)
    rw [Network.gather]
    simp only [isLeft, ↓reduceIte]
    obtain ⟨more, same⟩ := network.gather_extends
      (network.pendingBefore second ((fresh.erase start).erase second) ++ below)
      ((fresh.erase start).erase second) [second, start]
    exact ⟨second, more, same, leadsThere, isLeft⟩

/-- What one round of the second pass does: it names a node that leads to its start from later in
the order, or there is none and the next round goes on without the start. -/
private theorem firstOnCycle_cons (network : Network) (rest : List String)
    (isFresh : start ∈ fresh) :
    (∃ second, network.firstOnCycle (start :: rest) fresh = some second ∧
        network.Leads second start ∧ second ∈ fresh.erase start) ∨
      (∀ source, network.Leads source start → source ∉ fresh.erase start) ∧
        network.firstOnCycle (start :: rest) fresh =
          network.firstOnCycle rest (fresh.erase start) := by
  by_cases alone : ∀ source, network.Leads source start → source ∉ fresh.erase start
  · right
    exact ⟨alone, by simp only [firstOnCycle, gather_alone isFresh alone]⟩
  · left
    simp only [Classical.not_forall, Classical.not_not] at alone
    obtain ⟨source, leads, left⟩ := alone
    obtain ⟨second, more, gathered, leadsThere, isLeft⟩ := gather_more isFresh leads left
    refine ⟨second, ?_, leadsThere, isLeft⟩
    have outcome : network.gather [start] fresh [] =
        (start :: second :: more, (network.gather [start] fresh []).2) := Prod.ext gathered rfl
    simp only [firstOnCycle]
    rw [outcome]

private theorem mem_rest_iff (unique : fresh.Nodup) (distinct : (start :: rest).Nodup)
    (same : ∀ node, node ∈ fresh ↔ node ∈ start :: rest) (node : String) :
    node ∈ fresh.erase start ↔ node ∈ rest := by
  rw [unique.mem_erase_iff, same, List.mem_cons]
  constructor
  · intro left
    obtain ⟨different, member⟩ := left
    exact member.resolve_left different
  · intro member
    exact ⟨fun same => (List.nodup_cons.mp distinct).1 (same ▸ member), .inr member⟩

/-- The node that is named leads to one before it in the order. -/
theorem firstOnCycle_eq_some (distinct : order.Nodup) (unique : fresh.Nodup)
    (same : ∀ node, node ∈ fresh ↔ node ∈ order)
    (found : network.firstOnCycle order fresh = some second) :
    ∃ done start rest, order = done ++ start :: rest ∧ second ∈ rest ∧
      network.Leads second start := by
  induction order generalizing fresh with
  | nil => cases found
  | cons start rest ih =>
    have members := mem_rest_iff unique distinct same
    rcases firstOnCycle_cons network rest ((same start).mpr (List.mem_cons_self ..)) with
      ⟨named, result, leads, left⟩ | ⟨-, result⟩
    · rw [result] at found
      cases found
      exact ⟨[], start, rest, rfl, (members second).mp left, leads⟩
    · rw [result] at found
      obtain ⟨done, next, others, split, member, leads⟩ :=
        ih (List.nodup_cons.mp distinct).2 (unique.erase start) members found
      exact ⟨start :: done, next, others, by rw [split]; rfl, member, leads⟩

/-- If none is named, no node leads to one before it in the order. -/
theorem firstOnCycle_eq_none (distinct : order.Nodup) (unique : fresh.Nodup)
    (same : ∀ node, node ∈ fresh ↔ node ∈ order)
    (found : network.firstOnCycle order fresh = none) :
    order.Pairwise fun earlier later => ¬ network.Leads later earlier := by
  induction order generalizing fresh with
  | nil => exact .nil
  | cons start rest ih =>
    have members := mem_rest_iff unique distinct same
    rcases firstOnCycle_cons network rest ((same start).mpr (List.mem_cons_self ..)) with
      ⟨named, result, -⟩ | ⟨alone, result⟩
    · rw [result] at found
      cases found
    · rw [result] at found
      refine List.pairwise_cons.mpr ⟨fun later member leads => ?_,
        ih (List.nodup_cons.mp distinct).2 (unique.erase start) members found⟩
      exact alone later leads ((members later).mpr member)

theorem onCycle_of_onCycle?_eq_some (closed : network.Closed)
    (found : network.onCycle? = some node) : network.OnCycle node := by
  obtain ⟨distinct, covers, returning⟩ := finishOrder_spec closed
  obtain ⟨done, start, rest, split, member, leads⟩ := firstOnCycle_eq_some distinct closed.unique
    (fun node => (covers node).symm) found
  obtain ⟨before, after, place⟩ := List.append_of_mem member
  have order : network.finishOrder = (done ++ start :: before) ++ node :: after := by
    rw [split, place]
    simp
  have notAfter : start ∉ node :: after := by
    rw [order] at distinct
    intro later
    exact (List.nodup_append.mp distinct).2.2 start (by simp) start later rfl
  exact .head' leads ((returning _ node after order start leads).resolve_left notAfter)

/-- No cycle leads against an order. -/
private theorem idxOf_lt_of_leads (closed : network.Closed)
    (covers : ∀ node, node ∈ order ↔ node ∈ network.nodes)
    (forward : order.Pairwise fun earlier later => ¬ network.Leads later earlier)
    (noLoop : ∀ node, ¬ network.Leads node node) (leads : network.Leads source target) :
    order.idxOf source < order.idxOf target := by
  have sourceBound := List.idxOf_lt_length_of_mem ((covers source).mpr (closed.source leads))
  have targetBound := List.idxOf_lt_length_of_mem ((covers target).mpr (closed.target leads))
  rcases Nat.lt_trichotomy (order.idxOf source) (order.idxOf target) with before | same | after
  · exact before
  · have equal : source = target := by
      rw [← List.getElem_idxOf sourceBound, ← List.getElem_idxOf targetBound]
      simp only [same]
    exact absurd (equal ▸ leads) (noLoop target)
  · have absurdly := List.pairwise_iff_getElem.mp forward _ _ targetBound sourceBound after
    rw [List.getElem_idxOf, List.getElem_idxOf] at absurdly
    exact absurd leads absurdly

/-- The search names a node exactly when there is a cycle, apart from edges that lead from a node to
itself. -/
theorem onCycle?_eq_none_iff (closed : network.Closed)
    (noLoop : ∀ node, ¬ network.Leads node node) :
    network.onCycle? = none ↔ ∀ node, ¬ network.OnCycle node := by
  constructor
  · intro found node cycle
    obtain ⟨distinct, covers, -⟩ := finishOrder_spec closed
    have forward := firstOnCycle_eq_none distinct closed.unique
      (fun node => (covers node).symm) found
    have ascends {source target : String} (path : TransGen network.Leads source target) :
        network.finishOrder.idxOf source < network.finishOrder.idxOf target := by
      induction path with
      | single leads => exact idxOf_lt_of_leads closed covers forward noLoop leads
      | tail _ leads ih =>
        exact Nat.lt_trans ih (idxOf_lt_of_leads closed covers forward noLoop leads)
    exact Nat.lt_irrefl _ (ascends cycle)
  · intro none
    cases found : network.onCycle? with
    | none => rfl
    | some node => exact absurd (onCycle_of_onCycle?_eq_some closed found) (none node)

end RunGate.Network
