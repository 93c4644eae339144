import Mathlib.Data.List.Forall2
import RunGate.Proofs.Admission.Steps

/-! What stands in a decision: what some of the checks have found, in the order of the checks, and from
each check one status at most. -/

namespace RunGate

variable {σ : Type} {store : Store σ} {state : σ} {holds : σ → Prop} {mode : Mode} {target : Target}
  {waivers : Waivers} {checks : List Check} {sofar decision : Decision}

/-- The check has found the status in a state of which something holds. -/
def Check.Finds (store : Store σ) (holds : σ → Prop) (target : Target) (waivers : Waivers)
    (status : Status) (check : Check) : Prop :=
  ∃ state, holds state ∧ ((check.status target waivers).run store state).result = .ok (some status)

/-- The statuses are those that the checks have found, though not every check need have found one. -/
def Decision.StatusesOf (decision : Decision) (store : Store σ) (holds : σ → Prop) (target : Target)
    (waivers : Waivers) (checks : List Check) : Prop :=
  List.SublistForall₂ (Check.Finds store holds target waivers) decision.statuses checks

theorem Decision.StatusesOf.exists_finds {status : Status}
    (of : decision.StatusesOf store holds target waivers checks) (member : status ∈ decision.statuses) :
    ∃ check ∈ checks, check.Finds store holds target waivers status := by
  unfold StatusesOf at of
  generalize decision.statuses = statuses at of member
  induction of with
  | nil => cases member
  | @cons first check _ checks finds _ ih =>
    rcases List.mem_cons.mp member with rfl | later
    · exact ⟨check, List.mem_cons_self, finds⟩
    · obtain ⟨check, asked, found⟩ := ih later
      exact ⟨check, List.mem_cons_of_mem _ asked, found⟩
  | cons_right _ ih =>
    obtain ⟨check, asked, found⟩ := ih member
    exact ⟨check, List.mem_cons_of_mem _ asked, found⟩

private theorem exists_found_of_consume
    (kept : ∀ (check : Check) (state : σ), holds state →
      holds ((check.status target waivers).run store state).state)
    (start : holds state)
    (ended : ((consume mode target waivers checks sofar).run store state).result = .ok decision) :
    ∃ found, decision.statuses = sofar.statuses ++ found ∧
      List.SublistForall₂ (Check.Finds store holds target waivers) found checks := by
  induction checks generalizing sofar state with
  | nil =>
    cases ended
    exact ⟨[], (List.append_nil _).symm, .nil⟩
  | cons check rest ih =>
    cases came : ((check.status target waivers).run store state).result with
    | error fault =>
      rw [(run_consume_of_error mode rest sofar came).1] at ended
      cases ended
    | ok yielded =>
      cases stops : mode.stops yielded with
      | true =>
        rw [(run_consume_of_stops rest sofar came stops).1] at ended
        cases ended
        cases yielded with
        | none => cases stops
        | some status => exact ⟨[status], rfl, .cons ⟨state, start, came⟩ .nil⟩
      | false =>
        rw [(run_consume_of_goesOn rest sofar came stops).1] at ended
        obtain ⟨found, same, follow⟩ := ih (kept check state start) ended
        cases yielded with
        | none => exact ⟨found, same, .cons_right follow⟩
        | some status =>
          refine ⟨status :: found, ?_, .cons ⟨state, start, came⟩ follow⟩
          rw [same, Decision.including, Option.elim_some, Decision.consider, List.append_assoc,
            List.singleton_append]

/-- The decision of an evaluation consists of what its checks have found, in states that they can come
to from where the evaluation begins. -/
theorem statusesOf_of_evaluate
    (kept : ∀ (check : Check) (state : σ), holds state →
      holds ((check.status target waivers).run store state).state)
    (start : holds state)
    (ended : ((evaluate mode checks target waivers).run store state).result = .ok decision) :
    decision.StatusesOf store holds target waivers checks := by
  rw [(run_evaluate ..).result] at ended
  obtain ⟨found, same, follow⟩ := exists_found_of_consume kept start ended
  rw [Decision.StatusesOf, same]
  exact follow

end RunGate
