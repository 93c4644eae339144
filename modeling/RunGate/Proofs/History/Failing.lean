import RunGate.History.Store
import RunGate.Proofs.History.Exchange

/-! A store in which one call fails. A run on it makes the calls that it makes on the store beneath,
up to the one that fails, and that one does not reach the store beneath. -/

namespace RunGate

variable {α σ : Type} {inner : Store σ} {failing count : Nat} {fault : Fault} {state : σ}
  {program : Program α} {query : Query}

namespace Store

theorem answer_failingAt_of_eq (due : count + 1 = failing) :
    (failingAt failing fault inner).answer query (count, state) =
      (.error fault, count + 1, state) :=
  if_pos due

theorem answer_failingAt_of_ne (other : count + 1 ≠ failing) :
    (failingAt failing fault inner).answer query (count, state) =
      ((inner.answer query state).1, count + 1, (inner.answer query state).2) :=
  if_neg other

end Store

namespace Program

/-- A run that ends before the failing call does not notice it. -/
theorem run_failingAt_of_lt (fault : Fault)
    (ends : count + (program.run inner state).calls.length < failing) :
    let whole := program.run inner state
    let run := program.run (Store.failingAt failing fault inner) (count, state)
    run.result = whole.result ∧ run.calls = whole.calls ∧
      run.state = (count + whole.calls.length, whole.state) := by
  induction program generalizing count state with
  | done value => exact ⟨rfl, rfl, rfl⟩
  | fail fault => exact ⟨rfl, rfl, rfl⟩
  | note event rest ih => exact ih ends
  | call query next ih =>
    cases answered : inner.answer query state with
    | mk came after =>
      rw [run_call_of_answer answered] at ends ⊢
      rw [List.length_cons] at ends
      have passed : (Store.failingAt failing fault inner).answer query (count, state) =
          (came, count + 1, after) := by
        rw [Store.answer_failingAt_of_ne (by omega), answered]
      rw [run_call_of_answer passed]
      obtain ⟨result, calls, last⟩ := ih came
        (by omega : count + 1 + ((next came).run inner after).calls.length < failing)
      exact ⟨result, by rw [calls], by rw [last, List.length_cons, Nat.add_right_comm]; rfl⟩

/-- A run that comes to the failing call ends there with its fault, if it passes on faults. -/
theorem Propagates.run_failingAt_of_le (propagates : program.Propagates) (fault : Fault)
    (coming : count < failing)
    (within : failing ≤ count + (program.run inner state).calls.length) :
    let whole := program.run inner state
    let cut := program.run (Store.failingAt failing fault inner) (count, state)
    cut.result = .error fault ∧ cut.calls = whole.calls.take (failing - count) ∧
      cut.state = (failing, inner.after state (whole.calls.take (failing - count - 1))) := by
  induction program generalizing count state with
  | done value => exact absurd within (by simp [run]; omega)
  | fail fault => exact absurd within (by simp [run]; omega)
  | note event rest ih => exact ih propagates coming within
  | call query next ih =>
    obtain ⟨passesOn, goesOn⟩ := propagates
    cases answered : inner.answer query state with
    | mk came after =>
      rw [run_call_of_answer answered] at within ⊢
      by_cases due : count + 1 = failing
      · have one : failing - count = 1 := by omega
        rw [run_call_of_answer (Store.answer_failingAt_of_eq due), passesOn fault, one]
        exact ⟨rfl, rfl, by simp [run, due]⟩
      · have passed : (Store.failingAt failing fault inner).answer query (count, state) =
            (came, count + 1, after) := by
          rw [Store.answer_failingAt_of_ne due, answered]
        rw [run_call_of_answer passed]
        cases came with
        | error other =>
          rw [passesOn other] at within
          simp only [run, List.length_singleton] at within
          omega
        | ok given =>
          rw [List.length_cons] at within
          obtain ⟨result, calls, last⟩ := ih (.ok given) (goesOn given)
            (by omega : count + 1 < failing)
            (by omega : failing ≤ count + 1 + ((next (.ok given)).run inner after).calls.length)
          have further : failing - count = failing - (count + 1) + 1 := by omega
          have before : failing - count - 1 = failing - (count + 1) - 1 + 1 := by omega
          refine ⟨result, by rw [calls, further, List.take_succ_cons], ?_⟩
          rw [last, before, List.take_succ_cons, Store.after_cons, answered]

end Program

end RunGate
