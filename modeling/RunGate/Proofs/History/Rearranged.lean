import RunGate.Proofs.History.Exchange

/-! Stores that answer alike but give instances in different orders. A run shows nothing of a store but
the answers to its own calls. -/

namespace RunGate

/-- The same comes back for a call, though instances may come in another order. -/
inductive Query.Rearranges :
    (query : Query) → Except Fault query.Answer → Except Fault query.Answer → Prop
  | same (query : Query) (answer : Except Fault query.Answer) : Rearranges query answer answer
  | instances (run : Run) (task : String) {given others : List TaskInstance}
      (same : given.Perm others) : Rearranges (.instances run task) (.ok given) (.ok others)

/-- Whatever is called for, and in whatever state, the stores go on to one state, and the answers are
the same but for the order of instances. -/
structure Store.Rearranges {σ : Type} (store other : Store σ) : Prop where
  answers : ∀ (query : Query) (state : σ),
    query.Rearranges (store.answer query state).1 (other.answer query state).1
  states : ∀ (query : Query) (state : σ),
    (store.answer query state).2 = (other.answer query state).2

variable {σ α : Type} {store other : Store σ} {state after : σ}

namespace Store.Rearranges

/-- Only the answers to one kind of call may differ. -/
theorem answer_eq {query : Query} (alike : store.Rearranges other)
    (unlike : ∀ run task, query ≠ .instances run task) (state : σ) :
    other.answer query state = store.answer query state := by
  refine Prod.ext ?_ (alike.states query state).symm
  have answers := alike.answers query state
  generalize (store.answer query state).1 = answer, (other.answer query state).1 = back at answers ⊢
  cases answers with
  | same => rfl
  | instances run task => exact absurd rfl (unlike run task)

theorem exists_instances (alike : store.Rearranges other) {run : Run} {task : String}
    {given : List TaskInstance}
    (answered : store.answer (.instances run task) state = (.ok given, after)) :
    ∃ others, given.Perm others ∧
      other.answer (.instances run task) state = (.ok others, after) := by
  have answers := alike.answers (.instances run task) state
  have states := alike.states (.instances run task) state
  rw [answered] at answers states
  generalize came : other.answer (.instances run task) state = reply at answers states
  obtain ⟨back, next⟩ := reply
  cases states
  cases answers with
  | same => exact ⟨given, .refl given, rfl⟩
  | instances _ _ same => exact ⟨_, same, rfl⟩

end Store.Rearranges

/-- Stores that answer alike the calls that a run makes are alike to it. -/
theorem Program.run_congr {program : Program α}
    (alike : ∀ query ∈ (program.run store state).calls, ∀ state,
      other.answer query state = store.answer query state) :
    program.run other state = program.run store state := by
  induction program generalizing state with
  | done value => rfl
  | fail fault => rfl
  | note event rest ih => simp only [run, ih alike]
  | call query next ih =>
    obtain ⟨first, later⟩ := List.forall_mem_cons.mp alike
    simp only [run, first, ih _ later]

end RunGate
