import RunGate.Proofs.Admission.Modes

namespace RunGate

variable {σ : Type} {store : Store σ} {state : σ} {target : Target} {waivers : Waivers}
  {check : Check} {found : Option Status} {fault : Fault}

/-- Whether an evaluation stops once a check has found this. -/
def Mode.stops (mode : Mode) (found : Option Status) : Bool :=
  found.any fun status => mode.blocks status && mode == .admission

/-- A decision after what one more check has found. -/
def Decision.including (sofar : Decision) (mode : Mode) (found : Option Status) : Decision :=
  found.elim sofar (sofar.consider mode)

/-- Two runs that come to the same end, with the same calls, and leave the same state. -/
structure Outcome.Alike {α : Type} (first second : Outcome σ α) : Prop where
  result : first.result = second.result
  calls : first.calls = second.calls
  state : first.state = second.state

theorem run_evaluate (mode : Mode) (checks : List Check) (target : Target) (waivers : Waivers)
    (store : Store σ) (state : σ) :
    ((evaluate mode checks target waivers).run store state).Alike
      ((consume mode target waivers checks ⟨true, mode, []⟩).run store state) := by
  cases ended : ((consume mode target waivers checks ⟨true, mode, []⟩).run store state).result with
  | error fault =>
    rw [evaluate, Program.bind_eq, Program.run_bind_of_error ended]
    exact ⟨ended.symm, rfl, rfl⟩
  | ok decision =>
    rw [evaluate, Program.bind_eq, Program.run_bind_of_ok ended]
    exact ⟨ended.symm, List.append_nil _, rfl⟩

theorem run_consume_of_error (mode : Mode) (checks : List Check) (sofar : Decision)
    (failed : ((check.status target waivers).run store state).result = .error fault) :
    let first := (check.status target waivers).run store state
    let whole := (consume mode target waivers (check :: checks) sofar).run store state
    whole.result = .error fault ∧ whole.calls = first.calls ∧ whole.state = first.state := by
  rw [consume_cons, Program.run_bind_of_error failed]
  exact ⟨rfl, rfl, rfl⟩

theorem run_consume_of_stops {mode : Mode} (checks : List Check) (sofar : Decision)
    (ended : ((check.status target waivers).run store state).result = .ok found)
    (stops : mode.stops found = true) :
    let first := (check.status target waivers).run store state
    let whole := (consume mode target waivers (check :: checks) sofar).run store state
    whole.result = .ok (sofar.including mode found) ∧ whole.calls = first.calls ∧
      whole.state = first.state := by
  rw [consume_cons, Program.run_bind_of_ok ended]
  cases found with
  | none => cases stops
  | some status =>
    have blocks : (mode.blocks status && mode == .admission) = true := stops
    simp only [Program.run, blocks, ↓reduceIte]
    exact ⟨rfl, List.append_nil _, trivial⟩

theorem run_consume_of_goesOn {mode : Mode} (checks : List Check) (sofar : Decision)
    (ended : ((check.status target waivers).run store state).result = .ok found)
    (goesOn : mode.stops found = false) :
    let first := (check.status target waivers).run store state
    let later := (consume mode target waivers checks (sofar.including mode found)).run store
      first.state
    let whole := (consume mode target waivers (check :: checks) sofar).run store state
    whole.result = later.result ∧ whole.calls = first.calls ++ later.calls ∧
      whole.state = later.state := by
  rw [consume_cons, Program.run_bind_of_ok ended]
  cases found with
  | none => exact ⟨rfl, rfl, rfl⟩
  | some status =>
    have passes : (mode.blocks status && mode == .admission) = false := goesOn
    simp only [Program.run, passes, Bool.false_eq_true, ↓reduceIte]
    exact ⟨rfl, rfl, rfl⟩

end RunGate
