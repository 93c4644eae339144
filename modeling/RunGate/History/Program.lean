import RunGate.History.Query
import RunGate.Event

/-! Programs that ask a history store, and what happens when they run on one. A program knows
nothing of the store but what comes back for its calls, be it an answer or a fault, and it is up to
the program how it goes on from there. -/

namespace RunGate

/-- A computation that ends, or calls the store and goes on with what comes back, or logs an
event. -/
inductive Program (α : Type) : Type
  | done (value : α)
  | fail (fault : Fault)
  | call (query : Query) (next : Except Fault query.Answer → Program α)
  | note (event : Event) (next : Program α)

namespace Program

variable {α β σ : Type}

/-- Go on with the value that a program ends with. -/
def bind (program : Program α) (next : α → Program β) : Program β :=
  match program with
  | done value => next value
  | fail fault => fail fault
  | call query answer => call query fun came => (answer came).bind next
  | note event rest => note event (rest.bind next)

instance : Monad Program where
  pure := done
  bind := bind

def ofExcept : Except Fault α → Program α
  | .ok value => done value
  | .error fault => fail fault

/-- Call the store for its answer; if the call fails, so does the program. -/
def ask (query : Query) : Program query.Answer :=
  call query ofExcept

/-- The end of a program, be it a value or a fault, as a value. -/
def attempt : Program α → Program (Except Fault α)
  | done value => done (.ok value)
  | fail fault => done (.error fault)
  | call query next => call query fun came => (next came).attempt
  | note event rest => note event rest.attempt

def log (event : Event) : Program Unit :=
  note event (done ())

@[simp]
theorem pure_eq (value : α) : (pure value : Program α) = done value := rfl

@[simp]
theorem bind_eq (program : Program α) (next : α → Program β) :
    program >>= next = program.bind next := rfl

@[simp]
theorem bind_done (program : Program α) : program.bind done = program := by
  induction program with
  | done value => rfl
  | fail fault => rfl
  | call query answer ih => simp [bind, ih]
  | note event rest ih => simp [bind, ih]

theorem bind_eq_self {program : Program α} {next : α → Program α}
    (same : ∀ value, next value = done value) : program.bind next = program := by
  rw [funext same, bind_done]

theorem bind_assoc {γ : Type} (program : Program α) (first : α → Program β)
    (second : β → Program γ) :
    (program.bind first).bind second = program.bind fun value => (first value).bind second := by
  induction program with
  | done value => rfl
  | fail fault => rfl
  | call query answer ih => simp [bind, ih]
  | note event rest ih => simp [bind, ih]

instance : LawfulMonad Program :=
  LawfulMonad.mk' Program (fun program => bind_done program) (fun _ _ => rfl)
    fun program first second => bind_assoc program first second

/-- To try a program and pass on its fault is to go on from its value. -/
theorem attempt_bind {program : Program α} {next : Except Fault α → Program β}
    (passesOn : ∀ fault, next (.error fault) = fail fault) :
    program.attempt.bind next = program.bind fun value => next (.ok value) := by
  induction program with
  | done value => rfl
  | fail fault => exact passesOn fault
  | call query answer ih => simp [attempt, bind, ih]
  | note event rest ih => simp [attempt, bind, ih]

end Program

/-- A history store with states of type `σ`: its answer to a call, and its state afterwards. -/
structure Store (σ : Type) where
  answer : (query : Query) → σ → Except Fault query.Answer × σ

/-- What running a program shows: its end, the state of the store, the calls made and the events
logged. -/
structure Outcome (σ α : Type) where
  result : Except Fault α
  state : σ
  calls : List Query
  events : List Event

namespace Program

variable {α β σ : Type}

def run (store : Store σ) : Program α → σ → Outcome σ α
  | done value, state => ⟨.ok value, state, [], []⟩
  | fail fault, state => ⟨.error fault, state, [], []⟩
  | note event rest, state =>
    let later := rest.run store state
    { later with events := event :: later.events }
  | call query next, state =>
    let came := store.answer query state
    let later := (next came.1).run store came.2
    { later with calls := query :: later.calls }

@[simp]
theorem run_ofExcept (store : Store σ) (ended : Except Fault α) (state : σ) :
    (ofExcept ended).run store state = ⟨ended, state, [], []⟩ := by
  cases ended <;> rfl

theorem run_bind (store : Store σ) (program : Program α) (next : α → Program β) (state : σ) :
    (program.bind next).run store state =
      match program.run store state with
      | ⟨.error fault, after, calls, events⟩ => ⟨.error fault, after, calls, events⟩
      | ⟨.ok value, after, calls, events⟩ =>
        let later := (next value).run store after
        ⟨later.result, later.state, calls ++ later.calls, events ++ later.events⟩ := by
  induction program generalizing state with
  | done value => rfl
  | fail fault => rfl
  | note event rest ih =>
    simp only [bind, run, ih state]
    rcases rest.run store state with ⟨result, after, calls, events⟩
    cases result <;> rfl
  | call query answer ih =>
    simp only [bind, run, ih]
    rcases (answer _).run store _ with ⟨result, last, calls, events⟩
    cases result <;> rfl

section Ended

variable {store : Store σ} {program : Program α} {next : α → Program β} {state : σ}

theorem run_bind_of_error {fault : Fault}
    (failed : (program.run store state).result = .error fault) :
    (program.bind next).run store state =
      ⟨.error fault, (program.run store state).state, (program.run store state).calls,
        (program.run store state).events⟩ := by
  rw [run_bind]
  cases came : program.run store state with
  | mk result after calls events =>
    rw [came] at failed
    cases failed
    rfl

theorem run_bind_of_ok {value : α} (ended : (program.run store state).result = .ok value) :
    (program.bind next).run store state =
      let later := (next value).run store (program.run store state).state
      ⟨later.result, later.state, (program.run store state).calls ++ later.calls,
        (program.run store state).events ++ later.events⟩ := by
  rw [run_bind]
  cases came : program.run store state with
  | mk result after calls events =>
    rw [came] at ended
    cases ended
    rfl

end Ended

end Program

end RunGate
