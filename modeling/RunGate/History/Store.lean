import RunGate.History.Program

namespace RunGate.Store

variable {σ : Type}

/-- The store in which call number `failing`, counted from 1, fails and does not reach the store
beneath. The state holds the number of calls so far. -/
def failingAt (failing : Nat) (fault : Fault) (inner : Store σ) : Store (Nat × σ) where
  answer query state :=
    if state.1 + 1 = failing then (.error fault, state.1 + 1, state.2)
    else
      let (given, after) := inner.answer query state.2
      (given, state.1 + 1, after)

/-- Counts of the calls that read and of those that record, and whether reading fails. -/
structure Counted (σ : Type) where
  inner : σ
  reads : Nat := 0
  flagWrites : Nat := 0
  readsFail : Bool := false

/-- The store that counts calls. While reading fails, a call that reads counts but goes no
further. -/
def counting (inner : Store σ) : Store (Counted σ) where
  answer query state :=
    if query.isRead then
      let counted := { state with reads := state.reads + 1 }
      if state.readsFail then (.error (.store .refused), counted)
      else
        let (given, after) := inner.answer query state.inner
        (given, { counted with inner := after })
    else
      let (given, after) := inner.answer query state.inner
      (given, { state with inner := after, flagWrites := state.flagWrites + 1 })

end RunGate.Store
