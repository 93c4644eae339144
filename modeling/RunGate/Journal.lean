import RunGate.Event
import RunGate.Fault

namespace RunGate

/-- A computation without a store: its end, and the events logged on the way. -/
structure Journal (α : Type) where
  result : Except Fault α
  events : List Event

namespace Journal

variable {α β : Type}

def log (event : Event) : Journal Unit := ⟨.ok (), [event]⟩

def lift (result : Except Fault α) : Journal α := ⟨result, []⟩

/-- Go on with the value that a computation ends with. -/
def bind (first : Journal α) (next : α → Journal β) : Journal β :=
  match first.result with
  | .error fault => ⟨.error fault, first.events⟩
  | .ok value => ⟨(next value).result, first.events ++ (next value).events⟩

instance : Monad Journal where
  pure value := ⟨.ok value, []⟩
  bind := bind

@[simp]
theorem pure_eq (value : α) : (pure value : Journal α) = ⟨.ok value, []⟩ := rfl

theorem bind_of_ok {first : Journal α} {value : α} (ended : first.result = .ok value)
    (next : α → Journal β) :
    (first >>= next) = ⟨(next value).result, first.events ++ (next value).events⟩ := by
  show bind first next = _
  simp [bind, ended]

theorem bind_of_error {first : Journal α} {fault : Fault} (failed : first.result = .error fault)
    (next : α → Journal β) : (first >>= next) = ⟨.error fault, first.events⟩ := by
  show bind first next = _
  simp [bind, failed]

end Journal

end RunGate
