import RunGate.History.Program

/-! Sequences whose items are made one by one, each when it is asked for. To hold a sequence is to
have made none of its items. -/

namespace RunGate

/-- What is left of a sequence. What makes an item may find that there is none, and then the next is
made in its place. -/
inductive Pending (α : Type) : Type
  | ended
  | later (maker : Program (Option α)) (rest : Pending α)

namespace Pending

variable {α β : Type}

/-- One item, unless there turns out to be none. -/
def onceWith (maker : Program (Option α)) : Pending α :=
  later maker ended

def once (item : α) : Pending α :=
  onceWith (pure (some item))

/-- The item that was made, or the fault in its place; nothing if there is no item. -/
def itemOf : Except Fault (Option α) → Option (Except Fault α)
  | .ok found => found.map .ok
  | .error fault => some (.error fault)

/-- Make the next item: the item and what is left after it, or nothing at the end. -/
def next : Pending α → Program (Option (Except Fault α × Pending α))
  | ended => pure none
  | later maker rest => do
    match itemOf (← maker.attempt) with
    | none => rest.next
    | some item => pure (some (item, rest))

/-- The first items, as many as there are of that number. -/
def take : Nat → Pending α → Program (List α)
  | 0, _ => pure []
  | count + 1, items => do
    match ← items.next with
    | none => pure []
    | some (item, rest) =>
      let first ← Program.ofExcept item
      let others ← take count rest
      pure (first :: others)

/-- Make one item after another and give it to the body, until the body is done or no item is
left. -/
def forEach (body : Except Fault α → β → Program (ForInStep β)) :
    Pending α → β → Program (ForInStep β)
  | ended, value => pure (.yield value)
  | later maker rest, value => do
    match itemOf (← maker.attempt) with
    | none => rest.forEach body value
    | some item =>
      match ← body item value with
      | .yield value => rest.forEach body value
      | .done value => pure (.done value)

end Pending

end RunGate
