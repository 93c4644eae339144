import RunGate.Admission.Decision

/-! What readers of a check see of it. Each sequence of statuses has at most one item, and to make
the sequence is to do nothing yet, so all readers that ask for that item go through one program. -/

namespace RunGate

namespace Pending

variable {α β : Type} {body : Except Fault α → β → Program (ForInStep β)}

private theorem next_onceWith (maker : Program (Option α)) :
    (onceWith maker).next =
      maker.attempt.bind fun came => .done ((itemOf came).map (·, ended)) := by
  show maker.attempt.bind _ = _
  congr 1
  funext came
  cases itemOf came <;> rfl

/-- Whoever takes one item or more has made it. -/
theorem take_onceWith (maker : Program (Option α)) (count : Nat) :
    (onceWith maker).take (count + 1) = maker.bind fun found => .done found.toList := by
  have spent : take count (ended : Pending α) = .done [] := by cases count <;> rfl
  rw [take, next_onceWith, Program.bind_eq, Program.bind_assoc,
    Program.attempt_bind fun fault => rfl]
  congr 1
  funext found
  cases found with
  | none => rfl
  | some item => simp [itemOf, Program.bind, Program.ofExcept, spent]

private theorem forEach_onceWith (passesOn : ∀ fault value, body (.error fault) value = .fail fault)
    (maker : Program (Option α)) (value : β) :
    (onceWith maker).forEach body value = maker.bind fun found =>
      found.elim (.done (.yield value)) fun item => body (.ok item) value := by
  show maker.attempt.bind _ = _
  rw [Program.attempt_bind fun fault => by simp [itemOf, passesOn, Program.bind]]
  congr 1
  funext found
  cases found with
  | none => rfl
  | some item => exact Program.bind_eq_self fun step => by cases step <;> rfl

end Pending

namespace Check

variable {σ : Type} (check : Check) (target : Target) (waivers : Waivers)

/-- The one status that a check yields, if it yields any: what comes of asking for the first. -/
def status : Program (Option Status) := do
  let items ← check.sequence target waivers
  match ← items.next with
  | none => pure none
  | some (item, _) =>
    let status ← Program.ofExcept item
    pure (some status)

theorem status_eq :
    check.status target waivers =
      if check.kind.waivable && waivers.ignoreAllChecks then .done (some ⟨check.kind, .allWaived⟩)
      else if check.kind.ofTask && waivers.ignoreTaskChecks then
        .done (some ⟨check.kind, .taskChecksWaived⟩)
      else check.inspect target waivers := by
  unfold status sequence
  split
  · rfl
  · split
    · rfl
    · show (Pending.next _).bind _ = _
      rw [Pending.next_onceWith, Program.bind_assoc, Program.attempt_bind fun _ => rfl]
      exact Program.bind_eq_self fun found => by cases found <;> rfl

/-- To make the sequence of a check is to do nothing: it waits for somebody to ask for its item. -/
theorem sequence_eq :
    check.sequence target waivers = .done (.onceWith (check.status target waivers)) := by
  rw [status_eq, sequence]
  split
  · rfl
  · split <;> rfl

/-- Nothing is called for a sequence of which nothing is taken. -/
theorem calls_pull_zero (store : Store σ) (state : σ) :
    ((check.pull target waivers 0).run store state).calls = [] := by
  rw [pull, sequence_eq]
  rfl

theorem pull_succ (count : Nat) :
    check.pull target waivers (count + 1) =
      (check.status target waivers).bind fun found => .done found.toList := by
  rw [pull, sequence_eq, ← Pending.take_onceWith _ count]
  rfl

/-- A loop over the statuses that passes on faults runs its body on the one that there is. -/
theorem forEach_sequence {β γ : Type} {body : Except Fault Status → β → Program (ForInStep β)}
    (passesOn : ∀ fault value, body (.error fault) value = .fail fault) (value : β)
    (goOn : ForInStep β → Program γ) :
    ((check.sequence target waivers).bind fun items => (items.forEach body value).bind goOn) =
      (check.status target waivers).bind fun found =>
        (found.elim (.done (.yield value)) fun status => body (.ok status) value).bind goOn := by
  rw [sequence_eq]
  show ((Pending.onceWith _).forEach body value).bind goOn = _
  rw [Pending.forEach_onceWith passesOn, Program.bind_assoc]

theorem statuses_eq :
    check.statuses target waivers =
      (check.status target waivers).bind fun found => .done found.toList := by
  refine (check.forEach_sequence target waivers (fun _ _ => rfl) _ _).trans ?_
  congr 1
  funext found
  cases found <;> rfl

/-- A check is met exactly if none of its statuses fails, though the first that does settles it. -/
theorem isMet_eq :
    check.isMet target waivers =
      (check.statuses target waivers).bind fun found => .done (found.all (·.passed)) := by
  rw [statuses_eq, Program.bind_assoc]
  refine (check.forEach_sequence target waivers (fun _ _ => rfl) _ _).trans ?_
  congr 1
  funext found
  cases found with
  | none => rfl
  | some status =>
    cases passes : status.passed <;>
      simp [Program.bind, Program.ofExcept, ForInStep.value, passes]

theorem failureReasons_eq :
    check.failureReasons target waivers = (check.statuses target waivers).bind fun found =>
      .done ((found.filter (!·.passed)).map (·.reason.text)) := by
  rw [statuses_eq, Program.bind_assoc]
  refine (check.forEach_sequence target waivers (fun _ _ => rfl) _ _).trans ?_
  congr 1
  funext found
  cases found with
  | none => rfl
  | some status =>
    cases passes : status.passed <;>
      simp [Program.bind, Program.ofExcept, ForInStep.value, passes]

end Check

end RunGate
