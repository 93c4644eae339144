import RunGate.History.Basic

/-! What a program finds in a history. The only call that changes a history sets a flag, and no call
looks at flags, so all answers are those of the history that the program starts with. -/

namespace RunGate

/-- Two histories record the same runs and instances; flags and numbering may differ. -/
structure History.SameRecords (first second : History) : Prop where
  runs : first.runs = second.runs
  instances : first.instances = second.instances

namespace History

variable {first second third : History}

theorem SameRecords.refl (history : History) : history.SameRecords history := ⟨rfl, rfl⟩

theorem SameRecords.symm (same : first.SameRecords second) : second.SameRecords first :=
  ⟨same.runs.symm, same.instances.symm⟩

theorem SameRecords.trans (left : first.SameRecords second) (right : second.SameRecords third) :
    first.SameRecords third :=
  ⟨left.runs.trans right.runs, left.instances.trans right.instances⟩

private theorem sameRecords_answer (history : History) (query : Query) :
    history.SameRecords (history.answer query).2 := by
  cases query <;> exact ⟨rfl, rfl⟩

/-- Answers depend on the records alone. -/
theorem SameRecords.answer (same : first.SameRecords second) (query : Query) :
    (first.answer query).1 = (second.answer query).1 := by
  obtain ⟨runs, instances, flags, number⟩ := first
  obtain ⟨runs', instances', flags', number'⟩ := second
  obtain ⟨rfl, rfl⟩ := same
  cases query <;> rfl

end History

@[simp]
theorem ok_bind {α β : Type} (value : α) (next : α → Except Fault β) :
    (Except.ok value >>= next) = next value := rfl

@[simp]
theorem error_bind {α β : Type} (fault : Fault) (next : α → Except Fault β) :
    (Except.error fault >>= next) = .error fault := rfl

namespace Program

variable {α β : Type} {history : History}

/-- The end of a program that has all its calls answered by one history. -/
def reading (history : History) : Program α → Except Fault α
  | done value => .ok value
  | fail fault => .error fault
  | call query next => (next (.ok (history.answer query).1)).reading history
  | note _ rest => rest.reading history

theorem reading_of_sameRecords {first second : History} (same : first.SameRecords second)
    (program : Program α) : program.reading first = program.reading second := by
  induction program with
  | done value => rfl
  | fail fault => rfl
  | call query next ih => simp only [reading, same.answer query, ih]
  | note event rest ih => exact ih

/-- Running a program on a history ends as reading says. -/
theorem result_run (program : Program α) (history : History) :
    (program.run History.store history).result = program.reading history := by
  induction program generalizing history with
  | done value => rfl
  | fail fault => rfl
  | call query next ih =>
    have unchanged := (history.sameRecords_answer query).symm
    exact (ih _ (history.answer query).2).trans (reading_of_sameRecords unchanged _)
  | note event rest ih => exact ih history

theorem sameRecords_run (program : Program α) (history : History) :
    history.SameRecords (program.run History.store history).state := by
  induction program generalizing history with
  | done value => exact .refl history
  | fail fault => exact .refl history
  | call query next ih => exact (history.sameRecords_answer query).trans (ih _ _)
  | note event rest ih => exact ih history

/-- What a program asks depends on the records alone. -/
theorem calls_run_of_sameRecords {first second : History} (same : first.SameRecords second)
    (program : Program α) :
    (program.run History.store first).calls = (program.run History.store second).calls := by
  induction program generalizing first second with
  | done value => rfl
  | fail fault => rfl
  | call query next ih =>
    have after : (first.answer query).2.SameRecords (second.answer query).2 :=
      ((first.sameRecords_answer query).symm.trans same).trans (second.sameRecords_answer query)
    have later := ih (.ok (second.answer query).1) after
    show query ::
      ((next (.ok (first.answer query).1)).run History.store (first.answer query).2).calls = _
    rw [same.answer query, later]
    rfl
  | note event rest ih => exact ih same

@[simp]
theorem reading_done (value : α) : (done value).reading history = .ok value := rfl

@[simp]
theorem reading_fail (fault : Fault) :
    (fail fault : Program α).reading history = .error fault := rfl

@[simp]
theorem reading_bind (program : Program α) (next : α → Program β) :
    (program.bind next).reading history =
      program.reading history >>= fun value => (next value).reading history := by
  induction program with
  | done value => rfl
  | fail fault => rfl
  | call query answer ih => exact ih _
  | note event rest ih => exact ih

@[simp]
theorem reading_ofExcept (ended : Except Fault α) : (ofExcept ended).reading history = ended := by
  cases ended <;> rfl

@[simp]
theorem reading_call (query : Query) (next : Except Fault query.Answer → Program α) :
    Program.reading history (call query next) =
      (next (.ok (history.answer query).1)).reading history := rfl

@[simp]
theorem reading_log (event : Event) : (log event).reading history = .ok () := rfl

end Program

end RunGate
