import RunGate.Proofs.Admission.Abort

/-! Evaluations one after another on one history. Each ends as it would end alone. What they leave are
the flags of those that record that the check on the previous run passed, in whatever order they come
and however often. -/

namespace RunGate

/-- What an evaluation is about, and how it is made. -/
structure Inquiry where
  target : Target
  waivers : Waivers
  checks : List Check
  mode : Mode

namespace Inquiry

def on (inquiry : Inquiry) (history : History) : Outcome History Decision :=
  (evaluate inquiry.mode inquiry.checks inquiry.target inquiry.waivers).run History.store history

/-- Evaluations one after another, each on the history that the one before it has left: how they end,
and the history in the end. -/
def inTurn (history : History) : List Inquiry → List (Except Fault Decision) × History
  | [] => ([], history)
  | inquiry :: rest =>
    let outcome := inquiry.on history
    let later := inTurn outcome.state rest
    (outcome.result :: later.1, later.2)

/-- Whether the evaluation records anything in a history. -/
def records (history : History) (inquiry : Inquiry) : Bool :=
  (inquiry.on history).calls.any (!·.isRead)

/-- Whether one of the evaluations records something for the instance under a key. -/
def markedBy (history : History) (inquiries : List Inquiry) (key : InstanceKey) : Bool :=
  inquiries.any fun inquiry => inquiry.target.subject.key == key && inquiry.records history

/-- The history with the flag of every instance for which one of the evaluations records it. -/
def marked (history : History) (inquiries : List Inquiry) : History :=
  { history with flags := fun key flag =>
      if flag = Past.metFlag ∧ markedBy history inquiries key = true then some true
      else history.flags key flag }

variable {history first second : History} {inquiry : Inquiry} {inquiries others : List Inquiry}

private theorem flag?_marked (history : History) (inquiries : List Inquiry) (key : InstanceKey)
    (flag : String) : (marked history inquiries).flag? key flag =
      if flag = Past.metFlag ∧ markedBy history inquiries key = true then some true
      else history.flag? key flag := rfl

private theorem result_on_congr (same : first.SameRecords second) :
    (inquiry.on first).result = (inquiry.on second).result := by
  unfold on
  rw [Program.result_run, Program.result_run, Program.reading_of_sameRecords same]

private theorem records_congr (same : first.SameRecords second) :
    inquiry.records first = inquiry.records second := by
  unfold records on
  rw [Program.calls_run_of_sameRecords same]

/-- An evaluation records the flag of its instance or nothing at all. -/
theorem state_on (inquiry : Inquiry) (history : History) :
    (inquiry.on history).state =
      if inquiry.records history then
        history.recordFlag inquiry.target.subject.key Past.metFlag true
      else history := by
  have alike := run_evaluate inquiry.mode inquiry.checks inquiry.target inquiry.waivers
    History.store history
  have only (query : Query) (member : query ∈ (inquiry.on history).calls)
      (writes : query.isRead = false) :
      query = .recordFlag inquiry.target.subject.key Past.metFlag true := by
    rw [on, alike.calls, ← @List.take_length _ (Outcome.calls _)] at member
    exact (passRecorded_of_written member writes).1
  rw [on, Program.state_run, ← on, History.after_of_reads_or_flag only, records,
    ← List.not_all_eq_any_not]
  cases (inquiry.on history).calls.all (·.isRead) <;> rfl

private theorem sameRecords_on (inquiry : Inquiry) (history : History) :
    history.SameRecords (inquiry.on history).state :=
  Program.sameRecords_run _ history

private theorem marked_cons (history : History) (inquiry : Inquiry) (rest : List Inquiry) :
    marked history (inquiry :: rest) = marked (inquiry.on history).state rest := by
  have still (key : InstanceKey) :
      markedBy (inquiry.on history).state rest key = markedBy history rest key := by
    simp only [markedBy, records_congr (inquiry.sameRecords_on history).symm]
  have first (key : InstanceKey) : markedBy history (inquiry :: rest) key =
      (inquiry.target.subject.key == key && inquiry.records history ||
        markedBy history rest key) := List.any_cons
  simp only [marked, still, first]
  rw [state_on]
  cases inquiry.records history with
  | false => simp
  | true =>
    simp only [Bool.and_true, ↓reduceIte, History.recordFlag]
    congr 1
    funext key flag
    by_cases met : flag = Past.metFlag
    · by_cases own : inquiry.target.subject.key = key
      · simp [met, own]
      · simp [met, own, Ne.symm own]
    · simp [met]

/-- The evaluations end as they would end alone, and leave what they record. -/
theorem inTurn_eq (history : History) (inquiries : List Inquiry) :
    inTurn history inquiries =
      (inquiries.map fun inquiry => (inquiry.on history).result, marked history inquiries) := by
  induction inquiries generalizing history with
  | nil => simp [inTurn, marked, markedBy]
  | cons inquiry rest ih =>
    rw [inTurn, ih, marked_cons]
    have alone (next : Inquiry) :
        (next.on (inquiry.on history).state).result = (next.on history).result :=
      result_on_congr (inquiry.sameRecords_on history).symm
    simp only [alone, List.map_cons]

/-- What is recorded depends on which evaluations there are, not on their order or number. -/
private theorem marked_congr (same : ∀ inquiry, inquiry ∈ others ↔ inquiry ∈ inquiries)
    (history : History) : marked history others = marked history inquiries := by
  have alike (key : InstanceKey) : markedBy history others key = markedBy history inquiries key := by
    rw [Bool.eq_iff_iff]
    simp only [markedBy, List.any_eq_true, same]
  simp only [marked, alike]

/-- Evaluations made one after another on one history do not disturb each other. Each ends as it would
end alone on the history there was at first. The runs, the instances and the numbering stay as they
are, and so does every flag but the one that the check on the previous run records for an instance
that is evaluated. The same evaluations in another order, or more often, leave the same history. -/
theorem undisturbed_inTurn (history : History) (inquiries : List Inquiry) :
    let last := (inTurn history inquiries).2
    (inTurn history inquiries).1 = inquiries.map (fun inquiry => (inquiry.on history).result) ∧
      history.SameRecords last ∧ last.lastNumber = history.lastNumber ∧
      (∀ key flag, last.flag? key flag = history.flag? key flag ∨
        last.flag? key flag = some true ∧ flag = Past.metFlag ∧
          ∃ inquiry ∈ inquiries, inquiry.target.subject.key = key) ∧
      ∀ others, (∀ inquiry, inquiry ∈ others ↔ inquiry ∈ inquiries) →
        (inTurn history others).2 = last := by
  intro last
  have left : last = marked history inquiries := congrArg Prod.snd (inTurn_eq history inquiries)
  rw [left]
  refine ⟨congrArg Prod.fst (inTurn_eq history inquiries), ⟨rfl, rfl⟩, rfl, fun key flag => ?_,
    fun others same => ?_⟩
  · rw [flag?_marked]
    split
    · rename_i recorded
      obtain ⟨met, some⟩ := recorded
      obtain ⟨inquiry, asked, own⟩ := List.any_eq_true.mp some
      simp only [Bool.and_eq_true, beq_iff_eq] at own
      exact .inr ⟨rfl, met, inquiry, asked, own.1⟩
    · exact .inl rfl
  · rw [inTurn_eq, marked_congr same]

/-- One evaluation records that the check passed, the other denies; the second time around they do the
same, in the other order, and nothing more is recorded. -/
theorem undisturbed_inTurn_runningTarget :
    let first : Inquiry := ⟨runningTarget, { recordPast := true }, [.previousRun], .explain⟩
    let second : Inquiry := ⟨runningTarget, {}, [.notRunning], .admission⟩
    (∀ inquiry, inquiry ∈ [second, first, first] ↔ inquiry ∈ [first, second]) ∧
      (inTurn .empty [first, second]).1 =
        [.ok ⟨true, .explain, [⟨.previousRun, .independentOfPast⟩]⟩,
          .ok ⟨false, .admission, [⟨.notRunning, .alreadyRunning⟩]⟩] ∧
      (inTurn .empty [first, second]).2.flag? runningTarget.subject.key Past.metFlag = some true ∧
      (inTurn .empty [second, first, first]).2 = (inTurn .empty [first, second]).2 := by
  intro first second
  obtain ⟨results, -, -, -, same⟩ := undisturbed_inTurn .empty [first, second]
  have members : ∀ inquiry, inquiry ∈ [second, first, first] ↔ inquiry ∈ [first, second] := by
    simp [or_comm]
  exact ⟨members, results, rfl, same _ members⟩

end Inquiry

end RunGate
