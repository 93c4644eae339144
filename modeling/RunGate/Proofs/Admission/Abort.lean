import RunGate.Proofs.Admission.Steps
import RunGate.Proofs.Check.Records
import RunGate.Proofs.History.Failing

/-! What an evaluation leaves behind when a call of the store fails. It ends there with the fault,
and the history holds no more than a flag that an earlier check in the list recorded when it
passed. -/

namespace RunGate

variable {σ : Type} {store : Store σ} {state : σ} {history : History} {target : Target}
  {waivers : Waivers} {mode : Mode} {check : Check} {checks : List Check} {sofar : Decision}
  {found : Option Status} {query : Query} {calls : List Query} {count : Nat}

theorem propagates_consume : (consume mode target waivers checks sofar).Propagates := by
  induction checks generalizing sofar with
  | nil => exact Program.propagates_done _
  | cons check rest ih =>
    rw [consume_cons]
    refine Check.propagates_status.bind fun found => ?_
    cases found with
    | none => exact ih
    | some status =>
      simp only [Program.Propagates]
      split
      · trivial
      · exact ih

/-- Nothing between a check and the decision holds up the fault of a call. -/
theorem propagates_evaluate : (evaluate mode checks target waivers).Propagates :=
  propagates_consume.bind fun _ => (Program.propagates_log _).bind fun _ => Program.propagates_done _

/-- Asking an initial part of the checks that ends with the one on the previous run comes to its end
within these calls, and the last call that it makes records that this check passed. -/
def PassRecorded (history : History) (target : Target) (waivers : Waivers)
    (ask : List Check → Program Decision) (checks : List Check) (calls : List Query) : Prop :=
  ∃ before rest decision found, checks = before ++ .previousRun :: rest ∧
    let earlier := (ask (before ++ [.previousRun])).run History.store history
    earlier.result = .ok decision ∧ earlier.calls <+: calls ∧
      earlier.calls.getLast? = some (.recordFlag target.subject.key Past.metFlag true) ∧
      (Check.previousRun.status target waivers).reading history = .ok found ∧
      ∀ status ∈ found.toList, status.passed = true

/-- What is recorded among the first calls of a check is its last call, so these are all of them. -/
private theorem Check.of_written
    (ended : ((check.status target waivers).run store state).result = .ok found)
    (written : query ∈ ((check.status target waivers).run store state).calls.take count)
    (writes : query.isRead = false) :
    check = .previousRun ∧ query = .recordFlag target.subject.key Past.metFlag true ∧
      (∀ status ∈ found.toList, status.passed = true) ∧
      ((check.status target waivers).run store state).calls.length ≤ count ∧
      ((check.status target waivers).run store state).calls.getLast? = some query := by
  obtain ⟨reads, onlyReads, same⟩ := Check.calls_status_of_ok ended
  rw [same] at written ⊢
  have recorded : query ∈ check.records target waivers found := by
    rcases List.mem_append.mp (List.mem_of_mem_take written) with early | last
    · rw [onlyReads query early] at writes
      cases writes
    · exact last
  obtain ⟨past, single, isFlag, passes⟩ := Check.of_mem_records recorded
  rw [single] at written ⊢
  refine ⟨past, isFlag, passes, ?_, by simp⟩
  refine Nat.le_of_not_lt fun short => ?_
  have early : query ∈ reads := by
    rw [List.take_append_of_le_length (by simpa using Nat.le_of_lt_succ (by simpa using short))]
      at written
    exact List.mem_of_mem_take written
  rw [onlyReads query early] at writes
  cases writes

theorem run_consume_single (mode : Mode) (sofar : Decision)
    (ended : ((check.status target waivers).run store state).result = .ok found) :
    let first := (check.status target waivers).run store state
    let whole := (consume mode target waivers [check] sofar).run store state
    whole.result = .ok (sofar.including mode found) ∧ whole.calls = first.calls := by
  cases stops : mode.stops found with
  | true =>
    have stopped := run_consume_of_stops [] sofar ended stops
    exact ⟨stopped.1, stopped.2.1⟩
  | false =>
    have wentOn := run_consume_of_goesOn [] sofar ended stops
    exact ⟨wentOn.1, wentOn.2.1.trans (List.append_nil _)⟩

private theorem passRecorded_of_first (mode : Mode) (rest : List Check) (sofar : Decision)
    (ended : ((check.status target waivers).run History.store history).result = .ok found)
    (written : query ∈
      ((check.status target waivers).run History.store history).calls.take count)
    (writes : query.isRead = false)
    (begins : ((check.status target waivers).run History.store history).calls <+: calls) :
    PassRecorded history target waivers (consume mode target waivers · sofar) (check :: rest)
      (calls.take count) := by
  obtain ⟨rfl, rfl, passes, within, last⟩ := Check.of_written ended written writes
  obtain ⟨result, same⟩ := run_consume_single mode sofar ended
  refine ⟨[], rest, _, found, rfl, result, ?_, ?_, ?_, passes⟩
  · rw [List.nil_append, same]
    exact List.prefix_take_iff.mpr ⟨begins, within⟩
  · rw [List.nil_append, same]
    exact last
  · rw [← Program.result_run]
    exact ended

/-- A check passes, and records it, after the first one. -/
theorem PassRecorded.cons {rest : List Check}
    (ended : ((check.status target waivers).run History.store history).result = .ok found)
    (goesOn : mode.stops found = false)
    (recorded : PassRecorded ((check.status target waivers).run History.store history).state target
      waivers (consume mode target waivers · (sofar.including mode found)) rest
      (calls.take
        (count - ((check.status target waivers).run History.store history).calls.length))) :
    PassRecorded history target waivers (consume mode target waivers · sofar) (check :: rest)
      ((((check.status target waivers).run History.store history).calls ++ calls).take count) := by
  obtain ⟨before, rest', decision, found', rfl, result, begins, last, yields, passes⟩ := recorded
  simp only at begins last
  obtain ⟨whole, same, -⟩ := run_consume_of_goesOn (before ++ [.previousRun]) sofar ended goesOn
  refine ⟨check :: before, rest', decision, found', rfl, whole.trans result, ?_, ?_, ?_, passes⟩
  · obtain ⟨initial, within⟩ := List.prefix_take_iff.mp begins
    have some := List.length_pos_of_mem (List.mem_of_getLast? last)
    rw [List.cons_append, same, List.prefix_take_iff, List.length_append]
    exact ⟨(List.prefix_append_right_inj _).mpr initial, by omega⟩
  · rw [List.cons_append, same, List.getLast?_append, last]
    rfl
  · rw [Program.reading_of_sameRecords (Program.sameRecords_run _ _)]
    exact yields

/-- Whatever is recorded among the first calls of an evaluation is the flag, and a check that has
passed by then has recorded it. -/
theorem passRecorded_of_written
    (written : query ∈ ((consume mode target waivers checks sofar).run History.store
      history).calls.take count)
    (writes : query.isRead = false) :
    query = .recordFlag target.subject.key Past.metFlag true ∧
      PassRecorded history target waivers (consume mode target waivers · sofar) checks
        (((consume mode target waivers checks sofar).run History.store history).calls.take
          count) := by
  induction checks generalizing sofar history count with
  | nil => simp [consume, Program.run] at written
  | cons check rest ih =>
    cases ended : ((check.status target waivers).run History.store history).result with
    | error fault =>
      obtain ⟨-, same, -⟩ := run_consume_of_error mode rest sofar ended
      rw [same] at written
      rw [Check.isRead_of_error ended query (List.mem_of_mem_take written)] at writes
      cases writes
    | ok found =>
      cases stops : mode.stops found with
      | true =>
        obtain ⟨-, same, -⟩ := run_consume_of_stops rest sofar ended stops
        rw [same] at written ⊢
        exact ⟨(Check.of_written ended written writes).2.1,
          passRecorded_of_first mode rest sofar ended written writes List.prefix_rfl⟩
      | false =>
        obtain ⟨-, same, -⟩ := run_consume_of_goesOn rest sofar ended stops
        rw [same] at written ⊢
        rw [List.take_append] at written
        rcases List.mem_append.mp written with first | later
        · exact ⟨(Check.of_written ended first writes).2.1,
            passRecorded_of_first mode rest sofar ended first writes (List.prefix_append ..)⟩
        · obtain ⟨isFlag, recorded⟩ := ih later
          exact ⟨isFlag, recorded.cons ended stops⟩

private theorem PassRecorded.of_alike {first second : List Check → Program Decision}
    (alike : ∀ checks, ((second checks).run History.store history).Alike
      ((first checks).run History.store history))
    (recorded : PassRecorded history target waivers first checks calls) :
    PassRecorded history target waivers second checks calls := by
  obtain ⟨before, rest, decision, found, split, result, begins, last, yields, passes⟩ := recorded
  have same := alike (before ++ [.previousRun])
  exact ⟨before, rest, decision, found, split, same.result.trans result, same.calls ▸ begins,
    same.calls ▸ last, yields, passes⟩

/-- If a call of the history fails, an evaluation ends with its fault, having made just the calls up
to it and left the history to the ones before it, so that at most the flag is new; and that only if
by then a check on the previous run has passed in an earlier place. If an evaluation ends before,
all is as without the failure. -/
theorem evaluate_failingAt (history : History) (target : Target) (waivers : Waivers)
    (checks : List Check) (mode : Mode) (fault : Fault) {failing : Nat} (positive : 0 < failing) :
    let ask := fun checks => evaluate mode checks target waivers
    let free := (ask checks).run History.store history
    let run := (ask checks).run (Store.failingAt failing fault History.store) (0, history)
    (failing ≤ free.calls.length →
      run.result = .error fault ∧ run.calls = free.calls.take failing ∧
        run.state.2 = History.store.after history (free.calls.take (failing - 1)) ∧
        (run.state.2 = history ∨
          run.state.2 = history.recordFlag target.subject.key Past.metFlag true ∧
            PassRecorded history target waivers ask checks (free.calls.take (failing - 1)))) ∧
      (free.calls.length < failing →
        run.result = free.result ∧ run.calls = free.calls ∧ run.state.2 = free.state) := by
  intro ask free run
  have alike (checks : List Check) := run_evaluate mode checks target waivers History.store history
  constructor
  · intro within
    have reached : failing ≤ 0 + free.calls.length := by omega
    obtain ⟨result, calls, left⟩ := propagates_evaluate.run_failingAt_of_le fault positive reached
    rw [Nat.sub_zero] at calls left
    have changed : run.state.2 = History.store.after history (free.calls.take (failing - 1)) :=
      congrArg Prod.snd left
    have written (query : Query) (member : query ∈ free.calls.take (failing - 1))
        (writes : query.isRead = false) :
        query = .recordFlag target.subject.key Past.metFlag true ∧
          PassRecorded history target waivers ask checks (free.calls.take (failing - 1)) := by
      rw [(alike checks).calls] at member ⊢
      obtain ⟨isFlag, recorded⟩ := passRecorded_of_written member writes
      exact ⟨isFlag, recorded.of_alike alike⟩
    refine ⟨result, calls, changed, ?_⟩
    rw [changed, History.after_of_reads_or_flag fun query member writes =>
      (written query member writes).1]
    split
    · exact .inl rfl
    · rename_i some
      obtain ⟨query, member, writes⟩ : ∃ query ∈ free.calls.take (failing - 1),
          query.isRead = false := by simpa using some
      exact .inr ⟨rfl, (written query member writes).2⟩
  · intro ends
    have beyond : 0 + free.calls.length < failing := by omega
    obtain ⟨result, calls, left⟩ := Program.run_failingAt_of_lt fault beyond
    exact ⟨result, calls, congrArg Prod.snd left⟩

/-- The second call fails, by which the check on the previous run has recorded that it passed; or
the third would fail, but there are only two. -/
theorem evaluate_failingAt_runningTarget :
    let ask := fun checks => evaluate .explain checks runningTarget { recordPast := true }
    let free := (ask [.previousRun, .runActive]).run History.store .empty
    let run := fun failing => (ask [.previousRun, .runActive]).run
      (Store.failingAt failing (.store .refused) History.store) (0, .empty)
    free.calls = [.recordFlag runningTarget.subject.key Past.metFlag true, .run "etl" "monday"] ∧
      ((run 2).result = .error (.store .refused) ∧ (run 2).calls = free.calls ∧
        (run 2).state.2 = .recordFlag .empty runningTarget.subject.key Past.metFlag true ∧
        PassRecorded .empty runningTarget { recordPast := true } ask [.previousRun, .runActive]
          (free.calls.take 1)) ∧
      (run 3).result = .error (.unknownRun "etl" "monday") ∧ (run 3).calls = free.calls ∧
        (run 3).state.2 = free.state := by
  obtain ⟨aborted, -⟩ := evaluate_failingAt .empty runningTarget { recordPast := true }
    [.previousRun, .runActive] .explain (.store .refused) (by decide : 0 < 2)
  obtain ⟨-, ended⟩ := evaluate_failingAt .empty runningTarget { recordPast := true }
    [.previousRun, .runActive] .explain (.store .refused) (by decide : 0 < 3)
  obtain ⟨result, calls, changed, flagged⟩ := aborted (by decide)
  refine ⟨rfl, ⟨result, calls, changed, ?_⟩, ended (by decide)⟩
  rcases flagged with same | ⟨-, recorded⟩
  · have flag := congrArg (·.flag? runningTarget.subject.key Past.metFlag) same
    cases flag
  · exact recorded

end RunGate
