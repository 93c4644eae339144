import RunGate.Proofs.Check.Finding
import RunGate.Proofs.Check.Protocol

namespace RunGate

namespace History

variable {history : History} {calls : List Query}

private theorem answer_of_isRead {query : Query} (reads : query.isRead = true) :
    (store.answer query history).2 = history := by
  cases query with
  | recordFlag key flag value => cases reads
  | _ => rfl

@[simp]
theorem recordFlag_recordFlag (history : History) (key : InstanceKey) (flag : String)
    (value : Bool) :
    (history.recordFlag key flag value).recordFlag key flag value =
      history.recordFlag key flag value := by
  simp only [recordFlag]
  congr 1
  funext other name
  split <;> rfl

/-- Calls that read, or else give one flag one value, change nothing but that flag. -/
theorem after_of_reads_or_flag {key : InstanceKey} {flag : String} {value : Bool}
    (only : ∀ query ∈ calls, query.isRead = false → query = .recordFlag key flag value) :
    store.after history calls =
      if calls.all (·.isRead) then history else history.recordFlag key flag value := by
  induction calls generalizing history with
  | nil => rfl
  | cons query rest ih =>
    obtain ⟨first, later⟩ := List.forall_mem_cons.mp only
    rw [Store.after_cons, ih later, List.all_cons]
    cases reads : query.isRead with
    | true => rw [answer_of_isRead reads, Bool.true_and]
    | false =>
      have same : (store.answer query history).2 = history.recordFlag key flag value := by
        rw [first reads]
        rfl
      simp [same]

theorem after_of_reads (reads : ∀ query ∈ calls, query.isRead = true) :
    store.after history calls = history := by
  induction calls with
  | nil => rfl
  | cons query rest ih =>
    obtain ⟨first, later⟩ := List.forall_mem_cons.mp reads
    rw [Store.after_cons, answer_of_isRead first, ih later]

end History

namespace Check

variable {σ : Type} {history : History} {target : Target} {waivers : Waivers} {check : Check}
  {found : Option Status} {exchanges : List Exchange} {store : Store σ} {state : σ}

/-- The calls by which a check records that it passed. -/
def records (check : Check) (target : Target) (waivers : Waivers) (found : Option Status) :
    List Query :=
  if check = previousRun ∧ waivers.ignoreAllChecks = false ∧ waivers.ignoreTaskChecks = false then
    (Past.closing target waivers found).map (·.query)
  else []

private theorem records_of_ne (other : check ≠ previousRun) :
    check.records target waivers found = [] :=
  if_neg fun same => other same.1

theorem of_mem_records {query : Query} (member : query ∈ check.records target waivers found) :
    check = previousRun ∧ check.records target waivers found = [query] ∧
      query = .recordFlag target.subject.key Past.metFlag true ∧
      ∀ status ∈ found.toList, status.passed = true := by
  unfold records at member ⊢
  split at member
  · rename_i asked
    obtain ⟨exchange, closes, rfl⟩ := List.mem_map.mp member
    obtain ⟨asksFlag, passes, rfl⟩ := Past.mem_closing.mp closes
    have all : found.all (·.passed) = true := by cases found <;> simp_all
    exact ⟨asked.1, by simp [asked, Past.closing, asksFlag, all], rfl, passes⟩
  · cases member

theorem calls_runStatus (store : Store σ) (state : σ) :
    ((runStatus target).run store state).calls =
      [.run target.subject.key.workflow target.subject.key.run] := by
  simp only [runStatus, Program.ask, Program.bind_eq, Program.bind, Program.run]
  cases store.answer (.run target.subject.key.workflow target.subject.key.run) state with
  | mk given after =>
    cases given with
    | error fault => rfl
    | ok run =>
      cases run with
      | none => rfl
      | some run =>
        simp only [Program.ofExcept, Program.bind]
        split <;> rfl

theorem isRead_of_ne (other : check ≠ previousRun) (store : Store σ) (state : σ) :
    ∀ query ∈ ((check.status target waivers).run store state).calls, query.isRead = true := by
  rw [status_eq]
  split
  · exact nofun
  · split
    · exact nofun
    · cases check with
      | previousRun => exact absurd rfl other
      | instanceState allowed nonempty => exact nofun
      | notRunning => exact nofun
      | runActive =>
        show ∀ query ∈ ((runStatus target).run store state).calls, _
        rw [calls_runStatus]
        exact List.forall_mem_singleton.mpr rfl

/-- A check that comes to its end has read and then recorded what it found. -/
theorem calls_status_of_ok
    (ended : ((check.status target waivers).run store state).result = .ok found) :
    ∃ reads, (∀ query ∈ reads, query.isRead = true) ∧
      ((check.status target waivers).run store state).calls =
        reads ++ check.records target waivers found := by
  by_cases past : check = previousRun
  · subst past
    rw [← store.map_query_exchanges state
      ((previousRun.status target waivers).run store state).calls]
    rcases yields_status_previousRun
        (sound_status_previousRun.propagates.yields_of_result_eq_ok ended) with
      ⟨all, silent, -⟩ | ⟨some, ofTask, silent, -⟩ | ⟨some, others, reads, read, same⟩
    · exact ⟨[], nofun, by simp [silent, records, all]⟩
    · exact ⟨[], nofun, by simp [silent, records, ofTask]⟩
    · refine ⟨reads.map (·.query), List.forall_mem_map.mpr read.isRead, ?_⟩
      simp [same, records, some, others]
  · exact ⟨_, isRead_of_ne past store state, by rw [records_of_ne past, List.append_nil]⟩

/-- Where a check meets a fault of its own, it has only read. -/
theorem isRead_of_error {fault : Fault}
    (failed : ((check.status target waivers).run History.store history).result = .error fault) :
    ∀ query ∈ ((check.status target waivers).run History.store history).calls,
      query.isRead = true := by
  refine isRead_of_ne (fun past => ?_) _ _
  rw [past, Program.result_run, reading_status_previousRun] at failed
  cases failed

theorem state_status_of_ok
    (ended : ((check.status target waivers).run History.store history).result = .ok found) :
    ((check.status target waivers).run History.store history).state =
      History.store.after history (check.records target waivers found) := by
  obtain ⟨reads, onlyReads, same⟩ := calls_status_of_ok ended
  rw [Program.state_run, same, Store.after_append, History.after_of_reads onlyReads]

end Check

end RunGate
