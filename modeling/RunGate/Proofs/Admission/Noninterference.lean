import RunGate.Proofs.Admission.Steps
import RunGate.Proofs.Check.Agreement
import RunGate.Proofs.Check.Records

/-! An evaluation shows nothing of a scenario but what counts for the requested instance. Where two
scenarios agree on that, they lead to the same decision and to the same flags. -/

namespace RunGate

variable {first second : History} {target : Target} {waivers : Waivers} {check : Check}

private theorem History.flags_after_congr {calls : List Query} (same : first.flags = second.flags) :
    (store.after first calls).flags = (store.after second calls).flags := by
  induction calls generalizing first second with
  | nil => exact same
  | cons query rest ih =>
    rw [Store.after_cons, Store.after_cons]
    apply ih
    cases query with
    | recordFlag key flag value =>
      show (first.recordFlag key flag value).flags = (second.recordFlag key flag value).flags
      rw [recordFlag, recordFlag, same]
    | _ => exact same

private theorem Check.result_status_congr
    (alike : check.yield first target waivers = check.yield second target waivers) :
    ((check.status target waivers).run History.store first).result =
      ((check.status target waivers).run History.store second).result := by
  rw [Program.result_run, Program.result_run]
  exact alike

private theorem Check.flags_status_congr
    (alike : check.yield first target waivers = check.yield second target waivers)
    (same : first.flags = second.flags) :
    ((check.status target waivers).run History.store first).state.flags =
      ((check.status target waivers).run History.store second).state.flags := by
  have results := Check.result_status_congr alike
  cases ended : ((check.status target waivers).run History.store first).result with
  | error fault =>
    have endedToo := results.symm.trans ended
    rw [Program.state_run, Program.state_run, History.after_of_reads (isRead_of_error ended),
      History.after_of_reads (isRead_of_error endedToo)]
    exact same
  | ok found =>
    have endedToo := results.symm.trans ended
    rw [state_status_of_ok ended, state_status_of_ok endedToo]
    exact History.flags_after_congr same

/-- Where every check yields the same on two histories with the same flags, an evaluation ends in
the same way and leaves the same flags. -/
private theorem consume_congr {mode : Mode} {checks : List Check} (sofar : Decision)
    (alike : ∀ check ∈ checks, check.yield first target waivers = check.yield second target waivers)
    (same : first.flags = second.flags) :
    let run := (consume mode target waivers checks sofar).run History.store first
    let other := (consume mode target waivers checks sofar).run History.store second
    run.result = other.result ∧ run.state.flags = other.state.flags := by
  induction checks generalizing first second sofar with
  | nil => exact ⟨rfl, same⟩
  | cons check rest ih =>
    obtain ⟨now, later⟩ := List.forall_mem_cons.mp alike
    have results := (Check.result_status_congr now).symm
    have flags := Check.flags_status_congr now same
    cases ended : ((check.status target waivers).run History.store first).result with
    | error fault =>
      obtain ⟨result, -, state⟩ := run_consume_of_error mode rest sofar ended
      obtain ⟨resultToo, -, stateToo⟩ := run_consume_of_error mode rest sofar (results.trans ended)
      exact ⟨result.trans resultToo.symm, by rw [state, stateToo, flags]⟩
    | ok found =>
      cases stops : mode.stops found with
      | true =>
        obtain ⟨result, -, state⟩ := run_consume_of_stops rest sofar ended stops
        obtain ⟨resultToo, -, stateToo⟩ :=
          run_consume_of_stops rest sofar (results.trans ended) stops
        exact ⟨result.trans resultToo.symm, by rw [state, stateToo, flags]⟩
      | false =>
        obtain ⟨result, -, state⟩ := run_consume_of_goesOn rest sofar ended stops
        obtain ⟨resultToo, -, stateToo⟩ :=
          run_consume_of_goesOn rest sofar (results.trans ended) stops
        -- The first check leaves the records as they are, so the others yield what they did.
        have unchanged (history : History) (next : Check) :
            next.yield ((check.status target waivers).run History.store history).state target
                waivers = next.yield history target waivers :=
          Program.reading_of_sameRecords (Program.sameRecords_run _ history).symm _
        have still : ∀ next ∈ rest,
            next.yield ((check.status target waivers).run History.store first).state target
                waivers =
              next.yield ((check.status target waivers).run History.store second).state target
                waivers := by
          intro next member
          rw [unchanged, unchanged, later next member]
        obtain ⟨lastResult, lastFlags⟩ := ih (sofar.including mode found) still flags
        exact ⟨result.trans (lastResult.trans resultToo.symm), by rw [state, stateToo, lastFlags]⟩

private theorem evaluate_congr (mode : Mode) {checks : List Check}
    (alike : ∀ check ∈ checks, check.yield first target waivers = check.yield second target waivers)
    (same : first.flags = second.flags) :
    let run := (evaluate mode checks target waivers).run History.store first
    let other := (evaluate mode checks target waivers).run History.store second
    run.result = other.result ∧ run.state.flags = other.state.flags := by
  intro run other
  have here := run_evaluate mode checks target waivers History.store first
  have there := run_evaluate mode checks target waivers History.store second
  obtain ⟨result, flags⟩ := consume_congr ⟨true, mode, []⟩ alike same
  constructor
  · exact here.result.trans (result.trans there.result.symm)
  · rw [here.state, there.state]
    exact flags

namespace Snapshot

variable {scenario : Scenario} {request : Request} {run : RunEntry}

private theorem keyOf_eq_key_iff (scenario : Scenario) {entry : InstanceEntry} :
    scenario.keyOf entry = key scenario request ↔
      Scenario.identity entry = (request.task, request.run, request.mapIndex) := by
  simp [Scenario.keyOf, key, Scenario.identity]

private theorem instance?_recorded_key (valid : scenario.WellFormed)
    (found : scenario.run? request.run = some run) :
    scenario.recorded.instance? (key scenario request) = (scenario.listed? request).map
      fun entry => ⟨key scenario request, run.date, entry.state⟩ := by
  have here := (Scenario.run?_eq_some_iff valid).mp found
  apply Option.ext
  intro subject
  rw [Scenario.instance?_recorded_eq_some_iff valid, Scenario.mem_recordedInstances valid,
    Option.map_eq_some_iff]
  simp only [Scenario.listed?_eq_some_iff valid, ← keyOf_eq_key_iff scenario]
  constructor
  · intro recorded
    obtain ⟨⟨entry, listed, held, heldListed, named, rfl⟩, requested⟩ := recorded
    have inRun : entry.run = request.run := congrArg InstanceKey.run requested
    have same : held = run := List.inj_on_of_nodup_map valid.runNames heldListed here.1
      (named.trans (inRun.trans here.2.symm))
    exact ⟨entry, ⟨listed, requested⟩, by rw [same, ← requested]⟩
  · intro recorded
    obtain ⟨entry, ⟨listed, requested⟩, rfl⟩ := recorded
    have inRun : entry.run = request.run := congrArg InstanceKey.run requested
    exact ⟨⟨entry, listed, run, here.1, here.2.trans inRun.symm, by rw [requested]⟩, rfl⟩

private theorem requested_eq (valid : scenario.WellFormed)
    (found : scenario.run? request.run = some run) :
    requested scenario request run =
      ⟨key scenario request, run.date, scenario.stateOf request⟩ := by
  rw [requested, Scenario.stateOf, instance?_recorded_key valid found]
  cases scenario.listed? request <;> rfl

variable {first second raw rawToo : Scenario} {granted : Waivers} {snapshot other : Snapshot}

private theorem taken_congr (same : first.SameSections second) (valid : first.WellFormed)
    (validToo : second.WellFormed) (found : first.run? request.run = some run)
    (agree : first.AgreesOn second request run) :
    taken second request granted run =
      { taken first request granted run with history := second.recorded } := by
  have workflow : Workflow.ofScenario second = Workflow.ofScenario first := by
    rw [Workflow.ofScenario, Workflow.ofScenario, same.workflow, same.tasks, same.task_eq]
  have subject : requested second request run = requested first request run := by
    rw [requested_eq valid found, requested_eq validToo agree.listed, agree.state, key, key,
      same.workflow]
  rw [taken, taken, workflow, subject, same.waivers]

/-- Snapshots of the same instance, taken of scenarios that agree on it or that differ in nothing
that concerns it, lead to the same decision and leave the same flags. -/
theorem decision_unaffected (accepted : raw.validated = .ok first)
    (acceptedToo : rawToo.validated = .ok second)
    (loaded : (ofScenario first request granted).result = .ok snapshot)
    (loadedToo : (ofScenario second request granted).result = .ok other)
    (same : first.SameSections second) (found : first.run? request.run = some run)
    (agree : first.AgreesOn second request run ∨
      first.DiffersElsewhere second request.task run)
    (checks : List Check) (mode : Mode) :
    ∃ target decision, snapshot.workflow.target snapshot.subject = .ok target ∧
      other.workflow.target other.subject = .ok target ∧
      let ran := fun taken : Snapshot =>
        (evaluate mode checks target taken.waivers).run History.store taken.history
      (ran snapshot).result = .ok decision ∧ (ran other).result = .ok decision ∧
        ∀ key flag, (ran snapshot).state.flag? key flag = (ran other).state.flag? key flag := by
  have valid := (Scenario.wellFormed_of_validated accepted).2
  have validToo := (Scenario.wellFormed_of_validated acceptedToo).2
  have agree : first.AgreesOn second request run := by
    rcases agree with agree | elsewhere
    · exact agree
    · exact elsewhere.agreesOn same valid validToo found
  obtain ⟨spec, held, listed, heldFound, rfl⟩ := eq_taken_of_result valid loaded
  obtain ⟨_, heldToo, -, heldFoundToo, rfl⟩ := eq_taken_of_result validToo loadedToo
  cases heldFound.symm.trans found
  cases heldFoundToo.symm.trans agree.listed
  let target : Target := ⟨requested first request run, first.task request.task spec⟩
  have about : target.IsOf first request.task spec run := Check.isOf_taken valid found
  have known : request.task ∈ first.tasks.names :=
    Table.mem_names_iff_exists_get?.mpr ⟨spec, listed⟩
  have targeted : (taken first request granted run).workflow.target
      (taken first request granted run).subject = .ok target := target_taken valid listed
  obtain ⟨decision, decided⟩ := exists_outcome_taken valid found target.task checks mode
    (first.waivers.merge granted)
  have alike : ∀ check ∈ checks,
      check.yield first.recorded target (first.waivers.merge granted) =
        check.yield second.recorded target (first.waivers.merge granted) := by
    intro check _
    exact check.yield_eq_of_agreesOn same valid validToo about agree known found
  obtain ⟨result, flags⟩ := evaluate_congr mode alike rfl
  rw [taken_congr same valid validToo found agree]
  refine ⟨target, decision, targeted, targeted, decided, result.symm.trans decided, ?_⟩
  intro key flag
  exact congrFun (congrFun flags key) flag

end Snapshot

namespace Scenario

/-- The scenario `daily` with its runs in another order, a run that comes later, and the other task
undone on Monday. -/
def revised : Scenario :=
  { daily with
    runs := [⟨"wednesday", .midnight 2, .queued⟩, ⟨"tuesday", .midnight 1, .running⟩,
      ⟨"monday", .midnight 0, .success⟩]
    instances := [⟨"load", "wednesday", unmapped, .running⟩,
      ⟨"load", "monday", unmapped, .failed⟩, ⟨"extract", "monday", unmapped, .undecided⟩] }

private theorem sameSections_revised : daily.SameSections revised := ⟨rfl, rfl, rfl, rfl⟩

theorem wellFormed_revised : revised.WellFormed where
  hasTask := wellFormed_daily.hasTask
  hasName := wellFormed_daily.hasName
  listedDependencies := wellFormed_daily.listedDependencies
  noCircle task follows := wellFormed_daily.noCircle task (sameSections_revised.follows follows)
  runNames := by decide
  runDates := by decide
  listedInstances := by decide
  instanceKeys := by decide

private theorem differsElsewhere_revised :
    daily.DiffersElsewhere revised "load" ⟨"tuesday", .midnight 1, .running⟩ where
  runs := by
    right
    refine ⟨rfl, fun other notLater => ⟨fun member => ?_, fun member => ?_⟩⟩
    · have still : ∀ run ∈ daily.runs, run ∈ revised.runs := by decide
      exact still other member
    · have before : ∀ run ∈ revised.runs, ¬ .midnight 1 < run.date → run ∈ daily.runs := by decide
      exact before other member notLater
  instances := by
    intro other member _ task counts entry
    have ofTask : task = "load" := by
      rcases counts with same | after
      · exact same
      · exact absurd (after_daily_iff.mp after).2 (by decide)
    subst ofTask
    constructor
    · intro listed
      have still : ∀ entry ∈ daily.instances, entry.task = "load" → entry ∈ revised.instances := by
        decide
      exact ⟨still entry listed.1 listed.2.1, listed.2⟩
    · intro listed
      have before : ∀ entry ∈ revised.instances, entry.task = "load" →
          ∀ run ∈ daily.runs, entry.run = run.run → entry ∈ daily.instances := by decide
      exact ⟨before entry listed.1 listed.2.1 other member listed.2.2, listed.2⟩

end Scenario

/-- What comes later, and what the other task did, changes nothing on Tuesday. -/
theorem Snapshot.decision_unaffected_revised :
    ∃ snapshot other target decision, Scenario.daily.validated = .ok .daily ∧
      Scenario.revised.validated = .ok .revised ∧
      Scenario.daily.AgreesOn .revised ⟨"load", "tuesday", unmapped⟩
        ⟨"tuesday", .midnight 1, .running⟩ ∧
      (ofScenario .daily ⟨"load", "tuesday", unmapped⟩ {}).result = .ok snapshot ∧
      (ofScenario .revised ⟨"load", "tuesday", unmapped⟩ {}).result = .ok other ∧
      snapshot.workflow.target snapshot.subject = .ok target ∧
      other.workflow.target other.subject = .ok target ∧
      ((evaluate .explain Preset.runnable.checks target snapshot.waivers).run History.store
        snapshot.history).result = .ok decision ∧
      ((evaluate .explain Preset.runnable.checks target other.waivers).run History.store
        other.history).result = .ok decision := by
  have accepted := Scenario.validated_of_wellFormed Scenario.wellFormed_daily
  have acceptedToo := Scenario.validated_of_wellFormed Scenario.wellFormed_revised
  have loaded : (ofScenario .daily ⟨"load", "tuesday", unmapped⟩ {}).result = _ :=
    result_ofScenario Scenario.wellFormed_daily rfl rfl
  have loadedToo : (ofScenario .revised ⟨"load", "tuesday", unmapped⟩ {}).result = _ :=
    result_ofScenario Scenario.wellFormed_revised rfl rfl
  have agree : Scenario.daily.AgreesOn .revised ⟨"load", "tuesday", unmapped⟩ _ :=
    Scenario.differsElsewhere_revised.agreesOn Scenario.sameSections_revised
      Scenario.wellFormed_daily Scenario.wellFormed_revised rfl
  obtain ⟨target, decision, targeted, targetedToo, decided, decidedToo, -⟩ :=
    decision_unaffected accepted acceptedToo loaded loadedToo Scenario.sameSections_revised rfl
      (.inl agree) Preset.runnable.checks .explain
  exact ⟨_, _, target, decision, accepted, acceptedToo, agree, loaded, loadedToo, targeted,
    targetedToo, decided, decidedToo⟩

end RunGate
