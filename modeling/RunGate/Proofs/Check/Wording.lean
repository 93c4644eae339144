import RunGate.Proofs.Check.Finding
import RunGate.Proofs.Check.Protocol
import RunGate.Proofs.History.Previous
import RunGate.Proofs.Text.Lines

/-! What a reason names. It breaks a line exactly if one of its names does; only the check on the previous
run names anything, and then the task and what belongs to recorded runs. -/

namespace RunGate

open Text (Unbroken)

theorem Text.unbroken_toString (number : Int) : Unbroken (toString number) := by
  have digits (count : Nat) : '\n' ∉ (Nat.repr count).toList := by
    intro member
    rw [Nat.repr, String.toList_ofList] at member
    exact absurd (Nat.isDigit_of_mem_toDigits (by decide) (by decide) member) (by decide)
  cases number with
  | ofNat count => exact digits count
  | negSucc count =>
    show Unbroken ("-" ++ Nat.repr (count + 1))
    rw [Text.unbroken_append_iff]
    exact ⟨by decide, digits _⟩

private theorem unbroken_mapIndexText (mapIndex : Int) : Unbroken (mapIndexText mapIndex) := by
  unfold mapIndexText
  split
  · rw [Text.unbroken_append_iff]
    exact ⟨.ofList (by decide), Text.unbroken_toString mapIndex⟩
  · exact .ofList (by decide)

private theorem TaskState.unbroken_name (state : TaskState) : Unbroken state.name := by
  cases state <;> exact .ofList (by decide)

private theorem RunState.unbroken_name (state : RunState) : Unbroken state.name := by
  cases state <;> exact .ofList (by decide)

def InstanceKey.names (key : InstanceKey) : List String :=
  [key.workflow, key.task, key.run]

theorem InstanceKey.unbroken_text_iff {key : InstanceKey} :
    Unbroken key.text ↔ ∀ name ∈ key.names, Unbroken name := by
  unfold text
  simp only [Text.unbroken_append_iff, names, List.forall_mem_cons]
  constructor
  · intro parts
    obtain ⟨⟨⟨⟨⟨workflow, -⟩, task⟩, -⟩, run⟩, -⟩ := parts
    exact ⟨workflow, task, run, List.forall_mem_nil _⟩
  · intro each
    obtain ⟨workflow, task, run, -⟩ := each
    exact ⟨⟨⟨⟨⟨workflow, .ofList (by decide)⟩, task⟩, .ofList (by decide)⟩, run⟩, unbroken_mapIndexText _⟩

theorem TaskInstance.unbroken_text_iff {subject : TaskInstance} :
    Unbroken subject.text ↔ ∀ name ∈ subject.key.names, Unbroken name := by
  rw [← InstanceKey.unbroken_text_iff]
  unfold text
  simp only [Text.unbroken_append_iff]
  constructor
  · intro parts
    exact parts.1.1.1.2
  · intro key
    exact ⟨⟨⟨⟨.ofList (by decide), key⟩, .ofList (by decide)⟩, subject.state.unbroken_name⟩,
      .ofList (by decide)⟩

namespace Reason

variable {subjects : List TaskInstance}

def names : Reason → List String
  | notYetRun task run => [task, run]
  | notDone subjects | downstreamNotDone subjects => subjects.flatMap (·.key.names)
  | _ => []

/-- What is said of a run without an instance of the task before the run is named. -/
def beforeRun (task : String) : String :=
  "depends_on_past is true for this task's DAG, but the previous task instance has not run " ++
    "yet (no instance of task '" ++ task ++ "' in DAG run '"

theorem text_notYetRun (task run : String) :
    (notYetRun task run).text = beforeRun task ++ run ++ "')." := rfl

private theorem unbroken_listed_iff :
    Unbroken (listed subjects) ↔ ∀ name ∈ subjects.flatMap (·.key.names), Unbroken name := by
  unfold listed
  rw [Text.unbroken_intercalate_iff (.ofList (by decide)), List.forall_mem_map]
  simp only [TaskInstance.unbroken_text_iff, List.mem_flatMap]
  constructor
  · intro all name shown
    obtain ⟨subject, member, named⟩ := shown
    exact all subject member name named
  · intro all subject member name named
    exact all name ⟨subject, member, named⟩

theorem unbroken_text_iff {reason : Reason} :
    Unbroken reason.text ↔ ∀ name ∈ reason.names, Unbroken name := by
  have nameless {text : String} (unbroken : Unbroken text) :
      Unbroken text ↔ ∀ name ∈ ([] : List String), Unbroken name :=
    iff_of_true unbroken (List.forall_mem_nil _)
  cases reason with
  | notYetRun task run =>
    rw [text_notYetRun]
    unfold beforeRun
    simp only [Text.unbroken_append_iff, names, List.forall_mem_cons]
    constructor
    · intro parts
      obtain ⟨⟨⟨⟨-, task⟩, -⟩, run⟩, -⟩ := parts
      exact ⟨task, run, List.forall_mem_nil _⟩
    · intro each
      obtain ⟨task, run, -⟩ := each
      exact ⟨⟨⟨⟨⟨.ofList (by decide), .ofList (by decide)⟩, task⟩, .ofList (by decide)⟩, run⟩,
        .ofList (by decide)⟩
  | notDone subjects =>
    exact (Text.unbroken_between_iff (by decide) (by decide)).trans unbroken_listed_iff
  | downstreamNotDone subjects =>
    exact (Text.unbroken_between_iff (by decide) (by decide)).trans unbroken_listed_iff
  | stateAllowed state =>
    exact nameless ((Text.unbroken_between_iff (by decide) (by decide)).mpr state.unbroken_name)
  | stateForbidden state =>
    exact nameless ((Text.unbroken_between_iff (by decide) (by decide)).mpr state.unbroken_name)
  | runInactive state =>
    exact nameless ((Text.unbroken_between_iff (by decide) (by decide)).mpr state.unbroken_name)
  | firstExempt =>
    exact nameless (Text.unbroken_append_iff.mpr ⟨.ofList (by decide), .ofList (by decide)⟩)
  | _ => exact nameless (.ofList (by decide))

end Reason

namespace Past

variable {history : History} {target : Target} {waivers : Waivers} {previous : Run}
  {found : Option Status} {reads : List Exchange} {status : Status} {name : String}

private theorem kind_of_readsAfter (read : ReadsAfter target previous reads found) :
    ∀ status ∈ found, status.kind = .previousRun := by
  cases read with
  | awaited =>
    split
    · rintro _ ⟨⟩
    · rintro _ ⟨⟩
      rfl
  | successful => rintro _ ⟨⟩
  | _ =>
    rintro _ ⟨⟩
    rfl

private theorem kind_of_reads (read : Reads target waivers reads found) :
    ∀ status ∈ found, status.kind = .previousRun := by
  cases read with
  | after _ _ _ _ rest => exact kind_of_readsAfter rest
  | _ =>
    rintro _ ⟨⟩
    rfl

/-- The task of the target, or what belongs to a recorded run. -/
def Nameable (history : History) (target : Target) (name : String) : Prop :=
  name = target.subject.key.task ∨
    ∃ run ∈ history.runs, name = run.workflow ∨ name = run.name

private theorem nameable_of_obstacle {task : Task} {earlier : List TaskInstance} {reason : Reason}
    (found : obstacle history task earlier = some reason) (shown : name ∈ reason.names) :
    ∃ subject ∈ earlier, name ∈ subject.key.names := by
  have among (test : TaskInstance → Bool)
      (shown : name ∈ (earlier.filter test).flatMap (·.key.names)) :
      ∃ subject ∈ earlier, name ∈ subject.key.names := by
    obtain ⟨subject, member, named⟩ := List.mem_flatMap.mp shown
    exact ⟨subject, List.mem_of_mem_filter member, named⟩
  simp only [obstacle] at found
  split at found
  · cases found
    exact among _ shown
  split at found
  · cases found
    exact among _ shown
  · cases found

private theorem nameable_of_findingAfter (recorded : previous ∈ history.runs)
    (found : findingAfter history target previous = some status)
    (shown : name ∈ status.reason.names) : Nameable history target name := by
  simp only [findingAfter] at found
  split at found
  · cases found
    cases shown
  split at found
  · split at found
    · cases found
      cases shown
    · cases found
      rcases List.mem_pair.mp shown with rfl | rfl
      · exact .inl rfl
      · exact .inr ⟨previous, recorded, .inr rfl⟩
  · obtain ⟨reason, held, rfl⟩ := Option.map_eq_some_iff.mp found
    obtain ⟨subject, member, named⟩ := nameable_of_obstacle held shown
    have within := (List.mem_filter.mp (List.mem_mergeSort.mp member)).2
    simp only [Bool.and_eq_true, beq_iff_eq] at within
    obtain ⟨⟨workflow, run⟩, task⟩ := within
    simp only [InstanceKey.names, workflow, run, task, List.mem_cons, List.not_mem_nil,
      or_false] at named
    rcases named with ofWorkflow | ofTask | ofRun
    · exact .inr ⟨previous, recorded, .inl ofWorkflow⟩
    · exact .inl ofTask
    · exact .inr ⟨previous, recorded, .inr ofRun⟩

private theorem nameable_of_finding (found : finding history target waivers = some status)
    (shown : name ∈ status.reason.names) : Nameable history target name := by
  simp only [finding] at found
  split at found
  · cases found
    cases shown
  split at found
  · cases found
    cases shown
  split at found
  · cases found
    cases shown
  split at found
  · cases found
    cases shown
  · rename_i leads
    have recorded := (History.rightBefore_of_previousRun leads).recorded
    exact nameable_of_findingAfter recorded found shown

end Past

namespace Check

variable {σ : Type} {store : Store σ} {state : σ} {history : History} {target : Target}
  {waivers : Waivers} {check : Check} {status : Status} {name : String}

/-- The status has the name of the check, and its reason names nothing unless that is the check on the
previous run. -/
structure Worded (check : Check) (status : Status) : Prop where
  kind : status.kind = check.kind
  nameless : check ≠ previousRun → status.reason.names = []

private theorem worded_stateStatus {allowed : List TaskState} (nonempty : allowed ≠ [])
    (current : TaskState) :
    (instanceState allowed nonempty).Worded (stateStatus allowed current waivers) := by
  unfold stateStatus
  split
  · exact ⟨rfl, fun _ => rfl⟩
  split <;> exact ⟨rfl, fun _ => rfl⟩

private theorem worded_notRunningStatus (current : TaskState) :
    notRunning.Worded (notRunningStatus current) := by
  unfold notRunningStatus
  split <;> exact ⟨rfl, fun _ => rfl⟩

private theorem worded_of_yields_runStatus {exchanges : List Exchange}
    (yields : (runStatus target).Yields exchanges (some status)) : runActive.Worded status := by
  obtain ⟨_, run, _, -, rest, -⟩ := Program.yields_bind.mp yields
  cases run with
  | none => exact rest.elim
  | some run =>
    dsimp only at rest
    split at rest
    · obtain ⟨_, _, _, -, ⟨-, ⟨⟩⟩, -⟩ := Program.yields_bind.mp rest
    · obtain ⟨-, ⟨⟩⟩ := rest
      exact ⟨rfl, fun _ => rfl⟩

/-- Whatever a store answers, what a check yields is worded so. -/
theorem worded_of_status
    (ended : ((check.status target waivers).run store state).result = .ok (some status)) :
    check.Worded status := by
  have yields := propagates_status.yields_of_result_eq_ok ended
  rw [status_eq] at yields
  split at yields
  · obtain ⟨-, ⟨⟩⟩ := yields
    exact ⟨rfl, fun _ => rfl⟩
  split at yields
  · obtain ⟨-, ⟨⟩⟩ := yields
    exact ⟨rfl, fun _ => rfl⟩
  cases check with
  | previousRun =>
    obtain ⟨reads, read, -⟩ := Past.yields_check yields
    exact ⟨Past.kind_of_reads read status rfl, fun other => absurd rfl other⟩
  | instanceState allowed nonempty =>
    obtain ⟨-, ⟨⟩⟩ := yields
    exact worded_stateStatus nonempty _
  | notRunning =>
    obtain ⟨-, ⟨⟩⟩ := yields
    exact worded_notRunningStatus _
  | runActive => exact worded_of_yields_runStatus yields

/-- On a history a reason names the task, or what belongs to a recorded run. -/
theorem nameable_of_status
    (ended : ((check.status target waivers).run History.store history).result = .ok (some status))
    (shown : name ∈ status.reason.names) : Past.Nameable history target name := by
  by_cases past : check = previousRun
  · subst past
    rw [Program.result_run, reading_status_previousRun] at ended
    split at ended
    · cases ended
      cases shown
    split at ended
    · cases ended
      cases shown
    · exact Past.nameable_of_finding (Except.ok.inj ended) shown
  · rw [(worded_of_status ended).nameless past] at shown
    cases shown

end Check

end RunGate
