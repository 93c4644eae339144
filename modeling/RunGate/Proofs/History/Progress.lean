import Mathlib.Data.List.Forall2
import RunGate.History.Change
import RunGate.Proofs.History.Reading

/-! Histories that differ in the states of instances alone, what is done in the first being done in the
second. Setting states leads from one to the other, forwards or backwards. -/

namespace RunGate

/-- The same instance, and done if it was done before. -/
structure TaskInstance.Advances (first second : TaskInstance) : Prop where
  key : first.key = second.key
  date : first.date = second.date
  done : first.state.done = true → second.state.done = true

namespace TaskInstance

theorem Advances.refl (subject : TaskInstance) : subject.Advances subject := ⟨rfl, rfl, id⟩

theorem Advances.trans {first second third : TaskInstance} (left : first.Advances second)
    (right : second.Advances third) : first.Advances third :=
  ⟨left.key.trans right.key, left.date.trans right.date, right.done ∘ left.done⟩

private theorem forall₂_advances_trans {first second third : List TaskInstance}
    (left : List.Forall₂ Advances first second) (right : List.Forall₂ Advances second third) :
    List.Forall₂ Advances first third := by
  induction left generalizing third with
  | nil => exact right
  | cons head _ ih =>
    cases right with
    | cons next rest => exact .cons (head.trans next) (ih rest)

/-- What an instance holds is carried over to those that take the places of others. -/
theorem forall_mem_of_advances {first second : List TaskInstance} {before after : TaskInstance → Prop}
    (advances : List.Forall₂ Advances first second)
    (carries : ∀ one other : TaskInstance, one.Advances other → before one → after other)
    (all : ∀ subject ∈ first, before subject) : ∀ subject ∈ second, after subject := by
  induction advances with
  | nil => exact nofun
  | cons head _ ih =>
    obtain ⟨own, others⟩ := List.forall_mem_cons.mp all
    exact List.forall_mem_cons.mpr ⟨carries _ _ head own, ih others⟩

theorem done_of_advances {first second : List TaskInstance}
    (advances : List.Forall₂ Advances first second)
    (done : ∀ subject ∈ first, subject.state.done = true) :
    ∀ subject ∈ second, subject.state.done = true :=
  forall_mem_of_advances advances (fun _ _ same => same.done) done

end TaskInstance

namespace History

/-- The same runs, and the same instances but for their states. What is done stays done. -/
structure Advances (first second : History) : Prop where
  runs : first.runs = second.runs
  instances : List.Forall₂ TaskInstance.Advances first.allInstances second.allInstances

variable {first second third history : History} {workflow run task : String}
  {key : InstanceKey} {subject changed : TaskInstance} {state : TaskState}
  {entries : List (InstanceKey × TaskInstance)} {settings : List (InstanceKey × TaskState)}

theorem SameRecords.advances (same : first.SameRecords second) : first.Advances second where
  runs := same.runs
  instances := by
    rw [allInstances, allInstances, same.instances]
    exact List.forall₂_same.mpr fun subject _ => .refl subject

theorem Advances.trans (left : first.Advances second) (right : second.Advances third) :
    first.Advances third where
  runs := left.runs.trans right.runs
  instances := TaskInstance.forall₂_advances_trans left.instances right.instances

theorem Advances.instancesOf (advances : first.Advances second) (workflow run task : String) :
    List.Forall₂ TaskInstance.Advances (first.instancesOf workflow run task)
      (second.instancesOf workflow run task) := by
  refine List.rel_filter ?_ advances.instances
  intro one other same
  simp only [same.key]

theorem Advances.instancesOf_eq_nil_iff (advances : first.Advances second) :
    first.instancesOf workflow run task = [] ↔ second.instancesOf workflow run task = [] := by
  rw [← List.length_eq_zero_iff, (advances.instancesOf workflow run task).length_eq,
    List.length_eq_zero_iff]

theorem Advances.countPrior_eq (advances : first.Advances second) (workflow task : String)
    (before : Instant) :
    first.countPrior workflow task before = second.countPrior workflow task before := by
  rw [countPrior, countPrior, List.countP_eq_length_filter, List.countP_eq_length_filter]
  refine (List.rel_filter ?_ advances.instances).length_eq
  intro one other same
  simp only [same.key, same.date]

theorem Advances.downstreamDone (advances : first.Advances second) (same : subject.Advances changed)
    {downstream : List String} (done : first.downstreamDone subject downstream = true) :
    second.downstreamDone changed downstream = true := by
  simp only [History.downstreamDone, ← same.key, List.all_eq_true, Bool.and_eq_true,
    Bool.not_eq_true', List.isEmpty_eq_false_iff] at done ⊢
  intro task later
  obtain ⟨present, all⟩ := done task later
  exact ⟨mt advances.instancesOf_eq_nil_iff.mpr present,
    TaskInstance.done_of_advances (advances.instancesOf ..) all⟩

private theorem forall₂_place {related : TaskInstance → TaskInstance → Prop}
    (refl : ∀ subject, related subject subject) (found : entries.lookup key = some subject)
    (moves : related subject changed) :
    List.Forall₂ related (entries.map (·.2)) ((place key changed entries).map (·.2)) := by
  induction entries with
  | nil => cases found
  | cons entry rest ih =>
    have unmoved : List.Forall₂ related (rest.map (·.2)) (rest.map (·.2)) :=
      List.forall₂_same.mpr fun subject _ => refl subject
    rw [List.lookup_cons] at found
    by_cases same : entry.1 = key
    · simp only [same, beq_self_eq_true, Option.some.injEq] at found
      subst found
      rw [place, if_pos same]
      exact .cons moves unmoved
    · simp only [beq_eq_false_iff_ne.mpr (Ne.symm same)] at found
      rw [place, if_neg same]
      exact .cons (refl _) (ih found)

private theorem change_setState_cases (history : History) (key : InstanceKey) (state : TaskState) :
    (history.change (.setState key state)).2 = history ∨ ∃ subject,
      history.instance? key = some subject ∧ (history.change (.setState key state)).2 =
        { history with instances := place key { subject with state } history.instances } := by
  rw [change, setState]
  cases found : history.instance? key with
  | none => exact .inl rfl
  | some subject => exact .inr ⟨subject, rfl, rfl⟩

private theorem advances_setState (history : History) (key : InstanceKey)
    (done : state.done = true) :
    history.Advances (history.change (.setState key state)).2 := by
  rcases history.change_setState_cases key state with same | ⟨subject, found, same⟩
  · rw [same]
    exact (SameRecords.refl history).advances
  · rw [same]
    exact ⟨rfl, forall₂_place .refl found ⟨rfl, rfl, fun _ => done⟩⟩

private theorem setState_advances (history : History) (key : InstanceKey)
    (pending : state.done = false) : (history.change (.setState key state)).2.Advances history := by
  rcases history.change_setState_cases key state with same | ⟨subject, found, same⟩
  · rw [same]
    exact (SameRecords.refl history).advances
  · rw [same]
    refine ⟨rfl, List.Forall₂.flip (forall₂_place .refl found ⟨rfl, rfl, fun done => ?_⟩)⟩
    rw [pending] at done
    cases done

/-- The history after states have been set one after another; where there is no such instance, nothing
is changed. -/
def afterSetting (history : History) (settings : List (InstanceKey × TaskState)) : History :=
  history.afterChanges (settings.map fun setting => .setState setting.1 setting.2)

theorem advances_afterSetting (done : ∀ setting ∈ settings, setting.2.done = true) :
    history.Advances (history.afterSetting settings) := by
  induction settings generalizing history with
  | nil => exact (SameRecords.refl history).advances
  | cons setting rest ih =>
    obtain ⟨first, later⟩ := List.forall_mem_cons.mp done
    exact (history.advances_setState setting.1 first).trans (ih later)

theorem afterSetting_advances (pending : ∀ setting ∈ settings, setting.2.done = false) :
    (history.afterSetting settings).Advances history := by
  induction settings generalizing history with
  | nil => exact (SameRecords.refl history).advances
  | cons setting rest ih =>
    obtain ⟨first, later⟩ := List.forall_mem_cons.mp pending
    exact (ih later).trans (history.setState_advances setting.1 first)

end History

end RunGate
