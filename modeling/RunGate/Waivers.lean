namespace RunGate

/-- Flags of one evaluation. Every check reads only those that concern it. -/
structure Waivers where
  ignoreAllChecks : Bool := false
  /-- Pass the check on the previous run without looking at history. -/
  ignorePast : Bool := false
  /-- Waive the checks on the task's own dependencies. -/
  ignoreTaskChecks : Bool := false
  ignoreState : Bool := false
  /-- Record in the history that the check on the previous run passed. -/
  recordPast : Bool := false
deriving DecidableEq, Inhabited

namespace Waivers

/-- The flags set in either. -/
def merge (first second : Waivers) : Waivers where
  ignoreAllChecks := first.ignoreAllChecks || second.ignoreAllChecks
  ignorePast := first.ignorePast || second.ignorePast
  ignoreTaskChecks := first.ignoreTaskChecks || second.ignoreTaskChecks
  ignoreState := first.ignoreState || second.ignoreState
  recordPast := first.recordPast || second.recordPast

/-- Each flag under the name scenarios give it. -/
def flags (waivers : Waivers) : List (String × Bool) :=
  [("ignore_all_deps", waivers.ignoreAllChecks),
    ("ignore_depends_on_past", waivers.ignorePast),
    ("ignore_task_deps", waivers.ignoreTaskChecks),
    ("ignore_ti_state", waivers.ignoreState),
    ("wait_for_past_depends_before_skipping", waivers.recordPast)]

/-- Every flag set in the first is set in the second. -/
def Within (first second : Waivers) : Prop :=
  (first.ignoreAllChecks → second.ignoreAllChecks) ∧ (first.ignorePast → second.ignorePast) ∧
    (first.ignoreTaskChecks → second.ignoreTaskChecks) ∧
    (first.ignoreState → second.ignoreState) ∧ (first.recordPast → second.recordPast)

theorem within_merge (first second : Waivers) : first.Within (first.merge second) := by
  simp only [Within, merge, Bool.or_eq_true]
  exact ⟨.inl, .inl, .inl, .inl, .inl⟩

theorem Within.merge {fewer more : Waivers} (within : fewer.Within more) (first : Waivers) :
    (first.merge fewer).Within (first.merge more) := by
  obtain ⟨all, past, task, state, record⟩ := within
  simp only [Within, Waivers.merge, Bool.or_eq_true]
  exact ⟨.imp_right all, .imp_right past, .imp_right task, .imp_right state, .imp_right record⟩

end Waivers

end RunGate
