import RunGate.Proofs.Admission.Contents
import RunGate.Proofs.Check.Wording

namespace RunGate

open Text (Unbroken)

namespace Status

variable {kind other : CheckKind} {passed verdict : Bool} {rest later : List Char}
  {status another : Status} {statuses others : List Status} {free : CheckKind → Prop}

def heading (kind : CheckKind) (passed : Bool) : String :=
  "  " ++ ("[" ++ (if passed then "PASS" else "FAIL") ++ "] " ++ kind.label ++ ": ")

def remark (kind : CheckKind) (passed : Bool) : String :=
  if !passed && kind.waivable then " (ignorable)" else ""

/-- What the line of a status tells: the check, whether it passes, and the reason. -/
def told (status : Status) : CheckKind × Bool × String :=
  (status.kind, status.passed, status.reason.text)

private theorem unbroken_heading (kind : CheckKind) (passed : Bool) : Unbroken
    (heading kind passed) := by
  cases kind <;> cases passed <;> decide

private theorem unbroken_remark (kind : CheckKind) (passed : Bool) : Unbroken
    (remark kind passed) := by
  cases kind <;> cases passed <;> decide

def lineOf (told : CheckKind × Bool × String) : String :=
  heading told.1 told.2.1 ++ told.2.2 ++ remark told.1 told.2.1

theorem statusLine_eq (status : Status) : Decision.statusLine status = lineOf status.told := by
  simp only [Decision.statusLine, text, lineOf, told, heading, remark, waivable,
    String.append_assoc]
  rfl

theorem unbroken_statusLine_iff : Unbroken (Decision.statusLine status) ↔
    ∀ name ∈ status.reason.names, Unbroken name := by
  rw [← Reason.unbroken_text_iff]
  simp [statusLine_eq, lineOf, told, unbroken_heading, unbroken_remark]

private theorem heading_prefix
    (begins : (heading kind passed).toList <+: (heading other verdict).toList) :
    kind = other ∧ passed = verdict := by
  revert begins
  cases kind <;> cases other <;> cases passed <;> cases verdict <;> decide

private theorem heading_append_inj
    (same : (heading kind passed).toList ++ rest = (heading other verdict).toList ++ later) :
    kind = other ∧ passed = verdict ∧ rest = later := by
  have alike : kind = other ∧ passed = verdict := by
    rcases List.prefix_or_prefix_of_prefix (List.prefix_append _ rest)
      (same ▸ List.prefix_append (heading other verdict).toList later) with first | second
    · exact heading_prefix first
    · obtain ⟨rfl, rfl⟩ := heading_prefix second
      exact ⟨rfl, rfl⟩
  obtain ⟨rfl, rfl⟩ := alike
  exact ⟨rfl, rfl, List.append_cancel_left same⟩

def linesOf (statuses : List Status) : List Char :=
  (textOfLines (statuses.map Decision.statusLine)).toList

theorem linesOf_cons (status : Status) (statuses : List Status) :
    linesOf (status :: statuses) = (heading status.kind status.passed).toList ++
      ((status.reason.text ++ remark status.kind status.passed).toList ++
        '\n' :: linesOf statuses) := by
  simp [linesOf, Text.toList_textOfLines, statusLine_eq, lineOf, told]

private theorem linesOf_cons_inj
    (same : linesOf (status :: statuses) = linesOf (another :: others)) :
    status.kind = another.kind ∧ status.passed = another.passed ∧
      (status.reason.text ++ remark status.kind status.passed).toList ++ '\n' :: linesOf statuses =
        (another.reason.text ++ remark status.kind status.passed).toList ++
          '\n' :: linesOf others := by
  rw [linesOf_cons, linesOf_cons] at same
  obtain ⟨kind, passed, rest⟩ := heading_append_inj same
  rw [← kind, ← passed] at rest
  exact ⟨kind, passed, rest⟩

private theorem told_eq_of_text_eq (kind : status.kind = another.kind)
    (passed : status.passed = another.passed)
    (same : (status.reason.text ++ remark status.kind status.passed).toList =
      (another.reason.text ++ remark status.kind status.passed).toList) :
    status.told = another.told := by
  rw [String.toList_append, String.toList_append] at same
  have text := String.toList_inj.mp (List.append_cancel_right same)
  rw [told, told, kind, passed, text]

/-- Statuses whose lines can be told from one another: only the last of them may be of a kind that leaves
the reason free, and the others have reasons on one line. -/
inductive Legible (free : CheckKind → Prop) : List Status → Prop
  | nil : Legible free []
  | last {status : Status} (isFree : free status.kind) : Legible free [status]
  | cons {status : Status} {rest : List Status} (closed : ¬free status.kind)
      (unbroken : Unbroken status.reason.text) (later : Legible free rest) :
      Legible free (status :: rest)

/-- A heading shows where a line is of a kind that leaves the reason free, so that it is the last in both,
and the line breaks show where the other lines end. -/
theorem told_eq_of_linesOf_eq (legible : Legible free statuses) (legibleToo : Legible free others)
    (same : linesOf statuses = linesOf others) : statuses.map told = others.map told := by
  have filled (status : Status) (rest : List Status) : linesOf (status :: rest) ≠ [] := by
    simp [linesOf_cons]
  induction legible generalizing others with
  | nil =>
    cases legibleToo with
    | nil => rfl
    | last => exact absurd same.symm (filled _ _)
    | cons => exact absurd same.symm (filled _ _)
  | last isFree =>
    cases legibleToo with
    | nil => exact absurd same (filled _ _)
    | last =>
      obtain ⟨kind, passed, rest⟩ := linesOf_cons_inj same
      rw [List.map_singleton, List.map_singleton,
        told_eq_of_text_eq kind passed (List.append_cancel_right rest)]
    | cons closed =>
      -- The headings are the same, so a free reason here is not on one line there.
      obtain ⟨kind, -⟩ := linesOf_cons_inj same
      exact absurd (kind ▸ isFree) closed
  | @cons status statuses closed unbroken _ ih =>
    cases legibleToo with
    | nil => exact absurd same (filled _ _)
    | last isFree =>
      obtain ⟨kind, -⟩ := linesOf_cons_inj same
      exact absurd (kind ▸ isFree) closed
    | @cons another others _ unbrokenToo later =>
      obtain ⟨kind, passed, rest⟩ := linesOf_cons_inj same
      have remarked {reason : String} (unbroken : Unbroken reason) :
          Unbroken (reason ++ remark status.kind status.passed) :=
        Text.unbroken_append_iff.mpr ⟨unbroken, unbroken_remark _ _⟩
      obtain ⟨text, lines⟩ :=
        Text.append_newline_inj (remarked unbroken) (remarked unbrokenToo) rest
      rw [List.map_cons, List.map_cons, told_eq_of_text_eq kind passed text, ih later lines]

variable {σ : Type} {store : Store σ} {holds : σ → Prop} {target : Target} {waivers : Waivers}
  {checks : List Check}

private theorem legible_cons_of_ne {check : Check} (other : check ≠ .previousRun)
    (finds : check.Finds store holds target waivers status)
    (later : Legible (· = .previousRun) statuses) :
    Legible (· = .previousRun) (status :: statuses) := by
  obtain ⟨_, -, ended⟩ := finds
  obtain ⟨kind, nameless⟩ := Check.worded_of_status ended
  refine .cons (fun past => other ?_) (Reason.unbroken_text_iff.mpr ?_) later
  · cases check <;> cases kind.symm.trans past
    rfl
  · rw [nameless other]
    exact List.forall_mem_nil _

/-- The check on the previous run is the only one that leaves a reason free. -/
theorem legible_of_sublistForall₂ (last : .previousRun ∉ checks.dropLast)
    (follow : List.SublistForall₂ (Check.Finds store holds target waivers) statuses checks) :
    Legible (· = .previousRun) statuses := by
  have notLast {check : Check} {checks : List Check} (last : .previousRun ∉ (check :: checks).dropLast) :
      .previousRun ∉ checks.dropLast := by
    cases checks with
    | nil => exact List.not_mem_nil
    | cons next rest => exact fun member => last (List.mem_cons_of_mem check member)
  induction follow with
  | nil => exact .nil
  | cons_right _ ih => exact ih (notLast last)
  | @cons status check statuses checks finds follow ih =>
    by_cases past : check = .previousRun
    · cases checks with
      | nil =>
        cases follow
        obtain ⟨_, -, ended⟩ := finds
        rw [past] at ended
        exact .last (Check.worded_of_status ended).kind
      | cons next rest => exact absurd (past ▸ List.mem_cons_self) last
    · exact legible_cons_of_ne past finds (ih (notLast last))

theorem legible_of_unbroken
    (all : ∀ status ∈ statuses, ∀ name ∈ status.reason.names, Unbroken name) :
    Legible (fun _ => False) statuses := by
  induction statuses with
  | nil => exact .nil
  | cons status rest ih =>
    obtain ⟨here, later⟩ := List.forall_mem_cons.mp all
    exact .cons id (Reason.unbroken_text_iff.mpr here) (ih later)

end Status

end RunGate
