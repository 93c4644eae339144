import RunGate.Proofs.Admission.Snapshot
import RunGate.Proofs.Check.PreviousRun
import RunGate.Proofs.CommandLine.StatusLine

/-! What the report on a decision tells. It has a line for each status as long as no name breaks a line.
Whatever the names are it tells one decision from another, if the check on the previous run is the last
that is asked, as it is in both presets. -/

namespace RunGate

open Text (Unbroken)

private theorem Mode.unbroken_label (mode : Mode) : Unbroken mode.label := by
  cases mode <;> decide

theorem Mode.label_injective {mode other : Mode} (same : mode.label = other.label) :
    mode = other := by
  revert same
  cases mode <;> cases other <;> decide

namespace Decision

variable {request : Request} {first second decision : Decision} {checks others : List Check}
  {free : CheckKind → Prop}

def names (decision : Decision) (request : Request) : List String :=
  request.task :: request.run :: decision.statuses.flatMap (·.reason.names)

/-- The report has a line for what was asked, a line for each status in order and a line for the verdict,
and there is nothing after the last line break. -/
def Lined (decision : Decision) (request : Request) : Prop :=
  Text.lines (decision.report request) =
    decision.headLine request :: decision.statuses.map statusLine ++ [decision.verdictLine] ++ [""]

/-- An evaluation with these checks comes to the decision, on some store, for some target, and under some
waivers and in some mode. -/
def ComesFrom (decision : Decision) (checks : List Check) : Prop :=
  ∃ (σ : Type) (store : Store σ) (state : σ) (target : Target) (waivers : Waivers) (mode : Mode),
    ((evaluate mode checks target waivers).run store state).result = .ok decision

private theorem unbroken_headLine_iff :
    Unbroken (decision.headLine request) ↔ Unbroken request.task ∧ Unbroken request.run := by
  unfold headLine
  simp only [Text.unbroken_append_iff]
  constructor
  · intro parts
    obtain ⟨⟨⟨⟨⟨⟨⟨-, task⟩, -⟩, run⟩, -⟩, -⟩, -⟩, -⟩ := parts
    exact ⟨task, run⟩
  · intro both
    obtain ⟨task, run⟩ := both
    exact ⟨⟨⟨⟨⟨⟨⟨.ofList (by decide), task⟩, .ofList (by decide)⟩, run⟩, .ofList (by decide)⟩,
      Text.unbroken_toString _⟩, .ofList (by decide)⟩, decision.mode.unbroken_label⟩

private theorem unbroken_verdictLine (decision : Decision) : Unbroken decision.verdictLine := by
  unfold verdictLine
  split <;> decide

/-- The report has the lines that it should have exactly if no name it shows breaks one. -/
theorem lined_iff :
    decision.Lined request ↔ ∀ name ∈ decision.names request, Unbroken name := by
  have made : decision.Lined request ↔ ∀ line ∈ decision.reportLines request, Unbroken line :=
    Text.lines_textOfLines_iff
  rw [made, reportLines, List.cons_append, List.forall_mem_cons, List.forall_mem_append,
    List.forall_mem_map, List.forall_mem_singleton, and_iff_left decision.unbroken_verdictLine,
    unbroken_headLine_iff]
  simp only [Status.unbroken_statusLine_iff, names, List.forall_mem_cons, List.forall_mem_flatMap,
    and_assoc]

private theorem toList_report (request : Request) (decision : Decision) :
    (decision.report request).toList = (decision.headLine request).toList ++
      '\n' :: (Status.linesOf decision.statuses ++ (decision.verdictLine.toList ++ ['\n'])) := by
  simp [report, reportLines, Text.toList_textOfLines, Status.linesOf]

/-- What the name of a run has between line breaks is a line of the report that shows the name. -/
private theorem mem_lines_report {task run line : String}
    (shown : Past.status (.notYetRun task run) ∈ decision.statuses) (unbroken : Unbroken line)
    (within : '\n' :: (line.toList ++ ['\n']) <:+: run.toList) :
    line ∈ Text.lines (decision.report request) := by
  let status := Past.status (.notYetRun task run)
  have named : run.toList <:+: status.reason.text.toList := by
    show run.toList <:+: (Reason.notYetRun task run).text.toList
    rw [Reason.text_notYetRun, String.toList_append, String.toList_append]
    exact ⟨_, _, rfl⟩
  have told : status.reason.text.toList <:+: (statusLine status).toList := by
    rw [Status.statusLine_eq, Status.lineOf, String.toList_append, String.toList_append]
    exact ⟨_, _, rfl⟩
  have reported : statusLine status ∈ decision.reportLines request :=
    List.mem_cons_of_mem _ (List.mem_append_left _ (List.mem_map.mpr ⟨status, shown, rfl⟩))
  exact Text.mem_lines_of_infix unbroken
    (within.trans (named.trans (told.trans (Text.infix_textOfLines reported))))

private theorem verdictLine_eq (admitted : first.admitted = second.admitted) :
    first.verdictLine = second.verdictLine := by
  unfold verdictLine
  rw [admitted]

private theorem report_eq_of_told_eq (mode : first.mode = second.mode)
    (admitted : first.admitted = second.admitted)
    (told : first.statuses.map Status.told = second.statuses.map Status.told) :
    first.report request = second.report request := by
  have head : first.headLine request = second.headLine request := by
    unfold headLine
    rw [mode]
  have lines (decision : Decision) : decision.statuses.map statusLine =
      (decision.statuses.map Status.told).map Status.lineOf := by
    rw [List.map_map]
    exact List.map_congr_left fun status _ => Status.statusLine_eq status
  unfold report reportLines
  rw [head, lines first, lines second, told, verdictLine_eq admitted]

private theorem admitted_of_suffix
    (ends : first.verdictLine.toList ++ ['\n'] <:+ second.verdictLine.toList ++ ['\n']) :
    first.admitted = second.admitted := by
  unfold verdictLine at ends
  revert ends
  cases first.admitted <;> cases second.admitted <;> decide

/-- The mode ends the first line and the verdict ends the text, so what is left between are the lines of
the statuses. -/
theorem told_eq_of_report_eq (legible : Status.Legible free first.statuses)
    (legibleToo : Status.Legible free second.statuses)
    (same : first.report request = second.report request) :
    first.mode = second.mode ∧ first.admitted = second.admitted ∧
      first.statuses.map Status.told = second.statuses.map Status.told := by
  obtain ⟨before, head⟩ : ∃ before : String, ∀ decision : Decision,
      decision.headLine request = before ++ decision.mode.label := ⟨_, fun _ => rfl⟩
  have texts := congrArg String.toList same
  rw [toList_report, toList_report, head, head, String.toList_append, String.toList_append,
    List.append_assoc, List.append_assoc] at texts
  obtain ⟨label, rest⟩ := Text.append_newline_inj first.mode.unbroken_label
    second.mode.unbroken_label (List.append_cancel_left texts)
  have admitted : first.admitted = second.admitted := by
    rcases List.suffix_or_suffix_of_suffix (List.suffix_append _ _)
      (rest ▸ List.suffix_append (Status.linesOf second.statuses) _) with ends | ends
    · exact admitted_of_suffix ends
    · exact (admitted_of_suffix ends).symm
  rw [verdictLine_eq admitted] at rest
  exact ⟨Mode.label_injective (String.toList_inj.mp label), admitted,
    Status.told_eq_of_linesOf_eq legible legibleToo (List.append_cancel_right rest)⟩

private theorem legible_of_comesFrom (comes : decision.ComesFrom checks)
    (last : .previousRun ∉ checks.dropLast) :
    Status.Legible (· = .previousRun) decision.statuses := by
  obtain ⟨_, store, _, target, waivers, _, ended⟩ := comes
  have of : decision.StatusesOf store (fun _ => True) target waivers checks :=
    statusesOf_of_evaluate (fun _ _ _ => trivial) trivial ended
  exact Status.legible_of_sublistForall₂ last of

private theorem legible_of_lined (lined : decision.Lined request) :
    Status.Legible (fun _ => False) decision.statuses := by
  refine Status.legible_of_unbroken fun status member name shown => lined_iff.mp lined name ?_
  have among : name ∈ decision.statuses.flatMap (·.reason.names) :=
    List.mem_flatMap.mpr ⟨status, member, shown⟩
  exact List.mem_cons_of_mem _ (List.mem_cons_of_mem _ among)

variable {scenario : Scenario} {run : RunEntry} {target : Target} {waivers : Waivers} {mode : Mode}

/-- On what a scenario records, a report shows no names but those of the workflow, the task and the
runs. -/
private theorem names_subset (valid : scenario.WellFormed)
    (found : scenario.run? request.run = some run) (about : target.subject.key.task = request.task)
    (decided : outcome scenario.recorded target waivers checks mode = .ok decision) :
    decision.names request ⊆
      scenario.workflow.name :: request.task :: scenario.runs.map (·.run) := by
  -- An evaluation sets flags at most, so every check meets the runs of the scenario.
  have of : decision.StatusesOf History.store (·.runs = scenario.recordedRuns) target waivers checks :=
    statusesOf_of_evaluate
      (fun _ history same => (Program.sameRecords_run _ history).runs.symm.trans same) rfl decided
  have ofRun {entry : RunEntry} (listed : entry ∈ scenario.runs) :
      entry.run ∈ scenario.workflow.name :: request.task :: scenario.runs.map (·.run) :=
    List.mem_cons_of_mem _ (List.mem_cons_of_mem _ (List.mem_map.mpr ⟨entry, listed, rfl⟩))
  have ofTask : request.task ∈ scenario.workflow.name :: request.task ::
      scenario.runs.map (·.run) := List.mem_cons_of_mem _ List.mem_cons_self
  intro name shown
  rcases List.mem_cons.mp shown with rfl | shown
  · exact ofTask
  rcases List.mem_cons.mp shown with rfl | shown
  · obtain ⟨listed, named⟩ := (Scenario.run?_eq_some_iff valid).mp found
    exact named ▸ ofRun listed
  · obtain ⟨status, member, shown⟩ := List.mem_flatMap.mp shown
    obtain ⟨check, -, history, same, ended⟩ := of.exists_finds member
    rcases Check.nameable_of_status ended shown with rfl | ⟨recorded, held, named⟩
    · exact about ▸ ofTask
    · rw [same] at held
      obtain ⟨place, entry, listed, rfl⟩ := Scenario.mem_recordedRuns.mp held
      rcases named with rfl | rfl
      · exact List.mem_cons_self
      · exact ofRun (List.mem_of_getElem? listed)

/-- What a report tells. Of a checked scenario and an accepted request, every list of checks comes to a
decision, in every mode and under all waivers. The report on it has a line for what was asked, one for
each status in order and one for the verdict exactly if none of the names it shows breaks a line, and
these are names of the workflow, the task and runs. Two reports on one request are the same exactly if
the decisions are: in mode and verdict, and in the check, the passing and the reason of every status. That
holds wherever the check on the previous run is asked last at most, as it is in the presets, and for other
checks as long as the reports have their lines. -/
theorem report_tells (request : Request) :
    (∀ (raw scenario : Scenario) (granted : Waivers) (snapshot : Snapshot),
      raw.validated = .ok scenario →
      (Snapshot.ofScenario scenario request granted).result = .ok snapshot →
      ∃ target, snapshot.workflow.target snapshot.subject = .ok target ∧
        ∀ checks mode, ∃ decision,
          outcome snapshot.history target snapshot.waivers checks mode = .ok decision ∧
          (decision.Lined request ↔ ∀ name ∈ decision.names request, Unbroken name) ∧
          decision.names request ⊆
            scenario.workflow.name :: request.task :: scenario.runs.map (·.run)) ∧
    (∀ (checks others : List Check) (first second : Decision),
      first.ComesFrom checks → second.ComesFrom others →
      (.previousRun ∉ checks.dropLast ∧ .previousRun ∉ others.dropLast ∨
        first.Lined request ∧ second.Lined request) →
      (first.report request = second.report request ↔
        first.mode = second.mode ∧ first.admitted = second.admitted ∧
          first.statuses.map Status.told = second.statuses.map Status.told)) ∧
    ∀ preset : Preset, .previousRun ∉ preset.checks.dropLast := by
  refine ⟨?_, ?_, fun preset => by cases preset <;> decide⟩
  · intro raw scenario granted snapshot accepted loaded
    have valid := (Scenario.wellFormed_of_validated accepted).2
    obtain ⟨spec, run, listed, found, rfl⟩ := Snapshot.eq_taken_of_result valid loaded
    refine ⟨_, Snapshot.target_taken valid listed, fun checks mode => ?_⟩
    obtain ⟨decision, decided⟩ := Snapshot.exists_outcome_taken valid found
      (scenario.task request.task spec) checks mode (scenario.waivers.merge granted)
    refine ⟨decision, decided, lined_iff, names_subset valid found ?_ decided⟩
    rw [Snapshot.requested_key valid, Snapshot.key]
  · intro checks others first second comes comesToo condition
    constructor
    · intro same
      rcases condition with ⟨last, lastToo⟩ | ⟨lined, linedToo⟩
      · exact told_eq_of_report_eq (legible_of_comesFrom comes last)
          (legible_of_comesFrom comesToo lastToo) same
      · exact told_eq_of_report_eq (legible_of_lined lined) (legible_of_lined linedToo) same
    · intro alike
      obtain ⟨mode, admitted, told⟩ := alike
      exact report_eq_of_told_eq mode admitted told

/-- The report on the decision of Tuesday has its lines, and in another mode it is another. -/
theorem report_tells_daily :
    ∃ snapshot target explained admission,
      Scenario.daily.validated = .ok .daily ∧
      (Snapshot.ofScenario .daily ⟨"load", "tuesday", unmapped⟩ {}).result = .ok snapshot ∧
      snapshot.workflow.target snapshot.subject = .ok target ∧
      outcome snapshot.history target snapshot.waivers Preset.runnable.checks .explain =
        .ok explained ∧
      outcome snapshot.history target snapshot.waivers Preset.runnable.checks .admission =
        .ok admission ∧
      explained.Lined ⟨"load", "tuesday", unmapped⟩ ∧
      admission.Lined ⟨"load", "tuesday", unmapped⟩ ∧
      explained.report ⟨"load", "tuesday", unmapped⟩ ≠
        admission.report ⟨"load", "tuesday", unmapped⟩ := by
  have valid := Scenario.wellFormed_daily
  have accepted := Scenario.validated_of_wellFormed valid
  have loaded : (Snapshot.ofScenario .daily ⟨"load", "tuesday", unmapped⟩ {}).result = _ :=
    Snapshot.result_ofScenario valid rfl rfl
  have unbroken : ∀ name ∈ ["etl", "load", "monday", "tuesday"], Unbroken name := by decide
  obtain ⟨decides, tellApart, last⟩ := report_tells ⟨"load", "tuesday", unmapped⟩
  obtain ⟨target, found, decided⟩ := decides .daily .daily {} _ accepted loaded
  obtain ⟨explained, explains, linedIff, shown⟩ := decided Preset.runnable.checks .explain
  obtain ⟨admission, admits, linedIffToo, shownToo⟩ := decided Preset.runnable.checks .admission
  refine ⟨_, target, explained, admission, accepted, loaded, found, explains, admits,
    linedIff.mpr fun name member => unbroken name (shown member),
    linedIffToo.mpr fun name member => unbroken name (shownToo member), fun same => ?_⟩
  obtain ⟨mode, -⟩ := (tellApart _ _ explained admission ⟨_, _, _, _, _, _, explains⟩
    ⟨_, _, _, _, _, _, admits⟩ (.inl ⟨last .runnable, last .runnable⟩)).mp same
  rw [(settled_of_outcome explains).2, (settled_of_outcome admits).2] at mode
  cases mode

end Decision

namespace Scenario

/-- A task that depends on the past, in a run that goes on after one of that name. Nothing is recorded of
either. -/
def afterRun (name : String) : Scenario :=
  (named "etl").withTask "load" { dependsOnPast := true }
    |>.withRun name (.midnight 0) .success
    |>.withRun "monday" (.midnight 1) .running

variable {name : String}

private theorem not_after_afterRun {task dependency : String} :
    ¬(afterRun name).After task dependency := by
  intro listed
  obtain ⟨spec, member, named⟩ := listed
  obtain ⟨-, rfl⟩ := Prod.mk.inj (List.mem_singleton.mp member)
  cases named

theorem wellFormed_afterRun (other : name ≠ "monday") : (afterRun name).WellFormed where
  hasTask := List.cons_ne_nil _ _
  hasName := ⟨'e', (by decide : 'e' ∈ "etl".toList), by decide⟩
  listedDependencies _ _ listed := absurd listed not_after_afterRun
  noCircle task follows := by
    cases follows with
    | step listed => exact not_after_afterRun listed
    | further listed => exact not_after_afterRun listed
  runNames := by
    show [name, "monday"].Nodup
    simpa using other
  runDates := by
    show [Instant.midnight 0, .midnight 1].Nodup
    decide
  listedInstances := nofun
  instanceKeys := .nil

private theorem run?_afterRun (other : name ≠ "monday") :
    (afterRun name).run? "monday" = some ⟨"monday", .midnight 1, .running⟩ :=
  (run?_eq_some_iff (wellFormed_afterRun other)).mpr
    ⟨List.mem_cons_of_mem _ List.mem_cons_self, rfl⟩

def mondayOf (name : String) : Target :=
  ⟨Snapshot.requested (afterRun name) ⟨"load", "monday", unmapped⟩ ⟨"monday", .midnight 1, .running⟩,
    (afterRun name).task "load" { dependsOnPast := true }⟩

private theorem finding_afterRun (other : name ≠ "monday") :
    Past.finding (afterRun name).recorded (mondayOf name) {} =
      some (Past.status (.notYetRun "load" name)) := by
  have valid := wellFormed_afterRun other
  have about : (mondayOf name).IsOf (afterRun name) "load" { dependsOnPast := true }
      ⟨"monday", .midnight 1, .running⟩ := Check.isOf_taken valid (run?_afterRun other)
  have held : (afterRun name).runs[1]? = some ⟨"monday", .midnight 1, .running⟩ := rfl
  have previous : (afterRun name).recorded.previousRun
      (recordedRun (afterRun name).workflow.name 2 ⟨"monday", .midnight 1, .running⟩)
      (afterRun name).workflow.catchup =
        some (recordedRun (afterRun name).workflow.name 1 ⟨name, .midnight 0, .success⟩) := rfl
  have unlisted : Past.byMapIndex
      ((afterRun name).recorded.instancesOf (afterRun name).workflow.name name "load") = [] :=
    Past.byMapIndex_eq_nil_iff.mpr rfl
  have late : Past.tooEarly ((afterRun name).task "load" { dependsOnPast := true })
      (recordedRun (afterRun name).workflow.name 1 ⟨name, .midnight 0, .success⟩) = false := rfl
  have strict : Past.isFirst (afterRun name).recorded (mondayOf name) = false := rfl
  rw [Past.finding_recorded valid about held rfl rfl, previous, Option.elim_some,
    Past.findingAfter_recordedRun about]
  simp only [unlisted, late, strict, Bool.false_eq_true, ↓reduceIte]

private theorem yield_afterRun (other : name ≠ "monday") :
    Check.previousRun.yield (afterRun name).recorded (mondayOf name) {} =
      .ok (some (Past.status (.notYetRun "load" name))) := by
  rw [Check.yield, Check.reading_status_previousRun, finding_afterRun other]
  rfl

private theorem outcome_afterRun (other : name ≠ "monday") :
    outcome (afterRun name).recorded (mondayOf name) {} Preset.runnable.checks .explain =
      .ok ⟨false, .explain, [⟨.instanceState, .stateAllowed .undecided⟩, ⟨.notRunning, .idle⟩,
        Past.status (.notYetRun "load" name)]⟩ := by
  have known : (afterRun name).recorded.run? (mondayOf name).subject.key.workflow
      (mondayOf name).subject.key.run =
        some (recordedRun "etl" 2 ⟨"monday", .midnight 1, .running⟩) :=
    (run?_recorded_eq_some_iff (wellFormed_afterRun other)).mpr
      ⟨mem_recordedRuns_of_getElem? (rfl : (afterRun name).runs[1]? = _), rfl⟩
  have active : Check.runActive.yield (afterRun name).recorded (mondayOf name) {} = .ok none := by
    rw [Check.yield, Check.status_eq]
    show (Check.runStatus (mondayOf name)).reading (afterRun name).recorded = _
    rw [Check.reading_runStatus, known]
    rfl
  have state : (Check.instanceState TaskState.runnable).yield (afterRun name).recorded
      (mondayOf name) {} = .ok (some ⟨.instanceState, .stateAllowed .undecided⟩) := rfl
  have idle : Check.notRunning.yield (afterRun name).recorded (mondayOf name) {} =
      .ok (some ⟨.notRunning, .idle⟩) := rfl
  simp only [outcome_exhaustive (by decide : Mode.explain ≠ .admission), Preset.checks, everyStatus,
    active, state, idle, yield_afterRun other, ok_bind]
  rfl

private theorem everyStatus_replicate (other : name ≠ "monday") (times : Nat) :
    everyStatus (afterRun name).recorded (mondayOf name) {} (List.replicate times .previousRun) =
      .ok (List.replicate times (Past.status (.notYetRun "load" name))) := by
  induction times with
  | zero => rfl
  | succ times ih =>
    rw [List.replicate_succ, List.replicate_succ, everyStatus, yield_afterRun other, ok_bind, ih]
    rfl

private theorem loaded_afterRun (other : name ≠ "monday") :
    (Snapshot.ofScenario (afterRun name) ⟨"load", "monday", unmapped⟩ {}).result =
      .ok (.taken (afterRun name) ⟨"load", "monday", unmapped⟩ {}
        ⟨"monday", .midnight 1, .running⟩) :=
  Snapshot.result_ofScenario (wellFormed_afterRun other) rfl (run?_afterRun other)

end Scenario

/-- The name of a run, with a line break in it and all that a second status would say of the run. -/
def Reason.doubled (task run : String) : String :=
  run ++ "')." ++ " (ignorable)" ++ "\n" ++ Status.heading .previousRun false ++ beforeRun task ++
    run

/-- One status with such a name has the lines of two without. -/
private theorem Status.linesOf_doubled (task run : String) :
    linesOf [Past.status (.notYetRun task (Reason.doubled task run))] =
      linesOf [Past.status (.notYetRun task run), Past.status (.notYetRun task run)] := by
  have newline : "\n".toList = ['\n'] := rfl
  have cons (name : String) (rest : List Status) :
      linesOf (Past.status (.notYetRun task name) :: rest) =
        (heading .previousRun false).toList ++
          ((Reason.beforeRun task ++ name ++ "')." ++ " (ignorable)").toList ++
            '\n' :: linesOf rest) := linesOf_cons _ rest
  simp only [cons, Reason.doubled, String.toList_append, newline, List.append_assoc,
    List.cons_append, List.nil_append]

namespace Decision

/-- A name with line breaks adds a line that admits to the report on a decision that denies. And where the
check on the previous run may be asked twice, such a name makes one status read as two. -/
theorem report_misread :
    let request : Request := ⟨"load", "monday", unmapped⟩
    let forged : String := "sunday\ndecision: ADMITTED\n"
    (∃ snapshot target decision,
      (Scenario.afterRun forged).validated = .ok (.afterRun forged) ∧
      (Snapshot.ofScenario (.afterRun forged) request {}).result = .ok snapshot ∧
      snapshot.workflow.target snapshot.subject = .ok target ∧
      outcome snapshot.history target snapshot.waivers Preset.runnable.checks .explain =
        .ok decision ∧
      decision.admitted = false ∧ ¬decision.Lined request ∧
      "decision: ADMITTED" ∈ Text.lines (decision.report request)) ∧
    ∃ first second : Decision, first.ComesFrom [.previousRun] ∧
      second.ComesFrom [.previousRun, .previousRun] ∧
      first.statuses.length ≠ second.statuses.length ∧
      first.report request = second.report request := by
  intro request forged
  have other : forged ≠ "monday" := by decide
  have doubled : Reason.doubled "load" "sunday" ≠ "monday" := by
    intro same
    have first := congrArg (·.toList.head?) same
    simp [Reason.doubled] at first
  have valid := Scenario.wellFormed_afterRun other
  have decided := Scenario.outcome_afterRun other
  constructor
  · have last : Past.status (.notYetRun "load" forged) ∈ [⟨.instanceState, .stateAllowed .undecided⟩,
        ⟨.notRunning, .idle⟩, Past.status (.notYetRun "load" forged)] := by decide
    have within : '\n' :: ("decision: ADMITTED".toList ++ ['\n']) <:+: forged.toList :=
      ⟨"sunday".toList, [], by decide⟩
    refine ⟨_, _, _, Scenario.validated_of_wellFormed valid, Scenario.loaded_afterRun other,
      Snapshot.target_taken valid rfl, decided, rfl, fun lined => ?_,
      mem_lines_report last (by decide) within⟩
    have unbroken : Unbroken forged := lined_iff.mp lined forged (by decide)
    exact absurd unbroken (by decide)
  · -- Asked once after a run of the doubled name, and twice after a run of the plain one.
    have once := Scenario.everyStatus_replicate doubled 1
    have twice := Scenario.everyStatus_replicate (by decide : "sunday" ≠ "monday") 2
    refine ⟨_, _,
      ⟨_, _, _, _, _, .explain, (outcome_exhaustive (by decide)).trans (congrArg _ once)⟩,
      ⟨_, _, _, _, _, .explain, (outcome_exhaustive (by decide)).trans (congrArg _ twice)⟩,
      by decide, String.toList_inj.mp ?_⟩
    rw [toList_report, toList_report]
    show _ ++ '\n' :: (Status.linesOf [_] ++ _) = _ ++ '\n' :: (Status.linesOf [_, _] ++ _)
    rw [Status.linesOf_doubled]
    rfl

end Decision

end RunGate
