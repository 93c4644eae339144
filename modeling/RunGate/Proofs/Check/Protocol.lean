import RunGate.Proofs.Check.Statuses
import RunGate.Proofs.History.Exchange

/-! What the check on the previous run asks of a store, and in what order, whatever the store
answers. It reads in one fixed order, each question built from the answers before it, and the flag
that it passed is recorded last or not at all. -/

namespace RunGate

namespace Past

variable {target : Target} {waivers : Waivers} {previous : Run} {exchanges reads : List Exchange}
  {found : Option Status}

/-- The same instances in ascending order of their map indexes. -/
structure Ordered (found earlier : List TaskInstance) : Prop where
  same : earlier.Perm found
  ascending : earlier.Pairwise fun first second => first.key.mapIndex ≤ second.key.mapIndex

/-- What is read once the previous run is known, and what is found. -/
inductive ReadsAfter (target : Target) (previous : Run) : List Exchange → Option Status → Prop
  | tooEarly (early : tooEarly target.task previous = true) :
      ReadsAfter target previous [] (some (status .noPast))
  | absent (late : Past.tooEarly target.task previous = false)
      (strict : target.task.ignoreFirst = false) :
      ReadsAfter target previous [.given (.instances previous target.subject.key.task) []]
        (some (status (.notYetRun target.subject.key.task previous.name)))
  | counted (late : Past.tooEarly target.task previous = false)
      (lenient : target.task.ignoreFirst = true) (prior : Nat) :
      ReadsAfter target previous
        [.given (.instances previous target.subject.key.task) [],
          .given (.countPrior target.subject.key.workflow target.subject.key.task
            target.subject.date) prior]
        (some (status (if prior = 0 then .firstExempt
          else .notYetRun target.subject.key.task previous.name)))
  | unsuccessful {given earlier : List TaskInstance}
      (late : Past.tooEarly target.task previous = false) (ordered : Ordered given earlier)
      (pending : (earlier.filter fun subject => !subject.state.done) ≠ []) :
      ReadsAfter target previous [.given (.instances previous target.subject.key.task) given]
        (some (status (.notDone (earlier.filter fun subject => !subject.state.done))))
  | successful {given : List TaskInstance} (late : Past.tooEarly target.task previous = false)
      (present : given ≠ []) (done : ∀ subject ∈ given, subject.state.done = true)
      (alone : target.task.waitForDownstream = false) :
      ReadsAfter target previous [.given (.instances previous target.subject.key.task) given] none
  | awaited {given : List TaskInstance} {answers : List (TaskInstance × Bool)}
      (late : Past.tooEarly target.task previous = false)
      (present : given ≠ []) (done : ∀ subject ∈ given, subject.state.done = true)
      (waits : target.task.waitForDownstream = true)
      (ordered : Ordered given (answers.map (·.1))) :
      ReadsAfter target previous
        (.given (.instances previous target.subject.key.task) given ::
          answers.map fun answer =>
            .given (.downstreamDone answer.1 target.task.downstream) answer.2)
        (if answers.all (·.2) then none
          else some (status (.downstreamNotDone ((answers.filter (!·.2)).map (·.1)))))

/-- What is read, with the answers, and what is found on them. -/
inductive Reads (target : Target) (waivers : Waivers) : List Exchange → Option Status → Prop
  | waived (set : waivers.ignorePast = true) : Reads target waivers [] (some (status .pastWaived))
  | independent (unset : waivers.ignorePast = false)
      (alone : target.task.dependsOnPast = false) :
      Reads target waivers [] (some (status .independentOfPast))
  | runUnknown (unset : waivers.ignorePast = false)
      (dependent : target.task.dependsOnPast = true) :
      Reads target waivers
        [.given (.run target.subject.key.workflow target.subject.key.run) none]
        (some (status .runUnknown))
  | first (unset : waivers.ignorePast = false) (dependent : target.task.dependsOnPast = true)
      (run : Run) :
      Reads target waivers
        [.given (.run target.subject.key.workflow target.subject.key.run) (some run),
          .given (.previousRun run target.task.catchup) none]
        (some (status .noPast))
  | after (unset : waivers.ignorePast = false) (dependent : target.task.dependsOnPast = true)
      (run previous : Run) {reads : List Exchange} {found : Option Status}
      (rest : ReadsAfter target previous reads found) :
      Reads target waivers
        (.given (.run target.subject.key.workflow target.subject.key.run) (some run) ::
          .given (.previousRun run target.task.catchup) (some previous) :: reads)
        found

/-- What follows the reads: the flag is recorded if nothing found fails and the waivers ask for
it. -/
def closing (target : Target) (waivers : Waivers) (found : Option Status) : List Exchange :=
  if waivers.recordPast && found.all (·.passed) then
    [.given (.recordFlag target.subject.key metFlag true) ()]
  else []

private theorem yields_recordMet {ended : Unit} :
    (recordMet target waivers).Yields exchanges ended ↔ exchanges =
      if waivers.recordPast then [.given (.recordFlag target.subject.key metFlag true) ()]
      else [] := by
  unfold recordMet
  cases waivers.recordPast with
  | false => simp
  | true => exact Program.yields_ask

private theorem yields_pass {reason : Reason} (passes : reason.passes = true)
    (yields : (pass target waivers reason).Yields exchanges found) :
    exchanges = closing target waivers found ∧ found = some (status reason) := by
  obtain ⟨first, ended, _, recorded, ⟨rfl, rfl⟩, rfl⟩ := Program.yields_bind.mp yields
  rw [yields_recordMet] at recorded
  refine ⟨?_, rfl⟩
  simp [recorded, closing, Status.passed, status, passes]

private theorem yields_unfinished {downstream : List String} {subjects waiting : List TaskInstance}
    (yields : (unfinished downstream subjects).Yields exchanges waiting) :
    ∃ answers : List (TaskInstance × Bool), answers.map (·.1) = subjects ∧
      exchanges =
        answers.map (fun answer => .given (.downstreamDone answer.1 downstream) answer.2) ∧
      waiting = (answers.filter (!·.2)).map (·.1) := by
  induction subjects generalizing exchanges waiting with
  | nil =>
    obtain ⟨rfl, rfl⟩ := yields
    exact ⟨[], rfl, rfl, rfl⟩
  | cons subject rest ih =>
    obtain ⟨_, finished, _, asked, more, rfl⟩ := Program.yields_bind.mp yields
    obtain ⟨_, others, _, later, ⟨rfl, rfl⟩, rfl⟩ := Program.yields_bind.mp more
    obtain ⟨answers, rfl, rfl, rfl⟩ := ih later
    rw [Program.yields_ask.mp asked]
    refine ⟨(subject, finished) :: answers, rfl, by simp, ?_⟩
    cases finished <;> simp

theorem ordered_byMapIndex (found : List TaskInstance) : Ordered found (byMapIndex found) where
  same := List.mergeSort_perm ..
  ascending := by
    have transitive (first second third : TaskInstance)
        (left : decide (first.key.mapIndex ≤ second.key.mapIndex) = true)
        (right : decide (second.key.mapIndex ≤ third.key.mapIndex) = true) :
        decide (first.key.mapIndex ≤ third.key.mapIndex) = true :=
      decide_eq_true (Int.le_trans (of_decide_eq_true left) (of_decide_eq_true right))
    have total (first second : TaskInstance) :
        (decide (first.key.mapIndex ≤ second.key.mapIndex) ||
          decide (second.key.mapIndex ≤ first.key.mapIndex)) = true := by
      simpa using Int.le_total first.key.mapIndex second.key.mapIndex
    exact (List.pairwise_mergeSort transitive total found).imp of_decide_eq_true

private theorem closing_of_failing {reason : Reason} (fails : reason.passes = false) :
    closing target waivers (some (status reason)) = [] := by
  simp [closing, Status.passed, status, fails]

private theorem yields_absentBefore (late : tooEarly target.task previous = false)
    (yields : (absentBefore target waivers previous).Yields exchanges found) :
    ∃ reads, ReadsAfter target previous
        (.given (.instances previous target.subject.key.task) [] :: reads) found ∧
      exchanges = reads ++ closing target waivers found := by
  unfold absentBefore at yields
  cases lenient : target.task.ignoreFirst with
  | false =>
    rw [lenient] at yields
    obtain ⟨rfl, rfl⟩ := yields
    exact ⟨[], .absent late lenient, by rw [closing_of_failing rfl, List.append_nil]⟩
  | true =>
    simp only [lenient, ↓reduceIte, Program.bind_eq] at yields
    obtain ⟨_, prior, _, counted, rest, rfl⟩ := Program.yields_bind.mp yields
    rw [Program.yields_ask.mp counted]
    have reads := ReadsAfter.counted late lenient prior
    split at rest
    · rename_i none
      obtain ⟨rfl, rfl⟩ := yields_pass rfl rest
      exact ⟨_, by simpa [none] using reads, rfl⟩
    · rename_i some
      obtain ⟨rfl, rfl⟩ := Program.yields_log_bind.mp rest
      refine ⟨_, by simpa [some] using reads, ?_⟩
      rw [closing_of_failing rfl, List.append_nil]

private theorem yields_waiting {waiting : List TaskInstance}
    (yields : (if waiting ≠ [] then Program.done (some (status (.downstreamNotDone waiting)))
      else (recordMet target waivers).bind fun _ => .done none).Yields exchanges found) :
    found = (if waiting = [] then none else some (status (.downstreamNotDone waiting))) ∧
      exchanges = closing target waivers found := by
  by_cases none : waiting = []
  · rw [if_neg (not_not_intro none)] at yields
    obtain ⟨_, _, _, recorded, ⟨rfl, rfl⟩, rfl⟩ := Program.yields_bind.mp yields
    rw [yields_recordMet.mp recorded, if_pos none]
    exact ⟨rfl, by simp [closing]⟩
  · rw [if_pos none] at yields
    obtain ⟨rfl, rfl⟩ := yields
    rw [if_neg none, closing_of_failing rfl]
    exact ⟨rfl, rfl⟩

/-- The reads go on from the instances of the previous run, where there are some. -/
theorem yields_presentBefore {given earlier : List TaskInstance}
    (late : tooEarly target.task previous = false) (present : earlier ≠ [])
    (ordered : Ordered given earlier)
    (yields : (presentBefore target waivers earlier).Yields exchanges found) :
    ∃ reads, ReadsAfter target previous
        (.given (.instances previous target.subject.key.task) given :: reads) found ∧
      exchanges = reads ++ closing target waivers found := by
  unfold presentBefore at yields
  simp only [Bool.not_eq_true', List.isEmpty_eq_false_iff] at yields
  split at yields
  · rename_i pending
    obtain ⟨rfl, rfl⟩ := yields
    exact ⟨[], .unsuccessful late ordered pending, by rw [closing_of_failing rfl, List.append_nil]⟩
  · rename_i settled
    have some : given ≠ [] := fun none => present (by simpa [none] using ordered.same)
    have done : ∀ subject ∈ given, subject.state.done = true := by
      intro subject member
      simpa using List.filter_eq_nil_iff.mp (Classical.not_not.mp settled) subject
        (ordered.same.mem_iff.mpr member)
    cases waits : target.task.waitForDownstream with
    | false =>
      simp only [waits] at yields
      obtain ⟨_, waiting, _, ⟨rfl, rfl⟩, rest, rfl⟩ := Program.yields_bind.mp yields
      obtain ⟨rfl, rfl⟩ := yields_waiting rest
      exact ⟨[], .successful late some done waits, rfl⟩
    | true =>
      simp only [waits, ↓reduceIte] at yields
      obtain ⟨_, waiting, _, asked, rest, rfl⟩ := Program.yields_bind.mp yields
      obtain ⟨answers, rfl, rfl, rfl⟩ := yields_unfinished asked
      obtain ⟨rfl, rfl⟩ := yields_waiting rest
      have finished : (answers.filter (!·.2)).map (·.1) = [] ↔ answers.all (·.2) = true := by
        simp
      simp only [finished]
      exact ⟨_, .awaited late some done waits ordered, rfl⟩

private theorem yields_afterPrevious
    (yields : (afterPrevious target waivers previous).Yields exchanges found) :
    ∃ reads, ReadsAfter target previous reads found ∧
      exchanges = reads ++ closing target waivers found := by
  unfold afterPrevious at yields
  cases late : tooEarly target.task previous with
  | true =>
    simp only [late, ↓reduceIte, Program.bind_eq] at yields
    obtain ⟨rfl, rfl⟩ := yields_pass rfl (Program.yields_log_bind.mp yields)
    exact ⟨[], .tooEarly late, rfl⟩
  | false =>
    simp only [late, Bool.false_eq_true, ↓reduceIte, Program.bind_eq] at yields
    obtain ⟨_, given, _, asked, rest, rfl⟩ := Program.yields_bind.mp yields
    rw [Program.yields_ask.mp asked]
    have ordered := ordered_byMapIndex given
    split at rest
    · rename_i none
      have same : given = [] := by
        simpa [List.isEmpty_iff.mp none] using ordered.same
      obtain ⟨reads, read, rfl⟩ := yields_absentBefore late rest
      exact ⟨_, same ▸ read, rfl⟩
    · rename_i some
      obtain ⟨reads, read, rfl⟩ := yields_presentBefore late (by simpa using some) ordered rest
      exact ⟨_, read, rfl⟩

/-- Every conversation of the check is made of its reads and of what follows them. -/
theorem yields_check (yields : (check target waivers).Yields exchanges found) :
    ∃ reads, Reads target waivers reads found ∧
      exchanges = reads ++ closing target waivers found := by
  unfold check at yields
  cases unset : waivers.ignorePast with
  | true =>
    simp only [unset, ↓reduceIte, Program.bind_eq] at yields
    obtain ⟨rfl, rfl⟩ := yields_pass rfl (Program.yields_log_bind.mp yields)
    exact ⟨[], .waived unset, rfl⟩
  | false =>
    cases dependent : target.task.dependsOnPast with
    | false =>
      simp only [unset, dependent, Bool.false_eq_true, ↓reduceIte, Bool.not_false] at yields
      obtain ⟨rfl, rfl⟩ := yields_pass rfl yields
      exact ⟨[], .independent unset dependent, rfl⟩
    | true =>
      simp only [unset, dependent, Bool.false_eq_true, ↓reduceIte, Bool.not_true,
        Program.bind_eq] at yields
      obtain ⟨_, run, _, asked, rest, rfl⟩ := Program.yields_bind.mp yields
      rw [Program.yields_ask.mp asked]
      cases run with
      | none =>
        obtain ⟨rfl, rfl⟩ := yields_pass rfl (Program.yields_log_bind.mp rest)
        exact ⟨_, .runUnknown unset dependent, rfl⟩
      | some run =>
        obtain ⟨_, previous, _, asked, rest, rfl⟩ := Program.yields_bind.mp rest
        rw [Program.yields_ask.mp asked]
        cases previous with
        | none =>
          obtain ⟨rfl, rfl⟩ := yields_pass rfl (Program.yields_log_bind.mp rest)
          exact ⟨_, .first unset dependent run, rfl⟩
        | some previous =>
          obtain ⟨reads, read, rfl⟩ := yields_afterPrevious rest
          exact ⟨_, .after unset dependent run previous read, rfl⟩

theorem sound_recordMet : (recordMet target waivers).Sound := by
  unfold recordMet
  split
  · exact Program.sound_ask _
  · exact Program.sound_done _

theorem sound_pass (reason : Reason) : (pass target waivers reason).Sound :=
  sound_recordMet.bind fun _ => Program.sound_done _

private theorem sound_unfinished (downstream : List String) (subjects : List TaskInstance) :
    (unfinished downstream subjects).Sound := by
  induction subjects with
  | nil => exact Program.sound_done _
  | cons subject rest ih =>
    exact (Program.sound_ask _).bind fun _ => ih.bind fun _ => Program.sound_done _

private theorem sound_absentBefore : (absentBefore target waivers previous).Sound := by
  unfold absentBefore
  simp only
  split
  · refine (Program.sound_ask _).bind fun prior => ?_
    split
    · exact sound_pass _
    · exact (Program.sound_log _).bind fun _ => Program.sound_done _
  · exact Program.sound_done _

theorem sound_presentBefore (earlier : List TaskInstance) :
    (presentBefore target waivers earlier).Sound := by
  have rest (waiting : List TaskInstance) : Program.Sound
      (if !waiting.isEmpty then Program.done (some (status (.downstreamNotDone waiting)))
        else (recordMet target waivers).bind fun _ => .done none) := by
    split
    · exact Program.sound_done _
    · exact sound_recordMet.bind fun _ => Program.sound_done _
  unfold presentBefore
  simp only
  split
  · exact Program.sound_done _
  · split
    · exact (sound_unfinished _ _).bind rest
    · exact rest []

private theorem sound_afterPrevious : (afterPrevious target waivers previous).Sound := by
  unfold afterPrevious
  split
  · exact (Program.sound_log _).bind fun _ => sound_pass _
  · refine (Program.sound_ask _).bind fun given => ?_
    simp only
    split
    · exact sound_absentBefore
    · exact sound_presentBefore _

/-- The check on the previous run has no faults but those of the store. -/
theorem sound_check : (check target waivers).Sound := by
  unfold check
  simp only
  split
  · exact (Program.sound_log _).bind fun _ => sound_pass _
  · split
    · exact sound_pass _
    · refine (Program.sound_ask _).bind fun run => ?_
      cases run with
      | none => exact (Program.sound_log _).bind fun _ => sound_pass _
      | some run =>
        refine (Program.sound_ask _).bind fun previous => ?_
        cases previous with
        | none => exact (Program.sound_log _).bind fun _ => sound_pass _
        | some previous => exact sound_afterPrevious

theorem ReadsAfter.isRead (read : ReadsAfter target previous reads found) :
    ∀ exchange ∈ reads, exchange.query.isRead = true := by
  cases read with
  | awaited late present done waits ordered =>
    refine List.forall_mem_cons.mpr ⟨rfl, fun exchange member => ?_⟩
    obtain ⟨answer, -, rfl⟩ := List.mem_map.mp member
    rfl
  | _ => simp [Query.isRead]

theorem Reads.isRead (read : Reads target waivers reads found) :
    ∀ exchange ∈ reads, exchange.query.isRead = true := by
  cases read with
  | after unset dependent run previous rest => simpa [Query.isRead] using rest.isRead
  | _ => simp [Query.isRead]

/-- The conversations of the check on the previous run with a store in which no call fails, and the
statuses that it yields. -/
inductive Conversation (target : Target) (waivers : Waivers) : List Exchange → List Status → Prop
  | allWaived (all : waivers.ignoreAllChecks = true) :
      Conversation target waivers [] [status .allWaived]
  | taskChecksWaived (some : waivers.ignoreAllChecks = false)
      (ofTask : waivers.ignoreTaskChecks = true) :
      Conversation target waivers [] [status .taskChecksWaived]
  | asked (some : waivers.ignoreAllChecks = false) (others : waivers.ignoreTaskChecks = false)
      {reads : List Exchange} {found : Option Status} (read : Reads target waivers reads found) :
      Conversation target waivers (reads ++ closing target waivers found) found.toList

/-- What does not depend on the answers. Nothing is asked where the check is waived, and nothing
read where the past does not matter. The flag is recorded last if at all, and in a conversation that
comes to its end exactly if the waivers ask for it, the check is not waived and no status fails.
Where a call fails, no flag has been recorded before it. -/
structure RecordsLast (target : Target) (waivers : Waivers) (exchanges : List Exchange)
    (result : Except Fault (List Status)) : Prop where
  silent : waivers.ignoreAllChecks = true ∨ waivers.ignoreTaskChecks = true → exchanges = []
  unread : waivers.ignorePast = true ∨ target.task.dependsOnPast = false →
    ∀ exchange ∈ exchanges, exchange.query.isRead = false
  readsFirst : ∀ exchange ∈ exchanges.dropLast, exchange.query.isRead = true
  oneFlag : ∀ exchange ∈ exchanges, exchange.query.isRead = false →
    exchange.query = .recordFlag target.subject.key metFlag true ∧ waivers.recordPast = true
  recorded : ∀ statuses, result = .ok statuses →
    ((∃ exchange ∈ exchanges, exchange.query.isRead = false) ↔
      waivers.recordPast = true ∧ waivers.ignoreAllChecks = false ∧
        waivers.ignoreTaskChecks = false ∧ ∀ status ∈ statuses, status.passed = true)
  unrecorded : ∀ fault, result = .error fault →
    ∀ exchange ∈ exchanges, exchange.query.isRead = false → exchange.answer = .error fault

theorem mem_closing {exchange : Exchange} :
    exchange ∈ closing target waivers found ↔ waivers.recordPast = true ∧
      (∀ status ∈ found.toList, status.passed = true) ∧
      exchange = .given (.recordFlag target.subject.key metFlag true) () := by
  have passes : found.all (·.passed) = true ↔ ∀ status ∈ found.toList, status.passed = true := by
    cases found <;> simp
  rw [← passes, closing]
  cases waivers.recordPast <;> cases found.all (·.passed) <;> simp

private theorem mem_reads_of_mem_dropLast {exchange : Exchange}
    (member : exchange ∈ (reads ++ closing target waivers found).dropLast) : exchange ∈ reads := by
  unfold closing at member
  split at member
  · rwa [List.dropLast_concat] at member
  · rw [List.append_nil] at member
    exact List.dropLast_subset _ member

private theorem Reads.eq_nil (read : Reads target waivers reads found)
    (free : waivers.ignorePast = true ∨ target.task.dependsOnPast = false) : reads = [] := by
  cases read with
  | waived set => rfl
  | independent unset alone => rfl
  | runUnknown unset dependent => simp [unset, dependent] at free
  | first unset dependent run => simp [unset, dependent] at free
  | after unset dependent run previous rest => simp [unset, dependent] at free

private theorem Conversation.recordsLast {statuses : List Status}
    (whole : Conversation target waivers exchanges statuses) :
    RecordsLast target waivers exchanges (.ok statuses) := by
  cases whole with
  | allWaived all => constructor <;> simp [all]
  | taskChecksWaived some ofTask => constructor <;> simp [ofTask]
  | asked some others read =>
    refine
      { silent := by simp [some, others]
        unread := fun free exchange member => ?_
        readsFirst := fun exchange member => read.isRead _ (mem_reads_of_mem_dropLast member)
        oneFlag := fun exchange member writes => ?_
        recorded := fun statuses same => ?_
        unrecorded := nofun }
    · rw [read.eq_nil free, List.nil_append] at member
      rw [(mem_closing.mp member).2.2]
      rfl
    · rcases List.mem_append.mp member with early | last
      · rw [read.isRead _ early] at writes
        cases writes
      · obtain ⟨asked, -, rfl⟩ := mem_closing.mp last
        exact ⟨rfl, asked⟩
    · cases same
      constructor
      · intro writes
        obtain ⟨exchange, member, writes⟩ := writes
        rcases List.mem_append.mp member with early | last
        · rw [read.isRead _ early] at writes
          cases writes
        · obtain ⟨asked, passes, -⟩ := mem_closing.mp last
          exact ⟨asked, some, others, passes⟩
      · intro passes
        obtain ⟨asked, -, -, passes⟩ := passes
        exact ⟨_, List.mem_append_right _ (mem_closing.mpr ⟨asked, passes, rfl⟩), rfl⟩

/-- What holds of whole conversations holds of those cut short by a call that fails. -/
private theorem recordsLast_of_keeps {result : Except Fault (List Status)}
    (keeps : Keeps (Conversation target waivers) exchanges result) :
    RecordsLast target waivers exchanges result := by
  cases keeps with
  | whole complete => exact complete.recordsLast
  | @cut before query fault due =>
    obtain ⟨answer⟩ := query.nonempty_answer
    obtain ⟨later, statuses, complete⟩ := due answer
    have law := complete.recordsLast
    have early : ∀ exchange ∈ before, exchange.query.isRead = true := fun exchange member =>
      law.readsFirst exchange (by simp [member])
    have atLast : ∀ exchange ∈ before ++ [⟨query, .error fault⟩], exchange.query.isRead = false →
        exchange = ⟨query, .error fault⟩ := by
      intro exchange member writes
      rcases List.mem_append.mp member with first | last
      · rw [early exchange first] at writes
        cases writes
      · exact List.mem_singleton.mp last
    exact
      { silent := fun waived => absurd (law.silent waived) (by simp)
        unread := by
          intro free exchange member
          rcases List.mem_append.mp member with first | last
          · exact law.unread free exchange (List.mem_append_left _ first)
          · rw [List.mem_singleton.mp last]
            exact law.unread free (.given query answer) (by simp)
        readsFirst := by
          rw [List.dropLast_concat]
          exact early
        oneFlag := by
          intro exchange member writes
          obtain rfl := atLast exchange member writes
          exact law.oneFlag (.given query answer) (by simp) writes
        recorded := nofun
        unrecorded := by
          intro other same exchange member writes
          rw [atLast exchange member writes]
          cases same
          rfl }

end Past

namespace Check

variable {target : Target} {waivers : Waivers} {exchanges : List Exchange} {check : Check}

theorem sound_status_previousRun : (previousRun.status target waivers).Sound := by
  rw [status_eq]
  split
  · exact Program.sound_done _
  · split
    · exact Program.sound_done _
    · exact Past.sound_check

theorem propagates_runStatus : (runStatus target).Propagates := by
  refine (Program.propagates_ask _).bind fun run => ?_
  cases run with
  | none => exact Program.propagates_fail _
  | some run =>
    simp only
    split
    · exact (Program.propagates_log _).bind fun _ => Program.propagates_done _
    · exact Program.propagates_done _

theorem propagates_status : (check.status target waivers).Propagates := by
  rw [status_eq]
  split
  · exact Program.propagates_done _
  · split
    · exact Program.propagates_done _
    · cases check with
      | previousRun => exact Past.sound_check.propagates
      | instanceState allowed nonempty => exact Program.propagates_done _
      | notRunning => exact Program.propagates_done _
      | runActive => exact propagates_runStatus

/-- The check is waived as one of all or as one of the task, or it asks. -/
theorem yields_status_previousRun {found : Option Status}
    (yields : (previousRun.status target waivers).Yields exchanges found) :
    (waivers.ignoreAllChecks = true ∧ exchanges = [] ∧
        found = some (Past.status .allWaived)) ∨
      (waivers.ignoreAllChecks = false ∧ waivers.ignoreTaskChecks = true ∧ exchanges = [] ∧
        found = some (Past.status .taskChecksWaived)) ∨
      waivers.ignoreAllChecks = false ∧ waivers.ignoreTaskChecks = false ∧
        ∃ reads, Past.Reads target waivers reads found ∧
          exchanges = reads ++ Past.closing target waivers found := by
  rw [status_eq] at yields
  cases all : waivers.ignoreAllChecks with
  | true =>
    simp only [all] at yields
    exact .inl ⟨rfl, yields⟩
  | false =>
    cases ofTask : waivers.ignoreTaskChecks with
    | true =>
      simp only [all, ofTask] at yields
      exact .inr (.inl ⟨rfl, rfl, yields⟩)
    | false =>
      simp only [all, ofTask, Bool.and_false, Bool.false_eq_true, ↓reduceIte] at yields
      exact .inr (.inr ⟨rfl, rfl, Past.yields_check yields⟩)

private theorem conversation_of_yields {statuses : List Status}
    (whole : (previousRun.statuses target waivers).Yields exchanges statuses) :
    Past.Conversation target waivers exchanges statuses := by
  rw [statuses_eq] at whole
  obtain ⟨_, found, _, yields, ⟨rfl, rfl⟩, rfl⟩ := Program.yields_bind.mp whole
  rw [List.append_nil]
  rcases yields_status_previousRun yields with
    ⟨all, rfl, rfl⟩ | ⟨some, ofTask, rfl, rfl⟩ | ⟨some, others, reads, read, rfl⟩
  · exact .allWaived all
  · exact .taskChecksWaived some ofTask
  · exact .asked some others read

/-- Whatever a store answers, nothing is called before the first status is asked for, and the calls
after that keep to the protocol of the check up to the first that fails, if one does. -/
theorem previousRun_keeps_protocol {σ : Type} (store : Store σ) (state : σ) (target : Target)
    (waivers : Waivers) :
    ((previousRun.pull target waivers 0).run store state).calls = [] ∧
      ∀ more, let outcome := (previousRun.pull target waivers (more + 1)).run store state
        Keeps (Past.Conversation target waivers) (store.exchanges state outcome.calls)
            outcome.result ∧
          Past.RecordsLast target waivers (store.exchanges state outcome.calls)
            outcome.result := by
  refine ⟨calls_pull_zero _ _ _ _ _, fun more => ?_⟩
  have sound : (previousRun.statuses target waivers).Sound := by
    rw [statuses_eq]
    exact sound_status_previousRun.bind fun _ => Program.sound_done _
  have keeps := (sound.keeps_run store state).imp fun _ _ => conversation_of_yields
  rw [statuses_eq, ← pull_succ _ _ _ more] at keeps
  exact ⟨keeps, Past.recordsLast_of_keeps keeps⟩

end Check

end RunGate
