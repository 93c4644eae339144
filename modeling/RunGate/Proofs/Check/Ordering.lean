import RunGate.History.Change
import RunGate.Proofs.Check.Agreement
import RunGate.Proofs.History.Rearranged

/-! The order in which a store gives the instances of the previous run. They are put in the order of
their map indexes before anything else is done with them, so what is found, how it is worded and what is
asked next show nothing of the order in which they came. -/

namespace RunGate

/-- The status fails, and in its wording these instances stand one after another, with commas
between. -/
def Status.FailsFor (status : Status) (listed : List TaskInstance) : Prop :=
  status.passed = false ∧ ∃ before after,
    status.reason.text = before ++ ",".intercalate (listed.map (·.text)) ++ after

namespace Past

variable {σ : Type} {store other : Store σ} {state after : σ} {target : Target} {waivers : Waivers}
  {run previous : Run} {given earlier listed : List TaskInstance} {reads : List Exchange}
  {found : Option Status} {history : History}

/-- Those of the given instances that have a property, each once and in ascending order of their map
indexes. -/
structure Lists (listed given : List TaskInstance) (holds : TaskInstance → Prop) : Prop where
  members : ∀ subject, subject ∈ listed ↔ subject ∈ given ∧ holds subject
  ascending : listed.Pairwise fun first second => first.key.mapIndex < second.key.mapIndex

/-- Nothing keeps the check from looking at the instances in this previous run. -/
structure LooksAt (target : Target) (waivers : Waivers) (previous : Run) : Prop where
  someCheck : waivers.ignoreAllChecks = false
  taskChecks : waivers.ignoreTaskChecks = false
  counted : waivers.ignorePast = false
  dependent : target.task.dependsOnPast = true
  late : tooEarly target.task previous = false

/-- The calls by which the check gets the instances of the previous run, with what comes back. -/
def opening (target : Target) (run previous : Run) (given : List TaskInstance) : List Exchange :=
  [.given (.run target.subject.key.workflow target.subject.key.run) (some run),
    .given (.previousRun run target.task.catchup) (some previous),
    .given (.instances previous target.subject.key.task) given]

/-- The check makes these calls, and the store answers them so: some instances come back, and the store
is in this state then. -/
structure Opens (store : Store σ) (state : σ) (target : Target) (waivers : Waivers)
    (run previous : Run) (given : List TaskInstance) (after : σ) : Prop where
  looks : LooksAt target waivers previous
  present : given ≠ []
  answers : ∃ first second,
    store.answer (.run target.subject.key.workflow target.subject.key.run) state =
        (.ok (some run), first) ∧
      store.answer (.previousRun run target.task.catchup) first = (.ok (some previous), second) ∧
      store.answer (.instances previous target.subject.key.task) second = (.ok given, after)

private theorem failsFor_notDone (listed : List TaskInstance) :
    (status (.notDone listed)).FailsFor listed := ⟨rfl, _, _, rfl⟩

private theorem failsFor_downstreamNotDone (listed : List TaskInstance) :
    (status (.downstreamNotDone listed)).FailsFor listed := ⟨rfl, _, _, rfl⟩

private theorem byMapIndex_eq_of_ascending (same : listed.Perm given)
    (ascending : listed.Pairwise fun first second => first.key.mapIndex < second.key.mapIndex) :
    byMapIndex given = listed := by
  have apart : (listed.map (·.key.mapIndex)).Nodup :=
    List.pairwise_map.mpr (ascending.imp fun below => Int.ne_of_lt below)
  rw [byMapIndex_eq ((same.map _).nodup_iff.mp apart) apart fun _ => same.mem_iff.symm]
  exact List.mergeSort_of_pairwise (ascending.imp fun below => decide_eq_true (Int.le_of_lt below))

theorem Ordered.strict (ordered : Ordered given earlier)
    (distinct : (given.map (·.key.mapIndex)).Nodup) :
    earlier.Pairwise fun first second => first.key.mapIndex < second.key.mapIndex := by
  have apart : (earlier.map (·.key.mapIndex)).Nodup := (ordered.same.map _).nodup_iff.mpr distinct
  exact (ordered.ascending.and (List.pairwise_map.mp apart)).imp fun both =>
    Int.lt_iff_le_and_ne.mpr both

private theorem not_mem_closing {exchange : Exchange} (reads : exchange.query.isRead = true) :
    exchange ∉ closing target waivers found := by
  intro member
  rw [(mem_closing.mp member).2.2] at reads
  cases reads

/-- Instances are read first, if at all. -/
theorem ReadsAfter.first {exchange : Exchange}
    (read : ReadsAfter target previous (exchange :: reads) found) :
    Past.tooEarly target.task previous = false ∧
      ∃ given, exchange = .given (.instances previous target.subject.key.task) given := by
  cases read with
  | absent late | counted late | unsuccessful late | successful late | awaited late =>
    exact ⟨late, _, rfl⟩

private theorem ReadsAfter.ne_instances {first : Exchange}
    (read : ReadsAfter target previous (first :: reads) found) :
    ∀ exchange ∈ reads, ∀ run task, exchange.query ≠ .instances run task := by
  intro exchange member
  cases read with
  | counted late lenient prior =>
    rw [List.mem_singleton.mp member]
    exact nofun
  | awaited late present done waits ordered =>
    obtain ⟨answer, -, rfl⟩ := List.mem_map.mp member
    exact nofun
  | absent | unsuccessful | successful => cases member

theorem ReadsAfter.begins {before : Run} (read : ReadsAfter target before reads found)
    (member : .given (.instances previous target.subject.key.task) given ∈ reads) :
    before = previous ∧ Past.tooEarly target.task before = false ∧
      ∃ later, reads = .given (.instances before target.subject.key.task) given :: later := by
  cases reads with
  | nil => cases member
  | cons exchange later =>
    obtain ⟨late, others, rfl⟩ := read.first
    rcases List.mem_cons.mp member with same | rest
    · cases same
      exact ⟨rfl, late, later, rfl⟩
    · exact absurd rfl (read.ne_instances _ rest _ _)

/-- A check that reads the instances of the previous run reads them third. -/
private theorem begins_of_yields {exchanges : List Exchange}
    (yields : (Check.previousRun.status target waivers).Yields exchanges found)
    (member : .given (.instances previous target.subject.key.task) given ∈ exchanges) :
    LooksAt target waivers previous ∧
      ∃ run later, exchanges = opening target run previous given ++ later := by
  rcases Check.yields_status_previousRun yields with
    ⟨-, rfl, -⟩ | ⟨-, -, rfl, -⟩ | ⟨someCheck, taskChecks, reads, read, rfl⟩
  · cases member
  · cases member
  rcases List.mem_append.mp member with early | last
  swap
  · exact absurd last (not_mem_closing rfl)
  cases read with
  | waived set => cases early
  | independent unset alone => cases early
  | runUnknown unset dependent => cases List.mem_singleton.mp early
  | first unset dependent run => simp [Exchange.given] at early
  | after unset dependent run before rest =>
    rcases List.mem_cons.mp early with same | early
    · cases same
    rcases List.mem_cons.mp early with same | early
    · cases same
    obtain ⟨rfl, late, later, rfl⟩ := rest.begins early
    exact ⟨⟨someCheck, taskChecks, unset, dependent, late⟩, run, _, rfl⟩

/-- What comes before the instances is the same in a conversation that is cut short after them. -/
private theorem begins_of_keeps {exchanges : List Exchange} {result : Except Fault (Option Status)}
    (keeps : Keeps (Check.previousRun.status target waivers).Yields exchanges result)
    (member : .given (.instances previous target.subject.key.task) given ∈ exchanges) :
    LooksAt target waivers previous ∧
      ∃ run later, exchanges = opening target run previous given ++ later := by
  cases keeps with
  | whole complete => exact begins_of_yields complete member
  | @cut before query fault due =>
    have answered : .given (.instances previous target.subject.key.task) given ∈ before := by
      rcases List.mem_append.mp member with early | last
      · exact early
      · cases List.mem_singleton.mp last
    obtain ⟨answer⟩ := query.nonempty_answer
    obtain ⟨later, value, complete⟩ := due answer
    obtain ⟨looks, run, further, same⟩ :=
      begins_of_yields complete (List.mem_append_left _ answered)
    rw [opening] at same
    rcases before with _ | ⟨first, _ | ⟨second, _ | ⟨third, more⟩⟩⟩
    · cases answered
    · cases same
      cases List.mem_singleton.mp answered
    · cases same
      simp [Exchange.given] at answered
    · cases same
      exact ⟨looks, run, _, rfl⟩

private theorem exists_opens (present : given ≠ [])
    (member : .given (.instances previous target.subject.key.task) given ∈
      store.exchanges state ((Check.previousRun.status target waivers).run store state).calls) :
    ∃ run after, Opens store state target waivers run previous given after := by
  obtain ⟨looks, run, later, same⟩ :=
    begins_of_keeps (Check.sound_status_previousRun.keeps_run store state) member
  obtain ⟨first, _, -, found, same⟩ := Store.exchanges_eq_cons_iff.mp same
  obtain ⟨second, _, -, before, same⟩ := Store.exchanges_eq_cons_iff.mp same
  obtain ⟨after, _, -, came, -⟩ := Store.exchanges_eq_cons_iff.mp same
  exact ⟨run, after, looks, present, first, second, found, before, came⟩

namespace Opens

variable (opens : Opens store state target waivers run previous given after)

include opens

private theorem byMapIndex_ne_nil : byMapIndex given ≠
    [] := mt byMapIndex_eq_nil_iff.mp opens.present

/-- After these calls the check goes on with the instances in the order of their map indexes. -/
theorem run_eq :
    let later := (presentBefore target waivers (byMapIndex given)).run store after
    (Check.previousRun.status target waivers).run store state =
      { later with calls := (opening target run previous given).map (·.query) ++ later.calls } := by
  have present := opens.byMapIndex_ne_nil
  obtain ⟨looks, -, first, second, found, before, came⟩ := opens
  simp [Check.status_eq, looks.someCheck, looks.taskChecks, Check.inspect, check, looks.counted,
    looks.dependent, afterPrevious, looks.late, Program.ask, Program.ofExcept, Program.bind, Program.run,
    found, before, came, present, opening]

private theorem exchanges_eq :
    store.exchanges state ((Check.previousRun.status target waivers).run store state).calls =
      opening target run previous given ++ store.exchanges after
        ((presentBefore target waivers (byMapIndex given)).run store after).calls := by
  rw [opens.run_eq]
  obtain ⟨-, -, first, second, found, before, came⟩ := opens
  simp [opening, Store.exchanges, Exchange.given, found, before, came]

private theorem exists_perm (alike : store.Rearranges other) :
    ∃ others, given.Perm others ∧ Opens other state target waivers run previous others after := by
  obtain ⟨looks, present, first, second, found, before, came⟩ := opens
  obtain ⟨others, same, came⟩ := alike.exists_instances came
  have presentToo : others ≠ [] := fun none => present (by simpa [none] using same)
  refine ⟨others, same, looks, presentToo, first, second, ?_, ?_, came⟩
  · rw [alike.answer_eq (by simp), found]
  · rw [alike.answer_eq (by simp), before]

/-- Once there are instances, the check calls for no others. -/
private theorem ne_instances {query : Query}
    (member : query ∈ ((presentBefore target waivers (byMapIndex given)).run store after).calls) :
    ∀ run task, query ≠ .instances run task := by
  have keeps : Keeps (presentBefore target waivers (byMapIndex given)).Yields _ _ :=
    (sound_presentBefore _).keeps_run store after
  rw [← store.map_query_exchanges after (Outcome.calls _)] at member
  obtain ⟨exchange, exchanged, rfl⟩ := List.mem_map.mp member
  refine keeps.forall_query (fun query => ∀ run task, query ≠ .instances run task)
    (fun exchanges found yields exchange member => ?_) exchange exchanged
  obtain ⟨reads, read, rfl⟩ := yields_presentBefore opens.looks.late opens.byMapIndex_ne_nil
    (ordered_byMapIndex given) yields
  rcases List.mem_append.mp member with early | last
  · exact read.ne_instances exchange early
  · obtain ⟨-, -, rfl⟩ := mem_closing.mp last
    exact nofun

private theorem run_of_rearranges (distinct : (given.map (·.key.mapIndex)).Nodup)
    (alike : store.Rearranges other) :
    (Check.previousRun.status target waivers).run other state =
      (Check.previousRun.status target waivers).run store state := by
  obtain ⟨others, same, opensToo⟩ := opens.exists_perm alike
  have sorted : byMapIndex others = byMapIndex given :=
    byMapIndex_eq ((same.map _).nodup_iff.mp distinct) distinct fun _ => same.mem_iff.symm
  have later : (presentBefore target waivers (byMapIndex given)).run other after =
      (presentBefore target waivers (byMapIndex given)).run store after :=
    Program.run_congr fun query member => alike.answer_eq (opens.ne_instances member)
  rw [opensToo.run_eq, opens.run_eq, sorted, later]
  rfl

private theorem result_of_pending (distinct : (given.map (·.key.mapIndex)).Nodup)
    (pending : ∃ subject ∈ given, subject.state.done = false) :
    ∃ listed, Lists listed given (·.state.done = false) ∧
      ((Check.previousRun.status target waivers).run store state).result =
        .ok (some (status (.notDone listed))) := by
  have ordered := ordered_byMapIndex given
  let listed := (byMapIndex given).filter fun subject => !subject.state.done
  have members (subject : TaskInstance) :
      subject ∈ listed ↔ subject ∈ given ∧ subject.state.done = false := by
    simp [listed, mem_byMapIndex]
  obtain ⟨subject, member, undone⟩ := pending
  have some : listed.isEmpty = false :=
    List.isEmpty_eq_false_iff.mpr (List.ne_nil_of_mem ((members subject).mpr ⟨member, undone⟩))
  have fails : (!listed.isEmpty) = true := congrArg not some
  refine ⟨listed, ⟨members, (ordered.strict distinct).sublist List.filter_sublist⟩, ?_⟩
  rw [opens.run_eq, presentBefore, if_pos fails]
  rfl

end Opens

private theorem undone_eq_nil (done : ∀ subject ∈ earlier, subject.state.done = true) :
    (earlier.filter fun subject => !subject.state.done) = [] :=
  List.filter_eq_nil_iff.mpr fun subject member => by simp [done subject member]

private theorem ReadsAfter.of_done
    (read : ReadsAfter target previous
      (.given (.instances previous target.subject.key.task) given :: reads) found)
    (present : given ≠ []) (done : ∀ subject ∈ given, subject.state.done = true)
    (waits : target.task.waitForDownstream = true) :
    ∃ answers : List (TaskInstance × Bool), Ordered given (answers.map (·.1)) ∧
      reads = answers.map (fun answer =>
        .given (.downstreamDone answer.1 target.task.downstream) answer.2) ∧
      let listed := (answers.filter (!·.2)).map (·.1)
      found = if listed = [] then none else some (status (.downstreamNotDone listed)) := by
  cases read with
  | absent => exact absurd rfl present
  | counted => exact absurd rfl present
  | unsuccessful late ordered pending =>
    exact absurd (undone_eq_nil fun subject member => done subject (ordered.same.mem_iff.mp member))
      pending
  | successful late _ _ alone =>
    rw [waits] at alone
    cases alone
  | @awaited _ answers late _ _ _ ordered =>
    have finished : (answers.filter (!·.2)).map (·.1) = [] ↔ answers.all (·.2) = true := by
      simp
    refine ⟨answers, ordered, rfl, ?_⟩
    simp only [finished]

private theorem Opens.result_of_done
    (opens : Opens store state target waivers run previous given after)
    (distinct : (given.map (·.key.mapIndex)).Nodup)
    (done : ∀ subject ∈ given, subject.state.done = true)
    (waits : target.task.waitForDownstream = true)
    (ended : ((Check.previousRun.status target waivers).run store state).result = .ok found) :
    let exchanges := store.exchanges state
      ((Check.previousRun.status target waivers).run store state).calls
    (∀ subject ∈ given, ∃ finished,
        .given (.downstreamDone subject target.task.downstream) finished ∈ exchanges) ∧
      ∃ listed, Lists listed given (fun subject =>
          .given (.downstreamDone subject target.task.downstream) false ∈ exchanges) ∧
        found = if listed = [] then none else some (status (.downstreamNotDone listed)) := by
  intro exchanges
  have later : ((presentBefore target waivers (byMapIndex given)).run store after).result =
      .ok found := by rw [← ended, opens.run_eq]
  obtain ⟨reads, read, same⟩ := yields_presentBefore opens.looks.late opens.byMapIndex_ne_nil
    (ordered_byMapIndex given) ((sound_presentBefore _).propagates.yields_of_result_eq_ok later)
  obtain ⟨answers, ordered, rfl, lists⟩ := read.of_done opens.present done waits
  have asked (subject : TaskInstance) (finished : Bool) :
      .given (.downstreamDone subject target.task.downstream) finished ∈ exchanges ↔
        (subject, finished) ∈ answers := by
    have closed : .given (.downstreamDone subject target.task.downstream) finished ∉
        closing target waivers found := not_mem_closing rfl
    simp only [exchanges]
    rw [opens.exchanges_eq, same, List.mem_append, List.mem_append, or_iff_left closed]
    simp [opening, Exchange.given]
  refine ⟨fun subject member => ?_, (answers.filter (!·.2)).map (·.1), ⟨fun subject => ?_, ?_⟩,
    lists⟩
  · obtain ⟨⟨_, finished⟩, answered, rfl⟩ := List.mem_map.mp (ordered.same.mem_iff.mpr member)
    exact ⟨finished, (asked _ _).mpr answered⟩
  · have of_given (answered : (subject, false) ∈ answers) : subject ∈ given :=
      ordered.same.mem_iff.mp (List.mem_map_of_mem answered)
    simpa [asked] using of_given
  · exact (ordered.strict distinct).sublist (List.filter_sublist.map _)

/-- Where all are done, and what comes after them is done for all or for none, all hold the instance back
or none does. -/
private theorem obstacle_of_alike {task : Task} {finished : Bool} (present : earlier ≠ [])
    (done : ∀ subject ∈ earlier, subject.state.done = true) (waits : task.waitForDownstream = true)
    (alike : ∀ subject ∈ earlier, history.downstreamDone subject task.downstream = finished) :
    obstacle history task earlier =
      if finished then none else some (.downstreamNotDone earlier) := by
  have waiting : (earlier.filter fun subject => !history.downstreamDone subject task.downstream) =
      earlier.filter fun _ => !finished :=
    List.filter_congr fun subject member => by rw [alike subject member]
  rw [obstacle, undone_eq_nil done, waiting, waits]
  cases finished <;> simp [present]

private theorem downstreamDone_of_mem_instancesOf {workflow run task : String}
    {one other : TaskInstance}
    {downstream : List String} (member : one ∈ history.instancesOf workflow run task)
    (memberToo : other ∈ history.instancesOf workflow run task) :
    history.downstreamDone one downstream = history.downstreamDone other downstream := by
  rw [History.downstreamDone, History.downstreamDone, History.key_of_mem_instancesOf member,
    History.key_of_mem_instancesOf memberToo]

private theorem Opens.result_of_done_history {after : History}
    (opens : Opens History.store history target waivers run previous given after)
    (distinct : (given.map (·.key.mapIndex)).Nodup)
    (done : ∀ subject ∈ given, subject.state.done = true)
    (waits : target.task.waitForDownstream = true) :
    let result := ((Check.previousRun.status target waivers).run History.store history).result
    result = .ok none ∨ ∃ listed, Lists listed given (fun _ => True) ∧
      result = .ok (some (status (.downstreamNotDone listed))) := by
  intro result
  have ends : result = .ok ((obstacle after target.task (byMapIndex given)).map status) := by
    have later := Program.result_run (presentBefore target waivers (byMapIndex given)) after
    rw [reading_presentBefore] at later
    simp only [result, opens.run_eq, later]
  have some := opens.byMapIndex_ne_nil
  obtain ⟨-, present, first, second, -, -, came⟩ := opens
  cases came
  obtain ⟨one, among⟩ := List.exists_mem_of_ne_nil _ present
  have all := obstacle_of_alike some (fun subject member => done subject (mem_byMapIndex.mp member))
    waits fun subject member =>
      downstreamDone_of_mem_instancesOf (mem_byMapIndex.mp member) among
  rw [ends, all]
  split
  · exact .inl rfl
  · exact .inr ⟨_, ⟨by simp [mem_byMapIndex], (ordered_byMapIndex _).strict distinct⟩, rfl⟩

/-- The check asks for the instances of the previous run, and these come back: there are some, and no two
have one map index. -/
structure Receives (store : Store σ) (state : σ) (target : Target) (waivers : Waivers)
    (previous : Run) (given : List TaskInstance) : Prop where
  received : .given (.instances previous target.subject.key.task) given ∈
    store.exchanges state ((Check.previousRun.status target waivers).run store state).calls
  present : given ≠ []
  distinct : (given.map (·.key.mapIndex)).Nodup

end Past

namespace Check

variable {σ : Type} {store : Store σ} {state : σ} {target : Target} {waivers : Waivers}
  {previous : Run} {given : List TaskInstance}

/-- The order in which the instances of the previous run come does not show, neither in what is found and
its wording nor in what is asked afterwards. Instances that have neither succeeded nor been skipped hold
the instance back, and so do, if the task waits for what comes after them, those after which the store
says that something is not done, provided that no call fails. Those are listed which hold it back, each
once and in the order of their map indexes. On a history these are none or all. -/
theorem previousRun_ignores_order
    (receives : Past.Receives store state target waivers previous given) :
    let outcome := (previousRun.status target waivers).run store state
    let exchanges := store.exchanges state outcome.calls
    let done := fun subject : TaskInstance => subject.state = .success ∨ subject.state = .skipped
    let answered := fun (subject : TaskInstance) (finished : Bool) =>
      .given (.downstreamDone subject target.task.downstream) finished ∈ exchanges
    (∀ other, store.Rearranges other →
        (previousRun.status target waivers).run other state = outcome) ∧
      ((∃ subject ∈ given, ¬done subject) → ∃ listed, Past.Lists listed given (¬done ·) ∧
        outcome.result = .ok (some (Past.status (.notDone listed))) ∧
          (Past.status (.notDone listed)).FailsFor listed) ∧
      ((∀ subject ∈ given, done subject) → target.task.waitForDownstream = true →
        (∃ query fault, ⟨query, .error fault⟩ ∈ exchanges ∧ outcome.result = .error fault) ∨
          (∀ subject ∈ given, ∃ finished, answered subject finished) ∧
          ∃ listed, Past.Lists listed given (answered · false) ∧
            outcome.result = .ok (if listed = [] then none
              else some (Past.status (.downstreamNotDone listed))) ∧
            (Past.status (.downstreamNotDone listed)).FailsFor listed) ∧
      ∀ history before earlier, Past.Receives History.store history target waivers before earlier →
        (∀ subject ∈ earlier, done subject) → target.task.waitForDownstream = true →
        let result := ((previousRun.status target waivers).run History.store history).result
        result = .ok none ∨ ∃ listed, Past.Lists listed earlier (fun _ => True) ∧
          result = .ok (some (Past.status (.downstreamNotDone listed))) := by
  intro outcome exchanges done answered
  obtain ⟨received, present, distinct⟩ := receives
  obtain ⟨run, after, opens⟩ := Past.exists_opens present received
  refine ⟨fun other => opens.run_of_rearranges distinct, fun pending => ?_,
    fun allDone waits => ?_, fun history before earlier receives allDone waits => ?_⟩
  · simp only [done, ← TaskState.done_iff, Bool.not_eq_true] at pending ⊢
    obtain ⟨listed, lists, result⟩ := opens.result_of_pending distinct pending
    exact ⟨listed, lists, result, Past.failsFor_notDone listed⟩
  · simp only [done, ← TaskState.done_iff] at allDone
    cases ended : outcome.result with
    | error fault =>
      have keeps : Keeps (previousRun.status target waivers).Yields exchanges outcome.result :=
        sound_status_previousRun.keeps_run store state
      rw [ended] at keeps
      obtain ⟨query, failed⟩ := keeps.exists_mem_of_error
      exact .inl ⟨query, fault, failed, rfl⟩
    | ok found =>
      obtain ⟨asked, listed, lists, rfl⟩ :=
        opens.result_of_done distinct allDone waits ended
      exact .inr ⟨asked, listed, lists, rfl, Past.failsFor_downstreamNotDone listed⟩
  · simp only [done, ← TaskState.done_iff] at allDone
    obtain ⟨received, present, distinct⟩ := receives
    obtain ⟨run, after, opens⟩ := Past.exists_opens present received
    exact opens.result_of_done_history distinct allDone waits

end Check

/-- The history as a store that gives instances from the last to the first. -/
def History.backwards : Store History where
  answer
    | .instances run task, history =>
      (.ok (history.instancesOf run.workflow run.name task).reverse, history)
    | query, history => store.answer query history

theorem History.rearranges_backwards : store.Rearranges backwards where
  answers query history := by
    cases query with
    | instances run task => exact .instances run task (List.reverse_perm _).symm
    | _ => exact .same _ _
  states query history := by cases query <;> rfl

def TaskInstance.onMonday (mapIndex : Int) (state : TaskState) : TaskInstance :=
  ⟨⟨"etl", "load", "monday", mapIndex⟩, .midnight 0, state⟩

/-- The instances of `load` on Monday, not in the order of their map indexes. -/
def mondayInstances (zeroth first second : TaskState) : List TaskInstance :=
  [.onMonday 2 second, .onMonday 0 zeroth, .onMonday 1 first]

def History.mapped (zeroth first second : TaskState) : History :=
  History.empty.afterChanges
    ([.createRun "etl" "monday" (.midnight 0) .success,
      .createRun "etl" "tuesday" (.midnight 1) .running] ++
        (mondayInstances zeroth first second).map .upsert)

/-- An instance of `load` on Tuesday. It depends on those of Monday, and maybe on the reports after
them. -/
def mappedTarget (waits : Bool) : Target where
  subject := ⟨⟨"etl", "load", "tuesday", 0⟩, .midnight 1, .scheduled⟩
  task := ⟨"load", "etl", true, waits, false, none, true, ["report"]⟩

private theorem byMapIndex_mondayInstances (zeroth first second : TaskState) :
    Past.byMapIndex (mondayInstances zeroth first second) =
      [.onMonday 0 zeroth, .onMonday 1 first, .onMonday 2 second] := by
  apply Past.byMapIndex_eq_of_ascending
  · exact (List.perm_append_comm : ([_, _] ++ [_]).Perm ([_] ++ [_, _]))
  · simp [TaskInstance.onMonday]

private theorem opens_mapped (waits : Bool) (zeroth first second : TaskState) :
    Past.Opens History.store (.mapped zeroth first second) (mappedTarget waits) {}
      ⟨2, "etl", "tuesday", .midnight 1, .running⟩ ⟨1, "etl", "monday", .midnight 0, .success⟩
      (mondayInstances zeroth first second) (.mapped zeroth first second) :=
  ⟨⟨rfl, rfl, rfl, rfl, rfl⟩, List.cons_ne_nil _ _, _, _, rfl, rfl, rfl⟩

private theorem receives_mapped (waits : Bool) (zeroth first second : TaskState) :
    Past.Receives History.store (.mapped zeroth first second) (mappedTarget waits) {}
      ⟨1, "etl", "monday", .midnight 0, .success⟩ (mondayInstances zeroth first second) where
  received := by
    rw [(opens_mapped waits zeroth first second).exchanges_eq]
    exact .tail _ (.tail _ (.head _))
  present := List.cons_ne_nil _ _
  distinct := (by decide : [(2 : Int), 0, 1].Nodup)

/-- Two of the three hold the instance back, and where these are done too, the missing report holds back
all three. They are listed in ascending order whether they come forwards or backwards. -/
theorem Check.previousRun_ignores_order_mapped :
    let monday : Run := ⟨1, "etl", "monday", .midnight 0, .success⟩
    let undone := History.mapped .running .success .failed
    let done := History.mapped .success .skipped .success
    let pending := (previousRun.status (mappedTarget false) {}).run History.store undone
    let waiting := (previousRun.status (mappedTarget true) {}).run History.store done
    (Past.Receives History.store undone (mappedTarget false) {} monday
        (mondayInstances .running .success .failed) ∧
      pending.result =
        .ok (some (Past.status (.notDone [.onMonday 0 .running, .onMonday 2 .failed]))) ∧
      (previousRun.status (mappedTarget false) {}).run History.backwards undone = pending) ∧
    Past.Receives History.store done (mappedTarget true) {} monday
        (mondayInstances .success .skipped .success) ∧
      waiting.result = .ok (some (Past.status (.downstreamNotDone
        [.onMonday 0 .success, .onMonday 1 .skipped, .onMonday 2 .success]))) ∧
      (∃ listed, Past.Lists listed (mondayInstances .success .skipped .success) (fun _ => True) ∧
        waiting.result = .ok (some (Past.status (.downstreamNotDone listed)))) ∧
      (previousRun.status (mappedTarget true) {}).run History.backwards done = waiting := by
  intro monday undone done pending waiting
  have receives := receives_mapped false .running .success .failed
  have receivesDone := receives_mapped true .success .skipped .success
  have opens := opens_mapped true .success .skipped .success
  have lists : waiting.result = .ok (some (Past.status (.downstreamNotDone
      [.onMonday 0 .success, .onMonday 1 .skipped, .onMonday 2 .success]))) := by
    simp only [waiting, done, opens.run_eq, byMapIndex_mondayInstances]
    rfl
  obtain ⟨unordered, -⟩ := previousRun_ignores_order receives
  obtain ⟨unorderedDone, -, -, noneOrAll⟩ := previousRun_ignores_order receivesDone
  refine ⟨⟨receives, ?_, unordered _ History.rearranges_backwards⟩, receivesDone, lists, ?_,
    unorderedDone _ History.rearranges_backwards⟩
  · simp only [pending, undone, (opens_mapped false .running .success .failed).run_eq,
      byMapIndex_mondayInstances]
    rfl
  · have allDone : ∀ subject ∈ mondayInstances .success .skipped .success,
        subject.state = .success ∨ subject.state = .skipped := by
      simp [mondayInstances, TaskInstance.onMonday]
    refine (noneOrAll _ _ _ receivesDone allDone rfl).resolve_left fun passes => ?_
    cases lists.symm.trans passes

end RunGate
