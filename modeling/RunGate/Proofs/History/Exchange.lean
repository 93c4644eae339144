import RunGate.History.Program

/-! Conversations between a program and a store: the calls together with what came back for them.
Whatever a store answers, a run is a conversation in which every call is answered, or one that was
cut short by a call that failed. -/

namespace RunGate

/-- A call of a store, and what came back. -/
structure Exchange where
  query : Query
  answer : Except Fault query.Answer

/-- A call that is answered. -/
def Exchange.given (query : Query) (answer : query.Answer) : Exchange := ⟨query, .ok answer⟩

@[simp]
theorem Exchange.query_given (query : Query) (answer : query.Answer) :
    (given query answer).query = query := rfl

namespace Store

variable {σ : Type}

/-- The state of a store after calls made one after another. -/
def after (store : Store σ) (state : σ) (calls : List Query) : σ :=
  calls.foldl (fun current query => (store.answer query current).2) state

/-- Calls made one after another, with what comes back for each. -/
def exchanges (store : Store σ) : σ → List Query → List Exchange
  | _, [] => []
  | state, query :: rest =>
    ⟨query, (store.answer query state).1⟩ :: store.exchanges (store.answer query state).2 rest

@[simp]
theorem after_nil (store : Store σ) (state : σ) : store.after state [] = state := rfl

@[simp]
theorem after_cons (store : Store σ) (state : σ) (query : Query) (rest : List Query) :
    store.after state (query :: rest) = store.after (store.answer query state).2 rest := rfl

theorem after_append (store : Store σ) (state : σ) (first second : List Query) :
    store.after state (first ++ second) = store.after (store.after state first) second :=
  List.foldl_append

theorem map_query_exchanges (store : Store σ) (state : σ) (calls : List Query) :
    (store.exchanges state calls).map (·.query) = calls := by
  induction calls generalizing state with
  | nil => rfl
  | cons query rest ih => simp [exchanges, ih]

/-- The first of the exchanges is the answer to the first of the calls. -/
theorem exchanges_eq_cons_iff {store : Store σ} {state : σ} {calls : List Query} {query : Query}
    {answer : query.Answer} {rest : List Exchange} :
    store.exchanges state calls = .given query answer :: rest ↔
      ∃ after later, calls = query :: later ∧ store.answer query state = (.ok answer, after) ∧
        store.exchanges after later = rest := by
  constructor
  · intro same
    cases calls with
    | nil => cases same
    | cons first later =>
      rw [exchanges, List.cons.injEq] at same
      obtain ⟨head, tail⟩ := same
      cases came : store.answer first state with
      | mk reply after =>
        rw [came] at head tail
        cases head
        exact ⟨after, later, rfl, came, tail⟩
  · intro split
    obtain ⟨after, later, rfl, answered, rfl⟩ := split
    rw [exchanges, answered]
    rfl

end Store

/-- A conversation that keeps to a protocol. Either it is whole and comes to its value, or its last
call fails with its fault; that call was due then, for with any answer to it the conversation could
have gone on to a whole one. -/
inductive Keeps {α : Type} (protocol : List Exchange → α → Prop) :
    List Exchange → Except Fault α → Prop
  | whole {exchanges : List Exchange} {value : α} (complete : protocol exchanges value) :
      Keeps protocol exchanges (.ok value)
  | cut {exchanges : List Exchange} {query : Query} (fault : Fault)
      (due : ∀ answer, ∃ later value, protocol (exchanges ++ .given query answer :: later) value) :
      Keeps protocol (exchanges ++ [⟨query, .error fault⟩]) (.error fault)

theorem Keeps.imp {α : Type} {first second : List Exchange → α → Prop}
    (implies : ∀ exchanges value, first exchanges value → second exchanges value)
    {exchanges : List Exchange} {result : Except Fault α} (keeps : Keeps first exchanges result) :
    Keeps second exchanges result := by
  cases keeps with
  | whole complete => exact .whole (implies _ _ complete)
  | cut fault due =>
    refine .cut fault fun answer => ?_
    obtain ⟨later, value, complete⟩ := due answer
    exact ⟨later, value, implies _ _ complete⟩

theorem Query.nonempty_answer (query : Query) : Nonempty query.Answer := by
  cases query with
  | run workflow name => exact ⟨none⟩
  | previousRun run bySchedule => exact ⟨none⟩
  | instances run task => exact ⟨[]⟩
  | countPrior workflow task before => exact ⟨0⟩
  | downstreamDone subject downstream => exact ⟨true⟩
  | recordFlag key flag value => exact ⟨()⟩

/-- What all whole conversations call for, those that are cut short call for. -/
theorem Keeps.forall_query {α : Type} {protocol : List Exchange → α → Prop}
    {exchanges : List Exchange} {result : Except Fault α} (keeps : Keeps protocol exchanges result)
    (allowed : Query → Prop) (all : ∀ exchanges value, protocol exchanges value →
      ∀ exchange ∈ exchanges, allowed exchange.query) :
    ∀ exchange ∈ exchanges, allowed exchange.query := by
  cases keeps with
  | whole complete => exact all _ _ complete
  | @cut before query fault due =>
    obtain ⟨answer⟩ := query.nonempty_answer
    obtain ⟨later, value, complete⟩ := due answer
    have within := all _ _ complete
    intro exchange member
    rcases List.mem_append.mp member with early | last
    · exact within exchange (List.mem_append_left _ early)
    · rw [List.mem_singleton.mp last]
      exact within (.given query answer) (by simp)

/-- A conversation that comes to no value ends with the call that failed. -/
theorem Keeps.exists_mem_of_error {α : Type} {protocol : List Exchange → α → Prop}
    {exchanges : List Exchange} {fault : Fault} (keeps : Keeps protocol exchanges (.error fault)) :
    ∃ query, ⟨query, .error fault⟩ ∈ exchanges := by
  cases keeps with
  | cut _ due => exact ⟨_, List.mem_append_right _ List.mem_cons_self⟩

namespace Program

variable {α β σ : Type} {exchanges : List Exchange}

/-- The conversations of a program in which every call is answered, and the value it comes to. -/
def Yields : Program α → List Exchange → α → Prop
  | done value, exchanges, found => exchanges = [] ∧ found = value
  | fail _, _, _ => False
  | call query next, exchanges, found => ∃ answer rest,
    exchanges = .given query answer :: rest ∧ (next (.ok answer)).Yields rest found
  | note _ rest, exchanges, found => rest.Yields exchanges found

/-- A call that fails is the last, and its fault is the end of the program. -/
def Propagates : Program α → Prop
  | done _ => True
  | fail _ => True
  | call _ next =>
    (∀ fault, next (.error fault) = fail fault) ∧ ∀ answer, (next (.ok answer)).Propagates
  | note _ rest => rest.Propagates

/-- The program passes on the faults of the store and has no others. -/
def Sound : Program α → Prop
  | done _ => True
  | fail _ => False
  | call _ next =>
    (∀ fault, next (.error fault) = fail fault) ∧ ∀ answer, (next (.ok answer)).Sound
  | note _ rest => rest.Sound

@[simp]
theorem yields_done {value found : α} :
    (done value).Yields exchanges found ↔ exchanges = [] ∧ found = value := Iff.rfl

@[simp]
theorem yields_call {query : Query} {next : Except Fault query.Answer → Program α}
    {found : α} :
    (call query next).Yields exchanges found ↔ ∃ answer rest,
      exchanges = .given query answer :: rest ∧ (next (.ok answer)).Yields rest found := Iff.rfl

@[simp]
theorem yields_log_bind {event : Event} {next : Unit → Program α} {found : α} :
    ((log event).bind next).Yields exchanges found ↔ (next ()).Yields exchanges found := Iff.rfl

@[simp]
theorem yields_ask {query : Query} {found : query.Answer} :
    (ask query).Yields exchanges found ↔ exchanges = [.given query found] := by
  constructor
  · intro asked
    obtain ⟨_, _, rfl, rfl, rfl⟩ := asked
    rfl
  · intro same
    exact ⟨found, [], same, rfl, rfl⟩

@[simp]
theorem yields_bind {program : Program α} {next : α → Program β} {found : β} :
    (program.bind next).Yields exchanges found ↔ ∃ first value second,
      program.Yields first value ∧ (next value).Yields second found ∧
        exchanges = first ++ second := by
  induction program generalizing exchanges with
  | done value =>
    constructor
    · intro yields
      exact ⟨[], value, exchanges, ⟨rfl, rfl⟩, yields, rfl⟩
    · intro split
      obtain ⟨_, _, _, ⟨rfl, rfl⟩, yields, rfl⟩ := split
      exact yields
  | fail fault => simp [bind, Yields]
  | note event rest ih => exact ih
  | call query answer ih =>
    simp only [bind, yields_call, ih]
    constructor
    · intro whole
      obtain ⟨given, _, rfl, first, value, second, before, after, rfl⟩ := whole
      exact ⟨_, value, second, ⟨given, first, rfl, before⟩, after, rfl⟩
    · intro whole
      obtain ⟨_, value, second, ⟨given, first, rfl, before⟩, after, rfl⟩ := whole
      exact ⟨given, _, rfl, first, value, second, before, after, rfl⟩

@[simp]
theorem propagates_done (value : α) : (done value).Propagates := trivial

@[simp]
theorem propagates_fail (fault : Fault) : (fail fault : Program α).Propagates := trivial

@[simp]
theorem propagates_log (event : Event) : (log event).Propagates := trivial

@[simp]
theorem propagates_ask (query : Query) : (ask query).Propagates :=
  ⟨fun _ => rfl, fun _ => trivial⟩

theorem Propagates.bind {program : Program α} {next : α → Program β}
    (propagates : program.Propagates) (later : ∀ value, (next value).Propagates) :
    (program.bind next).Propagates := by
  induction program with
  | done value => exact later value
  | fail fault => trivial
  | note event rest ih => exact ih propagates
  | call query answer ih =>
    obtain ⟨passesOn, answered⟩ := propagates
    exact ⟨fun fault => congrArg (·.bind next) (passesOn fault),
      fun given => ih (.ok given) (answered given)⟩

@[simp]
theorem sound_done (value : α) : (done value).Sound := trivial

@[simp]
theorem sound_log (event : Event) : (log event).Sound := trivial

@[simp]
theorem sound_ask (query : Query) : (ask query).Sound :=
  ⟨fun _ => rfl, fun _ => trivial⟩

theorem Sound.bind {program : Program α} {next : α → Program β} (sound : program.Sound)
    (later : ∀ value, (next value).Sound) : (program.bind next).Sound := by
  induction program with
  | done value => exact later value
  | fail fault => exact sound.elim
  | note event rest ih => exact ih sound
  | call query answer ih =>
    obtain ⟨passesOn, answered⟩ := sound
    exact ⟨fun fault => congrArg (·.bind next) (passesOn fault),
      fun given => ih (.ok given) (answered given)⟩

theorem Sound.propagates {program : Program α} (sound : program.Sound) : program.Propagates := by
  induction program with
  | done value => trivial
  | fail fault => trivial
  | note event rest ih => exact ih sound
  | call query next ih => exact ⟨sound.1, fun given => ih (.ok given) (sound.2 given)⟩

/-- If every call is answered, a program without faults of its own comes to a value. -/
theorem Sound.exists_yields {program : Program α} (sound : program.Sound) :
    ∃ exchanges value, program.Yields exchanges value := by
  induction program with
  | done value => exact ⟨[], value, rfl, rfl⟩
  | fail fault => exact sound.elim
  | note event rest ih => exact ih sound
  | call query answer ih =>
    obtain ⟨given⟩ := query.nonempty_answer
    obtain ⟨exchanges, value, yields⟩ := ih (.ok given) (sound.2 given)
    exact ⟨_, value, given, exchanges, rfl, yields⟩

/-- The calls of a run are all that happens to the store. -/
theorem state_run (store : Store σ) (program : Program α) (state : σ) :
    (program.run store state).state = store.after state (program.run store state).calls := by
  induction program generalizing state with
  | done value => rfl
  | fail fault => rfl
  | note event rest ih => exact ih state
  | call query next ih => exact ih _ _

/-- A call and what follows it, once it is known what came back. -/
theorem run_call_of_answer {store : Store σ} {query : Query} {state after : σ}
    {came : Except Fault query.Answer} (answered : store.answer query state = (came, after))
    (next : Except Fault query.Answer → Program α) :
    (call query next).run store state =
      { (next came).run store after with
        calls := query :: ((next came).run store after).calls } := by
  simp only [run, answered]

/-- A run that comes to a value is a conversation of the program, if that passes on faults. -/
theorem Propagates.yields_of_result_eq_ok {store : Store σ} {program : Program α} {state : σ}
    {value : α} (propagates : program.Propagates)
    (ended : (program.run store state).result = .ok value) :
    program.Yields (store.exchanges state (program.run store state).calls) value := by
  induction program generalizing state with
  | done other =>
    cases ended
    exact ⟨rfl, rfl⟩
  | fail fault => cases ended
  | note event rest ih => exact ih propagates ended
  | call query next ih =>
    cases came : store.answer query state with
    | mk given after =>
      rw [run_call_of_answer came] at ended ⊢
      simp only [Store.exchanges, came]
      cases given with
      | error fault =>
        rw [propagates.1 fault] at ended
        cases ended
      | ok given => exact ⟨given, _, rfl, ih (.ok given) (propagates.2 given) ended⟩

/-- Whatever the store answers, a run without faults of its own is a conversation of the program, or
the beginning of one up to the first call that fails. -/
theorem Sound.keeps_run {program : Program α} (sound : program.Sound) (store : Store σ)
    (state : σ) :
    Keeps program.Yields (store.exchanges state (program.run store state).calls)
      (program.run store state).result := by
  induction program generalizing state with
  | done value => exact .whole ⟨rfl, rfl⟩
  | fail fault => exact sound.elim
  | note event rest ih => exact ih sound state
  | call query next ih =>
    obtain ⟨passesOn, answered⟩ := sound
    cases came : store.answer query state with
    | mk given after =>
      rw [run_call_of_answer came]
      simp only [Store.exchanges, came]
      cases given with
      | error fault =>
        rw [passesOn fault]
        show Keeps _ ([] ++ [⟨query, .error fault⟩]) _
        refine .cut fault fun given => ?_
        obtain ⟨later, value, yields⟩ := (answered given).exists_yields
        exact ⟨later, value, given, later, rfl, yields⟩
      | ok given =>
        have rest := ih (.ok given) (answered given) after
        generalize store.exchanges after ((next (.ok given)).run store after).calls = exchanges
          at rest
        generalize ((next (.ok given)).run store after).result = result at rest ⊢
        cases rest with
        | whole complete => exact .whole ⟨given, _, rfl, complete⟩
        | cut fault due =>
          rw [← List.cons_append]
          refine .cut fault fun answer => ?_
          obtain ⟨later, value, complete⟩ := due answer
          exact ⟨later, value, given, _, rfl, complete⟩

end Program

end RunGate
