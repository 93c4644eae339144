import Mathlib.Order.Nat
import RunGate.Admission.Polling
import RunGate.Proofs.Admission.Snapshot

/-! When polling stops: at the first load that fails, or whose evaluation fails or admits, or after
which the options allow no further attempt. It then ends as that load alone would have it end. -/

namespace RunGate

/-- What a load comes to: its own fault, or the end of the evaluation of the snapshot. -/
def Evaluator.ending (evaluator : Evaluator) (load : Journal Snapshot) : Except Fault Decision :=
  load.result >>= fun snapshot => (Gate.evaluate evaluator snapshot).result

/-- Whether polling stops with an attempt, given its number, counted from one, and its end. -/
def PollOptions.Stops (options : PollOptions) (number : Nat) (ending : Except Fault Decision) :
    Prop :=
  (∃ fault, ending = .error fault) ∨ (∃ decision, ending = .ok decision ∧ decision.admitted = true) ∨
    options.interval = none ∨ ∃ limit, options.maxAttempts = some limit ∧ limit.toNat ≤ number

/-- The loads, counted from zero, at which polling stops if it gets there. -/
def Evaluator.stops (evaluator : Evaluator) (options : PollOptions)
    (source : Nat → Journal Snapshot) : Set Nat :=
  {count | options.Stops (count + 1) (evaluator.ending (source count))}

/-- The options allow another attempt after so many. There is always a first one. -/
def PollOptions.Leaves (options : PollOptions) (count : Nat) : Prop :=
  ∀ limit, options.maxAttempts = some limit → count < max 1 limit.toNat

/-- The poller that has made so many attempts. -/
def Evaluator.pollerAfter (evaluator : Evaluator) (options : PollOptions) (count : Nat) : Poller :=
  Gate.poller ⟨evaluator, options, UInt32.ofNat count⟩

/-- Polling from the start on a sequence of loads comes to a poller after so many of them. -/
inductive Poller.ComesTo (source : Nat → Journal Snapshot) (start : Poller) : Nat → Poller → Prop
  | start : ComesTo source start 0 start
  | paused {count poller after interval} (before : ComesTo source start count poller)
      (pauses : (poller.step (source count)).1 = .paused after interval) :
      ComesTo source start (count + 1) after

variable {evaluator : Evaluator} {options : PollOptions} {source : Nat → Journal Snapshot}
  {load : Journal Snapshot} {count rounds : Nat} {start poller after : Poller}

namespace Gate

private theorem fst_attempt (gate : Gate) (snapshot : Snapshot) :
    (gate.attempt snapshot).1 = gate.counted := by
  unfold attempt
  dsimp only
  split <;> rfl

private theorem result_attempt (gate : Gate) (snapshot : Snapshot) :
    (gate.attempt snapshot).2.result =
      (evaluate gate.evaluator snapshot).result.map gate.counted.conclude := by
  have same : gate.counted.evaluator = gate.evaluator := rfl
  unfold attempt
  dsimp only
  rw [same]
  cases (evaluate gate.evaluator snapshot).result <;> rfl

end Gate

namespace Poller

private theorem fst_step (poller : Poller) (load : Journal Snapshot) :
    (poller.step load).1 =
      match poller.gate.evaluator.ending load with
      | .error fault => .ended (.error fault)
      | .ok decision =>
        match poller.options.interval with
        | none => .ended (.ok decision)
        | some interval =>
          if (poller.gate.counted.conclude decision).again then
            .paused { poller with gate := poller.gate.counted } interval
          else .ended (.ok decision) := by
  unfold step Evaluator.ending
  cases load.result with
  | error fault => rfl
  | ok snapshot =>
    have counted := poller.gate.fst_attempt snapshot
    have concluded := poller.gate.result_attempt snapshot
    simp only [ok_bind]
    rw [concluded, counted]
    cases (Gate.evaluate poller.gate.evaluator snapshot).result with
    | error fault => rfl
    | ok decision =>
      cases poller.options.interval with
      | none => rfl
      | some interval =>
        cases again : (poller.gate.counted.conclude decision).again with
        | true => simp only [Except.map, again, ↓reduceIte]
        | false =>
          simp only [Except.map, again, Bool.false_eq_true, ↓reduceIte]
          rfl

end Poller

namespace PollOptions

@[simp]
theorem stops_ok_iff {number : Nat} {decision : Decision} :
    options.Stops number (.ok decision) ↔ decision.admitted = true ∨ options.interval = none ∨
      ∃ limit, options.maxAttempts = some limit ∧ limit.toNat ≤ number := by
  simp [Stops]

private theorem leaves_zero (options : PollOptions) : options.Leaves 0 :=
  fun _ _ => by omega

private theorem leaves_of_not_stops {number : Nat} {ending : Except Fault Decision}
    (goesOn : ¬options.Stops number ending) : options.Leaves number := by
  intro limit limited
  have below : ¬limit.toNat ≤ number := fun reached =>
    goesOn (.inr (.inr (.inr ⟨limit, limited, reached⟩)))
  omega

/-- The limit is a number that can be counted to, so there is room for every attempt up to it. -/
private theorem Leaves.succ_lt_size {limit : UInt32} (left : options.Leaves count)
    (limited : options.maxAttempts = some limit) : count + 1 < UInt32.size := by
  have below := left limit limited
  have counted := limit.toNat_lt_size
  have size : UInt32.size = 4294967296 := rfl
  omega

end PollOptions

namespace Evaluator

private theorem attempts_pollerAfter (evaluator : Evaluator) (options : PollOptions)
    (bounded : count < UInt32.size) :
    (evaluator.pollerAfter options count).gate.attempts.toNat = count :=
  UInt32.toNat_ofNat_of_lt' bounded

private theorem mem_stops_iff : count ∈ evaluator.stops options source ↔
    options.Stops (count + 1) (evaluator.ending (source count)) := .rfl

@[simp]
theorem evaluator_pollerAfter (evaluator : Evaluator) (options : PollOptions) (count : Nat) :
    (evaluator.pollerAfter options count).gate.evaluator = evaluator := rfl

@[simp]
theorem options_pollerAfter (evaluator : Evaluator) (options : PollOptions) (count : Nat) :
    (evaluator.pollerAfter options count).options = options := rfl

private theorem counted_pollerAfter (evaluator : Evaluator) (options : PollOptions) (count : Nat) :
    (evaluator.pollerAfter options count).gate.counted =
      (evaluator.pollerAfter options (count + 1)).gate := by
  simp [pollerAfter, Gate.poller, Gate.counted, UInt32.ofNat_add]

private theorem spent_pollerAfter_iff (evaluator : Evaluator) (left : options.Leaves count) :
    (evaluator.pollerAfter options (count + 1)).gate.spent = true ↔
      ∃ limit, options.maxAttempts = some limit ∧ limit.toNat ≤ count + 1 := by
  show options.maxAttempts.any _ = true ↔ _
  rw [Option.any_eq_true]
  refine exists_congr fun limit => and_congr_right fun limited => ?_
  -- The gate compares words. They order as the numbers do because the count is in range.
  rw [decide_eq_true_iff, UInt32.le_iff_toNat_le,
    attempts_pollerAfter evaluator options (left.succ_lt_size limited)]

/-- The next attempt asks for another one after it exactly if polling does not stop there. -/
theorem again_iff (left : options.Leaves count) (decision : Decision) :
    ((evaluator.pollerAfter options (count + 1)).gate.conclude decision).again = true ↔
      ¬options.Stops (count + 1) (.ok decision) := by
  have interval : (evaluator.pollerAfter options (count + 1)).gate.options.interval.isSome = true ↔
      ¬options.interval = none := Option.isSome_iff_ne_none
  rw [PollOptions.stops_ok_iff, ← spent_pollerAfter_iff evaluator left]
  simp only [Gate.conclude, Bool.and_eq_true, Bool.not_eq_true', interval, not_or,
    Bool.not_eq_true, and_assoc]

private theorem step_of_stops (left : options.Leaves count)
    (stops : options.Stops (count + 1) (evaluator.ending load)) :
    ((evaluator.pollerAfter options count).step load).1 = .ended (evaluator.ending load) := by
  rw [Poller.fst_step, counted_pollerAfter, evaluator_pollerAfter, options_pollerAfter]
  cases ended : evaluator.ending load with
  | error fault => rfl
  | ok decision =>
    rw [ended] at stops
    cases options.interval with
    | none => rfl
    | some interval => exact if_neg fun again => (again_iff left decision).mp again stops

private theorem step_of_goesOn (left : options.Leaves count)
    (goesOn : ¬options.Stops (count + 1) (evaluator.ending load)) :
    ∃ interval, ((evaluator.pollerAfter options count).step load).1 =
      .paused (evaluator.pollerAfter options (count + 1)) interval := by
  rw [Poller.fst_step, counted_pollerAfter, evaluator_pollerAfter, options_pollerAfter]
  cases ended : evaluator.ending load with
  | error fault => exact absurd (.inl ⟨fault, ended⟩) goesOn
  | ok decision =>
    rw [ended] at goesOn
    cases pause : options.interval with
    | none => exact absurd (.inr (.inr (.inl pause))) goesOn
    | some interval => exact ⟨interval, if_pos ((again_iff left decision).mpr goesOn)⟩

/-- Polling gets past the loads at which it does not stop. Each of them leaves another attempt, which
is what keeps the counter in range for the next. -/
private theorem comesTo_of_goesOn
    (goesOn : ∀ earlier < count, earlier ∉ evaluator.stops options source) :
    options.Leaves count ∧
      Poller.ComesTo source (evaluator.pollerAfter options 0) count
        (evaluator.pollerAfter options count) := by
  induction count with
  | zero => exact ⟨options.leaves_zero, .start⟩
  | succ count ih =>
    obtain ⟨left, before⟩ := ih fun earlier below => goesOn earlier (Nat.lt_succ_of_lt below)
    have further := goesOn count count.lt_succ_self
    obtain ⟨interval, pauses⟩ := step_of_goesOn left further
    exact ⟨PollOptions.leaves_of_not_stops further, .paused before pauses⟩

private theorem eq_of_comesTo
    (comes : Poller.ComesTo source (evaluator.pollerAfter options 0) count poller) :
    options.Leaves count ∧ poller = evaluator.pollerAfter options count := by
  induction comes with
  | start => exact ⟨options.leaves_zero, rfl⟩
  | @paused count poller after interval before pauses ih =>
    obtain ⟨left, rfl⟩ := ih
    -- A round that pauses was made at a load at which polling does not stop.
    by_cases stops : count ∈ evaluator.stops options source
    · rw [step_of_stops left stops] at pauses
      cases pauses
    · obtain ⟨pause, leads⟩ := step_of_goesOn left stops
      rw [leads] at pauses
      cases pauses
      exact ⟨PollOptions.leaves_of_not_stops stops, rfl⟩

end Evaluator

namespace Poller

/-- The end of polling and the number of loads, without what was logged. -/
def Polled.outcome (polled : Polled) : Except Fault Decision × Nat :=
  (polled.result, polled.loads)

private theorem outcome_of_ended {result : Except Fault Decision}
    (ended : (poller.step (source count)).1 = .ended result) (rounds : Nat) :
    (pollFrom source (rounds + 1) count poller).map Polled.outcome = some (result, count + 1) := by
  rw [pollFrom]
  cases round : poller.step (source count) with
  | mk came events =>
    rw [round] at ended
    cases ended
    rfl

private theorem outcome_of_paused {interval : Nat}
    (pauses : (poller.step (source count)).1 = .paused after interval) (rounds : Nat) :
    (pollFrom source (rounds + 1) count poller).map Polled.outcome =
      (pollFrom source rounds (count + 1) after).map Polled.outcome := by
  rw [pollFrom]
  cases round : poller.step (source count) with
  | mk came events =>
    rw [round] at pauses
    cases pauses
    exact Option.map_map ..

private theorem outcome_of_comesTo (comes : ComesTo source start count poller) (rounds : Nat) :
    (start.poll source (count + rounds)).map Polled.outcome =
      (pollFrom source rounds count poller).map Polled.outcome := by
  induction comes generalizing rounds with
  | start =>
    rw [Nat.zero_add]
    exact Option.map_map ..
  | @paused count poller after interval before pauses ih =>
    rw [Nat.add_right_comm, Nat.add_assoc, ih, outcome_of_paused pauses]

end Poller

namespace Evaluator

private theorem poll_of_goesOn
    (goesOn : ∀ earlier < rounds, earlier ∉ evaluator.stops options source) :
    (evaluator.pollerAfter options 0).poll source rounds = none := by
  obtain ⟨-, comes⟩ := comesTo_of_goesOn goesOn
  exact Option.map_eq_none_iff.mp (Poller.outcome_of_comesTo comes 0)

/-- At the first load at which polling stops it ends as that load has it end. -/
theorem poll_of_isLeast {last : Nat} (least : IsLeast (evaluator.stops options source) last)
    (enough : last < rounds) :
    ∃ polled, (evaluator.pollerAfter options 0).poll source rounds = some polled ∧
      polled.result = evaluator.ending (source last) ∧ polled.loads = last + 1 := by
  obtain ⟨further, rfl⟩ := Nat.exists_eq_add_of_lt enough
  have goesOn : ∀ earlier < last, earlier ∉ evaluator.stops options source :=
    fun earlier below stops => absurd (least.2 stops) (Nat.not_le.mpr below)
  obtain ⟨left, comes⟩ := comesTo_of_goesOn goesOn
  have ended := Poller.outcome_of_ended (step_of_stops left least.1) further
  rw [← Poller.outcome_of_comesTo comes, ← Nat.add_assoc] at ended
  obtain ⟨polled, polls, outcome⟩ := Option.map_eq_some_iff.mp ended
  exact ⟨polled, polls, congrArg Prod.fst outcome, congrArg Prod.snd outcome⟩

/-- A limit makes polling stop, at the attempt of that number at the latest. -/
theorem exists_isLeast_of_limited (evaluator : Evaluator) (source : Nat → Journal Snapshot)
    {limit : UInt32} (limited : options.maxAttempts = some limit) :
    ∃ last, IsLeast (evaluator.stops options source) last ∧ last < max 1 limit.toNat := by
  -- The first attempt is made even if the limit is zero, and is then past it.
  have reached : max 1 limit.toNat - 1 ∈ evaluator.stops options source :=
    .inr (.inr (.inr ⟨limit, limited, by omega⟩))
  classical
  have least := Nat.isLeast_find ⟨_, reached⟩
  have bound := least.2 reached
  exact ⟨_, least, by omega⟩

/-- Without an interval polling stops at the first load. -/
theorem isLeast_zero_of_single (evaluator : Evaluator) (source : Nat → Journal Snapshot)
    (single : options.interval = none) : IsLeast (evaluator.stops options source) 0 :=
  ⟨.inr (.inr (.inl single)), fun _ _ => Nat.zero_le _⟩

/-- Where polling has come to its end, it is at the first load at which it stops. -/
theorem exists_isLeast_of_poll {polled : Poller.Polled}
    (polls : (evaluator.pollerAfter options 0).poll source rounds = some polled) :
    ∃ last, IsLeast (evaluator.stops options source) last ∧
      polled.result = evaluator.ending (source last) ∧ polled.loads = last + 1 := by
  by_cases goesOn : ∀ earlier < rounds, earlier ∉ evaluator.stops options source
  · rw [poll_of_goesOn goesOn] at polls
    cases polls
  · simp only [Classical.not_forall, Classical.not_not] at goesOn
    obtain ⟨count, below, stops⟩ := goesOn
    classical
    have least := Nat.isLeast_find ⟨count, stops⟩
    have bound := least.2 stops
    obtain ⟨same, pollsSame, result, loads⟩ := poll_of_isLeast least (Nat.lt_of_le_of_lt bound below)
    rw [polls] at pollsSame
    cases pollsSame
    exact ⟨_, least, result, loads⟩

/-- Polling with a fresh gate stops at the first load that fails, or whose evaluation fails or admits,
or after which there is no interval or the limit is reached. It then ends as that load alone has it
end, whatever was loaded before, and nothing more is loaded. Where there is no such load, polling has
no end. A limit allows so many attempts, at least one, and the counter never runs over. -/
theorem polls_until_stop (evaluator : Evaluator) (options : PollOptions)
    (source : Nat → Journal Snapshot) :
    let gate : Gate := ⟨evaluator, options, 0⟩
    let stops := evaluator.stops options source
    (∀ last, IsLeast stops last → ∀ rounds,
      (last < rounds → ∃ polled, gate.poll source rounds = some polled ∧
        polled.result = evaluator.ending (source last) ∧ polled.loads = last + 1) ∧
      (rounds ≤ last → gate.poll source rounds = none)) ∧
    ((∀ count, count ∉ stops) → ∀ rounds, gate.poll source rounds = none) ∧
    ∀ limit, options.maxAttempts = some limit →
      (∃ polled, gate.poll source (max 1 limit.toNat) = some polled ∧
        polled.loads ≤ max 1 limit.toNat) ∧
      ∀ count poller, Poller.ComesTo source gate.poller count poller →
        count < max 1 limit.toNat ∧ poller.gate.attempts.toNat = count ∧
          poller.gate.attempts.toNat + 1 < UInt32.size := by
  intro gate stops
  refine ⟨fun last least rounds => ⟨poll_of_isLeast least, fun few => ?_⟩,
    fun never rounds => poll_of_goesOn fun earlier _ => never earlier, fun limit limited => ⟨?_, ?_⟩⟩
  · refine poll_of_goesOn fun earlier below stops => ?_
    have := least.2 stops
    omega
  · obtain ⟨last, least, below⟩ := exists_isLeast_of_limited evaluator source limited
    obtain ⟨polled, polls, -, loads⟩ := poll_of_isLeast least below
    exact ⟨polled, polls, by omega⟩
  · intro count poller comes
    obtain ⟨left, rfl⟩ := eq_of_comesTo comes
    have bounded := left.succ_lt_size limited
    have attempts := attempts_pollerAfter evaluator options (Nat.lt_of_succ_lt bounded)
    exact ⟨left limit limited, attempts, by rw [attempts]; exact bounded⟩

/-- An instance is running when it is loaded first and no longer the second time, where polling stops;
if it never ceases to run, polling has no end, or one attempt if the limit is zero. -/
theorem polls_until_stop_running :
    let load (state : TaskState) : Journal Snapshot :=
      pure ⟨.ofScenario .daily, .empty, ⟨⟨"etl", "load", "monday", unmapped⟩, .midnight 0, state⟩, {}⟩
    let source (count : Nat) := if count = 0 then load .running else load .success
    let busy (_ : Nat) := load .running
    let ask : Evaluator := ⟨[.notRunning], .admission⟩
    let gate (limit : Option UInt32) : Gate := ⟨ask, ⟨some 1000, limit⟩, 0⟩
    (IsLeast (ask.stops ⟨some 1000, some 3⟩ source) 1 ∧
      (∃ polled, (gate (some 3)).poll source 2 = some polled ∧
        polled.result = .ok ⟨true, .admission, [⟨.notRunning, .idle⟩]⟩ ∧ polled.loads = 2) ∧
      (gate (some 3)).poll source 1 = none) ∧
    ((∀ count, count ∉ ask.stops ⟨some 1000, none⟩ busy) ∧
      ∀ rounds, (gate none).poll busy rounds = none) ∧
    (∃ polled, (gate (some 0)).poll busy 1 = some polled ∧ polled.loads ≤ 1) ∧
    ∃ poller, Poller.ComesTo source (gate (some 3)).poller 1 poller ∧
      poller.gate.attempts.toNat = 1 := by
  intro load source busy ask gate
  have denied : ask.ending (load .running) =
      .ok ⟨false, .admission, [⟨.notRunning, .alreadyRunning⟩]⟩ := rfl
  have admitted : ask.ending (load .success) =
      .ok ⟨true, .admission, [⟨.notRunning, .idle⟩]⟩ := rfl
  have least : IsLeast (ask.stops ⟨some 1000, some 3⟩ source) 1 := by
    refine ⟨.inr (.inl ⟨_, admitted, rfl⟩), fun count stops => ?_⟩
    by_contra below
    obtain rfl : count = 0 := by omega
    rw [mem_stops_iff, show source 0 = load .running from rfl, denied] at stops
    revert stops
    simp
  have never : ∀ count, count ∉ ask.stops ⟨some 1000, none⟩ busy := by
    intro count
    rw [mem_stops_iff, denied]
    simp
  have comes : Poller.ComesTo source (gate (some 3)).poller 1 _ := .paused .start rfl
  obtain ⟨stopped, -, limited⟩ := polls_until_stop ask ⟨some 1000, some 3⟩ source
  obtain ⟨-, endless, -⟩ := polls_until_stop ask ⟨some 1000, none⟩ busy
  obtain ⟨-, -, once⟩ := polls_until_stop ask ⟨some 1000, some 0⟩ busy
  exact ⟨⟨least, (stopped 1 least 2).1 (by decide), (stopped 1 least 1).2 (by decide)⟩,
    ⟨never, endless never⟩, (once 0 rfl).1, _, comes, ((limited 3 rfl).2 1 _ comes).2.1⟩

end Evaluator

end RunGate
