import AresCommon.Serial.Watch

/-!
# A timeout from query to query

The owner of a timeout asks it over and over while the clock goes on. A finite timeout counts
down to the time it was made for. What `restart` leaves is as new only when the new duration
is of the kind of the old one: it does not set the flags again.
-/

namespace AresCommon.Serial

open AresCommon.Foundation AresCommon.Foundation.Transition

set_option autoImplicit false

inductive TimeoutQuery where
  | expired
  | timeLeft
  | timeLeftTv
  | infinite
  | nonBlocking
  | duration
  deriving DecidableEq, Repr

inductive TimeoutAnswer where
  | flag (value : Bool)
  | milliseconds (value : Int)
  | timeval (value : Timeval)
  deriving DecidableEq, Repr

namespace Timeout

abbrev QueryMethod (Result : Type) : Type := Method OsCall OsReply Unit Empty Result

def ask (timeout : Timeout) : TimeoutQuery → QueryMethod (TimeoutAnswer × Timeout)
  | .expired => do
      let (expired, timeout) ← timeout.expired
      pure (.flag expired, timeout)
  | .timeLeft => do
      let (left, timeout) ← timeout.timeLeft
      pure (.milliseconds left, timeout)
  | .timeLeftTv => do
      let (tv, timeout) ← timeout.timeLeftTv
      pure (.timeval tv, timeout)
  | .infinite => pure (.flag timeout.infinite, timeout)
  | .nonBlocking => pure (.flag timeout.nonBlocking, timeout)
  | .duration => pure (.milliseconds timeout.duration, timeout)

end Timeout

/-- What a query reads, what it answers and what it leaves of the timeout. -/
inductive Asked (timeout : Timeout) :
    TimeoutQuery → List Int → TimeoutAnswer → Timeout → Prop where
  | expired (times : List Int) (expired : Bool) (timeout' : Timeout)
      (tested : Tested timeout times expired timeout') :
      Asked timeout .expired times (.flag expired) timeout'
  | timeLeft (times : List Int) (left : Int) (timeout' : Timeout)
      (queried : Queried timeout times left timeout') :
      Asked timeout .timeLeft times (.milliseconds left) timeout'
  | timeLeftTv (times : List Int) (left : Int) (timeout' : Timeout)
      (queried : Queried timeout times left timeout') :
      Asked timeout .timeLeftTv times (.timeval (Timeout.timeval left)) timeout'
  | infinite : Asked timeout .infinite [] (.flag timeout.infinite) timeout
  | nonBlocking : Asked timeout .nonBlocking [] (.flag timeout.nonBlocking) timeout
  | duration : Asked timeout .duration [] (.milliseconds timeout.duration) timeout

theorem runs_ask (timeout : Timeout) (query : TimeoutQuery) :
    anyCalls.runs (timeout.ask query) ()
      (fun result _ now => ∃ times : List Int, now = times.map tick ∧
        Asked timeout query times result.1 result.2) (fun _ _ _ => False) [] := by
  cases query with
  | expired =>
      apply Contract.runs_then (runs_expired (fun _ => trivial) timeout)
      intro result _ now ended
      obtain ⟨_, times, same, tested⟩ := ended
      exact ⟨times, same, .expired times _ _ tested⟩
  | timeLeft =>
      apply Contract.runs_then (runs_time_left (fun _ => trivial) timeout)
      intro result _ now ended
      obtain ⟨_, times, same, queried⟩ := ended
      exact ⟨times, same, .timeLeft times _ _ queried⟩
  | timeLeftTv =>
      unfold Timeout.ask Timeout.timeLeftTv
      simp only [Contract.runs_bind]
      apply Contract.runs_mono (runs_time_left (fun _ => trivial) timeout)
      · intro result _ now ended
        obtain ⟨_, times, same, queried⟩ := ended
        exact ⟨times, same, .timeLeftTv times _ _ queried⟩
      · exact fun _ _ _ impossible => impossible
  | infinite => exact ⟨[], rfl, .infinite⟩
  | nonBlocking => exact ⟨[], rfl, .nonBlocking⟩
  | duration => exact ⟨[], rfl, .duration⟩

structure Consultation where
  query : TimeoutQuery
  now : Int
  times : List Int

def showing (now : Int) : (call : OsCall) → OsReply call
  | .clock => now
  | call => obliging call

def TimeoutStep (timeout : Timeout) (made : Consultation) (answer : TimeoutAnswer)
    (timeout' : Timeout) : Prop :=
  ((timeout.ask made.query).on ()).Yields (made.times.map tick)
    (some (.ok (answer, timeout'), ())) ∧ ∀ first ∈ made.times.head?, first = made.now

theorem TimeoutStep.asked {timeout timeout' : Timeout} {made : Consultation}
    {answer : TimeoutAnswer} (step : TimeoutStep timeout made answer timeout') :
    Asked timeout made.query made.times answer timeout' := by
  obtain ⟨_, returned, _⟩ := Contract.runs_sound (runs_ask timeout made.query) step.1
    (Contract.honest_of_always (fun _ _ _ => trivial) _ _)
  obtain ⟨times, same, asked⟩ := returned _ _ rfl
  rw [Contract.recording_after, List.nil_append] at same
  have listed := congrArg readings same
  rw [readings_ticks, readings_ticks] at listed
  rw [listed]
  exact asked

/-! ### Counting down -/

section Countdown

/-- The milliseconds from a time of the clock to the end of a duration, but not below zero. -/
def remaining (start duration now : Int) : Int :=
  max 0 ((start + duration * 1000000 - now).tdiv 1000000)

variable {start duration now : Int}

theorem remaining_eq : remaining start duration now =
    if 0 ≤ start + duration * 1000000 - now then (start + duration * 1000000 - now) / 1000000
    else 0 := by
  unfold remaining
  split
  · rename_i ahead
    rw [Int.tdiv_eq_ediv_of_nonneg ahead]
    omega
  · rename_i past
    have negated := Int.neg_tdiv (start + duration * 1000000 - now) 1000000
    rw [Int.tdiv_eq_ediv_of_nonneg (by omega)] at negated
    omega

theorem remaining_bounds (nonneg : 0 ≤ duration) (after : start ≤ now) :
    0 ≤ remaining start duration now ∧ remaining start duration now ≤ duration := by
  rw [remaining_eq]
  split <;> omega

theorem remaining_antitone {later : Int} (order : now ≤ later) :
    remaining start duration later ≤ remaining start duration now := by
  rw [remaining_eq, remaining_eq]
  split <;> split <;> omega

theorem remaining_le_zero_iff :
    remaining start duration now ≤ 0 ↔ start + duration * 1000000 - now < 1000000 := by
  rw [remaining_eq]
  split <;> omega

def countdown (start duration now : Int) : TimeoutQuery → TimeoutAnswer
  | .expired => .flag (remaining start duration now ≤ 0)
  | .timeLeft => .milliseconds (remaining start duration now)
  | .timeLeftTv => .timeval (Timeout.timeval (remaining start duration now))
  | .infinite => .flag false
  | .nonBlocking => .flag (duration = 0)
  | .duration => .milliseconds duration

/-- A finite timeout whose end is a time of the clock before the last. The steady clock counts
from the start of the system on. -/
structure Ends (start duration : Int) : Prop where
  counted : 0 ≤ start
  nonneg : 0 ≤ duration
  before : start + duration * 1000000 < int64Max

theorem Ends.finite (ends : Ends start duration) : duration ≠ int64Max := by
  have counted := ends.counted
  have before := ends.before
  unfold int64Max at *
  omega

theorem Ends.target (ends : Ends start duration) :
    (Timeout.startingAt start duration).targetTime = start + duration * 1000000 := by
  have counted := ends.counted
  have nonneg := ends.nonneg
  have before := ends.before
  unfold int64Max at before
  simp only [Timeout.startingAt, if_neg ends.finite, Timeout.nanoseconds, int64]
  rw [Int.add_bmod_bmod]
  exact Int.bmod_eq_of_le (by omega) (by omega)

theorem Ends.delta (ends : Ends start duration) (blocking : duration ≠ 0) (after : start ≤ now)
    (word : now < 2 ^ 63) : (Timeout.startingAt start duration).deltaAt now =
      (start + duration * 1000000 - now).tdiv 1000000 := by
  have counted := ends.counted
  have nonneg := ends.nonneg
  have before := ends.before
  unfold int64Max at before
  have positive : 0 < duration := by omega
  have regroup : duration * 1000000 - (now - start) =
      start + duration * 1000000 - now := by omega
  rw [delta_at_starting positive (by omega) after (by omega), regroup]

theorem Ends.queried (ends : Ends start duration) (after : start ≤ now) (word : now < 2 ^ 63)
    {times : List Int} {left : Int} {timeout' : Timeout}
    (queried : Queried (Timeout.startingAt start duration) times left timeout')
    (dated : ∀ first ∈ times.head?, first = now) :
    timeout' = .startingAt start duration ∧ left = remaining start duration now ∧
      times.length ≤ 1 := by
  have bounds := remaining_bounds ends.nonneg after
  cases queried with
  | nonBlocking flag =>
      have zero : duration = 0 := of_decide_eq_true flag
      exact ⟨rfl, by omega, Nat.zero_le _⟩
  | infinite blocking flag => exact absurd (of_decide_eq_true flag) ends.finite
  | steady read blocking finite calm =>
      obtain rfl : read = now := dated read rfl
      rw [ends.delta (of_decide_eq_false blocking) after word]
      exact ⟨rfl, rfl, Nat.le_refl 1⟩
  | jumped read restart blocking finite jump =>
      obtain rfl : read = now := dated read rfl
      have jumped : duration < (Timeout.startingAt start duration).deltaAt read := jump
      rw [ends.delta (of_decide_eq_false blocking) after word] at jumped
      have largest := (le_max_right 0 _).trans bounds.2
      omega

theorem Ends.step (ends : Ends start duration) {made : Consultation} {answer : TimeoutAnswer}
    {timeout' : Timeout} (after : start ≤ made.now) (word : made.now < 2 ^ 63)
    (step : TimeoutStep (.startingAt start duration) made answer timeout') :
    timeout' = .startingAt start duration ∧
      answer = countdown start duration made.now made.query ∧ made.times.length ≤ 1 := by
  have dated := step.2
  have asked := step.asked
  obtain ⟨query, now, times⟩ := made
  cases asked with
  | expired times up timeout' tested =>
      cases tested with
      | never last =>
          rw [ends.target] at last
          exact absurd last (Int.ne_of_lt ends.before)
      | asked other queried =>
          obtain ⟨same, rfl, once⟩ := ends.queried after word queried dated
          exact ⟨same, rfl, once⟩
  | timeLeft times left timeout' queried =>
      obtain ⟨same, rfl, once⟩ := ends.queried after word queried dated
      exact ⟨same, rfl, once⟩
  | timeLeftTv times left timeout' queried =>
      obtain ⟨same, rfl, once⟩ := ends.queried after word queried dated
      exact ⟨same, rfl, once⟩
  | infinite =>
      have flag : (Timeout.startingAt start duration).infinite = false :=
        decide_eq_false ends.finite
      rw [flag]
      exact ⟨rfl, rfl, Nat.zero_le _⟩
  | nonBlocking => exact ⟨rfl, rfl, Nat.zero_le _⟩
  | duration => exact ⟨rfl, rfl, Nat.zero_le _⟩

theorem timeval_denotes {left : Int} (nonneg : 0 ≤ left) (short : left * 1000 < 2 ^ 63) :
    (Timeout.timeval left).sec * 1000000 + (Timeout.timeval left).usec = 1000 * left ∧
      0 ≤ (Timeout.timeval left).usec ∧ (Timeout.timeval left).usec < 1000000 ∧
      int64 (left * 1000) = left * 1000 := by
  have word : int64 (left * 1000) = left * 1000 := Int.bmod_eq_of_le (by omega) (by omega)
  simp only [Timeout.timeval, word]
  rw [Int.tdiv_eq_ediv_of_nonneg nonneg, Int.tmod_eq_emod_of_nonneg (by omega)]
  refine ⟨?_, ?_, ?_, trivial⟩ <;> omega

structure SoundAnswer (start duration : Int) (entry : Consultation × TimeoutAnswer) : Prop where
  once : entry.1.times.length ≤ 1
  timeLeft : entry.1.query = .timeLeft →
    entry.2 = .milliseconds (remaining start duration entry.1.now) ∧
      0 ≤ remaining start duration entry.1.now ∧
      remaining start duration entry.1.now ≤ duration
  expired : entry.1.query = .expired → ∃ up, entry.2 = .flag up ∧
    (up = true ↔ start + duration * 1000000 - entry.1.now < 1000000)
  timeLeftTv : entry.1.query = .timeLeftTv → ∃ tv, entry.2 = .timeval tv ∧
    tv.sec * 1000000 + tv.usec = 1000 * remaining start duration entry.1.now ∧
    0 ≤ tv.usec ∧ tv.usec < 1000000 ∧
    int64 (remaining start duration entry.1.now * 1000) =
      remaining start duration entry.1.now * 1000

/-- The later of two answers shows no more time than the earlier, and does not take back that
the timeout is expired. -/
structure Declines (earlier later : Consultation × TimeoutAnswer) : Prop where
  timeLeft : ∀ left left', earlier.1.query = .timeLeft → earlier.2 = .milliseconds left →
    later.1.query = .timeLeft → later.2 = .milliseconds left' → left' ≤ left
  expired : earlier.1.query = .expired → earlier.2 = .flag true →
    later.1.query = .expired → later.2 = .flag true

theorem Ends.sound (ends : Ends start duration) {entry : Consultation × TimeoutAnswer}
    (after : start ≤ entry.1.now) (once : entry.1.times.length ≤ 1)
    (answered : entry.2 = countdown start duration entry.1.now entry.1.query) :
    SoundAnswer start duration entry := by
  have bounds := remaining_bounds ends.nonneg after
  have counted := ends.counted
  have nonneg := ends.nonneg
  have before := ends.before
  unfold int64Max at before
  constructor
  · exact once
  · intro asked
    rw [asked] at answered
    exact ⟨answered, bounds⟩
  · intro asked
    rw [asked] at answered
    exact ⟨_, answered, decide_eq_true_iff.trans remaining_le_zero_iff⟩
  · intro asked
    rw [asked] at answered
    exact ⟨_, answered, timeval_denotes bounds.1 (by omega)⟩

theorem declines_of_order {earlier later : Consultation × TimeoutAnswer}
    (order : earlier.1.now ≤ later.1.now)
    (first : earlier.2 = countdown start duration earlier.1.now earlier.1.query)
    (second : later.2 = countdown start duration later.1.now later.1.query) :
    Declines earlier later := by
  have fewer : remaining start duration later.1.now ≤ remaining start duration earlier.1.now :=
    remaining_antitone order
  constructor
  · intro left left' asked told asked' told'
    rw [asked, told] at first
    rw [asked', told'] at second
    cases first
    cases second
    exact fewer
  · intro asked told asked'
    rw [asked, told] at first
    rw [asked'] at second
    have up : remaining start duration earlier.1.now ≤ 0 :=
      of_decide_eq_true (TimeoutAnswer.flag.inj first).symm
    rw [second]
    exact congrArg TimeoutAnswer.flag (decide_eq_true (fewer.trans up))

/-- Over any sequence of queries at times that do not go back, a finite timeout is never
restarted; what is left lies between zero and the duration and does not grow; it is expired
exactly when less than a millisecond is left to its end, and stays so; and the `timeval`
is what is left. -/
theorem timeout_counts_down (ends : Ends start duration)
    {trace : List (Consultation × TimeoutAnswer)} {final : Timeout}
    (run : Run TimeoutStep (fun _ made => start ≤ made.now ∧ made.now < 2 ^ 63)
      (.startingAt start duration) trace final)
    (monotone : trace.Pairwise fun earlier later => earlier.1.now ≤ later.1.now) :
    final = .startingAt start duration ∧
      (∀ entry ∈ trace, SoundAnswer start duration entry) ∧ trace.Pairwise Declines := by
  have labels := run.labels (fun timeout => timeout = .startingAt start duration)
    (fun entry => start ≤ entry.1.now ∧ entry.1.times.length ≤ 1 ∧
      entry.2 = countdown start duration entry.1.now entry.1.query)
    (fun timeout made answer timeout' same permitted step => by
      subst same
      obtain ⟨kept, answered, once⟩ := ends.step permitted.1 permitted.2 step
      exact ⟨⟨permitted.1, once, answered⟩, kept⟩) rfl
  refine ⟨labels.2, fun entry listed => ?_, ?_⟩
  · obtain ⟨after, once, answered⟩ := labels.1 entry listed
    exact ends.sound after once answered
  · apply monotone.imp_of_mem
    intro earlier later first second order
    exact declines_of_order order (labels.1 earlier first).2.2 (labels.1 later second).2.2

end Countdown

theorem step_of_still {timeout timeout' : Timeout} {query : TimeoutQuery}
    {answer : TimeoutAnswer} (now : Int)
    (ended : (((timeout.ask query).on ()).play (fun (world : Unit) call =>
      (showing now call, world)) ()).2 = some (.ok (answer, timeout'), ()))
    (read : readings (((timeout.ask query).on ()).play (fun (world : Unit) call =>
      (showing now call, world)) ()).1 = [now]) :
    TimeoutStep timeout ⟨query, now, [now]⟩ answer timeout' := by
  have yields := Program.yields_of_play ended
  obtain ⟨_, returned, _⟩ := Contract.runs_sound (runs_ask timeout query) yields
    (Contract.honest_of_always (fun _ _ _ => trivial) _ _)
  obtain ⟨times, same, _⟩ := returned _ _ rfl
  rw [Contract.recording_after, List.nil_append] at same
  have listed : times = [now] := by rw [← readings_ticks times, ← same, read]
  rw [same, listed] at yields
  exact ⟨yields, fun first shown => (Option.mem_some.mp shown).symm⟩

/-- Two milliseconds from zero on: one is left after 0.5 ms, and none after 1.5 ms. -/
theorem timeout_counts_down_of_two :
    SoundAnswer 0 2 (⟨.expired, 1500000, [1500000]⟩, .flag true) ∧
      Declines (⟨.timeLeft, 500000, [500000]⟩, .milliseconds 1)
        (⟨.expired, 1500000, [1500000]⟩, .flag true) := by
  have first : TimeoutStep (.startingAt 0 2) ⟨.timeLeft, 500000, [500000]⟩ (.milliseconds 1)
      (.startingAt 0 2) := step_of_still 500000 (by decide +kernel) (by decide +kernel)
  have second : TimeoutStep (.startingAt 0 2) ⟨.expired, 1500000, [1500000]⟩ (.flag true)
      (.startingAt 0 2) := step_of_still 1500000 (by decide +kernel) (by decide +kernel)
  have run : Run TimeoutStep (fun _ made => 0 ≤ made.now ∧ made.now < 2 ^ 63) (.startingAt 0 2)
      [(⟨.timeLeft, 500000, [500000]⟩, .milliseconds 1),
        (⟨.expired, 1500000, [1500000]⟩, .flag true)] (.startingAt 0 2) :=
    .snoc (.snoc .nil ⟨by decide, by decide⟩ first) ⟨by decide, by decide⟩ second
  obtain ⟨_, sound, declines⟩ := timeout_counts_down ⟨by decide, by decide, by decide⟩ run
    (List.pairwise_pair.mpr (by decide))
  exact ⟨sound _ (List.mem_cons_of_mem _ List.mem_cons_self), List.pairwise_pair.mp declines⟩

/-! ### Restarting -/

def SameAnswers (one other : Timeout) : Prop :=
  ∀ trace, (∃ last, Run TimeoutStep anyStep one trace last) ↔
    ∃ last, Run TimeoutStep anyStep other trace last

section Restarting

variable {timeout timeout' one other : Timeout} {made : Consultation} {answer : TimeoutAnswer}

def unending (duration : Int) : TimeoutQuery → TimeoutAnswer
  | .expired => .flag false
  | .timeLeft => .milliseconds int64Max
  | .timeLeftTv => .timeval (Timeout.timeval int64Max)
  | .infinite => .flag true
  | .nonBlocking => .flag false
  | .duration => .milliseconds duration

/-- An infinite timeout does not look at the time it would end. -/
theorem ask_infinite (flag : timeout.infinite = true) (blocking : timeout.nonBlocking = false)
    (query : TimeoutQuery) :
    timeout.ask query = pure (unending timeout.duration query, timeout) := by
  have left {Object Error : Type} :
      (timeout.timeLeft : Method OsCall OsReply Object Error _) = pure (int64Max, timeout) := by
    rw [Timeout.timeLeft, blocking, flag]
    rfl
  cases query with
  | expired =>
      unfold Timeout.ask Timeout.expired
      by_cases last : timeout.targetTime = int64Max
      · rw [if_pos last]
        rfl
      · rw [if_neg last, left]
        rfl
  | timeLeft =>
      unfold Timeout.ask
      rw [left]
      rfl
  | timeLeftTv =>
      unfold Timeout.ask Timeout.timeLeftTv
      rw [left]
      rfl
  | infinite =>
      unfold Timeout.ask
      rw [flag]
      rfl
  | nonBlocking =>
      unfold Timeout.ask
      rw [blocking]
      rfl
  | duration => rfl

/-- A restart keeps the flags, whatever starts it. -/
theorem TimeoutStep.flags (step : TimeoutStep timeout made answer timeout') :
    timeout'.infinite = timeout.infinite ∧ timeout'.nonBlocking = timeout.nonBlocking := by
  have queried : ∀ {times left}, Queried timeout times left timeout' →
      timeout'.infinite = timeout.infinite ∧ timeout'.nonBlocking = timeout.nonBlocking := by
    intro times left queried
    cases queried <;> exact ⟨rfl, rfl⟩
  have asked := step.asked
  generalize made.query = query at asked
  generalize made.times = times at asked
  cases asked with
  | expired _ _ _ tested =>
      cases tested with
      | never => exact ⟨rfl, rfl⟩
      | asked _ asked => exact queried asked
  | timeLeft _ _ _ asked => exact queried asked
  | timeLeftTv _ _ _ asked => exact queried asked
  | infinite => exact ⟨rfl, rfl⟩
  | nonBlocking => exact ⟨rfl, rfl⟩
  | duration => exact ⟨rfl, rfl⟩

theorem step_pure (value : TimeoutAnswer) (query : TimeoutQuery) (now : Int)
    (same : timeout.ask query = pure (value, timeout)) :
    TimeoutStep timeout ⟨query, now, []⟩ value timeout := by
  refine ⟨?_, fun _ none => (Option.not_mem_none _ none).elim⟩
  rw [same]
  exact .finished _

theorem TimeoutStep.of_pure {value : TimeoutAnswer}
    (same : timeout.ask made.query = pure (value, timeout))
    (step : TimeoutStep timeout made answer timeout') :
    answer = value ∧ timeout' = timeout ∧ made.times = [] := by
  have yields := step.1
  rw [same] at yields
  obtain ⟨ended, silent⟩ := yields.of_pure
  cases ended
  exact ⟨rfl, rfl, List.map_eq_nil_iff.mp silent⟩

structure BothInfinite (one other : Timeout) : Prop where
  flags : one.infinite = true ∧ other.infinite = true
  blocking : one.nonBlocking = false ∧ other.nonBlocking = false
  duration : one.duration = other.duration

theorem BothInfinite.symm (both : BothInfinite one other) : BothInfinite other one :=
  ⟨both.flags.symm, both.blocking.symm, both.duration.symm⟩

theorem BothInfinite.step (both : BothInfinite one other)
    (step : TimeoutStep one made answer timeout') :
    ∃ other', TimeoutStep other made answer other' ∧ BothInfinite timeout' other' := by
  obtain ⟨query, now, times⟩ := made
  obtain ⟨rfl, rfl, rfl⟩ := step.of_pure (ask_infinite both.flags.1 both.blocking.1 query)
  have same := ask_infinite both.flags.2 both.blocking.2 query
  rw [← both.duration] at same
  exact ⟨other, step_pure _ query now same, both⟩

theorem BothInfinite.answers {trace : List (Consultation × TimeoutAnswer)}
    (both : BothInfinite one other) (run : ∃ last, Run TimeoutStep anyStep one trace last) :
    ∃ last, Run TimeoutStep anyStep other trace last := by
  obtain ⟨last, run⟩ := run
  have matched : ∀ state image made answer state', BothInfinite state image →
      TimeoutStep state made answer state' →
        ∃ image', TimeoutStep image made answer image' ∧ BothInfinite state' image' :=
    fun _ _ _ _ _ related step => related.step step
  obtain ⟨image, lifted, _⟩ := run.simulate (fun _ _ _ _ _ => trivial) matched both
  exact ⟨image, lifted⟩

theorem SameAnswers.pure_eq (same : SameAnswers one other) (query : TimeoutQuery)
    {value value' : TimeoutAnswer} (first : one.ask query = pure (value, one))
    (second : other.ask query = pure (value', other)) : value = value' := by
  have run : Run TimeoutStep anyStep one [(⟨query, 0, []⟩, value)] one :=
    .snoc .nil trivial (step_pure value query 0 first)
  obtain ⟨last, image⟩ := (same _).mp ⟨one, run⟩
  exact (TimeoutStep.of_pure second image.of_single.2).1

/-- A restarted timeout answers like a new one exactly when the new duration is zero if the
first was, infinite if the first was, and else neither. -/
theorem restart_is_new_iff {start initial now renewed : Int}
    {trace : List (Consultation × TimeoutAnswer)}
    (run : Run TimeoutStep anyStep (.startingAt start initial) trace timeout) :
    SameAnswers (timeout.restartAt now renewed) (.startingAt now renewed) ↔
      (initial = int64Max ↔ renewed = int64Max) ∧ (initial = 0 ↔ renewed = 0) := by
  have flags : timeout.infinite = decide (initial = int64Max) ∧
      timeout.nonBlocking = decide (initial = 0) := by
    apply run.preserves (fun timeout => timeout.infinite = decide (initial = int64Max) ∧
      timeout.nonBlocking = decide (initial = 0)) _ ⟨rfl, rfl⟩
    intro timeout made answer timeout' kept _ step
    rw [step.flags.1, step.flags.2]
    exact kept
  constructor
  · intro same
    have infinite := same.pure_eq .infinite rfl rfl
    have blocking := same.pure_eq .nonBlocking rfl rfl
    have infinite := flags.1.symm.trans (TimeoutAnswer.flag.inj infinite)
    have blocking := flags.2.symm.trans (TimeoutAnswer.flag.inj blocking)
    exact ⟨decide_eq_decide.mp infinite, decide_eq_decide.mp blocking⟩
  · intro kinds
    have infinite : timeout.infinite = decide (renewed = int64Max) :=
      flags.1.trans (decide_eq_decide.mpr kinds.1)
    have blocking : timeout.nonBlocking = decide (renewed = 0) :=
      flags.2.trans (decide_eq_decide.mpr kinds.2)
    by_cases endless : renewed = int64Max
    · have whole : decide (renewed = int64Max) = true := decide_eq_true endless
      have waits : decide (renewed = 0) = false := by
        rw [endless]
        decide
      have both : BothInfinite (timeout.restartAt now renewed) (.startingAt now renewed) :=
        ⟨⟨infinite.trans whole, whole⟩, ⟨blocking.trans waits, waits⟩, rfl⟩
      exact fun trace => ⟨both.answers, both.symm.answers⟩
    · have equal : timeout.restartAt now renewed = .startingAt now renewed := by
        simp only [Timeout.restartAt, Timeout.startingAt, if_neg endless, infinite, blocking]
      rw [equal]
      exact fun trace => Iff.rfl

end Restarting

theorem restart_is_new_of_longer :
    SameAnswers ((Timeout.startingAt 0 100).restartAt 7 200) (.startingAt 7 200) :=
  (restart_is_new_iff (.snoc .nil trivial (step_pure (.milliseconds 100) .duration 0 rfl))).mpr
    (by decide)

/-- A timeout that does not block still does not after a restart with 100 ms. -/
theorem restarted_still_non_blocking :
    ¬ ∀ (start initial now renewed : Int) (trace : List (Consultation × TimeoutAnswer))
      (timeout : Timeout), 0 ≤ start → start ≤ now →
        (initial ≠ int64Max → start + initial * 1000000 < int64Max) →
        (renewed ≠ int64Max → now + renewed * 1000000 < int64Max) →
        Run TimeoutStep (fun _ made => start ≤ made.now ∧ made.now ≤ now)
          (.startingAt start initial) trace timeout →
          SameAnswers (timeout.restartAt now renewed) (.startingAt now renewed) := by
  intro always
  have same := always 0 0 5 100 [] _ (by decide) (by decide) (by decide) (by decide) .nil
  have answers := same.pure_eq .nonBlocking rfl rfl
  cases answers

end AresCommon.Serial
