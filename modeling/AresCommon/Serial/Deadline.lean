import AresCommon.Serial.Countdown
import AresCommon.Serial.Reception
import AresCommon.Serial.Transmission

/-!
# How long a call may wait

`read` and `write` wait in `select` only. A call with a finite timeout passes on what is left
of it at the reading just before, so that no wait outlasts the timeout; and when nothing is
left the `select` that is told so is the last one.
-/

namespace AresCommon.Serial

open AresCommon.Foundation

set_option autoImplicit false

def selectLimit : OsCall → Option (Option Timeval)
  | .on _ (.selectRead limit) => some limit
  | .on _ (.selectWrite limit) => some limit
  | _ => none

def Polls (event : OsEvent) : Prop := selectLimit event.1 = some (some ⟨0, 0⟩)

/-- The first and the last reading of a call whose clock is right up to the end of its
timeout. -/
structure Dated (duration : Int) (past : List OsEvent) (first last : Int) : Prop where
  begins : (readings past).head? = some first
  reads : (readings past).getLast? = some last
  ends : Ends first duration
  steady : Steady (readings past)

/-! ### The clock of a call -/

section Clock

variable {duration first last : Int} {timeout timeout' : Timeout} {past late : List OsEvent}
variable {times : List Int}

theorem Steady.before {earlier later : List Int} (steady : Steady (earlier ++ later)) :
    Steady earlier :=
  ⟨(List.pairwise_append.mp steady.monotone).1,
    fun now listed => steady.range now (List.mem_append_left later listed)⟩

namespace Dated

theorem first_le (dated : Dated duration past first last) : first ≤ last := by
  obtain ⟨later, same⟩ := List.head?_eq_some_iff.mp dated.begins
  have steady := dated.steady
  rw [same] at steady
  exact steady.head_le last (same ▸ List.mem_of_getLast? dated.reads)

theorem in_range (dated : Dated duration past first last) : last < 2 ^ 63 :=
  (dated.steady.range last (List.mem_of_getLast? dated.reads)).2

theorem remaining_bounds (dated : Dated duration past first last) :
    0 ≤ remaining first duration last ∧ remaining first duration last ≤ duration :=
  Serial.remaining_bounds dated.ends.nonneg dated.first_le

theorem before (dated : Dated duration (past ++ late) first last)
    (read : readings past ≠ []) :
    ∃ middle, Dated duration past first middle ∧ middle ≤ last := by
  have steady := dated.steady
  have begins := dated.begins
  rw [readings_append] at steady begins
  rw [List.head?_append_of_ne_nil _ read] at begins
  refine ⟨(readings past).getLast read, ⟨begins, List.getLast?_eq_some_getLast read,
    dated.ends, steady.before⟩, ?_⟩
  apply dated.steady.le_last dated.reads
  rw [readings_append]
  exact List.mem_append_left _ (List.getLast_mem read)

theorem silent (dated : Dated duration (past ++ late) first last) (quiet : readings late = []) :
    Dated duration past first last := by
  have same : readings (past ++ late) = readings past := by
    rw [readings_append, quiet, List.append_nil]
  exact ⟨same ▸ dated.begins, same ▸ dated.reads, dated.ends, same ▸ dated.steady⟩

end Dated

/-- A timeout that ends never restarts. -/
theorem Watch.after_steady {later : List Int} (ends : Ends first duration)
    (steady : Steady (first :: later)) :
    Watch.after duration (first :: later) = some ⟨.startingAt first duration, false⟩ := by
  induction later using List.reverseRecOn with
  | nil => rfl
  | append_singleton later now ih =>
      have before : Steady (first :: later) := steady.before
      have forward := steady.head_le now (by simp)
      have word := (steady.range now (by simp)).2
      have calm : ¬duration < (Timeout.startingAt first duration).deltaAt now := by
        by_cases zero : duration = 0
        · have counted := ends.counted
          have wide : int64 (first - now) = first - now :=
            Int.bmod_eq_of_le_mul_two (by omega) (by omega)
          rw [Timeout.deltaAt, ends.target, zero]
          simp only [Int.zero_mul, Int.add_zero, wide, Int.not_lt]
          have negated := Int.neg_tdiv (now - first) 1000000
          rw [Int.neg_sub] at negated
          have nonneg : 0 ≤ (now - first).tdiv 1000000 :=
            Int.tdiv_nonneg (by omega) (by decide)
          omega
        · rw [ends.delta zero forward word]
          have bounds := remaining_bounds ends.nonneg forward
          have largest := (le_max_right 0 _).trans bounds.2
          omega
      rw [← List.cons_append, Watch.after_snoc, ih before]
      simp only [Watch.read]
      exact congrArg some (congrArg (Watch.mk _) (decide_eq_false calm))

theorem Follows.has_read (follows : Follows duration timeout past)
    (finite : duration ≠ int64Max) : readings past ≠ [] := by
  rw [Follows, if_neg finite] at follows
  intro none
  rw [none] at follows
  cases follows

theorem Follows.started_at (follows : Follows duration timeout past)
    (dated : Dated duration past first last) : timeout = .startingAt first duration := by
  obtain ⟨later, same⟩ := List.head?_eq_some_iff.mp dated.begins
  have steady := dated.steady
  rw [same] at steady
  rw [Follows, if_neg dated.ends.finite, same, Watch.after_steady dated.ends steady] at follows
  cases follows
  rfl

theorem Dated.left_eq {left : Int}
    (dated : Dated duration (past ++ times.map tick) first last)
    (follows : Follows duration timeout past) (queried : Queried timeout times left timeout') :
    left = remaining first duration last := by
  obtain ⟨middle, before, _⟩ := dated.before (follows.has_read dated.ends.finite)
  have started := follows.started_at before
  subst started
  have forward := dated.first_le
  have word := dated.in_range
  rcases times with _ | ⟨now, _ | ⟨next, later⟩⟩
  · exact (dated.ends.queried forward word queried fun _ none =>
      (Option.not_mem_none _ none).elim).2.1
  · have reads := dated.reads
    rw [readings_append, readings_ticks, List.getLast?_concat] at reads
    cases reads
    exact (dated.ends.queried forward word queried fun _ shown =>
      (Option.mem_some.mp shown).symm).2.1
  · have listed : now ∈ readings (past ++ (now :: next :: later).map tick) := by
      rw [readings_append, readings_ticks]
      exact List.mem_append_right _ List.mem_cons_self
    have head : first ≤ now := by
      have steady := dated.steady
      obtain ⟨others, same⟩ := List.head?_eq_some_iff.mp dated.begins
      rw [same] at steady listed
      exact steady.head_le now listed
    have once := (dated.ends.queried head (dated.steady.range now listed).2 queried
      fun _ shown => (Option.mem_some.mp shown).symm).2.2
    simp only [List.length_cons] at once
    omega

end Clock

/-! ### The calls -/

/-- A `select` waits for what is left at the last reading, and none has only polled before. -/
def EndsInTime (duration : Int) (past : List OsEvent) (call : OsCall) : Prop :=
  ∀ limit ∈ selectLimit call, if duration = int64Max then limit = none else
    ∃ first last tv, limit = some tv ∧ (readings past).head? = some first ∧
      (readings past).getLast? = some last ∧ (Dated duration past first last →
        tv = Timeout.timeval (remaining first duration last) ∧ ∀ event ∈ past, ¬Polls event)

def PollsAtEnd (duration : Int) (past : List OsEvent) : Prop :=
  ∀ first last, Dated duration past first last → ∀ event ∈ past, Polls event →
    remaining first duration last = 0

def Unpolled (duration : Int) (past : List OsEvent) : Prop :=
  ∀ first last, Dated duration past first last → ∀ event ∈ past, ¬Polls event

theorem polls_tick {times : List Int} {event : OsEvent} (occurs : event ∈ times.map tick) :
    ¬Polls event := by
  obtain ⟨now, _, rfl⟩ := List.mem_map.mp occurs
  rintro ⟨⟩

theorem polls_timeval_iff {left : Int} (nonneg : 0 ≤ left) (short : left * 1000 < 2 ^ 63) :
    Timeout.timeval left = ⟨0, 0⟩ ↔ left = 0 := by
  obtain ⟨total, _, _, _⟩ := timeval_denotes nonneg short
  constructor
  · intro zero
    rw [zero] at total
    simp only at total
    omega
  · rintro rfl
    rfl

section Invariants

variable {duration : Int} {past late : List OsEvent} {times : List Int}
variable {timeout timeout' : Timeout}

theorem Unpolled.quiet (unpolled : Unpolled duration past) (quiet : readings late = [])
    (never : ∀ event ∈ late, ¬Polls event) : Unpolled duration (past ++ late) := by
  intro first last dated event occurs
  rcases List.mem_append.mp occurs with occurs | occurs
  · exact unpolled first last (dated.silent quiet) event occurs
  · exact never event occurs

theorem Unpolled.ticks (unpolled : Unpolled duration past)
    (follows : Follows duration timeout past) (times : List Int) :
    Unpolled duration (past ++ times.map tick) := by
  intro first last dated event occurs
  obtain ⟨middle, before, _⟩ := dated.before (follows.has_read dated.ends.finite)
  rcases List.mem_append.mp occurs with occurs | occurs
  · exact unpolled first middle before event occurs
  · exact polls_tick occurs

theorem PollsAtEnd.ticks (polls : PollsAtEnd duration past)
    (follows : Follows duration timeout past) (times : List Int) :
    PollsAtEnd duration (past ++ times.map tick) := by
  intro first last dated event occurs polled
  obtain ⟨middle, before, order⟩ := dated.before (follows.has_read dated.ends.finite)
  rcases List.mem_append.mp occurs with occurs | occurs
  · have nothing := polls first middle before event occurs polled
    have fewer : remaining first duration last ≤ remaining first duration middle :=
      remaining_antitone order
    have nonneg := dated.remaining_bounds.1
    omega
  · exact absurd polled (polls_tick occurs)

theorem PollsAtEnd.quiet (polls : PollsAtEnd duration past) (quiet : readings late = [])
    (never : ∀ event ∈ late, ¬Polls event) : PollsAtEnd duration (past ++ late) := by
  intro first last dated event occurs polled
  rcases List.mem_append.mp occurs with occurs | occurs
  · exact polls first last (dated.silent quiet) event occurs polled
  · exact absurd polled (never event occurs)

theorem PollsAtEnd.select (polls : PollsAtEnd duration past) (event : OsEvent)
    (ends : EndsInTime duration past event.1) (quiet : readings [event] = []) :
    PollsAtEnd duration (past ++ [event]) := by
  intro first last dated other occurs polled
  have before := dated.silent quiet
  rcases List.mem_append.mp occurs with occurs | occurs
  · exact polls first last before other occurs polled
  · obtain rfl := List.mem_singleton.mp occurs
    have limit := ends (some ⟨0, 0⟩) polled
    rw [if_neg dated.ends.finite] at limit
    obtain ⟨first', last', tv, zero, begins, reads, right⟩ := limit
    obtain rfl : first = first' := Option.some.inj (before.begins.symm.trans begins)
    obtain rfl : last = last' := Option.some.inj (before.reads.symm.trans reads)
    have bounds := before.remaining_bounds
    have counted := dated.ends.counted
    have short := dated.ends.before
    unfold int64Max at short
    apply (polls_timeval_iff bounds.1 (by omega)).mp
    exact (right before).1.symm.trans (Option.some.inj zero).symm

theorem PollsAtEnd.unpolled (polls : PollsAtEnd duration past)
    (left : ∀ first last, Dated duration past first last → 0 < remaining first duration last) :
    Unpolled duration past := by
  intro first last dated event occurs polled
  exact absurd (polls first last dated event occurs polled) (left first last dated).ne'

theorem Tested.remains {first last : Int} (tested : Tested timeout times false timeout')
    (follows : Follows duration timeout past)
    (dated : Dated duration (past ++ times.map tick) first last) :
    0 < remaining first duration last := by
  generalize up : false = expired at tested
  cases tested with
  | never end_ =>
      obtain ⟨middle, before, _⟩ := dated.before (follows.has_read dated.ends.finite)
      rw [follows.started_at before, dated.ends.target] at end_
      exact absurd end_ (Int.ne_of_lt dated.ends.before)
  | asked other queried =>
      have positive := of_decide_eq_false up.symm
      rw [dated.left_eq follows queried] at positive
      exact Int.not_le.mp positive

def PassesOn (duration : Int) (timeout : Timeout) (times : List Int) (timeout' : Timeout)
    (limit : Option Timeval) : Prop :=
  if duration = int64Max then limit = none
  else ∃ left, limit = some (Timeout.timeval left) ∧ Queried timeout times left timeout'

theorem PassesOn.ends_in_time {limit : Option Timeval}
    (passes : PassesOn duration timeout times timeout' limit)
    (follows : Follows duration timeout past)
    (unpolled : Unpolled duration (past ++ times.map tick)) (call : OsCall)
    (select : selectLimit call = some limit) :
    EndsInTime duration (past ++ times.map tick) call := by
  intro limit' selected
  obtain rfl : limit = limit' := Option.some.inj (select.symm.trans selected)
  unfold PassesOn at passes
  split
  · rename_i infinite
    rwa [if_pos infinite] at passes
  · rename_i finite
    rw [if_neg finite] at passes
    obtain ⟨left, rfl, queried⟩ := passes
    have read : readings (past ++ times.map tick) ≠ [] := by
      rw [readings_append]
      exact List.append_ne_nil_of_left_ne_nil (follows.has_read finite) _
    refine ⟨_, _, _, rfl, List.head?_eq_some_head read, List.getLast?_eq_some_getLast read, ?_⟩
    intro dated
    exact ⟨by rw [dated.left_eq follows queried], unpolled _ _ dated⟩

end Invariants

/-! ### The loops -/

/-- The contract of a timed call: any replies, but its waits end in time. -/
abbrev pacing (duration : Int) : Contract OsCall OsReply (List OsEvent) :=
  Contract.recording (EndsInTime duration) fun _ _ _ => True

section Rules

variable {duration : Int} {self : SerialPosix} {past late : List OsEvent} {timeout : Timeout}

theorem ends_in_time_of_other {call : OsCall} (other : selectLimit call = none) :
    EndsInTime duration past call := by
  intro limit select
  rw [other] at select
  cases select

theorem runs_read_time_left {b : List UInt8} (follows : Follows duration timeout past) :
    (pacing duration).runs (SerialPosix.readTime timeout) b
      (fun result after now => after = b ∧ ∃ times : List Int, now = past ++ times.map tick ∧
        Follows duration result.2 now ∧ PassesOn duration timeout times result.2 result.1)
      (fun _ _ _ => False) past := by
  unfold SerialPosix.readTime PassesOn
  rw [follows.infinite]
  by_cases infinite : duration = int64Max
  · simp only [infinite, decide_true, if_true]
    exact ⟨rfl, [], (List.append_nil past).symm, infinite ▸ follows, rfl⟩
  · simp only [infinite, decide_false, Bool.false_eq_true, if_false, Timeout.timeLeftTv,
      Contract.runs_bind]
    apply Contract.runs_mono
      (runs_time_left (fun _ => ends_in_time_of_other rfl) timeout)
    · rintro ⟨left, timeout'⟩ _ _ ⟨rfl, times, rfl, queried⟩
      exact ⟨rfl, times, rfl, queried.follows follows, left, rfl, queried⟩
    · exact fun _ _ _ impossible => impossible

theorem Chunk.select_first {fd : Int} {readLen : Nat} {limit : Option Timeval}
    {result : Except SerialException (List UInt8)} (chunk : Chunk fd readLen limit late result) :
    ∃ (ready : Except Errno Bool) (rest : List OsEvent),
      late = [⟨.on fd (.selectRead limit), ready⟩] ++ rest ∧ readings rest = [] ∧
        ∀ event ∈ rest, ¬Polls event := by
  have reads (call : DescriptorCall) (reply : Except Errno call.Answer)
      (other : selectLimit (.on fd call) = none) :
      ∀ event ∈ [(⟨.on fd call, reply⟩ : OsEvent)], ¬Polls event := by
    intro event occurs polled
    obtain rfl := List.mem_singleton.mp occurs
    rw [Polls, other] at polled
    cases polled
  cases chunk with
  | timedOut => exact ⟨_, [], rfl, rfl, fun _ none => (List.not_mem_nil none).elim⟩
  | retried ready => exact ⟨ready, _, rfl, rfl, reads _ _ rfl⟩
  | failed ready => exact ⟨ready, _, rfl, rfl, reads _ _ rfl⟩
  | empty ready => exact ⟨ready, _, rfl, rfl, reads _ _ rfl⟩
  | data ready => exact ⟨ready, _, rfl, rfl, reads _ _ rfl⟩

theorem read_loop_ends_in_time {n : Nat} (fuel : Nat) {bytesRead : Nat} {b : List UInt8}
    (follows : Follows self.timeout timeout past) (polls : PollsAtEnd self.timeout past)
    (unpolled : Unpolled self.timeout past) :
    (pacing self.timeout).runs (self.readLoop n fuel bytesRead timeout) b (fun _ _ _ => True)
      (fun _ _ _ => True) past := by
  induction fuel generalizing past timeout b bytesRead with
  | zero => trivial
  | succ fuel ih =>
      unfold SerialPosix.readLoop
      split
      · apply Contract.runs_then (runs_read_time_left follows)
        rintro ⟨limit, timeout₁⟩ _ _ ⟨rfl, times₁, rfl, follows₁, passes⟩
        have ends := passes.ends_in_time follows (unpolled.ticks follows times₁)
          (.on self.fd (.selectRead limit)) rfl
        apply Contract.runs_seq
          (runs_read_chunk ends fun _ => ends_in_time_of_other rfl)
        · rintro received after _ ⟨late, bytes, rfl, _, chunk, rfl, rfl⟩
          have follows₂ := follows₁.append chunk.readings_ok
          obtain ⟨ready, rest, rfl, silent, others⟩ := chunk.select_first
          have polls₁ := (polls.ticks follows times₁).select
            ⟨.on self.fd (.selectRead limit), ready⟩ ends rfl
          have polls₂ := polls₁.quiet silent others
          rw [List.append_assoc _ [_] rest] at polls₂
          apply Contract.runs_then
            (runs_expired (fun _ => ends_in_time_of_other rfl) timeout₁)
          rintro ⟨expired, timeout₂⟩ _ _ ⟨rfl, times₂, rfl, tested⟩
          cases expired with
          | true => trivial
          | false =>
              have polls₃ := polls₂.ticks follows₂ times₂
              exact ih (tested.follows follows₂) polls₃ (polls₃.unpolled fun first last dated =>
                tested.remains follows₂ dated)
        · exact fun _ _ _ _ => trivial
      · trivial

section Write

variable {Object : Type} {object : Object}

theorem runs_write_offer {bytes : List UInt8} :
    (pacing duration).runs (self.writeChunk bytes) object
      (fun _ after now => after = object ∧ ∃ reply,
        now = past ++ [⟨.on self.fd (.write bytes), reply⟩]) (fun _ _ _ => True) past := by
  rw [SerialPosix.writeChunk, Contract.runs_bind, Contract.runs_attempt, runs_write_port]
  refine ⟨ends_in_time_of_other rfl, fun count _ => ⟨rfl, .ok count, rfl⟩, fun errno _ => ?_⟩
  simp only
  split
  · exact ⟨rfl, .error errno, rfl⟩
  · trivial

theorem runs_wait_write_in_time (finite : duration ≠ int64Max)
    (follows : Follows duration timeout past) (polls : PollsAtEnd duration past) :
    (pacing duration).runs (self.waitWriteTimed timeout) object
      (fun timeout' after now => after = object ∧ Follows duration timeout' now ∧
        PollsAtEnd duration now) (fun _ _ _ => True) past := by
  have clock (past : List OsEvent) : EndsInTime duration past .clock := ends_in_time_of_other rfl
  apply Contract.runs_then (runs_expired clock timeout)
  rintro ⟨expired, timeout₁⟩ _ _ ⟨rfl, times₁, rfl, tested⟩
  cases expired with
  | true => trivial
  | false =>
      have follows₁ := tested.follows follows
      have polls₁ := polls.ticks follows times₁
      have unpolled := polls₁.unpolled fun first last dated => tested.remains follows dated
      simp only [Bool.false_eq_true, if_false, Timeout.timeLeftTv, Contract.runs_bind]
      apply Contract.runs_mono (runs_time_left clock timeout₁)
      · rintro ⟨left, timeout₂⟩ _ _ ⟨rfl, times₂, rfl, queried⟩
        have passes : PassesOn duration timeout₁ times₂ timeout₂
            (some (Timeout.timeval left)) := by
          rw [PassesOn, if_neg finite]
          exact ⟨left, rfl, queried⟩
        have ends := passes.ends_in_time follows₁ (unpolled.ticks follows₁ times₂)
          (.on self.fd (.selectWrite (some (Timeout.timeval left)))) rfl
        have polls₂ := polls₁.ticks follows₁ times₂
        simp only [Contract.runs_pure, runs_or_throw, runs_select_write_port]
        refine ⟨ends, fun ready _ => ?_, fun errno _ => trivial⟩
        cases ready with
        | false => trivial
        | true =>
            exact ⟨rfl, (queried.follows follows₁).append rfl, polls₂.select _ ends rfl⟩
      · exact fun _ _ _ impossible => impossible.elim

theorem write_loop_ends_in_time {size : Nat} (fuel : Nat) {d : List UInt8} {txLen : Nat}
    (follows : Follows self.writeTimeout timeout past)
    (polls : PollsAtEnd self.writeTimeout past) :
    (pacing self.writeTimeout).runs (self.writeLoop size fuel d txLen timeout) object
      (fun _ _ _ => True) (fun _ _ _ => True) past := by
  induction fuel generalizing past timeout object d txLen with
  | zero => trivial
  | succ fuel ih =>
      unfold SerialPosix.writeLoop
      split
      · apply Contract.runs_seq runs_write_offer
        · rintro n _ _ ⟨rfl, reply, rfl⟩
          have silent : readings
              [(⟨.on self.fd (.write (d.take txLen)), reply⟩ : OsEvent)] = [] := rfl
          have follows := follows.append silent
          have polls := polls.quiet silent (by simp [Polls, selectLimit])
          split
          · trivial
          · split
            · rename_i limited
              have finite : self.writeTimeout ≠ int64Max := by
                rw [follows.infinite] at limited
                simpa using limited
              apply Contract.runs_seq (runs_wait_write_in_time finite follows polls)
              · rintro timeout' _ _ ⟨rfl, follows', polls'⟩
                exact ih follows' polls'
              · exact fun _ _ _ _ => trivial
            · rename_i unlimited
              have infinite : self.writeTimeout = int64Max := by
                rw [follows.infinite] at unlimited
                simpa using unlimited
              have endless (past : List OsEvent) :
                  EndsInTime self.writeTimeout past (.on self.fd (.selectWrite none)) := by
                rintro limit ⟨⟩
                rw [if_pos infinite]
              apply Contract.runs_seq (runs_wait_write_blocking endless)
              · rintro _ _ _ ⟨rfl, late, rfl, waiting⟩
                refine ih (follows.later infinite _) fun first last dated => ?_
                exact absurd infinite dated.ends.finite
              · exact fun _ _ _ _ => trivial
        · exact fun _ _ _ _ => trivial
      · trivial

end Write

end Rules

def Operation.timeoutOf (self : SerialPosix) : Operation → Option Int
  | .read _ _ | .readAll _ => some self.timeout
  | .write _ => some self.writeTimeout
  | _ => none

/-- When a `select` that starts at a reading gives up. -/
def waitEnd (last : Int) (limit : Timeval) : Int :=
  last + (limit.sec * 1000000 + limit.usec) * 1000

/-- A `select` that waits up to the deadline, to the millisecond. -/
structure WaitsOut (deadline last : Int) (limit : Timeval) : Prop where
  sec : 0 ≤ limit.sec
  usec : 0 ≤ limit.usec ∧ limit.usec < 1000000
  inTime : waitEnd last limit ≤ max last deadline
  long : deadline < waitEnd last limit + 1000000

theorem Dated.waits_out {duration first last : Int} {past : List OsEvent}
    (dated : Dated duration past first last) :
    WaitsOut (first + duration * 1000000) last
      (Timeout.timeval (remaining first duration last)) := by
  have counted := dated.ends.counted
  have short := dated.ends.before
  have bounds := dated.remaining_bounds
  have left : remaining first duration last = if 0 ≤ first + duration * 1000000 - last
      then (first + duration * 1000000 - last) / 1000000 else 0 := remaining_eq
  unfold int64Max at short
  obtain ⟨total, low, high, _⟩ := timeval_denotes bounds.1 (by omega)
  constructor
  · omega
  · exact ⟨low, high⟩
  · rw [waitEnd, total]
    split at left <;> omega
  · rw [waitEnd, total]
    split at left <;> omega

section Calls

variable {self : SerialPosix} {duration : Int} {fuel : Nat} {past : List OsEvent}

theorem started_ends_in_time {Object Result : Type} {object : Object}
    {rest : Timeout → SerialMethod Object Result} (fresh : readings past = [])
    (unpolled : ∀ event ∈ past, ¬Polls event)
    (loop : ∀ timeout now, Follows duration timeout now → PollsAtEnd duration now →
      Unpolled duration now → (pacing duration).runs (rest timeout) object (fun _ _ _ => True)
        (fun _ _ _ => True) now) :
    (pacing duration).runs (Timeout.new duration >>= rest) object (fun _ _ _ => True)
      (fun _ _ _ => True) past := by
  apply Contract.runs_then (runs_new (fun _ => ends_in_time_of_other rfl) fresh)
  rintro timeout _ _ ⟨rfl, times, rfl, follows⟩
  have never : ∀ event ∈ past ++ times.map tick, ¬Polls event := by
    intro event occurs
    rcases List.mem_append.mp occurs with occurs | occurs
    · exact unpolled event occurs
    · exact polls_tick occurs
  exact loop timeout _ follows (fun _ _ _ event occurs polled => absurd polled (never event occurs))
    fun _ _ _ => never

theorem read_ends_in_time {n : Nat} {b : List UInt8} (fresh : readings past = [])
    (unpolled : ∀ event ∈ past, ¬Polls event) :
    (pacing self.timeout).runs (self.read fuel n) b (fun _ _ _ => True) (fun _ _ _ => True)
      past := by
  rw [SerialPosix.read, SerialPosix.requireOpen, Contract.runs_bind]
  split
  · rw [Contract.runs_pure, Contract.runs_bind, Contract.runs_modify]
    exact started_ends_in_time fresh unpolled fun _ _ follows polls none =>
      read_loop_ends_in_time fuel follows polls none
  · trivial

theorem write_ends_in_time {Object : Type} {object : Object} {b : List UInt8} :
    (pacing self.writeTimeout).runs (self.write fuel b) object (fun _ _ _ => True)
      (fun _ _ _ => True) [] := by
  rw [SerialPosix.write, SerialPosix.requireOpen, Contract.runs_bind]
  split
  · rw [Contract.runs_pure]
    exact started_ends_in_time rfl (fun _ none => (List.not_mem_nil none).elim)
      fun _ _ follows polls _ => write_loop_ends_in_time fuel follows polls
  · trivial

theorem read_all_ends_in_time {b : List UInt8} :
    (pacing self.timeout).runs (self.readAll fuel) b (fun _ _ _ => True) (fun _ _ _ => True)
      [] := by
  rw [SerialPosix.readAll, Contract.runs_bind, SerialPosix.inWaiting, runs_or_throw,
    portInWaiting, runs_on_descriptor]
  refine ⟨ends_in_time_of_other rfl, fun waiting _ => ?_, fun _ _ => trivial⟩
  change (pacing self.timeout).runs (self.read fuel waiting) b _ _
    [⟨.on self.fd .inputQueue, .ok waiting⟩]
  exact read_ends_in_time rfl (by simp [Polls, selectLimit])

theorem perform_ends_in_time {operation : Operation}
    (timed : operation.timeoutOf self = some duration) :
    (pacing duration).wp (self.perform fuel operation) (fun _ _ => True) [] := by
  have read {method : SerialMethod (List UInt8) Nat} {b : List UInt8}
      (ends : (pacing duration).runs method b (fun _ _ _ => True) (fun _ _ _ => True) []) :
      (pacing duration).wp (self.filling method b) (fun _ _ => True) [] :=
    (Contract.wp_bind _ _ _ _).mpr (Contract.wp_mono ends fun _ _ _ => trivial)
  cases operation with
  | read b n =>
      cases timed
      exact read (read_ends_in_time rfl fun _ none => (List.not_mem_nil none).elim)
  | readAll b =>
      cases timed
      exact read read_all_ends_in_time
  | write b =>
      cases timed
      exact (Contract.wp_bind _ _ _ _).mpr
        (Contract.wp_mono write_ends_in_time fun _ _ _ => trivial)
  | _ => cases timed

/-- In every call of `read`, `read_all` and `write`, however it ends and in every part of it: a
`select` may wait for ever only when the timeout is infinite. Where the clock is right, a
`select` of a finite timeout waits from the last reading up to the deadline, rounded down to the
millisecond, or only polls when the deadline has come; and one that only polls is the last. -/
theorem waits_end_by_deadline {operation : Operation} {events earlier later : List OsEvent}
    {outcome : Option (Output × SerialPosix)} {event : OsEvent} {limit : Option Timeval}
    (timed : operation.timeoutOf self = some duration)
    (run : (self.perform fuel operation).Yields events outcome)
    (split : events = earlier ++ event :: later) (select : selectLimit event.1 = some limit) :
    (limit = none ↔ duration = int64Max) ∧
    (duration ≠ int64Max → ∃ first last tv, limit = some tv ∧
      (readings earlier).head? = some first ∧ (readings earlier).getLast? = some last ∧
      (Ends first duration → Steady (readings events) →
        WaitsOut (first + duration * 1000000) last tv ∧
          (tv = ⟨0, 0⟩ → ∀ other ∈ later, selectLimit other.1 = none))) := by
  have permitted := Contract.recording_permitted (Contract.wp_sound
    (perform_ends_in_time timed) run (Contract.honest_of_always (fun _ _ _ => trivial) _ _)).1
  have ends := permitted earlier event later split limit select
  by_cases infinite : duration = int64Max
  · rw [if_pos infinite] at ends
    exact ⟨iff_of_true ends infinite, fun finite => absurd infinite finite⟩
  · rw [if_neg infinite] at ends
    obtain ⟨first, last, tv, rfl, begins, reads, right⟩ := ends
    refine ⟨iff_of_false nofun infinite, fun _ => ⟨first, last, tv, rfl, begins, reads, ?_⟩⟩
    intro ends steady
    have before : Steady (readings earlier) := by
      rw [split, readings_append] at steady
      exact steady.before
    have dated : Dated duration earlier first last := ⟨begins, reads, ends, before⟩
    refine ⟨(right dated).1 ▸ dated.waits_out, ?_⟩
    rintro rfl other occurs
    -- a later `select` would find that this one has polled
    obtain ⟨middle, last', rfl⟩ := List.append_of_mem occurs
    by_contra again
    obtain ⟨limit, selected⟩ := Option.ne_none_iff_exists'.mp again
    have whole : events = (earlier ++ event :: middle) ++ other :: last' := by
      rw [split, List.append_assoc, List.cons_append]
    have later := permitted _ other last' whole limit selected
    rw [if_neg infinite] at later
    obtain ⟨first', last₂, tv, rfl, begins', reads', none⟩ := later
    have steady' : Steady (readings (earlier ++ event :: middle)) := by
      rw [whole, readings_append] at steady
      exact steady.before
    have same : first' = first := by
      rw [readings_append, List.head?_append, begins] at begins'
      exact (Option.some.inj begins').symm
    subst same
    exact (none ⟨begins', reads', ends, steady'⟩).2 event (by simp) select

end Calls

/-- A system with a clock that goes on by half a millisecond, where no data comes in. -/
def idle (now : Int) : (call : OsCall) → OsReply call × Int
  | .clock => (now, now + 500000)
  | .on _ (.selectRead _) => (.ok false, now)
  | call => (obliging call, now)

/-- The last two waits of a read with a timeout of two milliseconds: one more, and a poll. -/
theorem waits_end_by_deadline_of_idle :
    ∃ earlier later, (((readingPort 2).perform 4 (.read [] 1)).play idle 0).1 =
      earlier ++ (⟨.on 3 (.selectRead (some ⟨0, 0⟩)), .ok false⟩ : OsEvent) :: later ∧
      WaitsOut 2000000 1500000 ⟨0, 0⟩ ∧ ∀ other ∈ later, selectLimit other.1 = none := by
  have run := Program.play_yields idle ((readingPort 2).perform 4 (.read [] 1)) 0
  have split : (((readingPort 2).perform 4 (.read [] 1)).play idle 0).1 =
      [tick 0, tick 500000, ⟨.on 3 (.selectRead (some ⟨0, 1000⟩)), .ok false⟩, tick 1000000,
        tick 1500000] ++ (⟨.on 3 (.selectRead (some ⟨0, 0⟩)), .ok false⟩ : OsEvent) ::
        [tick 2000000] := by rfl
  refine ⟨_, _, split, ?_⟩
  obtain ⟨first, last, tv, same, begins, reads, right⟩ :=
    (waits_end_by_deadline rfl run split rfl).2 (by decide)
  cases same
  cases begins
  cases reads
  obtain ⟨waits, polls⟩ := right ⟨by decide, by decide, by decide⟩ (by
    rw [split]
    exact ⟨by decide, by decide⟩)
  exact ⟨waits, polls rfl⟩

end AresCommon.Serial
