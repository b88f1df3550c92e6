import AresCommon.Serial.Watch

/-!
# What a write sends

The operating system takes any part of what it is offered. A call of `write` offers it the
bytes that it has not taken yet and nothing else, whatever happens in between.
-/

namespace AresCommon.Serial

open AresCommon.Foundation

set_option autoImplicit false

def taken : OsEvent → List UInt8
  | ⟨.on _ (.write bytes), .ok count⟩ => bytes.take count.1
  | _ => []

def takesAll : OsEvent → Bool
  | ⟨.on _ (.write bytes), .ok count⟩ => count.1 = bytes.length
  | _ => false

def selectTimesOut : OsEvent → Bool
  | ⟨.on _ (.selectWrite _), .ok ready⟩ => !ready
  | _ => false

def accepted (events : List OsEvent) : List UInt8 := events.flatMap taken

@[simp]
theorem accepted_append (earlier later : List OsEvent) :
    accepted (earlier ++ later) = accepted earlier ++ accepted later := List.flatMap_append

def Waiting : OsCall → Prop
  | .clock => True
  | .on _ (.selectWrite _) => True
  | _ => False

theorem taken_waiting {event : OsEvent} (waiting : Waiting event.1) : taken event = [] := by
  obtain ⟨_ | _ | ⟨fd, call⟩, reply⟩ := event
  · exact waiting.elim
  · rfl
  · cases call <;> first | exact waiting.elim | rfl

theorem takes_all_waiting {event : OsEvent} (waiting : Waiting event.1) :
    takesAll event = false := by
  obtain ⟨_ | _ | ⟨fd, call⟩, reply⟩ := event
  · exact waiting.elim
  · rfl
  · cases call <;> first | exact waiting.elim | rfl

theorem accepted_waiting {events : List OsEvent} (waiting : ∀ event ∈ events, Waiting event.1) :
    accepted events = [] :=
  List.flatMap_eq_nil_iff.mpr fun event occurs => taken_waiting (waiting event occurs)

def OffersRest (self : SerialPosix) (b : List UInt8) (past : List OsEvent) : OsCall → Prop
  | .on fd (.write bytes) => fd = self.fd ∧ bytes = b.drop (accepted past).length
  | _ => True

theorem taken_of_rest {self : SerialPosix} {b : List UInt8} {past : List OsEvent}
    {event : OsEvent} (offers : OffersRest self b past event.1) :
    taken event <+: b.drop (accepted past).length := by
  obtain ⟨_ | _ | ⟨fd, call⟩, reply⟩ := event
  · exact List.nil_prefix
  · exact List.nil_prefix
  · cases call with
    | write bytes =>
        obtain ⟨_, rfl⟩ := offers
        rcases reply with errno | count
        · exact List.nil_prefix
        · exact List.take_prefix _ _
    | _ => exact List.nil_prefix

/-- What is taken of the rest each time is a prefix of the whole. -/
theorem accepted_prefix {self : SerialPosix} {b : List UInt8} {events : List OsEvent}
    (offers : ∀ earlier event later, events = earlier ++ event :: later →
      OffersRest self b earlier event.1) : accepted events <+: b := by
  induction events using List.reverseRecOn with
  | nil => exact List.nil_prefix
  | append_singleton events event ih =>
      have before : accepted events <+: b := ih fun earlier next later split =>
        offers earlier next (later ++ [event]) (by rw [split, List.append_assoc]; rfl)
      obtain ⟨rest, rfl⟩ := before
      have next := taken_of_rest (offers events event [] rfl)
      rw [List.drop_left] at next
      have single : accepted [event] = taken event := List.append_nil _
      rw [accepted_append, single]
      exact (List.prefix_append_right_inj _).mpr next

section Rules

variable {Object : Type} {object : Object} {self : SerialPosix} {past : List OsEvent}
variable {permits : List OsEvent → OsCall → Prop}
variable {honest : List OsEvent → (call : OsCall) → OsReply call → Prop}

/-- One call of `write`, of which any part may be taken. An error that the loop goes on
after takes nothing. -/
theorem runs_write_chunk {bytes : List UInt8} (some : bytes ≠ [])
    (allowed : permits past (.on self.fd (.write bytes))) :
    (Contract.recording permits honest).runs (self.writeChunk bytes) object
      (fun n after now => after = object ∧ n ≤ bytes.length ∧ ∃ event, now = past ++ [event] ∧
        taken event = bytes.take n ∧ clockReading event = none ∧
        takesAll event = decide (n = bytes.length))
      (fun error _ now => (∃ errno, error = failed "write failed" errno) ∧
        ∃ event, now = past ++ [event] ∧ taken event = [] ∧ takesAll event = false) past := by
  have nonempty : 0 ≠ bytes.length := fun same => some (List.length_eq_zero_iff.mp same.symm)
  rw [SerialPosix.writeChunk, Contract.runs_bind, Contract.runs_attempt, runs_write_port]
  refine ⟨allowed, fun count _ => ?_, fun errno _ => ?_⟩
  · exact ⟨rfl, count.2, _, rfl, rfl, rfl, rfl⟩
  · simp only
    split
    · exact ⟨rfl, Nat.zero_le _, _, rfl, rfl, rfl, (decide_eq_false nonempty).symm⟩
    · exact ⟨⟨errno, rfl⟩, _, rfl, rfl, rfl⟩

/-- The wait of the blocking mode, which only a `select` that times out ends in an error. -/
theorem runs_wait_write_blocking
    (select : ∀ past, permits past (.on self.fd (.selectWrite none))) :
    (Contract.recording permits honest).runs self.waitWriteBlocking object
      (fun _ after now => after = object ∧ ∃ late, now = past ++ late ∧
        ∀ event ∈ late, Waiting event.1)
      (fun _ _ now => ∃ late, now = past ++ late ∧ ∀ event ∈ late, Waiting event.1) past := by
  have waits (reply : Except Errno Bool) : ∀ event ∈
      [(⟨.on self.fd (.selectWrite none), reply⟩ : OsEvent)], Waiting event.1 := by
    simp [Waiting]
  rw [SerialPosix.waitWriteBlocking, Contract.runs_bind, Contract.runs_attempt,
    runs_select_write_port]
  refine ⟨select past, fun ready _ => ?_, fun errno _ => ?_⟩
  · cases ready with
    | false => exact ⟨_, rfl, waits _⟩
    | true => exact ⟨rfl, _, rfl, waits _⟩
  · exact ⟨rfl, _, rfl, waits _⟩

def InTime (timeout : Timeout) (late : List OsEvent) : Prop :=
  (∀ now later, readings late = now :: later → ¬timeout.expiredAt now) ∧
    ∀ event ∈ late, selectTimesOut event = false

theorem waiting_ticks (times : List Int) : ∀ event ∈ times.map tick, Waiting event.1 := by
  intro event occurs
  obtain ⟨now, _, rfl⟩ := List.mem_map.mp occurs
  trivial

theorem select_ticks (times : List Int) :
    ∀ event ∈ times.map tick, selectTimesOut event = false := by
  intro event occurs
  obtain ⟨now, _, rfl⟩ := List.mem_map.mp occurs
  rfl

theorem in_time_iff {timeout : Timeout} {first second : List Int}
    (calm : ∀ now rest, first ++ second = now :: rest → ¬timeout.expiredAt now) (fd : Int)
    (tv : Option Timeval) (reply : Except Errno Bool) :
    InTime timeout (first.map tick ++ (second.map tick ++ [⟨.on fd (.selectWrite tv), reply⟩])) ↔
      reply ≠ .ok false := by
  constructor
  · rintro inTime rfl
    have never := inTime.2 ⟨.on fd (.selectWrite tv), .ok false⟩ (by simp)
    cases never
  · intro other
    constructor
    · intro now later head
      apply calm now later
      rw [readings_append, readings_append, readings_ticks, readings_ticks] at head
      exact (congrArg (first ++ ·) (List.append_nil second)).symm.trans head
    · intro event occurs
      rcases List.mem_append.mp occurs with ticks | occurs
      · exact select_ticks first event ticks
      · rcases List.mem_append.mp occurs with ticks | last
        · exact select_ticks second event ticks
        · obtain rfl := List.mem_singleton.mp last
          rcases reply with errno | _ | _
          · rfl
          · exact absurd rfl other
          · rfl

theorem waiting_select (first second : List Int) (fd : Int) (tv : Option Timeval)
    (reply : Except Errno Bool) : ∀ event ∈
      first.map tick ++ (second.map tick ++ [(⟨.on fd (.selectWrite tv), reply⟩ : OsEvent)]),
      Waiting event.1 := by
  rw [List.forall_mem_append, List.forall_mem_append, List.forall_mem_singleton]
  exact ⟨waiting_ticks first, waiting_ticks second, trivial⟩

/-- The wait for a finite timeout ends in a `SerialTimeoutException` when it is not in time. -/
theorem runs_wait_write_timed {duration : Int} {timeout : Timeout}
    (clock : ∀ past, permits past .clock)
    (select : ∀ past timeout, permits past (.on self.fd (.selectWrite timeout)))
    (follows : Follows duration timeout past) (blocking : duration ≠ 0)
    (finite : duration ≠ int64Max) :
    (Contract.recording permits honest).runs (self.waitWriteTimed timeout) object
      (fun timeout' after now => after = object ∧ Follows duration timeout' now ∧
        ∃ late, now = past ++ late ∧ (∀ event ∈ late, Waiting event.1) ∧ InTime timeout late)
      (fun error _ now => ∃ late, now = past ++ late ∧ (∀ event ∈ late, Waiting event.1) ∧
        ((∃ text, error = .timeout text) ↔ ¬InTime timeout late)) past := by
  have blocks : timeout.nonBlocking = false := by
    rw [follows.non_blocking, decide_eq_false blocking]
  have limited : timeout.infinite = false := by
    rw [follows.infinite, decide_eq_false finite]
  apply Contract.runs_then (runs_expired clock timeout)
  rintro ⟨expired, tested⟩ _ _ ⟨rfl, first, rfl, test⟩
  cases up : expired with
  | true =>
      obtain ⟨now, later, rfl, expires⟩ := (test.expired_iff blocks limited).mp up
      refine ⟨(now :: later).map tick, rfl, waiting_ticks _, iff_of_true ⟨_, rfl⟩ ?_⟩
      exact fun inTime => inTime.1 now later (readings_ticks _) expires
  | false =>
      have tested_follows := test.follows follows
      simp only [Bool.false_eq_true, if_false]
      apply Contract.runs_then (runs_time_left_tv clock tested)
      rintro ⟨tv, timeout'⟩ _ _ ⟨rfl, second, left, rfl, queried⟩
      have inTime := in_time_iff (fun now rest (head : first ++ second = now :: rest) =>
        test.calm up blocks limited head) self.fd (some tv)
      have waits := waiting_select first second self.fd (some tv)
      have record (reply : Except Errno Bool) :
          past ++ first.map tick ++ second.map tick ++
            [(⟨.on self.fd (.selectWrite (some tv)), reply⟩ : OsEvent)] =
          past ++ (first.map tick ++ (second.map tick ++
            [⟨.on self.fd (.selectWrite (some tv)), reply⟩])) := by
        simp only [List.append_assoc]
      rw [Contract.runs_bind, runs_or_throw, runs_select_write_port]
      refine ⟨select _ _, fun ready _ => ?_, fun errno _ => ?_⟩
      · cases ready with
        | false =>
            refine ⟨_, record (.ok false), waits _, iff_of_true ⟨_, rfl⟩ fun calm => ?_⟩
            exact (inTime (.ok false)).mp calm rfl
        | true =>
            refine ⟨rfl, ?_, _, record (.ok true), waits _, (inTime _).mpr (by simp)⟩
            exact (queried.follows tested_follows).append rfl
      · refine ⟨_, record (.error errno), waits _, iff_of_false ?_ (not_not_intro ?_)⟩
        · rintro ⟨text, ⟨⟩⟩
        · exact (inTime _).mpr (by simp)

end Rules

/-! ### The loop -/

section Loop

variable {Object : Type} {object : Object} {self : SerialPosix} {b d : List UInt8}
variable {past : List OsEvent} {timeout : Timeout}

/-- The contract of `write`: any replies, but only the rest is offered. -/
abbrev sending (self : SerialPosix) (b : List UInt8) : Contract OsCall OsReply (List OsEvent) :=
  Contract.recording (OffersRest self b) fun _ _ _ => True

theorem accepted_chunk {event : OsEvent} {n : Nat} {late : List OsEvent}
    (rest : accepted past ++ d = b) (chunk : taken event = d.take n)
    (waiting : ∀ event ∈ late, Waiting event.1) :
    accepted (past ++ [event] ++ late) ++ d.drop n = b := by
  have single : accepted [event] = d.take n := (List.append_nil _).trans chunk
  calc
    accepted (past ++ [event] ++ late) ++ d.drop n
        = accepted past ++ (d.take n ++ d.drop n) := by
          rw [accepted_append, accepted_append, accepted_waiting waiting, single,
            List.append_nil, List.append_assoc]
    _ = b := by rw [List.take_append_drop, rest]

theorem write_loop_sends (fuel : Nat) (rest : accepted past ++ d = b)
    (follows : Follows self.writeTimeout timeout past)
    (fresh : self.writeTimeout = 0 → accepted past = []) :
    (sending self b).runs (self.writeLoop b.length fuel d d.length timeout) object
      (fun k _ now => accepted now = b.take k ∧ k ≤ b.length ∧
        (self.writeTimeout ≠ 0 → k = b.length)) (fun _ _ _ => True) past := by
  induction fuel generalizing object d past timeout with
  | zero => trivial
  | succ fuel ih =>
      unfold SerialPosix.writeLoop
      split
      · rename_i more
        have some : d ≠ [] := List.length_pos_iff.mp more
        rw [List.take_length]
        have offers : OffersRest self b past (.on self.fd (.write d)) :=
          ⟨rfl, by rw [← rest, List.drop_left]⟩
        apply Contract.runs_seq (runs_write_chunk some offers)
        · rintro n _ _ ⟨rfl, bound, event, rfl, chunk, silent, _⟩
          have follows : Follows self.writeTimeout timeout (past ++ [event]) :=
            follows.append (by simp [readings, silent])
          have shorter : d.length - n = (d.drop n).length := List.length_drop.symm
          by_cases nonBlocking : self.writeTimeout = 0
          · have all : b = d := by rw [← rest, fresh nonBlocking, List.nil_append]
            rw [if_pos (by rw [follows.non_blocking, decide_eq_true nonBlocking])]
            refine ⟨?_, all ▸ bound, fun blocking => absurd nonBlocking blocking⟩
            rw [accepted_append, fresh nonBlocking, List.nil_append, all]
            exact (List.append_nil _).trans chunk
          · rw [if_neg (by simp [follows.non_blocking, nonBlocking]), shorter]
            split
            · rename_i limited
              have finite : self.writeTimeout ≠ int64Max := by
                rw [follows.infinite] at limited
                simpa using limited
              apply Contract.runs_seq
                (runs_wait_write_timed (fun _ => trivial) (fun _ _ => trivial) follows nonBlocking
                  finite)
              · rintro timeout' _ _ ⟨rfl, follows', late, rfl, waiting, _⟩
                exact ih (accepted_chunk rest chunk waiting) follows'
                  fun zero => absurd zero nonBlocking
              · exact fun _ _ _ _ => trivial
            · rename_i unlimited
              have infinite : self.writeTimeout = int64Max := by
                rw [follows.infinite] at unlimited
                simpa using unlimited
              apply Contract.runs_seq (runs_wait_write_blocking fun _ => trivial)
              · rintro _ _ _ ⟨rfl, late, rfl, waiting⟩
                exact ih (accepted_chunk rest chunk waiting) (follows.later infinite _)
                  fun zero => absurd zero nonBlocking
              · exact fun _ _ _ _ => trivial
        · exact fun _ _ _ _ => trivial
      · rename_i done
        have empty : d = [] := List.length_eq_zero_iff.mp (Nat.eq_zero_of_not_pos done)
        subst empty
        rw [List.append_nil] at rest
        refine ⟨?_, Nat.sub_le _ _, fun _ => Nat.sub_zero _⟩
        rw [rest, List.length_nil, Nat.sub_zero, List.take_length]

theorem write_sends {fuel : Nat} :
    (sending self b).runs (self.write fuel b) object
      (fun k _ now => accepted now = b.take k ∧ k ≤ b.length ∧
        (self.writeTimeout ≠ 0 → k = b.length)) (fun _ _ _ => True) [] := by
  rw [SerialPosix.write, SerialPosix.requireOpen, Contract.runs_bind]
  split
  · rw [Contract.runs_pure]
    apply Contract.runs_then (runs_new (fun _ => trivial) rfl)
    rintro timeout _ _ ⟨rfl, times, rfl, follows⟩
    have none : accepted ([] ++ times.map tick) = [] := accepted_waiting (waiting_ticks times)
    exact write_loop_sends fuel (by rw [none, List.nil_append]) follows fun _ => none
  · trivial

/-- In every call of `write` what is offered is what was not taken yet; what was taken is a
prefix of the vector, and of the length that the call returns, if it does. It returns with
bytes left in the non-blocking mode only. -/
theorem write_sends_once {fuel : Nat} {events : List OsEvent}
    {outcome : Option (Except SerialException Nat × Object)}
    (run : ((self.write fuel b).on object).Yields events outcome) :
    (∀ earlier event later, events = earlier ++ event :: later →
      OffersRest self b earlier event.1) ∧
    accepted events <+: b ∧
    ∀ k after, outcome = some (.ok k, after) → k ≤ b.length ∧ accepted events = b.take k ∧
      (self.writeTimeout ≠ 0 → k = b.length) := by
  obtain ⟨permitted, returned, _⟩ := Contract.runs_sound write_sends run
    (Contract.honest_of_always (fun _ _ _ => trivial) _ _)
  have offers := Contract.recording_permitted permitted
  refine ⟨offers, accepted_prefix offers, fun k after ended => ?_⟩
  obtain ⟨sent, bound, whole⟩ := returned k after ended
  rw [Contract.recording_after, List.nil_append] at sent
  exact ⟨bound, sent, whole⟩

end Loop

def timedPort (writeTimeout : Int) : SerialPosix :=
  { SerialPosix.ofAttributes { writeTimeout := writeTimeout } with isOpen := true, fd := 3 }

def slow : (call : OsCall) → OsReply call
  | .on _ (.write bytes) => .ok ⟨min 1 bytes.length, Nat.min_le_right 1 bytes.length⟩
  | call => obliging call

theorem write_sends_once_of_slow :
    ∃ events, (((timedPort 100).write 4 [1, 2, 3]).on ()).Yields events (some (.ok 3, ())) ∧
      events.countP (fun event => (taken event).length = 1) = 3 ∧ accepted events = [1, 2, 3] := by
  have ended : (Program.play (fun _ call => (slow call, ()))
      (((timedPort 100).write 4 [1, 2, 3]).on ()) ()).2 = some (.ok 3, ()) := by decide +kernel
  have run := Program.yields_of_play ended
  refine ⟨_, run, by decide +kernel, ?_⟩
  exact ((write_sends_once run).2.2 3 () rfl).2.1

end AresCommon.Serial
