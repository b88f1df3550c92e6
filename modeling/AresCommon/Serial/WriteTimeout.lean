import AresCommon.Serial.Transmission
import Mathlib.Data.List.TakeWhile

/-!
# Write timeouts

`write` waits for the port after every chunk, the last one too. A `SerialTimeoutException`
from that last wait is thrown with nothing left to send.
-/

namespace AresCommon.Serial

open AresCommon.Foundation

set_option autoImplicit false

def beforeLast (events : List OsEvent) : List OsEvent :=
  events.takeWhile fun event => !takesAll event

def afterLast (events : List OsEvent) : List OsEvent :=
  (events.dropWhile fun event => !takesAll event).tail

/-- The wait after the last byte finds the timeout running, and its `select` does not time
out. -/
def LastWaitInTime (duration : Int) (events : List OsEvent) : Prop :=
  ∀ watch, Watch.after duration (readings (beforeLast events)) = some watch →
    InTime watch.timeout (afterLast events)

section Waits

variable {duration : Int} {past late : List OsEvent} {event : OsEvent} {timeout : Timeout}

theorem in_time_nil (timeout : Timeout) : InTime timeout [] :=
  ⟨fun now later head => (List.cons_ne_nil now later head.symm).elim,
    fun _ occurs => (List.not_mem_nil occurs).elim⟩

theorem last_wait_of_pending (pending : ∀ event ∈ past, takesAll event = false) :
    LastWaitInTime duration past := by
  intro watch _
  have passes : ∀ event ∈ past, (!takesAll event) = true := fun event occurs =>
    congrArg (!·) (pending event occurs)
  rw [afterLast, List.dropWhile_eq_nil_iff.mpr passes]
  exact in_time_nil watch.timeout

theorem last_wait_iff (finite : duration ≠ int64Max) (follows : Follows duration timeout past)
    (pending : ∀ event ∈ past, takesAll event = false) (all : takesAll event = true) :
    LastWaitInTime duration (past ++ [event] ++ late) ↔ InTime timeout late := by
  have passes : ∀ event ∈ past, (!takesAll event) = true := fun event occurs =>
    congrArg (!·) (pending event occurs)
  have split : past ++ [event] ++ late = past ++ event :: late := List.append_assoc _ _ _
  have before : beforeLast (past ++ [event] ++ late) = past := by
    rw [beforeLast, split, List.takeWhile_append_of_pos passes, List.takeWhile_cons_of_neg
      (by simp [all]), List.append_nil]
  have last : afterLast (past ++ [event] ++ late) = late := by
    rw [afterLast, split, List.dropWhile_append_of_pos passes, List.dropWhile_cons_of_neg
      (by simp [all])]
    rfl
  rw [Follows, if_neg finite] at follows
  rw [LastWaitInTime, before, last, follows]
  exact ⟨fun inTime => inTime ⟨timeout, false⟩ rfl, fun inTime watch same => by
    cases same; exact inTime⟩

theorem pending_of_part (pending : ∀ event ∈ past, takesAll event = false)
    (part : takesAll event = false) (waiting : ∀ event ∈ late, Waiting event.1) :
    ∀ other ∈ past ++ [event] ++ late, takesAll other = false := by
  rw [List.forall_mem_append, List.forall_mem_append, List.forall_mem_singleton]
  exact ⟨⟨pending, part⟩, fun event occurs => takes_all_waiting (waiting event occurs)⟩

theorem last_wait_alone (finite : duration ≠ int64Max) (follows : Follows duration timeout past)
    (pending : ∀ event ∈ past, takesAll event = false) :
    LastWaitInTime duration (past ++ [event]) := by
  rw [← List.append_nil (past ++ [event])]
  cases full : takesAll event with
  | true => exact (last_wait_iff finite follows pending full).mpr (in_time_nil timeout)
  | false =>
      apply last_wait_of_pending
      exact pending_of_part pending full fun _ occurs => (List.not_mem_nil occurs).elim

theorem thrown_iff {b d : List UInt8} {n : Nat} {error : SerialException}
    (finite : duration ≠ int64Max) (follows : Follows duration timeout past)
    (pending : ∀ event ∈ past, takesAll event = false) (rest : accepted past ++ d = b)
    (bound : n ≤ d.length) (chunk : taken event = d.take n)
    (all : takesAll event = decide (n = d.length)) (waiting : ∀ event ∈ late, Waiting event.1)
    (ends : (∃ text, error = .timeout text) ↔ ¬InTime timeout late) :
    (∃ text, error = .timeout text) ∧ accepted (past ++ [event] ++ late) = b ↔
      ¬LastWaitInTime duration (past ++ [event] ++ late) := by
  have sent := accepted_chunk rest chunk waiting
  by_cases full : n = d.length
  · rw [List.drop_eq_nil_iff.mpr full.ge, List.append_nil] at sent
    rw [last_wait_iff finite follows pending (all.trans (decide_eq_true full))]
    exact ⟨fun thrown => ends.mp thrown.1, fun late => ⟨ends.mpr late, sent⟩⟩
  · have part := pending_of_part pending (all.trans (decide_eq_false full)) waiting
    refine iff_of_false (fun thrown => ?_) (not_not_intro (last_wait_of_pending part))
    rw [thrown.2] at sent
    have nothing := List.append_right_eq_self.mp sent
    exact full (le_antisymm bound (List.drop_eq_nil_iff.mp nothing))

end Waits

section Loop

variable {Object : Type} {object : Object} {self : SerialPosix} {b d : List UInt8}
variable {past : List OsEvent} {timeout : Timeout}

/-- The exception is thrown with nothing left to send exactly when the last wait is not in
time; the rest is pending up to the call that takes all of it. -/
theorem write_loop_times_out (finite : self.writeTimeout ≠ int64Max) (fuel : Nat)
    (rest : accepted past ++ d = b) (follows : Follows self.writeTimeout timeout past)
    (pending : d ≠ [] → ∀ event ∈ past, takesAll event = false)
    (settled : d = [] → LastWaitInTime self.writeTimeout past) :
    (sending self b).runs (self.writeLoop b.length fuel d d.length timeout) object
      (fun _ _ now => LastWaitInTime self.writeTimeout now)
      (fun error _ now => (∃ text, error = .timeout text) ∧ accepted now = b ↔
        ¬LastWaitInTime self.writeTimeout now) past := by
  induction fuel generalizing object d past timeout with
  | zero => trivial
  | succ fuel ih =>
      unfold SerialPosix.writeLoop
      split
      · rename_i more
        have some : d ≠ [] := List.length_pos_iff.mp more
        rw [List.take_length]
        have offers : OffersRest self b past (.on self.fd (.write d)) :=
          ⟨rfl, by rw [← rest, List.drop_left]⟩
        apply Contract.runs_seq (runs_write_chunk some offers)
        · rintro n _ _ ⟨rfl, bound, event, rfl, chunk, silent, all⟩
          have follows' : Follows self.writeTimeout timeout (past ++ [event]) :=
            follows.append (by simp [readings, silent])
          have shorter : d.length - n = (d.drop n).length := List.length_drop.symm
          rw [shorter]
          by_cases nonBlocking : self.writeTimeout = 0
          · rw [if_pos (by rw [follows.non_blocking, decide_eq_true nonBlocking])]
            exact last_wait_alone finite follows (pending some)
          · rw [if_neg (by simp [follows.non_blocking, nonBlocking]),
              if_pos (by simp [follows.infinite, finite])]
            apply Contract.runs_seq
              (runs_wait_write_timed (fun _ => trivial) (fun _ _ => trivial) follows' nonBlocking
                finite)
            · rintro timeout' _ _ ⟨rfl, follows', late, rfl, waiting, inTime⟩
              apply ih (accepted_chunk rest chunk waiting) follows'
              · intro left
                have part : n ≠ d.length := fun full => left (List.drop_eq_nil_iff.mpr full.ge)
                exact pending_of_part (pending some) (all.trans (decide_eq_false part)) waiting
              · intro nothing
                have full : n = d.length := le_antisymm bound (List.drop_eq_nil_iff.mp nothing)
                exact (last_wait_iff finite follows (pending some)
                  (all.trans (decide_eq_true full))).mpr inTime
            · rintro error _ _ ⟨late, rfl, waiting, ends⟩
              exact thrown_iff finite follows (pending some) rest bound chunk all waiting ends
        · rintro error _ _ ⟨⟨errno, rfl⟩, event, rfl, none, partly⟩
          have part := pending_of_part (pending some) partly
            (fun _ occurs => (List.not_mem_nil occurs).elim)
          rw [List.append_nil] at part
          refine iff_of_false ?_ (not_not_intro (last_wait_of_pending part))
          rintro ⟨⟨text, ⟨⟩⟩, _⟩
      · rename_i done
        exact settled (List.length_eq_zero_iff.mp (Nat.eq_zero_of_not_pos done))

theorem write_times_out (finite : self.writeTimeout ≠ int64Max) {fuel : Nat} :
    (sending self b).runs (self.write fuel b) object
      (fun _ _ now => LastWaitInTime self.writeTimeout now)
      (fun error _ now => (∃ text, error = .timeout text) ∧ accepted now = b ↔
        ¬LastWaitInTime self.writeTimeout now) [] := by
  rw [SerialPosix.write, SerialPosix.requireOpen, Contract.runs_bind]
  split
  · rw [Contract.runs_pure]
    apply Contract.runs_then (runs_new (fun _ => trivial) rfl)
    rintro timeout _ _ ⟨rfl, times, rfl, follows⟩
    have waiting : ∀ event ∈ [] ++ times.map tick, Waiting event.1 := waiting_ticks times
    have pending := fun event occurs => takes_all_waiting (waiting event occurs)
    refine write_loop_times_out finite fuel ?_ follows (fun _ => pending)
      fun _ => last_wait_of_pending pending
    rw [accepted_waiting waiting, List.nil_append]
  · refine iff_of_false ?_ (not_not_intro (last_wait_of_pending fun _ occurs => ?_))
    · rintro ⟨⟨text, ⟨⟩⟩, _⟩
    · exact (List.not_mem_nil occurs).elim

/-- With a finite write timeout a `SerialTimeoutException` means that there are bytes left to
send, exactly when the wait after the last byte is in time. -/
theorem timeout_only_for_unsent_iff {fuel : Nat} {events : List OsEvent}
    {ended : Except SerialException Nat} {after : Object}
    (finite : self.writeTimeout ≠ int64Max)
    (run : ((self.write fuel b).on object).Yields events (some (ended, after))) :
    (∀ text, ended = .error (.timeout text) → (accepted events).length < b.length) ↔
      LastWaitInTime self.writeTimeout events := by
  obtain ⟨permitted, returned, thrown⟩ := Contract.runs_sound (write_times_out finite) run
    (Contract.honest_of_always (fun _ _ _ => trivial) _ _)
  rw [Contract.recording_after, List.nil_append] at returned thrown
  have sent := accepted_prefix (Contract.recording_permitted permitted)
  rcases ended with error | k
  · have late := thrown error after rfl
    constructor
    · intro unsent
      by_contra exceeded
      obtain ⟨⟨text, rfl⟩, all⟩ := late.mpr exceeded
      exact absurd (unsent text rfl) (by rw [all]; exact lt_irrefl _)
    · rintro inTime text ⟨⟩
      refine lt_of_le_of_ne sent.length_le fun same => ?_
      exact late.mp ⟨⟨text, rfl⟩, sent.eq_of_length same⟩ inTime
  · exact iff_of_true (fun _ impossible => by cases impossible) (returned k after rfl)

end Loop

def sluggish : (call : OsCall) → OsReply call
  | .on _ (.selectWrite _) => .ok false
  | call => slow call

theorem timeout_only_for_unsent_of_sluggish :
    ∃ events, (((timedPort 100).write 1 [1, 2]).on ()).Yields events
        (some (.error (.timeout "Write timeout"), ())) ∧ LastWaitInTime 100 events := by
  have ended : (Program.play (fun _ call => (sluggish call, ()))
      (((timedPort 100).write 1 [1, 2]).on ()) ()).2 =
        some (.error (.timeout "Write timeout"), ()) := by decide +kernel
  have run := Program.yields_of_play ended
  refine ⟨_, run, (timeout_only_for_unsent_iff (by decide) run).mp fun text _ => ?_⟩
  decide +kernel

/-- The only byte is taken, and then `select` times out. -/
theorem timeout_after_last_byte :
    ¬∀ (self : SerialPosix) (fuel : Nat) (b : List UInt8) (events : List OsEvent)
      (ended : Except SerialException Nat) (after : Unit), self.writeTimeout ≠ int64Max →
        ((self.write fuel b).on ()).Yields events (some (ended, after)) →
          ∀ text, ended = .error (.timeout text) → (accepted events).length < b.length := by
  intro always
  have ended : (Program.play (fun _ call => (sluggish call, ()))
      (((timedPort 100).write 1 [1]).on ()) ()).2 =
        some (.error (.timeout "Write timeout"), ()) := by decide +kernel
  have run := Program.yields_of_play ended
  have unsent := always (timedPort 100) 1 [1] _ _ () (by decide) run "Write timeout" rfl
  exact absurd unsent (by decide +kernel)

end AresCommon.Serial
