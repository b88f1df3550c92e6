import AresCommon.Serial.System
import Mathlib.Data.List.Induction

/-!
# Timeouts under a clock

What becomes of a timeout as its owner reads the clock, as a function of the readings.
The methods of `Timeout` follow it, whatever else the owner does in between.
-/

namespace AresCommon.Serial

open AresCommon.Foundation

set_option autoImplicit false

def clockReading : OsEvent → Option Int
  | ⟨.clock, now⟩ => some now
  | _ => none

def readings (events : List OsEvent) : List Int := events.filterMap clockReading

def tick (now : Int) : OsEvent := ⟨.clock, now⟩

@[simp]
theorem readings_append (earlier later : List OsEvent) :
    readings (earlier ++ later) = readings earlier ++ readings later := List.filterMap_append

@[simp]
theorem readings_ticks (times : List Int) : readings (times.map tick) = times := by
  rw [readings, List.filterMap_map]
  exact List.filterMap_some

namespace Timeout

/-- What is left of a blocking timeout at a reading. -/
def leftAt (timeout : Timeout) (now : Int) : Int :=
  if timeout.duration < timeout.deltaAt now then timeout.duration
  else max 0 (timeout.deltaAt now)

def expiredAt (timeout : Timeout) (now : Int) : Prop :=
  timeout.targetTime ≠ int64Max ∧ timeout.leftAt now ≤ 0

instance (timeout : Timeout) (now : Int) : Decidable (timeout.expiredAt now) :=
  inferInstanceAs (Decidable (_ ∧ _))

theorem restart_at_starting {start now duration : Int} (finite : duration ≠ int64Max) :
    (startingAt start duration).restartAt now duration = startingAt now duration := by
  simp only [restartAt, startingAt, if_neg finite]

end Timeout

/-- A timeout between two readings. After a jump of the clock the next reading restarts it. -/
structure Watch where
  timeout : Timeout
  jumped : Bool
  deriving DecidableEq

namespace Watch

def read (duration : Int) (watch : Option Watch) (now : Int) : Watch :=
  match watch with
  | none => ⟨.startingAt now duration, false⟩
  | some ⟨timeout, true⟩ => ⟨timeout.restartAt now timeout.duration, false⟩
  | some ⟨timeout, false⟩ => ⟨timeout, timeout.duration < timeout.deltaAt now⟩

def after (duration : Int) (times : List Int) : Option Watch :=
  times.foldl (fun watch now => some (read duration watch now)) none

theorem after_snoc (duration : Int) (times : List Int) (now : Int) :
    after duration (times ++ [now]) = some (read duration (after duration times) now) :=
  List.foldl_concat _ _ _ _

/-- The timeout is as if constructed at one of the readings. -/
theorem after_started {duration : Int} (finite : duration ≠ int64Max) {times : List Int}
    {watch : Watch} (follows : after duration times = some watch) :
    ∃ start ∈ times, watch.timeout = .startingAt start duration := by
  induction times using List.reverseRecOn generalizing watch with
  | nil => cases follows
  | append_singleton times now ih =>
      rw [after_snoc] at follows
      cases follows
      rcases before : after duration times with _ | ⟨timeout, _ | _⟩
      · exact ⟨now, by simp, rfl⟩
      · obtain ⟨start, listed, started⟩ := ih before
        exact ⟨start, List.mem_append_left _ listed, started⟩
      · obtain ⟨start, listed, rfl⟩ := ih before
        exact ⟨now, by simp, Timeout.restart_at_starting finite⟩

end Watch

/-- The timeout of a call, which is not being restarted, after some calls. -/
def Follows (duration : Int) (timeout : Timeout) (past : List OsEvent) : Prop :=
  if duration = int64Max then timeout = .startingAt 0 duration
  else Watch.after duration (readings past) = some ⟨timeout, false⟩

/-- No millisecond is left at the last of some readings, to a timeout that was started at one
of them. -/
def RanOut (duration : Int) (times : List Int) : Prop :=
  duration ≠ int64Max ∧ (duration ≤ 0 ∨ ∃ start ∈ times, ∃ last ∈ times.getLast?,
    (Timeout.startingAt start duration).deltaAt last ≤ 0)

namespace Follows

variable {duration : Int} {timeout : Timeout} {past : List OsEvent}

theorem started (follows : Follows duration timeout past) :
    ∃ start, timeout = .startingAt start duration := by
  unfold Follows at follows
  split at follows
  · exact ⟨0, follows⟩
  · rename_i finite
    obtain ⟨start, _, started⟩ := Watch.after_started finite follows
    exact ⟨start, started⟩

theorem infinite (follows : Follows duration timeout past) :
    timeout.infinite = decide (duration = int64Max) := by
  obtain ⟨start, rfl⟩ := follows.started
  rfl

theorem non_blocking (follows : Follows duration timeout past) :
    timeout.nonBlocking = decide (duration = 0) := by
  obtain ⟨start, rfl⟩ := follows.started
  rfl

theorem duration_eq (follows : Follows duration timeout past) : timeout.duration = duration := by
  obtain ⟨start, rfl⟩ := follows.started
  rfl

theorem append (follows : Follows duration timeout past) {late : List OsEvent}
    (silent : readings late = []) : Follows duration timeout (past ++ late) := by
  simpa only [Follows, readings_append, silent, List.append_nil] using follows

theorem later (follows : Follows duration timeout past) (infinite : duration = int64Max)
    (now : List OsEvent) : Follows duration timeout now := by
  rw [Follows, if_pos infinite] at follows ⊢
  exact follows

end Follows

/-! ### The methods -/

/-- What `time_left` reads, what it answers and what it leaves of the timeout. -/
inductive Queried (timeout : Timeout) : List Int → Int → Timeout → Prop where
  | nonBlocking (flag : timeout.nonBlocking = true) : Queried timeout [] 0 timeout
  | infinite (blocking : timeout.nonBlocking = false) (flag : timeout.infinite = true) :
      Queried timeout [] int64Max timeout
  | steady (now : Int) (blocking : timeout.nonBlocking = false)
      (finite : timeout.infinite = false)
      (calm : ¬timeout.duration < timeout.deltaAt now) :
      Queried timeout [now] (max 0 (timeout.deltaAt now)) timeout
  | jumped (now restart : Int) (blocking : timeout.nonBlocking = false)
      (finite : timeout.infinite = false) (jump : timeout.duration < timeout.deltaAt now) :
      Queried timeout [now, restart] timeout.duration
        (timeout.restartAt restart timeout.duration)

inductive Tested (timeout : Timeout) : List Int → Bool → Timeout → Prop where
  | never (last : timeout.targetTime = int64Max) : Tested timeout [] false timeout
  | asked {times : List Int} {left : Int} {timeout' : Timeout}
      (other : timeout.targetTime ≠ int64Max) (queried : Queried timeout times left timeout') :
      Tested timeout times (left ≤ 0) timeout'

section Rules

variable {Object Error : Type} {past : List OsEvent} {object : Object}
variable {permits : List OsEvent → OsCall → Prop}
variable {honest : List OsEvent → (call : OsCall) → OsReply call → Prop}
variable (clock : ∀ past, permits past .clock)
include clock

theorem runs_new {duration : Int} (fresh : readings past = []) :
    (Contract.recording permits honest).runs
      (Timeout.new duration : Method _ _ Object Error _) object
      (fun timeout after now => after = object ∧ ∃ times : List Int,
        now = past ++ times.map tick ∧ Follows duration timeout now)
      (fun _ _ _ => False) past := by
  unfold Timeout.new
  split
  · rename_i infinite
    refine ⟨rfl, [], (List.append_nil past).symm, ?_⟩
    rw [Follows, if_pos infinite]
  · rename_i finite
    refine ⟨clock past, fun now _ => ⟨rfl, [now], rfl, ?_⟩⟩
    have snoc : readings (past ++ [tick now]) = [now] := by
      rw [readings_append, fresh]
      rfl
    rw [Follows, if_neg finite]
    exact congrArg (Watch.after duration) snoc

theorem runs_time_left (timeout : Timeout) :
    (Contract.recording permits honest).runs
      (timeout.timeLeft : Method _ _ Object Error _) object
      (fun result after now => after = object ∧ ∃ times : List Int,
        now = past ++ times.map tick ∧ Queried timeout times result.1 result.2)
      (fun _ _ _ => False) past := by
  unfold Timeout.timeLeft
  cases blocking : timeout.nonBlocking with
  | true => exact ⟨rfl, [], (List.append_nil past).symm, .nonBlocking blocking⟩
  | false =>
      cases finite : timeout.infinite with
      | true => exact ⟨rfl, [], (List.append_nil past).symm, .infinite blocking finite⟩
      | false =>
          simp only [Bool.false_eq_true, if_false, Contract.runs_bind, runs_steady_now]
          refine ⟨clock past, fun now _ => ?_⟩
          split
          · rename_i jump
            refine ⟨clock _, fun restart _ => ⟨rfl, [now, restart], ?_, ?_⟩⟩
            · exact List.append_assoc past [tick now] [tick restart]
            · exact .jumped now restart blocking finite jump
          · rename_i calm
            exact ⟨rfl, [now], rfl, .steady now blocking finite calm⟩

theorem runs_time_left_tv (timeout : Timeout) :
    (Contract.recording permits honest).runs
      (timeout.timeLeftTv : Method _ _ Object Error _) object
      (fun result after now => after = object ∧ ∃ (times : List Int) (left : Int),
        now = past ++ times.map tick ∧ Queried timeout times left result.2)
      (fun _ _ _ => False) past := by
  apply Contract.runs_then (runs_time_left clock timeout)
  rintro ⟨left, timeout'⟩ _ now ⟨rfl, times, rfl, queried⟩
  exact ⟨rfl, times, left, rfl, queried⟩

theorem runs_expired (timeout : Timeout) :
    (Contract.recording permits honest).runs
      (timeout.expired : Method _ _ Object Error _) object
      (fun result after now => after = object ∧ ∃ times : List Int,
        now = past ++ times.map tick ∧ Tested timeout times result.1 result.2)
      (fun _ _ _ => False) past := by
  unfold Timeout.expired
  split
  · rename_i last
    exact ⟨rfl, [], (List.append_nil past).symm, .never last⟩
  · rename_i other
    apply Contract.runs_then (runs_time_left clock timeout)
    rintro ⟨left, timeout'⟩ _ now ⟨rfl, times, rfl, queried⟩
    exact ⟨rfl, times, rfl, .asked other queried⟩

end Rules

/-! ### What the answers mean -/

section Answers

variable {duration : Int} {timeout timeout' : Timeout} {past : List OsEvent} {times : List Int}
variable {left : Int} {expired : Bool}

theorem Queried.follows (queried : Queried timeout times left timeout')
    (follows : Follows duration timeout past) :
    Follows duration timeout' (past ++ times.map tick) := by
  cases queried with
  | nonBlocking flag => exact follows.append rfl
  | infinite blocking flag => exact follows.append rfl
  | steady now blocking finite calm =>
      rw [follows.infinite, decide_eq_false_iff_not] at finite
      rw [Follows, if_neg finite] at follows ⊢
      simp only [readings_append, readings_ticks, Watch.after_snoc, follows, Watch.read, calm,
        decide_false]
  | jumped now restart blocking finite jump =>
      rw [follows.infinite, decide_eq_false_iff_not] at finite
      rw [Follows, if_neg finite] at follows ⊢
      rw [readings_append, readings_ticks, ← List.singleton_append, ← List.append_assoc]
      simp only [Watch.after_snoc, follows, Watch.read, jump, decide_true]

theorem Queried.left_eq (queried : Queried timeout times left timeout')
    (blocking : timeout.nonBlocking = false) (finite : timeout.infinite = false) :
    ∃ now later, times = now :: later ∧ left = timeout.leftAt now := by
  cases queried with
  | nonBlocking flag => simp [blocking] at flag
  | infinite _ flag => simp [finite] at flag
  | steady now _ _ calm => exact ⟨now, [], rfl, (if_neg calm).symm⟩
  | jumped now restart _ _ jump => exact ⟨now, [restart], rfl, (if_pos jump).symm⟩

theorem Tested.follows (tested : Tested timeout times expired timeout')
    (follows : Follows duration timeout past) :
    Follows duration timeout' (past ++ times.map tick) := by
  cases tested with
  | never last => exact follows.append rfl
  | asked other queried => exact queried.follows follows

theorem Tested.expired_iff (tested : Tested timeout times expired timeout')
    (blocking : timeout.nonBlocking = false) (finite : timeout.infinite = false) :
    expired = true ↔ ∃ now later, times = now :: later ∧ timeout.expiredAt now := by
  cases tested with
  | never last => simp
  | asked other queried =>
      obtain ⟨now, later, rfl, rfl⟩ := queried.left_eq blocking finite
      simp only [decide_eq_true_eq, List.cons.injEq]
      exact ⟨fun up => ⟨now, later, ⟨rfl, rfl⟩, other, up⟩,
        fun ⟨_, _, ⟨same, _⟩, expired⟩ => by rw [same]; exact expired.2⟩

theorem Tested.calm (tested : Tested timeout times expired timeout') (up : expired = false)
    (blocking : timeout.nonBlocking = false) (finite : timeout.infinite = false)
    {later rest : List Int} {now : Int} (head : times ++ later = now :: rest) :
    ¬timeout.expiredAt now := by
  intro expires
  cases times with
  | cons first others =>
      obtain ⟨rfl, _⟩ := List.cons.inj head
      have tests := (tested.expired_iff blocking finite).mpr ⟨first, others, rfl, expires⟩
      rw [up] at tests
      cases tests
  | nil =>
      cases tested with
      | never last => exact expires.1 last
      | asked other queried =>
          obtain ⟨_, _, impossible, _⟩ := queried.left_eq blocking finite
          cases impossible

/-- A timeout that is expired has run out. -/
theorem Tested.ran_out (tested : Tested timeout times expired timeout')
    (follows : Follows duration timeout past) (up : expired = true) :
    RanOut duration (readings (past ++ times.map tick)) := by
  rw [readings_append, readings_ticks]
  cases tested with
  | never last => cases up
  | asked other queried =>
      rw [decide_eq_true_eq] at up
      cases queried with
      | nonBlocking flag =>
          rw [follows.non_blocking, decide_eq_true_eq] at flag
          subst flag
          exact ⟨by decide, .inl (le_refl 0)⟩
      | infinite blocking flag => exact absurd up (by decide)
      | steady now blocking finite calm =>
          rw [follows.infinite, decide_eq_false_iff_not] at finite
          rw [Follows, if_neg finite] at follows
          obtain ⟨start, listed, rfl⟩ := Watch.after_started finite follows
          refine ⟨finite, .inr ⟨start, List.mem_append_left _ listed, now, ?_, ?_⟩⟩
          · exact List.getLast?_concat
          · exact (le_max_right _ _).trans up
      | jumped now restart blocking finite jump =>
          rw [follows.infinite, decide_eq_false_iff_not] at finite
          rw [follows.duration_eq] at up
          exact ⟨finite, .inl up⟩

end Answers

theorem delta_at_starting {duration start now : Int} (positive : 0 < duration)
    (short : duration * 1000000 < 2 ^ 63) (ahead : start ≤ now) (near : now - start < 2 ^ 63) :
    (Timeout.startingAt start duration).deltaAt now =
      (duration * 1000000 - (now - start)).tdiv 1000000 := by
  have finite : duration ≠ int64Max := by
    unfold int64Max
    omega
  have wide : int64 (duration * 1000000) = duration * 1000000 :=
    Int.bmod_eq_of_le_mul_two (by omega) (by omega)
  have difference : int64 (int64 (start + duration * 1000000) - now) =
      duration * 1000000 - (now - start) := by
    calc
      int64 (int64 (start + duration * 1000000) - now)
          = int64 (start + duration * 1000000 - now) := Int.bmod_sub_bmod
      _ = int64 (duration * 1000000 - (now - start)) := congrArg int64 (by omega)
      _ = duration * 1000000 - (now - start) :=
        Int.bmod_eq_of_le_mul_two (by omega) (by omega)
  simp only [Timeout.deltaAt, Timeout.startingAt, Timeout.nanoseconds, if_neg finite, wide,
    difference]

/-- The readings of a clock that counts from zero, is not set back and does not overflow. -/
structure Steady (times : List Int) : Prop where
  monotone : times.Pairwise (· ≤ ·)
  range : ∀ now ∈ times, 0 ≤ now ∧ now < 2 ^ 63

/-- Between the first and the last reading a duration in milliseconds has passed, but for less
than one of them. -/
def HasPassed (duration : Int) (times : List Int) : Prop :=
  ∀ first ∈ times.head?, ∀ last ∈ times.getLast?, duration * 1000000 < last - first + 1000000

theorem Steady.head_le {first : Int} {later : List Int} (steady : Steady (first :: later)) :
    ∀ now ∈ first :: later, first ≤ now := by
  intro now listed
  rcases List.mem_cons.mp listed with rfl | listed
  · exact le_refl now
  · exact List.rel_of_pairwise_cons steady.monotone listed

theorem Steady.le_last {times : List Int} {last : Int} (steady : Steady times)
    (ends : times.getLast? = some last) : ∀ now ∈ times, now ≤ last := by
  obtain ⟨earlier, rfl⟩ := List.getLast?_eq_some_iff.mp ends
  intro now listed
  rcases List.mem_append.mp listed with listed | listed
  · have ordered := (List.pairwise_append.mp steady.monotone).2.2
    exact ordered now listed last (List.mem_singleton_self last)
  · exact le_of_eq (List.mem_singleton.mp listed)

theorem RanOut.has_passed {duration : Int} {times : List Int} (ran : RanOut duration times)
    (steady : Steady times) (short : duration * 1000000 < 2 ^ 63) : HasPassed duration times := by
  intro first begins last ends
  obtain ⟨later, rfl⟩ := List.head?_eq_some_iff.mp begins
  have listed := List.mem_of_getLast? ends
  have forward := steady.head_le last listed
  rcases ran.2 with past | ⟨start, started, now, same, up⟩
  · omega
  · obtain rfl : last = now := Option.some.inj (ends.symm.trans same)
    have afterFirst := steady.head_le start started
    have beforeLast := steady.le_last ends start started
    have startRange := steady.range start started
    have lastRange := steady.range last listed
    by_cases positive : 0 < duration
    · rw [delta_at_starting positive short beforeLast (by omega)] at up
      have bounded := Int.lt_mul_of_tdiv_lt (by decide) (Int.lt_add_one_of_le up)
      omega
    · omega

end AresCommon.Serial
