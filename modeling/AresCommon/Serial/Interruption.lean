import AresCommon.Serial.Reception
import Mathlib.Data.List.Chain
import Mathlib.Data.List.Pairwise

/-!
# Interrupted selects

`read_port` calls `read(2)` after a `select` that failed as after one that reports data.
When nothing is there `read(2)` returns 0 bytes, which `read` takes for a device that is gone.
-/

namespace AresCommon.Serial

open AresCommon.Foundation

set_option autoImplicit false

def reportsReady : OsEvent → Bool
  | ⟨.on _ (.selectRead _), .ok ready⟩ => ready
  | _ => false

def interrupted : OsEvent → Bool
  | ⟨.on _ (.selectRead _), .error errno⟩ => errno = .eintr
  | _ => false

/-- A `select` reports data, times out or is interrupted; a read does not fail and gives data
that was reported. With VMIN and VTIME zero it gives nothing when there is no data. -/
def Posix (past : List OsEvent) : (call : OsCall) → OsReply call → Prop
  | .on _ (.selectRead _), reply => reply = .ok true ∨ reply = .ok false ∨ reply = .error .eintr
  | .on _ (.read _), reply => ∃ bytes, reply = .ok bytes ∧
      ∀ event ∈ past.getLast?, reportsReady event = true → bytes.1 ≠ []
  | _, _ => True

abbrev posixReads : Contract OsCall OsReply (List OsEvent) :=
  Contract.recording (fun _ _ => True) Posix

def DataAfterInterrupts (events : List OsEvent) : Prop :=
  events.IsChain fun select answer => interrupted select = true → given answer ≠ []

structure Calm (events : List OsEvent) : Prop where
  data : DataAfterInterrupts events
  ended : ∀ event ∈ events.getLast?, interrupted event = false

namespace Calm

variable {past late : List OsEvent}

theorem append (before : Calm past) (after : Calm late) : Calm (past ++ late) := by
  constructor
  · refine List.isChain_append.mpr ⟨before.data, after.data, fun select last answer _ => ?_⟩
    intro stopped
    rw [before.ended select last] at stopped
    cases stopped
  · intro event last
    rw [List.getLast?_append] at last
    cases ends : late.getLast? with
    | none =>
        rw [ends] at last
        exact before.ended event last
    | some final =>
        rw [ends] at last
        exact after.ended event (ends.trans last)

theorem of_uninterrupted (quiet : ∀ event ∈ past, interrupted event = false) : Calm past := by
  constructor
  · apply List.Pairwise.isChain
    apply List.pairwise_of_forall_mem_list
    intro select occurs answer _ stopped
    rw [quiet select occurs] at stopped
    cases stopped
  · exact fun event last => quiet event (List.mem_of_getLast? last)

theorem ticks (times : List Int) : Calm (times.map tick) := by
  apply of_uninterrupted
  intro event occurs
  obtain ⟨now, _, rfl⟩ := List.mem_map.mp occurs
  rfl

end Calm

section Loop

variable {self : SerialPosix} {n : Nat} {past late : List OsEvent} {timeout : Timeout}
variable {b : List UInt8} {bytesRead readLen : Nat} {timeLeft : Option Timeval} {fd : Int}

theorem chunk_calm {bytes : List UInt8} (chunk : Chunk fd readLen timeLeft late (.ok bytes))
    (posix : posixReads.Honest past late) : Calm late := by
  cases chunk with
  | timedOut => exact .of_uninterrupted (List.forall_mem_singleton.mpr rfl)
  | retried ready waited errno retries =>
      obtain ⟨_, ⟨bytes, impossible, _⟩, _⟩ := posix
      cases impossible
  | data ready waited bytes some =>
      constructor
      · refine List.isChain_pair.mpr fun _ none => ?_
        exact some (List.length_eq_zero_iff.mpr none)
      · rintro event ⟨⟩
        rfl

/-- A turn that throws was interrupted and given nothing. -/
theorem chunk_interrupted {error : SerialException}
    (chunk : Chunk fd readLen timeLeft late (.error error)) (posix : posixReads.Honest past late) :
    ¬DataAfterInterrupts (past ++ late) := by
  cases chunk with
  | failed ready waited errno fatal =>
      obtain ⟨_, ⟨bytes, impossible, _⟩, _⟩ := posix
      cases impossible
  | empty ready waited bytes none =>
      have nothing := List.length_eq_zero_iff.mp none
      obtain ⟨reply, ⟨_, ⟨⟩, present⟩, _⟩ := posix
      intro data
      have pair := (List.isChain_append.mp data).2.1
      rcases reply with rfl | rfl | rfl
      · exact present _ List.getLast?_concat rfl nothing
      · exact waited rfl
      · exact List.isChain_pair.mp pair rfl nothing

theorem read_loop_interrupted (fuel : Nat) (follows : Follows self.timeout timeout past)
    (calm : Calm past) :
    posixReads.runs (self.readLoop n fuel bytesRead timeout) b
      (fun _ _ now => DataAfterInterrupts now) (fun _ _ now => ¬DataAfterInterrupts now) past := by
  induction fuel generalizing past timeout b bytesRead with
  | zero => trivial
  | succ fuel ih =>
      unfold SerialPosix.readLoop
      split
      · apply Contract.runs_then (runs_read_time (fun _ => trivial) follows)
        rintro ⟨timeLeft, timeout₁⟩ b _ ⟨rfl, follows₁, times₁, rfl⟩
        have calm₁ := calm.append (.ticks times₁)
        apply Contract.runs_seq (runs_read_chunk trivial fun _ => trivial)
        · rintro _ _ _ ⟨late, bytes, rfl, posix, chunk, rfl, rfl⟩
          have calm₂ := calm₁.append (chunk_calm chunk posix)
          apply Contract.runs_then (runs_expired (fun _ => trivial) timeout₁)
          rintro ⟨expired, timeout₂⟩ _ _ ⟨rfl, times₂, rfl, tested⟩
          have calm₃ := calm₂.append (.ticks times₂)
          cases expired with
          | true => exact calm₃.data
          | false => exact ih (tested.follows (follows₁.append chunk.readings_ok)) calm₃
        · rintro error _ _ ⟨late, rfl, posix, chunk, rfl⟩
          exact chunk_interrupted chunk posix
      · exact calm.data

theorem read_interrupted (opened : self.isOpen = true) {fuel : Nat} {previous : List UInt8} :
    posixReads.runs (self.read fuel n) previous (fun _ _ now => DataAfterInterrupts now)
      (fun _ _ now => ¬DataAfterInterrupts now) [] := by
  rw [SerialPosix.read, SerialPosix.requireOpen, if_pos opened, Contract.runs_bind,
    Contract.runs_pure, Contract.runs_bind, Contract.runs_modify]
  apply Contract.runs_then (runs_new (fun _ => trivial) rfl)
  rintro timeout b _ ⟨rfl, times, rfl, follows⟩
  exact read_loop_interrupted fuel follows (.ticks times)

/-- `read` does not throw and goes on until it has all its bytes or its timeout is up, exactly
when there is data after every interruption. -/
theorem interruptions_retried_iff (opened : self.isOpen = true) {fuel : Nat}
    {previous : List UInt8} {events : List OsEvent} {ended : Except SerialException Nat}
    (run : ((self.read fuel n).on previous).Yields events (some (ended, b)))
    (posix : posixReads.Honest [] events) :
    (∃ k, ended = .ok k ∧ (k = n ∨ RanOut self.timeout (readings events))) ↔
      DataAfterInterrupts events := by
  obtain ⟨_, returned, thrown⟩ := Contract.runs_sound (read_interrupted opened) run posix
  rw [Contract.recording_after, List.nil_append] at returned thrown
  rcases ended with error | k
  · refine iff_of_false ?_ (thrown error b rfl)
    rintro ⟨k, impossible, _⟩
    cases impossible
  · obtain ⟨_, _, bound, expired⟩ := (read_loses_nothing run).2.1 k b rfl
    refine iff_of_true ⟨k, rfl, ?_⟩ (returned k b rfl)
    rcases Nat.eq_or_lt_of_le bound with all | less
    · exact .inl all
    · exact .inr (expired less).1

end Loop

def interruptedRead (bytes : { bytes : List UInt8 // bytes.length ≤ 1 }) : List OsEvent :=
  [⟨.on 3 (.selectRead none), .error .eintr⟩, ⟨.on 3 (.read 1), .ok bytes⟩]

theorem posix_interrupted_read (bytes : { bytes : List UInt8 // bytes.length ≤ 1 }) :
    posixReads.Honest [] (interruptedRead bytes) := by
  refine ⟨.inr (.inr rfl), ⟨bytes, rfl, ?_⟩, trivial⟩
  rintro event ⟨⟩ ⟨⟩

/-- A byte that comes in during the interruption is read. -/
theorem interruptions_retried_of_byte :
    DataAfterInterrupts (interruptedRead ⟨[7], Nat.le_refl 1⟩) := by
  have run : (((readingPort int64Max).read 2 1).on []).Yields
      (interruptedRead ⟨[7], Nat.le_refl 1⟩) (some (.ok 1, [7])) := .asked (.asked (.finished _))
  exact (interruptions_retried_iff rfl run (posix_interrupted_read _)).mp ⟨1, rfl, .inl rfl⟩

/-- The signal comes while no byte is there. -/
theorem interruption_without_data :
    ¬∀ (self : SerialPosix) (fuel n : Nat) (previous b : List UInt8) (events : List OsEvent)
      (ended : Except SerialException Nat), self.isOpen = true →
        ((self.read fuel n).on previous).Yields events (some (ended, b)) →
          posixReads.Honest [] events →
            ∃ k, ended = .ok k ∧ (k = n ∨ RanOut self.timeout (readings events)) := by
  intro always
  have run : (((readingPort int64Max).read 1 1).on []).Yields
      (interruptedRead ⟨[], Nat.zero_le 1⟩)
      (some (.error (.errnum (-Errno.enodev.code)
        ("device reports readiness to read but returned no data " ++
          "(device disconnected or multiple access on port?)")), [])) :=
    .asked (.asked (.finished _))
  obtain ⟨k, impossible, _⟩ := always _ _ _ _ _ _ _ rfl run (posix_interrupted_read _)
  cases impossible

end AresCommon.Serial
