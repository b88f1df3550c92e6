import AresCommon.Serial.Watch

/-!
# What a read receives

A call of `read` asks the operating system for the bytes that are missing until it has
them all or its timeout is up. Every byte that it is given is in the vector of the caller,
however the call ends.
-/

namespace AresCommon.Serial

open AresCommon.Foundation

set_option autoImplicit false

def given : OsEvent → List UInt8
  | ⟨.on _ (.read _), .ok bytes⟩ => bytes.1
  | _ => []

def received (events : List OsEvent) : List UInt8 := events.flatMap given

@[simp]
theorem received_append (earlier later : List OsEvent) :
    received (earlier ++ later) = received earlier ++ received later := List.flatMap_append

@[simp]
theorem received_ticks (times : List Int) : received (times.map tick) = [] := by
  refine List.flatMap_eq_nil_iff.mpr fun event occurs => ?_
  obtain ⟨now, _, rfl⟩ := List.mem_map.mp occurs
  rfl

def AsksMissing (self : SerialPosix) (n : Nat) (past : List OsEvent) : OsCall → Prop
  | .on fd (.read nbytes) => fd = self.fd ∧ nbytes + (received past).length = n
  | _ => True

/-- One turn of the loop: its calls, and the bytes it appends to the vector or what it throws. -/
inductive Chunk (fd : Int) (readLen : Nat) (timeLeft : Option Timeval) :
    List OsEvent → Except SerialException (List UInt8) → Prop where
  | timedOut : Chunk fd readLen timeLeft [⟨.on fd (.selectRead timeLeft), .ok false⟩] (.ok [])
  | retried (ready : Except Errno Bool) (waited : ready ≠ .ok false) (errno : Errno)
      (retries : SerialPosix.retriesRead errno = true) :
      Chunk fd readLen timeLeft
        [⟨.on fd (.selectRead timeLeft), ready⟩, ⟨.on fd (.read readLen), .error errno⟩] (.ok [])
  | failed (ready : Except Errno Bool) (waited : ready ≠ .ok false) (errno : Errno)
      (fatal : SerialPosix.retriesRead errno = false) :
      Chunk fd readLen timeLeft
        [⟨.on fd (.selectRead timeLeft), ready⟩, ⟨.on fd (.read readLen), .error errno⟩]
        (.error (failed "read failed" errno))
  | empty (ready : Except Errno Bool) (waited : ready ≠ .ok false)
      (bytes : { bytes : List UInt8 // bytes.length ≤ readLen }) (none : bytes.1.length = 0) :
      Chunk fd readLen timeLeft
        [⟨.on fd (.selectRead timeLeft), ready⟩, ⟨.on fd (.read readLen), .ok bytes⟩]
        (.error (.errnum (-Errno.enodev.code)
          ("device reports readiness to read but returned no data " ++
            "(device disconnected or multiple access on port?)")))
  | data (ready : Except Errno Bool) (waited : ready ≠ .ok false)
      (bytes : { bytes : List UInt8 // bytes.length ≤ readLen }) (some : bytes.1.length ≠ 0) :
      Chunk fd readLen timeLeft
        [⟨.on fd (.selectRead timeLeft), ready⟩, ⟨.on fd (.read readLen), .ok bytes⟩]
        (.ok bytes.1)

namespace Chunk

variable {fd : Int} {readLen : Nat} {timeLeft : Option Timeval} {late : List OsEvent}
variable {bytes : List UInt8} {error : SerialException}

theorem received_ok (chunk : Chunk fd readLen timeLeft late (.ok bytes)) :
    received late = bytes := by
  cases chunk with
  | timedOut => rfl
  | retried => rfl
  | data ready waited bytes => exact List.append_nil bytes.1

theorem length_le (chunk : Chunk fd readLen timeLeft late (.ok bytes)) :
    bytes.length ≤ readLen := by
  cases chunk with
  | timedOut => exact Nat.zero_le _
  | retried => exact Nat.zero_le _
  | data ready waited bytes => exact bytes.2

theorem received_error (chunk : Chunk fd readLen timeLeft late (.error error)) :
    received late = [] := by
  cases chunk with
  | failed => rfl
  | empty ready waited bytes none =>
      exact (List.append_nil bytes.1).trans (List.length_eq_zero_iff.mp none)

theorem readings_ok (chunk : Chunk fd readLen timeLeft late (.ok bytes)) : readings late = [] := by
  cases chunk <;> rfl

end Chunk

section Rules

variable {self : SerialPosix} {past : List OsEvent} {b : List UInt8}
variable {permits : List OsEvent → OsCall → Prop}
variable {honest : List OsEvent → (call : OsCall) → OsReply call → Prop}

theorem runs_read_chunk {readLen : Nat} {timeLeft : Option Timeval}
    (select : permits past (.on self.fd (.selectRead timeLeft)))
    (read : ∀ ready, permits (past ++ [⟨.on self.fd (.selectRead timeLeft), ready⟩])
      (.on self.fd (.read readLen))) :
    (Contract.recording permits honest).runs (self.readChunk readLen timeLeft) b
      (fun count after now => ∃ late bytes, now = past ++ late ∧
        (Contract.recording permits honest).Honest past late ∧
        Chunk self.fd readLen timeLeft late (.ok bytes) ∧
        after = b ++ bytes ∧ count = bytes.length)
      (fun error after now => ∃ late, now = past ++ late ∧
        (Contract.recording permits honest).Honest past late ∧
        Chunk self.fd readLen timeLeft late (.error error) ∧ after = b) past := by
  have record (ready : Except Errno Bool)
      (reply : Except Errno { bytes : List UInt8 // bytes.length ≤ readLen }) :
      past ++ [(⟨.on self.fd (.selectRead timeLeft), ready⟩ : OsEvent)] ++
        [⟨.on self.fd (.read readLen), reply⟩] =
      past ++ [⟨.on self.fd (.selectRead timeLeft), ready⟩,
        ⟨.on self.fd (.read readLen), reply⟩] := List.append_assoc _ _ _
  rw [SerialPosix.readChunk, Contract.runs_bind, Contract.runs_attempt, runs_read_port]
  refine ⟨select, fun ready selected => ?_⟩
  split
  · rename_i timedOut
    subst timedOut
    exact ⟨_, [], rfl, ⟨selected, trivial⟩, .timedOut, (List.append_nil b).symm, rfl⟩
  · rename_i waited
    refine ⟨read ready, fun bytes answered => ?_, fun errno answered => ?_⟩
    · simp only
      split
      · rename_i none
        exact ⟨_, record ready (.ok bytes), ⟨selected, answered, trivial⟩,
          .empty ready waited bytes none, rfl⟩
      · rename_i some
        exact ⟨_, _, record ready (.ok bytes), ⟨selected, answered, trivial⟩,
          .data ready waited bytes some, rfl, rfl⟩
    · simp only
      split
      · rename_i retries
        exact ⟨_, [], record ready (.error errno), ⟨selected, answered, trivial⟩,
          .retried ready waited errno retries, (List.append_nil b).symm, rfl⟩
      · rename_i fatal
        exact ⟨_, record ready (.error errno), ⟨selected, answered, trivial⟩,
          .failed ready waited errno (by simpa using fatal), rfl⟩

theorem runs_read_time {duration : Int} {timeout : Timeout} (clock : ∀ past, permits past .clock)
    (follows : Follows duration timeout past) :
    (Contract.recording permits honest).runs (SerialPosix.readTime timeout) b
      (fun result after now => after = b ∧ Follows duration result.2 now ∧
        ∃ times : List Int, now = past ++ times.map tick) (fun _ _ _ => False) past := by
  unfold SerialPosix.readTime
  split
  · exact ⟨rfl, follows, [], (List.append_nil past).symm⟩
  · apply Contract.runs_then (runs_time_left_tv clock timeout)
    rintro result _ _ ⟨rfl, times, left, rfl, queried⟩
    exact ⟨rfl, queried.follows follows, times, rfl⟩

end Rules

/-! ### The loop -/

section Loop

variable {self : SerialPosix} {n : Nat} {past : List OsEvent} {timeout : Timeout}
variable {b : List UInt8} {bytesRead : Nat}

/-- The contract of `read`: any replies, but only what is missing is asked for. -/
abbrev receiving (self : SerialPosix) (n : Nat) : Contract OsCall OsReply (List OsEvent) :=
  Contract.recording (AsksMissing self n) fun _ _ _ => True

theorem read_loop_receives (fuel : Nat) (follows : Follows self.timeout timeout past)
    (holds : b = received past) (count : bytesRead = b.length) (bound : bytesRead ≤ n) :
    (receiving self n).runs (self.readLoop n fuel bytesRead timeout) b
      (fun k b now => b = received now ∧ k = b.length ∧ k ≤ n ∧
        (k < n → RanOut self.timeout (readings now)))
      (fun _ b now => b = received now) past := by
  induction fuel generalizing past timeout b bytesRead with
  | zero => trivial
  | succ fuel ih =>
      unfold SerialPosix.readLoop
      split
      · rename_i more
        have clock (past : List OsEvent) : AsksMissing self n past .clock := trivial
        apply Contract.runs_then (runs_read_time clock follows)
        rintro ⟨timeLeft, timeout₁⟩ b _ ⟨rfl, follows₁, times₁, rfl⟩
        have asks (ready : Except Errno Bool) : AsksMissing self n
            (past ++ times₁.map tick ++ [⟨.on self.fd (.selectRead timeLeft), ready⟩])
            (.on self.fd (.read (n - bytesRead))) := by
          refine ⟨rfl, ?_⟩
          have selected : received [(⟨.on self.fd (.selectRead timeLeft), ready⟩ : OsEvent)] =
            [] := rfl
          rw [received_append, received_append, received_ticks, selected, List.append_nil,
            List.append_nil, ← holds, ← count, Nat.sub_add_cancel bound]
        apply Contract.runs_seq (runs_read_chunk trivial asks)
        · rintro _ _ _ ⟨late, bytes, rfl, _, chunk, rfl, rfl⟩
          have follows₂ := follows₁.append chunk.readings_ok
          have total : bytesRead + bytes.length ≤ n := by
            have part := chunk.length_le
            omega
          apply Contract.runs_then (runs_expired clock timeout₁)
          rintro ⟨expired, timeout₂⟩ _ _ ⟨rfl, times₂, rfl, tested⟩
          have grown : b ++ bytes = received (past ++ times₁.map tick ++ late ++
              times₂.map tick) := by
            rw [received_append, received_append, received_append, received_ticks,
              received_ticks, chunk.received_ok, List.append_nil, List.append_nil, holds]
          have length : bytesRead + bytes.length = (b ++ bytes).length := by
            rw [List.length_append, count]
          cases expired with
          | true => exact ⟨grown, length, total, fun _ => tested.ran_out follows₂ rfl⟩
          | false => exact ih (tested.follows follows₂) grown length total
        · rintro error _ _ ⟨late, rfl, _, chunk, rfl⟩
          rw [received_append, received_append, received_ticks, chunk.received_error,
            List.append_nil, List.append_nil, holds]
      · rename_i done
        exact ⟨holds, count, bound, fun less => absurd less done⟩

theorem read_receives {fuel : Nat} {previous : List UInt8} :
    (receiving self n).runs (self.read fuel n) previous
      (fun k b now => b = received now ∧ k = b.length ∧ k ≤ n ∧
        (k < n → RanOut self.timeout (readings now)))
      (fun _ b now => b = received now ∨ self.isOpen = false ∧ now = [] ∧ b = previous) [] := by
  rw [SerialPosix.read, SerialPosix.requireOpen, Contract.runs_bind]
  cases self.isOpen with
  | true =>
      rw [if_pos rfl, Contract.runs_pure, Contract.runs_bind, Contract.runs_modify]
      apply Contract.runs_then (runs_new (fun _ => trivial) rfl)
      rintro timeout b _ ⟨rfl, times, rfl, follows⟩
      apply Contract.runs_mono (read_loop_receives fuel follows (received_ticks times).symm rfl
        (Nat.zero_le n))
      · exact fun _ _ _ ended => ended
      · exact fun _ _ _ kept => .inl kept
  | false => exact .inr ⟨rfl, rfl, rfl⟩

/-- In every call of `read` what is asked for is what is missing; the vector holds what was
received, in this order, when the call returns and when it throws; on a closed port there is
no call and the vector is left alone. It returns with less than what it was asked for only when
its timeout has run out. -/
theorem read_loses_nothing {fuel : Nat} {previous : List UInt8} {events : List OsEvent}
    {outcome : Option (Except SerialException Nat × List UInt8)}
    (run : ((self.read fuel n).on previous).Yields events outcome) :
    (∀ earlier event later, events = earlier ++ event :: later →
      AsksMissing self n earlier event.1) ∧
    (∀ k b, outcome = some (.ok k, b) → b = received events ∧ k = b.length ∧ k ≤ n ∧
      (k < n → RanOut self.timeout (readings events) ∧
        (Steady (readings events) → self.timeout * 1000000 < 2 ^ 63 →
          HasPassed self.timeout (readings events)))) ∧
    ∀ error b, outcome = some (.error error, b) →
      b = received events ∨ self.isOpen = false ∧ events = [] ∧ b = previous := by
  obtain ⟨permitted, returned, thrown⟩ := Contract.runs_sound read_receives run
    (Contract.honest_of_always (fun _ _ _ => trivial) _ _)
  rw [Contract.recording_after, List.nil_append] at returned thrown
  refine ⟨Contract.recording_permitted permitted, fun k b ended => ?_, thrown⟩
  obtain ⟨whole, length, bound, expired⟩ := returned k b ended
  refine ⟨whole, length, bound, fun less => ⟨expired less, fun steady short => ?_⟩⟩
  exact (expired less).has_passed steady short

end Loop

def readingPort (timeout : Int) : SerialPosix :=
  { SerialPosix.ofAttributes { timeout := timeout } with isOpen := true, fd := 3 }

def dribbling : (call : OsCall) → OsReply call
  | .on _ (.read nbytes) => .ok ⟨[7].take nbytes, List.length_take_le nbytes [7]⟩
  | call => obliging call

theorem read_loses_nothing_of_dribbling :
    ∃ events b, (((readingPort 100).read 4 3).on [9]).Yields events (some (.ok 3, b)) ∧
      events.countP (fun event => (given event).length = 1) = 3 ∧ b = received events := by
  have ended : (Program.play (fun _ call => (dribbling call, ()))
      (((readingPort 100).read 4 3).on [9]) ()).2 = some (.ok 3, [7, 7, 7]) := by decide +kernel
  have run := Program.yields_of_play ended
  exact ⟨_, _, run, by decide +kernel, ((read_loses_nothing run).2.1 3 _ rfl).1⟩

end AresCommon.Serial
