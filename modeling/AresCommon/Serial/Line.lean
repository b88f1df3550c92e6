import AresCommon.Serial.ReadUntil
import AresCommon.Serial.Transmission

/-!
# Messages over a line

One program writes messages to a port, and another reads from the port at the other end with
`read_until`. The line between them takes and gives bytes whenever their systems like, in order.
-/

namespace AresCommon.Serial

open AresCommon.Foundation AresCommon.Foundation.Transition

set_option autoImplicit false

/-- A call on the operating system at one of the ends. -/
inductive LineEvent where
  | sender (event : OsEvent)
  | receiver (event : OsEvent)

/-- What was taken and not given yet is in flight. -/
def LineStep (flight : List UInt8) : LineEvent → Unit → List UInt8 → Prop
  | .sender event, _, flight' => flight' = flight ++ taken event
  | .receiver event, _, flight' => flight = given event ++ flight'

def LineEvent.sender? : LineEvent → Option OsEvent
  | .sender event => some event
  | .receiver _ => none

def LineEvent.receiver? : LineEvent → Option OsEvent
  | .sender _ => none
  | .receiver event => some event

abbrev LineRun (trace : List (LineEvent × Unit)) (flight : List UInt8) : Prop :=
  Run LineStep anyStep [] trace flight

def senderEvents (trace : List (LineEvent × Unit)) : List OsEvent :=
  trace.filterMap fun entry => entry.1.sender?

def receiverEvents (trace : List (LineEvent × Unit)) : List OsEvent :=
  trace.filterMap fun entry => entry.1.receiver?

theorem line_conserves {trace : List (LineEvent × Unit)} {flight : List UInt8}
    (run : LineRun trace flight) :
    accepted (senderEvents trace) = received (receiverEvents trace) ++ flight := by
  induction run with
  | nil => rfl
  | @snoc trace flight flight' event _ _ _ move ih =>
      unfold senderEvents receiverEvents at ih ⊢
      rw [List.filterMap_append, List.filterMap_append, accepted_append, received_append, ih]
      cases event with
      | sender event =>
          have step : flight' = flight ++ taken event := move
          rw [step]
          simp [accepted, received, LineEvent.sender?, LineEvent.receiver?]
      | receiver event =>
          have step : flight = given event ++ flight' := move
          rw [step]
          simp [accepted, received, LineEvent.sender?, LineEvent.receiver?]

/-! ### The two programs -/

/-- Calls of `write` one after another that have all returned, in a mode that waits. -/
inductive Writes : List (List UInt8) → List OsEvent → Prop where
  | nil : Writes [] []
  | returned {messages : List (List UInt8)} {events late : List OsEvent} {self : SerialPosix}
      {fuel k : Nat} {message : List UInt8} (before : Writes messages events)
      (waits : self.writeTimeout ≠ 0)
      (run : ((self.write fuel message).on ()).Yields late (some (.ok k, ()))) :
      Writes (messages ++ [message]) (events ++ late)

inductive Writing : List (List UInt8) → List OsEvent → Prop where
  | idle {messages : List (List UInt8)} {events : List OsEvent}
      (before : Writes messages events) : Writing messages events
  | busy {messages : List (List UInt8)} {events late : List OsEvent} {self : SerialPosix}
      {fuel : Nat} {message : List UInt8} {outcome : Option (Except SerialException Nat × Unit)}
      (before : Writes messages events)
      (run : ((self.write fuel message).on ()).Yields late outcome) :
      Writing (messages ++ [message]) (events ++ late)

section Reading

variable (expected : List UInt8) (len : Nat)

/-- Calls of `read_until` one after another that have all returned, and what each of them
appended to its vector. -/
inductive Reads : List (List UInt8) → List OsEvent → Prop where
  | nil : Reads [] []
  | returned {replies : List (List UInt8)} {events late : List OsEvent} {self : SerialPosix}
      {fuel k : Nat} {b b' : List UInt8} (before : Reads replies events)
      (infinite : self.timeout = int64Max)
      (run : ((self.readUntil fuel expected len).on b).Yields late (some (.ok k, b'))) :
      Reads (replies ++ [b'.drop b.length]) (events ++ late)

inductive Reading : List (List UInt8) → List OsEvent → Prop where
  | idle {replies : List (List UInt8)} {events : List OsEvent}
      (before : Reads expected len replies events) : Reading replies events
  | busy {replies : List (List UInt8)} {events late : List OsEvent} {self : SerialPosix}
      {fuel : Nat} {b : List UInt8}
      {outcome : Option (Except SerialException Nat × List UInt8)}
      (before : Reads expected len replies events)
      (run : ((self.readUntil fuel expected len).on b).Yields late outcome) :
      Reading replies (events ++ late)

end Reading

section Messages

variable {expected stream message : List UInt8} {len : Nat}
variable {messages replies : List (List UInt8)} {events : List OsEvent}

theorem Writes.accepted_eq (writes : Writes messages events) :
    accepted events = messages.flatten := by
  induction writes with
  | nil => rfl
  | returned _ waits run ih =>
      obtain ⟨_, sent, whole⟩ := (write_sends_once run).2.2 _ _ rfl
      rw [accepted_append, ih, sent, whole waits, List.take_length, List.flatten_append,
        List.flatten_singleton]

theorem Writing.accepted_prefix (writing : Writing messages events) :
    accepted events <+: messages.flatten := by
  cases writing with
  | idle before => exact before.accepted_eq ▸ List.prefix_rfl
  | busy before run =>
      rw [accepted_append, before.accepted_eq, List.flatten_append, List.flatten_singleton]
      exact (List.prefix_append_right_inj _).mpr (write_sends_once run).2.1

/-- A message that ends where its terminator comes first is what a stream with it in front
stops at. -/
theorem StopsFirst.eq_message {rest bytes : List UInt8}
    (first : StopsFirst expected len (message ++ rest) bytes)
    (whole : StopsFirst expected len message message) : bytes = message := by
  have shorter := first.shortest message (List.prefix_append _ _) whole.stops
  have within : bytes <+: message :=
    List.prefix_of_prefix_length_le first.begins (List.prefix_append _ _) shorter
  exact within.eq_of_length (le_antisymm shorter (whole.shortest bytes within first.stops))

/-- Calls that take their bytes from messages take one message each. -/
theorem Reads.replies_eq (reads : Reads expected len replies events)
    (whole : ∀ message ∈ messages, StopsFirst expected len message message)
    (stream : received events <+: messages.flatten) :
    replies <+: messages ∧ received events = replies.flatten := by
  induction reads with
  | nil => exact ⟨List.nil_prefix, rfl⟩
  | @returned replies events late self fuel k b b' before infinite run ih =>
      rw [received_append] at stream ⊢
      obtain ⟨⟨rest, rfl⟩, taken⟩ := ih ((List.prefix_append _ _).trans stream)
      rw [taken, List.flatten_append, List.prefix_append_right_inj] at stream
      obtain ⟨_, grown, stops⟩ := (read_until_stops_first infinite expected len b).1 _ _ _ _ run
      have reply : b'.drop b.length = received late := by rw [grown, List.drop_left]
      have first := stops _ stream
      cases rest with
      | nil => exact absurd (List.prefix_nil.mp stream) first.stops.1
      | cons message rest =>
          have same := first.eq_message (whole message (by simp))
          rw [reply, same, taken, List.flatten_append, List.flatten_singleton]
          exact ⟨⟨rest, by simp⟩, rfl⟩

theorem Reading.replies_prefix (reading : Reading expected len replies events)
    (whole : ∀ message ∈ messages, StopsFirst expected len message message)
    (stream : received events <+: messages.flatten) : replies <+: messages := by
  cases reading with
  | idle before => exact (before.replies_eq whole stream).1
  | busy before run =>
      rw [received_append] at stream
      exact (before.replies_eq whole ((List.prefix_append _ _).trans stream)).1

/-- Messages arrive whole, once and in order: when one program writes messages in which the
terminator does not come before the end, and another one calls `read_until`, then however their
calls interleave on the line, every call that returns has appended the next message to its
vector; and when all calls have returned and nothing is in flight, all messages have arrived. -/
theorem messages_arrive_in_order {trace : List (LineEvent × Unit)} {flight : List UInt8}
    (run : LineRun trace flight) (writing : Writing messages (senderEvents trace))
    (reading : Reading expected len replies (receiverEvents trace))
    (whole : ∀ message ∈ messages, StopsFirst expected len message message) :
    replies <+: messages ∧
      (flight = [] → Writes messages (senderEvents trace) →
        Reads expected len replies (receiverEvents trace) → replies = messages) := by
  have conserved := line_conserves run
  have stream : received (receiverEvents trace) <+: messages.flatten :=
    List.IsPrefix.trans ⟨flight, conserved.symm⟩ writing.accepted_prefix
  refine ⟨reading.replies_prefix whole stream, ?_⟩
  rintro rfl writes reads
  obtain ⟨⟨rest, rfl⟩, taken⟩ := reads.replies_eq whole stream
  rw [writes.accepted_eq, taken, List.append_nil, List.flatten_append] at conserved
  have nothing := List.append_right_eq_self.mp conserved
  cases rest with
  | nil => rw [List.append_nil]
  | cons message rest =>
      have empty := (List.flatten_eq_nil_iff.mp nothing) message List.mem_cons_self
      exact absurd empty (whole message (by simp)).stops.1

end Messages

section Runs

variable {flight : List UInt8}

def sentFirst (out back : List OsEvent) : List (LineEvent × Unit) :=
  out.map (fun event => (.sender event, ())) ++ back.map fun event => (.receiver event, ())

theorem sender_events_sent_first (out back : List OsEvent) :
    senderEvents (sentFirst out back) = out := by
  simp [sentFirst, senderEvents, List.filterMap_map, LineEvent.sender?]

theorem receiver_events_sent_first (out back : List OsEvent) :
    receiverEvents (sentFirst out back) = back := by
  simp [sentFirst, receiverEvents, List.filterMap_map, LineEvent.receiver?]

theorem line_takes (events : List OsEvent) :
    Run LineStep anyStep flight (events.map fun event => (.sender event, ()))
      (flight ++ accepted events) := by
  induction events using List.reverseRecOn with
  | nil => exact (List.append_nil flight).symm ▸ .nil
  | append_singleton events event ih =>
      rw [List.map_append, accepted_append, ← List.append_assoc]
      refine .snoc ih trivial ?_
      exact congrArg (_ ++ ·) (List.append_nil (taken event))

theorem line_gives (events : List OsEvent) :
    Run LineStep anyStep (received events ++ flight)
      (events.map fun event => (.receiver event, ())) flight := by
  induction events using List.reverseRecOn generalizing flight with
  | nil => exact .nil
  | append_singleton events event ih =>
      rw [List.map_append, received_append, List.append_assoc]
      refine .snoc ih trivial ?_
      exact congrArg (· ++ flight) (List.append_nil (given event))

theorem line_of_sent_first {out back : List OsEvent}
    (same : accepted out = received back ++ flight) :
    LineRun (sentFirst out back) flight := by
  have sent : LineRun _ (received back ++ flight) := same ▸ line_takes out
  exact sent.append (line_gives back)

end Runs

/-- Two messages that end with a line feed, of which one has been read when both are sent. -/
theorem messages_arrive_in_order_of_two :
    ∃ trace reply, LineRun trace [2, 3, 10] ∧ Reads [10] 0 [reply] (receiverEvents trace) ∧
      [reply] <+: [[1, 10], [2, 3, 10]] := by
  have first : (((timedPort 100).write 4 [1, 10]).on ()).Yields
      ((((timedPort 100).write 4 [1, 10]).on ()).play (fun _ call => (slow call, ())) ()).1
      (some (.ok 2, ())) := Program.yields_of_play (by decide +kernel)
  have second : (((timedPort 100).write 4 [2, 3, 10]).on ()).Yields
      ((((timedPort 100).write 4 [2, 3, 10]).on ()).play (fun _ call => (slow call, ())) ()).1
      (some (.ok 3, ())) := Program.yields_of_play (by decide +kernel)
  have read : (((readingPort int64Max).readUntil 4 [10] 0).on []).Yields
      ((((readingPort int64Max).readUntil 4 [10] 0).on []).play queued [1, 10]).1
      (some (.ok 2, [1, 10])) := Program.yields_of_play (by decide +kernel)
  obtain ⟨out, writes⟩ : ∃ out, Writes [[1, 10], [2, 3, 10]] out :=
    ⟨_, .returned (.returned .nil (by decide) first) (by decide) second⟩
  obtain ⟨back, reads, got⟩ : ∃ back, Reads [10] 0 [[1, 10]] back ∧ received back = [1, 10] :=
    ⟨_, .returned .nil rfl read, by decide +kernel⟩
  have whole : ∀ message ∈ [[1, 10], [2, 3, 10]], StopsFirst [10] 0 message message := by
    have sooner : ∀ message ∈ [[1, 10], [2, 3, 10]], Stops [10] 0 message ∧
        ∀ n < message.length, ¬Stops [10] 0 (message.take n) := by decide
    intro message listed
    refine ⟨List.prefix_rfl, (sooner message listed).1, fun fewer begins stops => ?_⟩
    by_contra shorter
    rw [List.prefix_iff_eq_take.mp begins] at stops
    exact (sooner message listed).2 fewer.length (Nat.lt_of_not_le shorter) stops
  have same : accepted out = received back ++ [2, 3, 10] := by
    rw [writes.accepted_eq, got]
    rfl
  have run := line_of_sent_first same
  rw [← sender_events_sent_first out back] at writes
  rw [← receiver_events_sent_first out back] at reads
  exact ⟨_, _, run, reads,
    (messages_arrive_in_order run (.idle writes) (.idle reads) whole).1⟩

end AresCommon.Serial
