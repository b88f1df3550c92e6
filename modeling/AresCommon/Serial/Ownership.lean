import AresCommon.Serial.Footprint

/-!
# Whose descriptor a serial port uses

A port owns a descriptor from its `open_port` to its `close_port`. The operations that
do not look at `is_open_` use the descriptor of a closed port, which may be that of
another file by then; on an open port they are fine like the rest.
-/

namespace AresCommon.Serial

open AresCommon.Foundation AresCommon.Foundation.Transition

set_option autoImplicit false

/-- The descriptors that `open_port` returned and those passed to `close_port`. -/
structure Ledger where
  opened : List Int
  closed : List Int
  deriving DecidableEq, Repr

namespace Ledger

def empty : Ledger := { opened := [], closed := [] }

def record (ledger : Ledger) : (call : OsCall) → OsReply call → Ledger
  | .openPath _, .ok fd => { ledger with opened := fd :: ledger.opened }
  | .on fd .close, _ => { ledger with closed := fd :: ledger.closed }
  | _, _ => ledger

def Owns (ledger : Ledger) (fd : Int) : Prop := ledger.closed.count fd < ledger.opened.count fd

instance (ledger : Ledger) (fd : Int) : Decidable (ledger.Owns fd) := Nat.decLt _ _

end Ledger

/-- A call on a descriptor is made on one that the port owns. -/
def ownership : Contract OsCall OsReply Ledger where
  permits ledger
    | .on fd _ => ledger.Owns fd
    | _ => True
  honest := fun _ _ _ => True
  observe := Ledger.record

section Rules

variable {ledger : Ledger} {call : OsCall} {reply : OsReply call}

@[simp]
theorem ownership_permits {fd : Int} {call : DescriptorCall} :
    ownership.permits ledger (.on fd call) ↔ ledger.Owns fd := Iff.rfl

@[simp]
theorem ownership_permits_open {port : String} :
    ownership.permits ledger (.openPath port) ↔ True := Iff.rfl

@[simp]
theorem ownership_honest : ownership.honest ledger call reply ↔ True := Iff.rfl

@[simp]
theorem ownership_observe : ownership.observe ledger call reply = ledger.record call reply := rfl

end Rules

/-- What a port needs of the ledger: nothing was passed on that had not been returned,
and the descriptor of an open port is outstanding. -/
structure Ledger.Backs (ledger : Ledger) (port : SerialPosix) : Prop where
  settled : ∀ fd, ledger.closed.count fd ≤ ledger.opened.count fd
  owns : port.isOpen = true → ledger.Owns port.fd

variable {self : SerialPosix} {ledger : Ledger}

theorem owns_silent {fd : Int} (owns : ledger.Owns fd) (call : OsCall) (use : Uses fd call) :
    ownership.permits ledger call ∧
      ∀ reply, ownership.honest ledger call reply →
        ownership.observe ledger call reply = ledger := by
  cases call with
  | openPath path => exact use.elim
  | clock => exact ⟨trivial, fun _ _ => rfl⟩
  | on descriptor call =>
      obtain ⟨rfl, other⟩ := use
      refine ⟨owns, fun _ _ => ?_⟩
      cases call with
      | close => exact absurd rfl other
      | _ => rfl

theorem guarded_silent (backs : ledger.Backs self) (call : OsCall) (guarded : Guarded self call) :
    ownership.permits ledger call ∧
      ∀ reply, ownership.honest ledger call reply →
        ownership.observe ledger call reply = ledger := by
  cases call with
  | clock => exact ⟨trivial, fun _ _ => rfl⟩
  | openPath path => exact guarded.2.elim
  | on fd call => exact owns_silent (backs.owns guarded.1) _ guarded.2

theorem initialise_respects :
    SerialPosix.initialise.Respects (Uses self.fd) fun after => after = self := by
  refine .inspect ?_
  rintro object rfl
  refine .bind (SerialPosix.reconfigure_port_internal_respects fun _ use => use) fun _ => ?_
  refine .bind (SerialPosix.init_flow_control_respects fun _ use => use) fun _ => ?_
  exact SerialPosix.discard_input_respects fun _ use => use

theorem settled_of_close {fd : Int}
    (settled : ∀ fd, ledger.closed.count fd ≤ ledger.opened.count fd) (owns : ledger.Owns fd)
    (other : Int) :
    (fd :: ledger.closed).count other ≤ ledger.opened.count other := by
  have before := settled other
  have more : ledger.closed.count fd < ledger.opened.count fd := owns
  by_cases same : fd = other
  · subst same
    rw [List.count_cons_self]
    omega
  · rwa [List.count_cons_of_ne same]

theorem close_owned (backs : ledger.Backs self) :
    ownership.runs SerialPosix.close self
      (fun _ after now => now.Backs after ∧ after.isOpen = false)
      (fun _ _ _ => False) ledger := by
  have shut : ∀ closed : Ledger, (∀ fd, closed.closed.count fd ≤ closed.opened.count fd) →
      closed.Backs (self.withIsOpen false) := fun _ settled => ⟨settled, by simp⟩
  rw [SerialPosix.runs_close]
  split
  · next opened =>
      have owns := backs.owns opened
      have settled := shut (ledger.record (.on self.fd .close) (.ok ()))
        (settled_of_close backs.settled owns)
      split
      · exact ⟨owns, fun _ _ => ⟨settled, rfl⟩, fun _ _ => ⟨settled, rfl⟩⟩
      · exact ⟨shut ledger backs.settled, rfl⟩
  · next closed => exact ⟨backs, by simpa using closed⟩

theorem open_owned (backs : ledger.Backs self) :
    ownership.runs SerialPosix.open self (fun _ after now => now.Backs after)
      (fun _ after now => now.Backs after) ledger := by
  rw [SerialPosix.runs_open]
  split
  · exact backs
  split
  · exact backs
  next closed =>
  have shut : self.isOpen = false := by simpa using closed
  refine ⟨trivial, fun fd _ => ?_, fun errno _ => ⟨backs.settled, by simp [shut]⟩⟩
  have returned : (ledger.record (.openPath self.port) (.ok fd)).Backs (self.withFd fd) :=
    ⟨fun other => Nat.le_trans (backs.settled other) List.count_le_count_cons, by simp [shut]⟩
  have owns : (ledger.record (.openPath self.port) (.ok fd)).Owns fd :=
    Nat.lt_of_le_of_lt (backs.settled fd) (by simp [Ledger.record])
  apply Contract.runs_mono (initialise_respects.runs rfl (owns_silent owns))
  · rintro _ after now ⟨rfl, rfl⟩
    exact ⟨returned.settled, fun _ => owns⟩
  · rintro err after now ⟨rfl, rfl⟩
    exact SerialPosix.runs_close_of_closed shut returned

/-! ### Operations and runs -/

/-- The condition on an action: an operation that does not look at `is_open_` is called
on an open port. -/
def UsedWhileOpen (state : SerialState) (action : SerialAction) : Prop :=
  action.call.unguarded = true → state.isOpen = true

theorem perform_owned {operation : Operation} (fuel : Nat) (backs : ledger.Backs self)
    (guarded : operation.unguarded = true → self.isOpen = true) :
    ownership.wp (self.perform fuel operation) (fun outcome now => now.Backs outcome.2)
      ledger := by
  have updating : ∀ method : SerialMethod SerialPosix Unit,
      ownership.runs method self (fun _ after now => now.Backs after)
        (fun _ after now => now.Backs after) ledger →
      ownership.wp (self.updating method) (fun outcome now => now.Backs outcome.2) ledger := by
    intro method runs
    refine (Contract.wp_bind _ _ _ _).mpr (Contract.wp_mono runs ?_)
    rintro ⟨error | result, after⟩ now kept
    · exact kept
    · exact kept
  by_cases opens : operation = .open
  · subst opens
    exact updating _ (open_owned backs)
  by_cases closes : operation = .close
  · subst closes
    exact updating _ (Contract.runs_mono (close_owned backs) (fun _ _ _ kept => kept.1)
      (fun _ _ _ impossible => impossible.elim))
  have footprint := perform_footprint self fuel ⟨opens, closes⟩ (fun _ kept => kept)
    fun unguarded => guarded_of_open (guarded unguarded)
  apply Contract.wp_mono (Contract.wp_of_quiet (guarded_silent backs) footprint)
  rintro ⟨output, after⟩ now ⟨⟨sameOpen, sameFd⟩, rfl⟩
  refine ⟨backs.settled, fun opened => ?_⟩
  change Ledger.Owns _ after.fd
  rw [sameFd]
  exact backs.owns (sameOpen.symm.trans opened)

def Ledger.BacksState (ledger : Ledger) : SerialState → Prop
  | .unborn => ledger = .empty
  | .alive port => ledger.Backs port
  | .gone => True

theorem call_owned {state : SerialState} {call : SerialCall} {fuel : Nat}
    {program : SerialProgram (Output × SerialState)} (backs : ledger.BacksState state)
    (guarded : call.unguarded = true → state.isOpen = true)
    (called : state.call fuel call = some program) :
    ownership.wp program (fun outcome now => now.BacksState outcome.2) ledger := by
  cases state with
  | gone => cases call <;> cases called
  | unborn =>
      cases call with
      | destroy => cases called
      | perform operation => cases called
      | construct attr =>
          cases called
          cases backs
          have fresh : Ledger.empty.Backs (.ofAttributes attr) :=
            ⟨fun _ => Nat.le_refl _, fun opened => by cases opened⟩
          unfold SerialState.construct
          split
          · exact fresh
          · refine (Contract.wp_bind _ _ _ _).mpr (Contract.wp_mono (open_owned fresh) ?_)
            rintro ⟨error | result, after⟩ now kept
            · trivial
            · exact kept
  | alive self =>
      cases call with
      | construct attr => cases called
      | destroy =>
          cases called
          refine (Contract.wp_bind _ _ _ _).mpr (Contract.wp_mono (close_owned backs) ?_)
          rintro ⟨error | result, after⟩ now kept
          · trivial
          · trivial
      | perform operation =>
          cases called
          exact (Contract.wp_bind _ _ _ _).mpr (perform_owned fuel backs guarded)

/-- An action keeps to descriptors that the port owns, and while the port is not open
it touches none, unless it opens one. -/
theorem makes_owned {state : SerialState} {action : SerialAction}
    {outcome : Option (Output × SerialState)} (backs : ledger.BacksState state)
    (used : UsedWhileOpen state action) (makes : state.Makes action outcome) :
    ownership.Permitted ledger action.events ∧
      ∀ output state', outcome = some (output, state') →
        (ownership.after ledger action.events).BacksState state' := by
  obtain ⟨fuel, program, called, yields⟩ := makes
  obtain ⟨permitted, ended⟩ := Contract.wp_sound (call_owned backs used called) yields
    (Contract.honest_of_always (fun _ _ _ => trivial) _ _)
  exact ⟨permitted, fun output state' finished => ended _ finished⟩

theorem off_descriptor_of_guarded (closed : self.isOpen = false) {call : OsCall}
    (guarded : Guarded self call) : call.onDescriptor = false := by
  cases call with
  | clock => rfl
  | openPath path => rfl
  | on fd call => exact absurd guarded.1 (by simp [closed])

theorem close_silent (closed : self.isOpen = false) :
    (Contract.only fun _ => False).wp (SerialPosix.close.on self) (fun _ _ => True) () := by
  have runs : (Contract.only fun _ => False).runs SerialPosix.close self (fun _ _ _ => True)
      (fun _ _ _ => True) () := SerialPosix.runs_close_of_closed closed trivial
  exact Contract.wp_mono runs fun _ _ _ => trivial

theorem makes_idle {state : SerialState} {action : SerialAction}
    {outcome : Option (Output × SerialState)} (closed : state.isOpen = false)
    (used : UsedWhileOpen state action) (opens : action.call.opens = false)
    (makes : state.Makes action outcome) :
    ∀ event ∈ action.events, event.1.onDescriptor = false := by
  obtain ⟨call, events⟩ := action
  obtain ⟨fuel, program, called, yields⟩ := makes
  cases state with
  | gone => cases call <;> cases called
  | unborn =>
      cases call with
      | construct attr => cases opens
      | destroy => cases called
      | perform operation => cases called
  | alive self =>
      have none_of_close : ∀ {program : SerialProgram (Output × SerialState)},
          (Contract.only fun _ => False).wp program (fun _ _ => True) () →
            program.Yields events outcome →
              ∀ event ∈ events, event.1.onDescriptor = false :=
        fun silent yields event member => (Contract.calls_of_only silent yields event member).elim
      cases call with
      | construct attr => cases opens
      | destroy =>
          cases called
          exact none_of_close ((Contract.wp_bind _ _ _ _).mpr (close_silent closed)) yields
      | perform operation =>
          cases called
          by_cases closes : operation = .close
          · subst closes
            refine none_of_close ((Contract.wp_bind _ _ _ _).mpr ?_) yields
            exact (Contract.wp_bind _ _ _ _).mpr (close_silent closed)
          · have kind : operation ≠ .open := by
              rintro rfl
              cases opens
            have guarded : ∀ event ∈ events, Guarded self event.1 := by
              refine Contract.calls_of_only
                ((Contract.wp_bind _ _ (fun _ _ => True) _).mpr ?_) yields
              exact Contract.wp_mono
                (perform_footprint self fuel ⟨kind, closes⟩ (fun _ kept => kept)
                  fun unguarded => guarded_of_open (used unguarded))
                fun _ _ _ => trivial
            exact fun event member => off_descriptor_of_guarded closed (guarded event member)

/-- In the whole history up to an action every call on a descriptor is on one that the
port owns, and the action touches none of a port that is not open. -/
def KeepsToOwned (trace : List (SerialAction × Output)) (state : SerialState)
    (action : SerialAction) : Prop :=
  ownership.Permitted .empty (osEvents trace ++ action.events) ∧
    (state.isOpen = false → action.call.opens = false →
      ∀ event ∈ action.events, event.1.onDescriptor = false)

theorem os_events_snoc {trace : List (SerialAction × Output)} {action : SerialAction}
    {output : Output} :
    osEvents (trace ++ [(action, output)]) = osEvents trace ++ action.events := by
  simp [osEvents]

theorem run_owned {trace : List (SerialAction × Output)} {state : SerialState}
    (run : SerialRun UsedWhileOpen trace state) :
    ownership.Permitted .empty (osEvents trace) ∧
      (ownership.after .empty (osEvents trace)).BacksState state := by
  induction run with
  | nil => exact ⟨trivial, rfl⟩
  | snoc _ used move ih =>
      obtain ⟨permitted, ended⟩ := makes_owned ih.2 used move
      rw [os_events_snoc, Contract.permitted_append, Contract.after_append]
      exact ⟨⟨ih.1, permitted⟩, ended _ _ rfl⟩

theorem unguarded_touches {self : SerialPosix} {operation : Operation} {events : List OsEvent}
    {output : Output} {state' : SerialState} (unguarded : operation.unguarded = true)
    (makes : (SerialState.alive self).Makes ⟨.perform operation, events⟩
      (some (output, state'))) :
    ∃ event ∈ events, event.1.onDescriptor = true := by
  obtain ⟨fuel, program, called, yields⟩ := makes
  have asks : ∃ (call : DescriptorCall) (next : _),
      program = Program.ask (.on self.fd call) next := by
    cases operation with
    | setRts | setDtr | inWaiting | readAll =>
        cases called
        exact ⟨_, _, rfl⟩
    | _ => cases unguarded
  obtain ⟨call, next, rfl⟩ := asks
  cases yields with
  | asked rest => exact ⟨_, List.mem_cons_self, rfl⟩

theorem not_opens_of_unguarded {operation : Operation} (unguarded : operation.unguarded = true) :
    (SerialCall.perform operation).opens = false := by
  cases operation with
  | «open» => cases unguarded
  | _ => rfl

/-- A port keeps to its descriptors as long as the operations that do not look at
`is_open_` are called on an open port, and such a call on another port breaks the rule. -/
theorem descriptor_ownership {trace : List (SerialAction × Output)} {state : SerialState}
    (run : SerialRun UsedWhileOpen trace state) {action : SerialAction}
    {outcome : Option (Output × SerialState)} (makes : state.Makes action outcome) :
    (UsedWhileOpen state action → KeepsToOwned trace state action) ∧
      (outcome.isSome = true → KeepsToOwned trace state action →
        UsedWhileOpen state action) := by
  obtain ⟨permitted, backs⟩ := run_owned run
  refine ⟨fun used => ?_, fun ended kept unguarded => ?_⟩
  · exact ⟨Contract.permitted_append.mpr ⟨permitted, (makes_owned backs used makes).1⟩,
      fun closed opens => makes_idle closed used opens makes⟩
  · by_contra closed
    obtain ⟨⟨output, state'⟩, rfl⟩ := Option.isSome_iff_exists.mp ended
    obtain ⟨call, events⟩ := action
    cases call with
    | construct attr => cases unguarded
    | destroy => cases unguarded
    | perform operation =>
        cases state with
        | unborn => obtain ⟨_, _, called, _⟩ := makes; cases called
        | gone => obtain ⟨_, _, called, _⟩ := makes; cases called
        | alive self =>
            obtain ⟨event, member, touches⟩ := unguarded_touches unguarded makes
            have idle := kept.2 (by simpa using closed) (not_opens_of_unguarded unguarded) event
              member
            rw [touches] at idle
            cases idle

/-- Asking an open port how much there is to read. -/
theorem descriptor_ownership_of_in_waiting : ∃ trace state action,
    KeepsToOwned trace state action ∧ action.call = .perform .inWaiting ∧
      state.isOpen = true := by
  let answer : Unit → (call : OsCall) → OsReply call × Unit := fun _ call => (obliging call, ())
  obtain ⟨created, void, state, construct, count, asked, enquire, first, last, opened⟩ :
      ∃ created void state, enact answer 0 .unborn (.construct { port := "/dev/ttyS0" }, ()) =
        some (created, void, state) ∧
      ∃ count asked, enact answer 0 state (.perform .inWaiting, ()) =
        some (asked, count, state) ∧
      created.call.unguarded = false ∧ asked.call = .perform .inWaiting ∧
      state.isOpen = true := ⟨_, _, _, rfl, _, _, rfl, rfl, rfl, rfl⟩
  have run : SerialRun UsedWhileOpen ([] ++ [(created, void)]) state :=
    .snoc .nil (fun unguarded => by simp [first] at unguarded) (step_of_enact construct)
  exact ⟨_, _, _, (descriptor_ownership run (step_of_enact enquire)).1 fun _ => opened, last,
    opened⟩

/-- A port that was never opened, asked how much there is to read, calls on the
descriptor -1. -/
theorem in_waiting_of_closed_port :
    ¬ ∀ trace state, SerialRun anyStep trace state → ∀ action outcome,
      state.Makes action outcome → KeepsToOwned trace state action := by
  intro always
  have built : SerialRun anyStep [(⟨.construct {}, []⟩, .void (.ok ()))]
      (.alive (.ofAttributes {})) := .snoc .nil trivial ⟨0, _, rfl, .finished _⟩
  have makes : (SerialState.alive (.ofAttributes {})).Makes
      ⟨.perform .inWaiting, [⟨.on (-1) .inputQueue, .error .enotty⟩]⟩
      (some (.count (.error (failed "Unable to get number of bytes in waiting" .enotty)),
        .alive (.ofAttributes {}))) := ⟨0, _, rfl, .asked (.finished _)⟩
  have owns : Ledger.empty.Owns (-1) := (always _ _ built _ _ makes).1.1
  exact absurd owns (by decide)

end AresCommon.Serial
