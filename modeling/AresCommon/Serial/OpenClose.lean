import AresCommon.Serial.LineSettings
import AresCommon.Serial.Ownership

/-!
# All or nothing

`open` clears up with `close` when something fails behind `open_port`, but `is_open_` is
not set yet then, so that `close` does nothing and the descriptor stays open. An `open`
that gets past `open_port` therefore gives back what it took only by succeeding.
-/

namespace AresCommon.Serial

open AresCommon.Foundation AresCommon.Foundation.Transition

set_option autoImplicit false

/-- A call after which `open` goes on. It lives with modem lines that are not there. -/
def goesOn : OsEvent → Bool
  | ⟨.on _ (.setModem _ _), .error errno⟩ =>
      errno.code = Errno.einval.code || errno.code = Errno.enotty.code
  | ⟨.on _ _, .error _⟩ => false
  | _ => true

def refused : OsEvent → Bool
  | ⟨.openPath _, .error _⟩ => true
  | _ => false

/-- The condition on an `open` of a port: it stops before it has a descriptor, or it
succeeds because the attributes are accepted and no other call fails. -/
def OpensCleanly (self : SerialPosix) (events : List OsEvent) : Prop :=
  self.port = "" ∨ self.isOpen = true ∨ events.any refused = true ∨
    (self.config.Accepted ∧ events.all goesOn = true)

structure Tally where
  ledger : Ledger
  smooth : Bool
  refused : Bool

def Tally.fresh (ledger : Ledger) : Tally :=
  { ledger := ledger, smooth := true, refused := false }

/-- The ledger, and what the condition says of the calls so far. -/
def tally : Contract OsCall OsReply Tally where
  permits := fun _ _ => True
  honest := fun _ _ _ => True
  observe tally call reply :=
    { ledger := tally.ledger.record call reply
      smooth := tally.smooth && goesOn ⟨call, reply⟩
      refused := tally.refused || refused ⟨call, reply⟩ }

theorem tally_after (start : Tally) (events : List OsEvent) :
    tally.after start events =
      { ledger := ownership.after start.ledger events
        smooth := start.smooth && events.all goesOn
        refused := start.refused || events.any refused } := by
  induction events generalizing start with
  | nil => simp [Contract.after]
  | cons event events ih =>
      rw [List.all_cons, List.any_cons, ← Bool.and_assoc, ← Bool.or_assoc]
      exact ih _

structure Tally.StopsAt (start now : Tally) (accepted : Prop) : Prop where
  ledger : now.ledger = start.ledger
  refused : now.refused = start.refused
  broken : ¬(accepted ∧ now.smooth = true)

section Steps

variable {start : Tally} {fd : Int} {call : DescriptorCall}

theorem tally_answered (other : call ≠ .close) (answer : call.Answer) :
    tally.observe start (.on fd call) (.ok answer) = start := by
  cases call with
  | close => exact absurd rfl other
  | _ => simp only [tally, Ledger.record, goesOn, refused, Bool.and_true, Bool.or_false]

theorem tally_failed (other : call ≠ .close) (errno : Errno) :
    tally.observe start (.on fd call) (.error errno) =
      { start with smooth := start.smooth && goesOn ⟨.on fd call, .error errno⟩ } := by
  cases call with
  | close => exact absurd rfl other
  | _ => simp only [tally, Ledger.record, refused, Bool.or_false]

theorem stops_of_failure (other : call ≠ .close) {errno : Errno} (accepted : Prop)
    (fails : goesOn ⟨.on fd call, .error errno⟩ = false) :
    start.StopsAt (tally.observe start (.on fd call) (.error errno)) accepted := by
  rw [tally_failed other]
  exact ⟨rfl, rfl, by simp [fails]⟩

end Steps

variable {self : SerialPosix} {start : Tally}

def Initialises (self : SerialPosix) (method : SerialMethod SerialPosix Unit)
    (accepted : Prop) : Prop :=
  ∀ start, tally.runs method self (fun _ after now => after = self ∧ now = start ∧ accepted)
    (fun _ after now => after = self ∧ start.StopsAt now accepted) start

theorem Initialises.andThen {first second : SerialMethod SerialPosix Unit}
    {accepted other : Prop} (before : Initialises self first accepted)
    (after : Initialises self second other) :
    Initialises self (first >>= fun _ => second) (accepted ∧ other) := by
  intro start
  apply Contract.runs_seq (before start)
  · rintro _ object now ⟨rfl, rfl, fits⟩
    apply Contract.runs_mono (after now)
    · rintro _ object now ⟨rfl, rfl, holds⟩
      exact ⟨rfl, rfl, fits, holds⟩
    · rintro err object now ⟨rfl, ledger, refused, broken⟩
      exact ⟨rfl, ledger, refused, fun both => broken ⟨both.1.2, both.2⟩⟩
  · rintro err object now ⟨rfl, ledger, refused, broken⟩
    exact ⟨rfl, ledger, refused, fun both => broken ⟨both.1.1, both.2⟩⟩

theorem discard_input_initialises : Initialises self self.discardInput True := by
  intro start
  simp only [SerialPosix.discardInput, runs_or_throw, runs_port_reset_input]
  exact ⟨trivial, fun answer _ => ⟨rfl, tally_answered (by simp) answer, trivial⟩,
    fun errno _ => ⟨rfl, stops_of_failure (by simp) _ rfl⟩⟩

theorem reconfigure_initialises :
    Initialises self self.reconfigurePortInternal self.config.Accepted := by
  intro start
  simp only [SerialPosix.reconfigurePortInternal, runs_or_throw, runs_configure_port]
  refine ⟨trivial, fun answer _ => ?_, fun errno _ => ⟨rfl, stops_of_failure (by simp) _ rfl⟩⟩
  rw [tally_answered (by simp)]
  refine ⟨trivial, fun tty _ => ?_, fun errno _ => ⟨rfl, stops_of_failure (by simp) _ rfl⟩⟩
  rw [tally_answered (by simp)]
  have accepts := settings_accepted self.config tty
  beta_reduce
  split
  · next errno settings =>
      refine ⟨rfl, rfl, rfl, fun both => ?_⟩
      obtain ⟨tty', set⟩ := accepts.mpr both.1
      rw [settings] at set
      cases set
  · next tty' settings =>
      exact ⟨trivial, fun answer _ => ⟨rfl, tally_answered (by simp) answer,
        accepts.mp ⟨tty', settings⟩⟩, fun errno _ => ⟨rfl, stops_of_failure (by simp) _ rfl⟩⟩

theorem modem_failure (modem : ModemLine) (state : Bool) (text : String) (errno : Errno) :
    tally.runs (SerialPosix.flowControlHandler (failed text errno)) self
      (fun _ after now => after = self ∧ now = start ∧ True)
      (fun _ after now => after = self ∧ start.StopsAt now True)
      (tally.observe start (.on self.fd (.setModem modem state)) (.error errno)) := by
  unfold SerialPosix.flowControlHandler
  split
  · next swallowed =>
      have goes : goesOn ⟨.on self.fd (.setModem modem state), .error errno⟩ = true := by
        simpa [goesOn] using swallowed
      exact ⟨rfl, by rw [tally_failed (by simp), goes, Bool.and_true], trivial⟩
  · next counts =>
      have stops : goesOn ⟨.on self.fd (.setModem modem state), .error errno⟩ = false := by
        simpa [goesOn] using counts
      exact ⟨rfl, stops_of_failure (by simp) _ stops⟩

theorem init_flow_control_initialises : Initialises self self.initFlowControl True := by
  intro start
  have rts : tally.runs (if !self.rtscts then self.updateRtsState else pure () :
      SerialMethod SerialPosix Unit) self
      (fun _ after now => after = self ∧ now = start ∧ True)
      (fun err after now => tally.runs (SerialPosix.flowControlHandler err) after
        (fun _ after now => after = self ∧ now = start ∧ True)
        (fun _ after now => after = self ∧ start.StopsAt now True) now) start := by
    rw [Contract.runs_ite]
    split
    · simp only [SerialPosix.updateRtsState, runs_or_throw, runs_port_set_rts_state]
      exact ⟨trivial, fun answer _ => ⟨rfl, tally_answered (by simp) answer, trivial⟩,
        fun errno _ => modem_failure _ _ _ errno⟩
    · exact ⟨rfl, rfl, trivial⟩
  unfold SerialPosix.initFlowControl
  rw [Contract.runs_catch]
  change tally.runs (if !self.dsrdtr then self.updateDtrState >>= fun _ => _ else _) _ _ _ _
  rw [Contract.runs_ite]
  split
  · simp only [Contract.runs_bind, SerialPosix.updateDtrState, runs_or_throw,
      runs_port_set_dtr_state]
    refine ⟨trivial, fun answer _ => ?_, fun errno _ => modem_failure _ _ _ errno⟩
    rw [tally_answered (by simp)]
    exact rts
  · exact rts

theorem initialise_initialises :
    Initialises self SerialPosix.initialise (self.config.Accepted ∧ True ∧ True) :=
  reconfigure_initialises.andThen
    (init_flow_control_initialises.andThen discard_input_initialises)

theorem accepted_with_fd (fd : Int) :
    (self.withFd fd).config.Accepted ↔ self.config.Accepted :=
  ⟨fun ⟨a, b, c, d, e⟩ => ⟨a, b, c, d, e⟩, fun ⟨a, b, c, d, e⟩ => ⟨a, b, c, d, e⟩⟩

def Ledger.lend (ledger : Ledger) (fd : Int) : Ledger :=
  { ledger with opened := fd :: ledger.opened }

/-- The four ways in which `open` ends. -/
theorem open_tally (ledger : Ledger) :
    tally.runs SerialPosix.open self
      (fun _ after now => (self.config.Accepted ∧ now.smooth = true) ∧ self.isOpen = false ∧
        after.isOpen = true ∧ -1 < after.fd ∧ now.ledger = ledger.lend after.fd)
      (fun _ after now => after.isOpen = self.isOpen ∧ (self.isOpen = true → after = self) ∧
        (now.ledger = ledger ∧ (self.port = "" ∨ self.isOpen = true ∨ now.refused = true) ∨
          now.ledger = ledger.lend after.fd ∧ self.port ≠ "" ∧ self.isOpen = false ∧
          now.refused = false ∧ ¬(self.config.Accepted ∧ now.smooth = true))) (.fresh ledger) := by
  rw [SerialPosix.runs_open]
  split
  · next unnamed => exact ⟨rfl, fun _ => rfl, .inl ⟨rfl, .inl unnamed⟩⟩
  split
  · next opened => exact ⟨rfl, fun _ => rfl, .inl ⟨rfl, .inr (.inl opened)⟩⟩
  next named closed =>
  have shut : self.isOpen = false := by simpa using closed
  refine ⟨trivial, fun fd _ => ?_, fun errno _ =>
    ⟨rfl, fun opened => absurd opened closed, .inl ⟨rfl, .inr (.inr rfl)⟩⟩⟩
  apply Contract.runs_mono (initialise_initialises _)
  · rintro _ after now ⟨rfl, rfl, accepted, _⟩
    exact ⟨⟨(accepted_with_fd _).mp accepted, rfl⟩, shut, rfl, show (-1 : Int) < fd by omega, rfl⟩
  · rintro err after now ⟨rfl, ledger, refused, broken⟩
    refine SerialPosix.runs_close_of_closed (show (self.withFd fd).isOpen = false from shut) ?_
    exact ⟨rfl, fun opened => absurd opened closed, .inr ⟨ledger, named, shut, refused,
      fun both => broken ⟨⟨(accepted_with_fd _).mpr both.1, trivial, trivial⟩, both.2⟩⟩⟩

/-! ### One call of `open` -/

/-- An `open` that has left nothing behind: each descriptor that it got is closed as often
as it was returned, and the port is open and owns descriptors as before. -/
structure Undone (before after : SerialPosix) (events : List OsEvent) : Prop where
  isOpen : after.isOpen = before.isOpen
  closed : (ownership.after .empty events).opened.Perm (ownership.after .empty events).closed
  owns : ∀ (ledger : Ledger) (fd : Int), (ownership.after ledger events).Owns fd ↔ ledger.Owns fd

section Call

variable {events : List OsEvent} {after : SerialPosix}

theorem open_returned
    (yields : (SerialPosix.open.on self).Yields events (some (.ok (), after))) (ledger : Ledger) :
    (self.config.Accepted ∧ events.all goesOn = true) ∧ self.isOpen = false ∧
      after.isOpen = true ∧ -1 < after.fd ∧
      ownership.after ledger events = ledger.lend after.fd := by
  have ended := (Contract.runs_sound (open_tally ledger) yields
    (Contract.honest_of_always (fun _ _ _ => trivial) _ _)).2.1 _ _ rfl
  rw [tally_after] at ended
  exact ended

theorem open_thrown {err : SerialException}
    (yields : (SerialPosix.open.on self).Yields events (some (.error err, after)))
    (ledger : Ledger) :
    after.isOpen = self.isOpen ∧ (self.isOpen = true → after = self) ∧
      (ownership.after ledger events = ledger ∧
          (self.port = "" ∨ self.isOpen = true ∨ events.any refused = true) ∨
        ownership.after ledger events = ledger.lend after.fd ∧ self.port ≠ "" ∧
          self.isOpen = false ∧ events.any refused = false ∧
          ¬(self.config.Accepted ∧ events.all goesOn = true)) := by
  have ended := (Contract.runs_sound (open_tally ledger) yields
    (Contract.honest_of_always (fun _ _ _ => trivial) _ _)).2.2 _ _ rfl
  rw [tally_after] at ended
  exact ended

theorem clean_of_thrown {err : SerialException}
    (yields : (SerialPosix.open.on self).Yields events (some (.error err, after)))
    (clean : OpensCleanly self events) (ledger : Ledger) :
    ownership.after ledger events = ledger := by
  obtain ⟨_, _, ⟨same, _⟩ | ⟨_, named, closed, unrefused, broken⟩⟩ := open_thrown yields ledger
  · exact same
  · rcases clean with unnamed | opened | stopped | succeeded
    · exact absurd unnamed named
    · rw [closed] at opened
      cases opened
    · rw [unrefused] at stopped
      cases stopped
    · exact absurd succeeded broken

/-- One `open` is all or nothing exactly when it opens cleanly. -/
theorem open_undone_iff {result : Except SerialException Unit}
    (yields : (SerialPosix.open.on self).Yields events (some (result, after))) :
    ((∃ err, result = .error err) → Undone self after events) ↔ OpensCleanly self events := by
  rcases result with err | ⟨⟩
  · constructor
    · intro undone
      obtain ⟨_, closed, _⟩ := undone ⟨err, rfl⟩
      obtain ⟨_, _, ⟨_, stops⟩ | ⟨leaked, _⟩⟩ := open_thrown yields .empty
      · rcases stops with unnamed | opened | stopped
        · exact .inl unnamed
        · exact .inr (.inl opened)
        · exact .inr (.inr (.inl stopped))
      · rw [leaked] at closed
        exact absurd closed.length_eq (by simp [Ledger.lend, Ledger.empty])
    · intro clean _
      have same := clean_of_thrown yields clean
      refine ⟨(open_thrown yields .empty).1, ?_, fun ledger fd => ?_⟩
      · rw [same]
        exact .refl _
      · rw [same]
  · have succeeded := (open_returned yields .empty).1
    exact ⟨fun _ => .inr (.inr (.inr succeeded)), fun _ ⟨_, thrown⟩ => by cases thrown⟩

end Call

/-! ### Runs -/

def bookkeeping : Contract OsCall OsReply Ledger where
  permits := fun _ _ => True
  honest := fun _ _ _ => True
  observe := Ledger.record

def Quiet : OsCall → Prop
  | .openPath _ => False
  | .clock => True
  | .on _ call => call ≠ .close

theorem quiet_of_uses {fd : Int} (call : OsCall) (use : Uses fd call) : Quiet call := by
  cases call with
  | openPath path => exact use
  | clock => trivial
  | on descriptor call => exact use.2

theorem quiet_of_guarded (call : OsCall) (guarded : Guarded self call) : Quiet call := by
  cases call with
  | openPath path => exact guarded.2
  | clock => trivial
  | on descriptor call => exact guarded.2.2

theorem quiet_silent {ledger : Ledger} (call : OsCall) (quiet : Quiet call) :
    bookkeeping.permits ledger call ∧ ∀ reply, bookkeeping.honest ledger call reply →
      bookkeeping.observe ledger call reply = ledger := by
  refine ⟨trivial, fun reply _ => ?_⟩
  cases call with
  | openPath path => exact quiet.elim
  | clock => rfl
  | on descriptor call =>
      cases call with
      | close => exact absurd rfl quiet
      | _ => rfl

/-- An open port has one descriptor outstanding and any other port none. -/
def Ledger.Balances (ledger : Ledger) : SerialState → Prop
  | .unborn => ledger = .empty
  | .alive port => (port.isOpen = true → -1 < port.fd) ∧
      ledger.opened.Perm (if port.isOpen then port.fd :: ledger.closed else ledger.closed)
  | .gone => ledger.opened.Perm ledger.closed

def Ledger.outstanding (ledger : Ledger) : Nat := ledger.opened.length - ledger.closed.length

theorem outstanding_of_balances {ledger : Ledger} {state : SerialState}
    (balances : ledger.Balances state) :
    ledger.outstanding = if state.isOpen then 1 else 0 := by
  cases state with
  | unborn =>
      cases balances
      rfl
  | gone => simp [Ledger.outstanding, List.Perm.length_eq balances, SerialState.isOpen]
  | alive port =>
      have lengths := balances.2.length_eq
      unfold Ledger.outstanding SerialState.isOpen
      rw [lengths]
      split
      · simp
      · simp

def OpensCleanlyIn : SerialState → SerialAction → Prop
  | _, ⟨.construct attr, events⟩ => OpensCleanly (.ofAttributes attr) events
  | .alive self, ⟨.perform .open, events⟩ => OpensCleanly self events
  | _, _ => True

theorem close_balances {ledger : Ledger} (balances : ledger.Balances (.alive self)) :
    bookkeeping.runs SerialPosix.close self
      (fun _ after now => after.isOpen = false ∧ now.opened.Perm now.closed)
      (fun _ _ _ => False) ledger := by
  obtain ⟨valid, perm⟩ := balances
  rw [SerialPosix.runs_close]
  cases opened : self.isOpen with
  | false =>
      rw [opened] at perm
      exact ⟨rfl, perm⟩
  | true =>
      rw [opened] at perm
      rw [if_pos rfl, if_pos (valid opened)]
      exact ⟨trivial, fun _ _ => ⟨rfl, perm⟩, fun _ _ => ⟨rfl, perm⟩⟩

theorem open_balances {ledger : Ledger} {events : List OsEvent} {after : SerialPosix}
    {result : Except SerialException Unit} (balances : ledger.Balances (.alive self))
    (yields : (SerialPosix.open.on self).Yields events (some (result, after)))
    (clean : OpensCleanly self events) :
    (ownership.after ledger events).Balances (.alive after) := by
  rcases result with err | ⟨⟩
  · rw [clean_of_thrown yields clean]
    obtain ⟨sameOpen, same, _⟩ := open_thrown yields ledger
    cases opened : self.isOpen with
    | true =>
        rw [same opened]
        exact balances
    | false =>
        have perm := balances.2
        rw [opened] at perm sameOpen
        refine ⟨fun isOpen => ?_, ?_⟩
        · rw [sameOpen] at isOpen
          cases isOpen
        · rw [sameOpen]
          exact perm
  · obtain ⟨_, closed, opened, valid, lent⟩ := open_returned yields ledger
    have perm := balances.2
    rw [closed] at perm
    rw [lent]
    refine ⟨fun _ => valid, ?_⟩
    rw [opened]
    exact perm.cons _

theorem bookkeeping_honest (ledger : Ledger) (events : List OsEvent) :
    bookkeeping.Honest ledger events := Contract.honest_of_always (fun _ _ _ => trivial) _ _

theorem ledger_of_bookkeeping (ledger : Ledger) (events : List OsEvent) :
    bookkeeping.after ledger events = ownership.after ledger events := rfl

theorem perform_balances {ledger : Ledger} {operation : Operation} {fuel : Nat}
    {events : List OsEvent} {output : Output} {after : SerialPosix}
    (balances : ledger.Balances (.alive self))
    (clean : operation = .open → OpensCleanly self events)
    (yields : (self.perform fuel operation).Yields events (some (output, after))) :
    (ownership.after ledger events).Balances (.alive after) := by
  by_cases opens : operation = .open
  · subst opens
    obtain ⟨⟨result, object⟩, opened, same⟩ := yields.of_map
    cases same
    exact open_balances balances opened (clean rfl)
  by_cases closes : operation = .close
  · subst closes
    obtain ⟨⟨result, object⟩, closed, same⟩ := yields.of_map
    cases same
    obtain ⟨_, returned, thrown⟩ := Contract.runs_sound (close_balances balances) closed
      (bookkeeping_honest _ _)
    rcases result with err | ⟨⟩
    · exact (thrown _ _ rfl).elim
    · obtain ⟨shut, perm⟩ := returned _ _ rfl
      refine ⟨fun isOpen => ?_, ?_⟩
      · rw [shut] at isOpen
        cases isOpen
      · rw [shut]
        exact perm
  have quiet : bookkeeping.wp (self.perform fuel operation)
      (fun outcome now => self.SamePort outcome.2 ∧ now = ledger) ledger :=
    Contract.wp_of_quiet quiet_silent
      (perform_footprint self fuel ⟨opens, closes⟩ quiet_of_guarded fun _ => quiet_of_uses)
  obtain ⟨⟨sameOpen, sameFd⟩, same⟩ :=
    (Contract.wp_sound quiet yields (bookkeeping_honest _ _)).2 _ rfl
  rw [← ledger_of_bookkeeping, same]
  obtain ⟨valid, perm⟩ := balances
  change (after.isOpen = true → -1 < after.fd) ∧ _
  rw [sameOpen, sameFd]
  exact ⟨valid, perm⟩

theorem makes_balances {ledger : Ledger} {state state' : SerialState} {action : SerialAction}
    {output : Output} (balances : ledger.Balances state) (clean : OpensCleanlyIn state action)
    (makes : SerialStep state action output state') :
    (ownership.after ledger action.events).Balances state' := by
  obtain ⟨call, events⟩ := action
  obtain ⟨fuel, program, called, yields⟩ := makes
  cases state with
  | gone => cases call <;> cases called
  | unborn =>
      cases call with
      | destroy => cases called
      | perform operation => cases called
      | construct attr =>
          cases called
          cases balances
          have fresh : Ledger.empty.Balances (.alive (.ofAttributes attr)) :=
            ⟨fun opened => (by cases opened), .refl _⟩
          unfold SerialState.construct at yields
          split at yields
          · cases yields
            exact fresh
          · obtain ⟨earlier, later, ⟨result, after⟩, opened, rest, rfl⟩ := yields.split
            rcases result with err | result
            · cases rest
              rw [List.append_nil] at clean ⊢
              rw [clean_of_thrown opened clean]
              exact .refl _
            · cases rest
              rw [List.append_nil] at clean ⊢
              exact open_balances fresh opened clean
  | alive self =>
      cases call with
      | construct attr => cases called
      | destroy =>
          cases called
          obtain ⟨⟨result, after⟩, closed, same⟩ := yields.of_map
          cases same
          obtain ⟨_, returned, thrown⟩ := Contract.runs_sound (close_balances balances) closed
            (bookkeeping_honest _ _)
          rcases result with err | ⟨⟩
          · exact (thrown _ _ rfl).elim
          · exact (returned _ _ rfl).2
      | perform operation =>
          cases called
          obtain ⟨⟨output, after⟩, performed, same⟩ := yields.of_map
          cases same
          refine perform_balances balances (fun opens => ?_) performed
          subst opens
          exact clean

theorem run_balances {trace : List (SerialAction × Output)} {state : SerialState}
    (run : SerialRun OpensCleanlyIn trace state) :
    (ownership.after .empty (osEvents trace)).Balances state := by
  induction run with
  | nil => rfl
  | snoc _ clean move ih =>
      rw [os_events_snoc, Contract.after_append]
      exact makes_balances ih clean move

/-- An `open` is all or nothing exactly when it opens cleanly; and if every `open` does,
an open port has one descriptor outstanding and any other port none. -/
theorem open_all_or_nothing {self after : SerialPosix} {events : List OsEvent}
    {result : Except SerialException Unit}
    (yields : (SerialPosix.open.on self).Yields events (some (result, after))) :
    (((∃ err, result = .error err) → Undone self after events) ↔ OpensCleanly self events) ∧
    ∀ (trace : List (SerialAction × Output)) (state : SerialState),
      SerialRun OpensCleanlyIn trace state →
        (ownership.after .empty (osEvents trace)).outstanding =
          if state.isOpen then 1 else 0 := by
  constructor
  · exact open_undone_iff yields
  · intro trace state run
    exact outstanding_of_balances (run_balances run)

def namedPort (bytesize : ByteSize) : SerialPosix :=
  .ofAttributes { port := "/dev/ttyS0", bytesize := bytesize }

/-- A port that cannot be opened, and one that was never given a name. -/
theorem open_all_or_nothing_of_refused :
    (∃ after, Undone (namedPort .size8) after [⟨.openPath "/dev/ttyS0", .error .enotty⟩]) ∧
      ∃ trace state, trace ≠ [] ∧ (ownership.after .empty (osEvents trace)).outstanding =
        if SerialState.isOpen state then 1 else 0 := by
  have yields : (SerialPosix.open.on (namedPort .size8)).Yields
      [⟨.openPath "/dev/ttyS0", .error .enotty⟩]
      (some (.error (failed "could not open port /dev/ttyS0" .enotty),
        (namedPort .size8).withFd (-1))) := .asked (.finished _)
  have built : SerialRun OpensCleanlyIn ([] ++ [(⟨.construct {}, []⟩, .void (.ok ()))])
      (.alive (.ofAttributes {})) := .snoc .nil (.inl rfl) ⟨0, _, rfl, .finished _⟩
  obtain ⟨undone, counted⟩ := open_all_or_nothing yields
  exact ⟨⟨_, undone.mpr (.inr (.inr (.inl rfl))) ⟨_, rfl⟩⟩, _, _, by simp, counted _ _ built⟩

/-- A port whose byte size is refused is opened and never closed. -/
theorem refused_configuration_leaks :
    ¬ ∀ (self after : SerialPosix) (events : List OsEvent)
      (result : Except SerialException Unit),
      (SerialPosix.open.on self).Yields events (some (result, after)) →
        (∃ err, result = .error err) → Undone self after events := by
  intro always
  have yields : (SerialPosix.open.on (namedPort .invalid)).Yields
      [⟨.openPath "/dev/ttyS0", .ok 3⟩, ⟨.on 3 (.setLock false), .ok ()⟩,
        ⟨.on 3 .tcgetattr, .ok rawTermios⟩]
      (some (.error (failed "Configuration failed" .einval), (namedPort .invalid).withFd 3)) :=
    .asked (.asked (.asked (.finished _)))
  have undone := always _ _ _ _ yields ⟨_, rfl⟩
  exact absurd undone.closed (by decide)

end AresCommon.Serial
