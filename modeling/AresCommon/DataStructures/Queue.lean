import AresCommon.DataStructures.QueueMonitor
import AresCommon.Foundation.Fifo

/-!
# The unbounded queue

The class template `queue` as a monitor, in the steps of the bounded one: one action is
one critical section. The count of the elements is a member of its own, beside the deque.

Every element gets a ticket when it is put, so that equal elements can be told apart. The
ledger of the tickets says what became of each.
-/

namespace AresCommon.DataStructures

open AresCommon.Foundation AresCommon.Foundation.Transition
open Function (update)

set_option autoImplicit false

structure GetCall where
  wait : Wait
  callback : Bool
  deriving DecidableEq, Repr

inductive UnboundedAction (Thread Item : Type) where
  | put (self : Thread) (item : Item) (wakes : Option Thread)
  | get (self : Thread) (call : GetCall) (throws : Bool)
  | resume (self : Thread) (timedOut throws : Bool)
  /-- a time-out or a spurious wake-up -/
  | rouse (self : Thread)
  | clear (self : Thread)
  | size (self : Thread)
  | empty (self : Thread)
  deriving DecidableEq, Repr

inductive UnboundedReply (Item : Type) where
  | void
  | item (item : Item)
  | size (size : Nat)
  | bool (value : Bool)
  | raised (reason : QueueExceptionReason)
  | callbackRaised
  | waits
  /-- the front of an empty deque was read -/
  | undefined
  deriving DecidableEq, Repr

structure Queue (Thread Item : Type) where
  buffer : List Item
  size : Nat
  notEmpty : WaitSet Thread
  calls : Thread → Option GetCall

namespace Queue

variable {Thread Item : Type}

def initial : Queue Thread Item where
  buffer := []
  size := 0
  notEmpty := .empty
  calls := fun _ => none

def getNonblocking (self : Thread) : UnboundedAction Thread Item :=
  .get self { wait := .timed 0, callback := false } false

variable [DecidableEq Thread] (q : Queue Thread Item)

def back (self : Thread) : Queue Thread Item := { q with calls := update q.calls self none }

def sleep (self : Thread) (call : GetCall) : Queue Thread Item :=
  { q with notEmpty := q.notEmpty.wait self, calls := update q.calls self (some call) }

/-- The rest of a get behind its wait. -/
def finish (self : Thread) : Queue Thread Item × UnboundedReply Item :=
  match q.buffer with
  | [] => (q.back self, .undefined)
  | item :: rest => ({ q.back self with buffer := rest, size := q.size - 1 }, .item item)

/-- `wait_for` has returned false. -/
def giveUp (self : Thread) (call : GetCall) : Option (Queue Thread Item × UnboundedReply Item) :=
  match call.wait with
  | .timed timeoutMs =>
      some (q.back self, .raised (if timeoutMs = 0 then .queueEmpty else .queueTimeout))
  | .forever => none

def attempt (self : Thread) (call : GetCall) (timedOut throws : Bool) :
    Option (Queue Thread Item × UnboundedReply Item) :=
  if q.size ≠ 0 then some (q.finish self)
  else if call.callback && throws then some (q.back self, .callbackRaised)
  else if timedOut then q.giveUp self call
  else some (q.sleep self call, .waits)

def step : UnboundedAction Thread Item → Option (Queue Thread Item × UnboundedReply Item)
  | .put self item wakes =>
      if (q.calls self).isNone then
        (q.notEmpty.notifyOne wakes).map fun set =>
          ({ q with buffer := q.buffer ++ [item], size := q.size + 1, notEmpty := set }, .void)
      else none
  | .get self call throws =>
      if (q.calls self).isNone then q.attempt self call false throws else none
  | .resume self timedOut throws =>
      match q.calls self with
      | none => none
      | some call =>
          (q.notEmpty.resume self).bind fun set =>
            { q with notEmpty := set }.attempt self call timedOut throws
  | .rouse self => (q.notEmpty.rouse self).map fun set => ({ q with notEmpty := set }, .void)
  | .clear self =>
      if (q.calls self).isNone then some ({ q with size := 0, buffer := [] }, .void) else none
  | .size self => if (q.calls self).isNone then some (q, .size q.size) else none
  | .empty self => if (q.calls self).isNone then some (q, .bool (q.size = 0)) else none

def Step (q : Queue Thread Item) (action : UnboundedAction Thread Item)
    (reply : UnboundedReply Item) (q' : Queue Thread Item) : Prop :=
  q.step action = some (q', reply)

end Queue

/-! ## What a step does -/

section Steps

variable {Thread Item : Type}

def UnboundedAction.clears : UnboundedAction Thread Item → Bool
  | .clear _ => true
  | _ => false

def putItem : UnboundedAction Thread Item × UnboundedReply Item → Option Item
  | (.put _ item _, _) => some item
  | _ => none

def gotItem : UnboundedAction Thread Item × UnboundedReply Item → Option Item
  | (_, .item item) => some item
  | _ => none

inductive BufferEffect :
    List Item → UnboundedAction Thread Item × UnboundedReply Item → List Item → Prop where
  | stored {buffer : List Item} {self : Thread} {item : Item} {wakes : Option Thread} :
      BufferEffect buffer (.put self item wakes, .void) (buffer ++ [item])
  | taken {action : UnboundedAction Thread Item} {item : Item} {rest : List Item}
      (puts : putItem (action, .item item) = none) (clears : action.clears = false) :
      BufferEffect (item :: rest) (action, .item item) rest
  | cleared {buffer : List Item} {self : Thread} : BufferEffect buffer (.clear self, .void) []
  | kept {buffer : List Item} {label : UnboundedAction Thread Item × UnboundedReply Item}
      (puts : putItem label = none) (gets : gotItem label = none)
      (clears : label.1.clears = false) : BufferEffect buffer label buffer

namespace Queue

variable [DecidableEq Thread] {q q' : Queue Thread Item} {self : Thread} {call : GetCall}
variable {action : UnboundedAction Thread Item} {reply : UnboundedReply Item}
variable {timedOut throws : Bool}

theorem attempt_cases (ran : q.attempt self call timedOut throws = some (q', reply)) :
    (∃ item rest, q.size ≠ 0 ∧ q.buffer = item :: rest ∧ reply = .item item ∧
      q' = { q.back self with buffer := rest, size := q.size - 1 }) ∨
    (q.size ≠ 0 ∧ q.buffer = [] ∧ reply = .undefined ∧ q' = q.back self) ∨
    (q.size = 0 ∧ (reply = .callbackRaised ∨ ∃ reason, reply = .raised reason) ∧
      q' = q.back self) ∨
    (q.size = 0 ∧ reply = .waits ∧ q' = q.sleep self call) := by
  unfold attempt at ran
  split at ran
  · rename_i ready
    unfold finish at ran
    split at ran
    · rename_i front
      cases ran
      exact .inr (.inl ⟨ready, front, rfl, rfl⟩)
    · rename_i item rest front
      cases ran
      exact .inl ⟨item, rest, ready, front, rfl, rfl⟩
  · rename_i unready
    have none := not_not.mp unready
    split at ran
    · cases ran
      exact .inr (.inr (.inl ⟨none, .inl rfl, rfl⟩))
    · split at ran
      · unfold giveUp at ran
        split at ran <;> cases ran
        exact .inr (.inr (.inl ⟨none, .inr ⟨_, rfl⟩, rfl⟩))
      · cases ran
        exact .inr (.inr (.inr ⟨none, rfl, rfl⟩))

inductive Begins (q : Queue Thread Item) :
    UnboundedAction Thread Item → Thread → GetCall → Queue Thread Item → Prop where
  | entered {self : Thread} {call : GetCall} {throws : Bool} (free : q.calls self = none) :
      Begins q (.get self call throws) self call q
  | resumed {self : Thread} {timedOut throws : Bool} {call : GetCall} {set : WaitSet Thread}
      (pending : q.calls self = some call) (resumed : q.notEmpty.resume self = some set) :
      Begins q (.resume self timedOut throws) self call { q with notEmpty := set }

inductive Moves (q : Queue Thread Item) :
    UnboundedAction Thread Item → UnboundedReply Item → Queue Thread Item → Prop where
  | stored {self : Thread} {item : Item} {wakes : Option Thread} {set : WaitSet Thread}
      (notified : q.notEmpty.notifyOne wakes = some set) :
      Moves q (.put self item wakes) .void
        { q with buffer := q.buffer ++ [item], size := q.size + 1, notEmpty := set }
  | tried {action : UnboundedAction Thread Item} {self : Thread} {call : GetCall}
      {seen q' : Queue Thread Item} {timedOut throws : Bool} {reply : UnboundedReply Item}
      (begins : q.Begins action self call seen)
      (ran : seen.attempt self call timedOut throws = some (q', reply)) : Moves q action reply q'
  | roused {self : Thread} {set : WaitSet Thread} (roused : q.notEmpty.rouse self = some set) :
      Moves q (.rouse self) .void { q with notEmpty := set }
  | cleared {self : Thread} : Moves q (.clear self) .void { q with size := 0, buffer := [] }
  | sized {self : Thread} : Moves q (.size self) (.size q.size) q
  | emptied {self : Thread} : Moves q (.empty self) (.bool (q.size = 0)) q

theorem Step.moves (move : q.Step action reply q') : q.Moves action reply q' := by
  unfold Step at move
  cases action with
  | put self item wakes =>
      simp only [step] at move
      split at move
      · obtain ⟨set, notified, result⟩ := Option.map_eq_some_iff.mp move
        cases result
        exact .stored notified
      · cases move
  | get self call throws =>
      simp only [step, Option.isNone_iff_eq_none] at move
      split at move
      · rename_i free
        exact .tried (.entered free) move
      · cases move
  | resume self timedOut throws =>
      simp only [step] at move
      split at move
      · cases move
      · rename_i call pending
        obtain ⟨set, resumed, ran⟩ := Option.bind_eq_some_iff.mp move
        exact .tried (.resumed pending resumed) ran
  | rouse self =>
      obtain ⟨set, roused, result⟩ := Option.map_eq_some_iff.mp move
      cases result
      exact .roused roused
  | clear self =>
      simp only [step] at move
      split at move <;> cases move
      exact .cleared
  | size self =>
      simp only [step] at move
      split at move <;> cases move
      exact .sized
  | empty self =>
      simp only [step] at move
      split at move <;> cases move
      exact .emptied

theorem Begins.buffer {seen : Queue Thread Item} (begins : q.Begins action self call seen) :
    seen.buffer = q.buffer := by
  cases begins <;> rfl

theorem Begins.label {seen : Queue Thread Item} (begins : q.Begins action self call seen)
    (reply : UnboundedReply Item) :
    putItem (action, reply) = none ∧ action.clears = false := by
  cases begins <;> exact ⟨rfl, rfl⟩

theorem Moves.effect (move : q.Moves action reply q') :
    BufferEffect q.buffer (action, reply) q'.buffer := by
  cases move with
  | stored notified => exact .stored
  | tried begins ran =>
      obtain ⟨puts, clears⟩ := begins.label reply
      rw [← begins.buffer]
      obtain ⟨item, rest, _, front, rfl, rfl⟩ | ⟨_, _, rfl, rfl⟩ | ⟨_, raised, rfl⟩ |
        ⟨_, rfl, rfl⟩ := attempt_cases ran
      · rw [front]
        exact .taken puts clears
      · exact .kept puts rfl clears
      · refine .kept puts ?_ clears
        rcases raised with rfl | ⟨reason, rfl⟩ <;> rfl
      · exact .kept puts rfl clears
  | roused | sized | emptied => exact .kept rfl rfl rfl
  | cleared => exact .cleared

end Queue

end Steps

/-! ## The tickets -/

section Tickets

variable {Thread Item : Type}

theorem range_map_getElem? (l : List Item) :
    (List.range l.length).map (fun i => l[i]?) = l.map some := by
  apply List.ext_getElem
  · simp
  · intro i _ bound
    simp at bound
    simp [bound]

def stored (trace : List (UnboundedAction Thread Item × UnboundedReply Item)) : List Item :=
  trace.filterMap putItem

def received (trace : List (UnboundedAction Thread Item × UnboundedReply Item)) : List Item :=
  trace.filterMap gotItem

/-- A clear of the run has found the ticket in the deque: it had been put, and was not among
those handed out until then. -/
def TakenByClear (trace : List (UnboundedAction Thread Item × UnboundedReply Item))
    (delivered : List Nat) (ticket : Nat) : Prop :=
  ∃ before entry after, trace = before ++ entry :: after ∧ entry.1.clears = true ∧
    ticket < (stored before).length ∧ ticket ∉ delivered.take (received before).length

/-- The ledger of the tickets that the puts of a run were given. -/
structure Accounts (trace : List (UnboundedAction Thread Item × UnboundedReply Item))
    (buffer : List Item) (ledger : Fifo Nat) : Prop where
  accepted : ledger.accepted = List.range (stored trace).length
  delivered : ledger.delivered.map (fun ticket => (stored trace)[ticket]?) =
    (received trace).map some
  waiting : ledger.waiting.map (fun ticket => (stored trace)[ticket]?) = buffer.map some
  removed : ∀ ticket, ticket ∈ ledger.removed ↔ TakenByClear trace ledger.delivered ticket

variable {trace : List (UnboundedAction Thread Item × UnboundedReply Item)} {buffer : List Item}
variable {ledger : Fifo Nat} {label : UnboundedAction Thread Item × UnboundedReply Item}

theorem taken_by_clear_snoc {delivered : List Nat} {ticket : Nat} :
    TakenByClear (trace ++ [label]) delivered ticket ↔ TakenByClear trace delivered ticket ∨
      label.1.clears = true ∧ ticket < (stored trace).length ∧
        ticket ∉ delivered.take (received trace).length := by
  constructor
  · rintro ⟨before, entry, after, split, clears, found⟩
    rcases List.eq_nil_or_concat after with rfl | ⟨earlier, last, rfl⟩
    · obtain ⟨rfl, same⟩ := List.append_inj' split rfl
      cases same
      exact .inr ⟨clears, found⟩
    · rw [List.concat_eq_append, ← List.cons_append, ← List.append_assoc] at split
      exact .inl ⟨before, entry, earlier, (List.append_inj' split rfl).1, clears, found⟩
  · rintro (⟨before, entry, after, rfl, clears, found⟩ | ⟨clears, found⟩)
    · exact ⟨before, entry, after ++ [label], by simp, clears, found⟩
    · exact ⟨trace, label, [], rfl, clears, found⟩

theorem taken_by_clear_append {delivered : List Nat} (more : List Nat) {ticket : Nat}
    (known : (received trace).length ≤ delivered.length) :
    TakenByClear trace (delivered ++ more) ticket ↔ TakenByClear trace delivered ticket := by
  unfold TakenByClear
  refine exists_congr fun before => exists_congr fun entry => exists_congr fun after =>
    and_congr_right fun split => ?_
  have earlier : (received before).length ≤ delivered.length := by
    rw [split, received, List.filterMap_append, List.length_append] at known
    exact (Nat.le_add_right _ _).trans known
  rw [List.take_append_of_le_length earlier]

theorem taken_by_clear_kept {delivered : List Nat} (more : List Nat) {ticket : Nat}
    (known : (received trace).length ≤ delivered.length) (quiet : label.1.clears = false) :
    TakenByClear (trace ++ [label]) (delivered ++ more) ticket ↔
      TakenByClear trace delivered ticket := by
  rw [taken_by_clear_snoc, taken_by_clear_append more known]
  simp [quiet]

theorem Accounts.initial :
    Accounts ([] : List (UnboundedAction Thread Item × UnboundedReply Item)) [] .empty where
  accepted := rfl
  delivered := rfl
  waiting := rfl
  removed := by simp [Fifo.empty, TakenByClear]

theorem Accounts.delivered_length (accounts : Accounts trace buffer ledger) :
    ledger.delivered.length = (received trace).length := by
  simpa using congrArg List.length accounts.delivered

theorem Accounts.quiet (accounts : Accounts trace buffer ledger) (more : List Nat)
    (quiet : label.1.clears = false) (ticket : Nat) :
    ticket ∈ ledger.removed ↔
      TakenByClear (trace ++ [label]) (ledger.delivered ++ more) ticket := by
  rw [taken_by_clear_kept more accounts.delivered_length.ge quiet]
  exact accounts.removed ticket

theorem Accounts.issued (accounts : Accounts trace buffer ledger) {ticket : Nat}
    (member : ticket ∈ ledger.accepted) : ticket < (stored trace).length := by
  rwa [accounts.accepted, List.mem_range] at member

theorem Accounts.waits_iff (accounts : Accounts trace buffer ledger) (ticket : Nat) :
    ticket ∈ ledger.waiting ↔ ticket < (stored trace).length ∧
      ticket ∉ ledger.delivered ∧ ticket ∉ ledger.removed := by
  have survives := ledger.survives ticket
  have apart : ticket ∈ ledger.waiting → ticket ∉ ledger.delivered :=
    ledger.undelivered_of_waiting
  rw [accounts.accepted, List.mem_range] at survives
  tauto

theorem Accounts.reread (accounts : Accounts trace buffer ledger) (item : Item)
    {tickets : List Nat} (known : ∀ ticket ∈ tickets, ticket ∈ ledger.accepted) :
    tickets.map (fun ticket => (stored trace ++ [item])[ticket]?) =
      tickets.map fun ticket => (stored trace)[ticket]? :=
  List.map_congr_left fun ticket member =>
    List.getElem?_append_left (accounts.issued (known ticket member))

theorem Accounts.step {buffer' : List Item} (accounts : Accounts trace buffer ledger)
    (effect : BufferEffect buffer label buffer') :
    ∃ ledger', Accounts (trace ++ [label]) buffer' ledger' := by
  cases effect with
  | @stored _ self item wakes =>
      have puts : stored (trace ++ [(.put self item wakes, .void)]) = stored trace ++ [item] := by
        simp [stored, putItem]
      have gets : received (trace ++ [(UnboundedAction.put self item wakes, .void)]) =
          received trace := by
        simp [received, gotItem]
      have fresh : (stored trace).length ∉ ledger.accepted := fun member =>
        Nat.lt_irrefl _ (accounts.issued member)
      have removed (ticket : Nat) : ticket ∈ ledger.removed ↔
          TakenByClear (trace ++ [(.put self item wakes, .void)]) (ledger.delivered ++ []) ticket :=
        accounts.quiet [] rfl ticket
      rw [List.append_nil] at removed
      refine ⟨ledger.accept _ fresh, ?_, ?_, ?_, removed⟩
      · simp only [Fifo.accept, puts, List.length_append, List.length_singleton,
          List.range_succ, accounts.accepted]
      · rw [puts, gets, ← accounts.delivered]
        exact accounts.reread item fun _ => ledger.accepted_of_delivered
      · have waiting := accounts.reread item fun _ => ledger.accepted_of_waiting
        simp only [Fifo.accept, puts, List.map_append, waiting, accounts.waiting]
        simp
  | @taken action item rest puts clears =>
      have unchanged : stored (trace ++ [(action, .item item)]) = stored trace := by
        simp [stored, puts]
      have gets : received (trace ++ [(action, .item item)]) = received trace ++ [item] := by
        simp [received, gotItem]
      obtain ⟨ticket, tickets, head, front, behind⟩ := List.map_eq_cons_iff.mp accounts.waiting
      refine ⟨ledger.deliver ticket tickets head, ?_, ?_, ?_, accounts.quiet [ticket] clears⟩
      · rw [unchanged]
        exact accounts.accepted
      · simp only [Fifo.deliver, unchanged, gets, List.map_append, accounts.delivered]
        simpa using front
      · rw [unchanged]
        exact behind
  | @cleared _ self =>
      have puts : stored (trace ++ [(UnboundedAction.clear self, .void)]) = stored trace := by
        simp [stored, putItem]
      have gets : received (trace ++ [(UnboundedAction.clear self, .void)]) =
          received trace := by
        simp [received, gotItem]
      refine ⟨ledger.clear, ?_, ?_, rfl, ?_⟩
      · rw [puts]
        exact accounts.accepted
      · rw [puts, gets]
        exact accounts.delivered
      · intro ticket
        have waits := accounts.waits_iff ticket
        have whole := List.take_of_length_le accounts.delivered_length.le
        rw [taken_by_clear_snoc]
        simp only [Fifo.clear, ← accounts.removed, whole, List.mem_append, waits,
          UnboundedAction.clears, true_and]
        tauto
  | kept puts gets clears =>
      have unchanged : stored (trace ++ [label]) = stored trace := by simp [stored, puts]
      have same : received (trace ++ [label]) = received trace := by simp [received, gets]
      have removed := accounts.quiet [] clears
      rw [List.append_nil] at removed
      refine ⟨ledger, ?_, ?_, ?_, removed⟩
      · rw [unchanged]
        exact accounts.accepted
      · rw [unchanged, same]
        exact accounts.delivered
      · rw [unchanged]
        exact accounts.waiting

/-- Read through the tickets, the elements handed out and those that wait are a part of
what was put, in the same order. -/
theorem Accounts.sublist (accounts : Accounts trace buffer ledger) :
    (received trace ++ buffer).Sublist (stored trace) := by
  have tickets : (ledger.delivered ++ ledger.waiting).Sublist ledger.accepted := by
    rw [ledger.balance]
    exact List.filter_sublist
  have read := tickets.map fun ticket => (stored trace)[ticket]?
  rw [List.map_append, accounts.delivered, accounts.waiting, ← List.map_append,
    accounts.accepted, range_map_getElem?] at read
  have items := read.filterMap id
  simpa only [List.filterMap_map, Function.id_comp, List.filterMap_some] using items

theorem Accounts.nothing_removed (accounts : Accounts trace buffer ledger)
    (unclear : ∀ entry ∈ trace, entry.1.clears = false) : ledger.removed = [] := by
  refine List.eq_nil_iff_forall_not_mem.mpr fun ticket member => ?_
  obtain ⟨before, entry, after, rfl, clears, _⟩ := (accounts.removed ticket).mp member
  simp [unclear entry (by simp)] at clears

theorem Accounts.complete (accounts : Accounts trace buffer ledger)
    (nothing : ledger.removed = []) : received trace ++ buffer = stored trace := by
  have tickets : ledger.delivered ++ ledger.waiting = List.range (stored trace).length := by
    rw [ledger.balance, nothing, accounts.accepted]
    simp
  have read := congrArg (List.map fun ticket => (stored trace)[ticket]?) tickets
  rw [List.map_append, accounts.delivered, accounts.waiting, ← List.map_append,
    range_map_getElem?] at read
  exact List.map_injective_iff.mpr (Option.some_injective Item) read

end Tickets

/-- Every element that is put is handed out at most once, in the order of the puts, and
waits until then; only a clear takes elements away, and only those that wait. -/
theorem unbounded_queue_exactly_once {Thread Item : Type} [DecidableEq Thread]
    {trace : List (UnboundedAction Thread Item × UnboundedReply Item)} {q : Queue Thread Item}
    (run : Run Queue.Step anyStep .initial trace q) :
    (∃ ledger, Accounts trace q.buffer ledger) ∧
      (received trace ++ q.buffer).Sublist (stored trace) ∧
      ((∀ entry ∈ trace, entry.1.clears = false) → received trace ++ q.buffer = stored trace) := by
  have kept : ∃ ledger, Accounts trace q.buffer ledger := by
    induction run with
    | nil => exact ⟨_, .initial⟩
    | snoc _ _ move ih =>
        obtain ⟨ledger, accounts⟩ := ih
        exact accounts.step move.moves.effect
  obtain ⟨ledger, accounts⟩ := kept
  exact ⟨⟨ledger, accounts⟩, accounts.sublist, fun unclear =>
    accounts.complete (accounts.nothing_removed unclear)⟩

namespace Queue

theorem run_of_actions (Thread : Type) {Item : Type} [DecidableEq Thread]
    (actions : List (UnboundedAction Thread Item))
    (test : List (UnboundedAction Thread Item × UnboundedReply Item) → Queue Thread Item → Bool)
    (passed : (execute step (fun _ _ => true) initial actions).any
      (fun run => test run.1 run.2) = true) :
    ∃ trace q, Run Queue.Step anyStep initial trace q ∧ test trace q = true :=
  run_of_execute (fun _ _ _ _ moved => moved) (fun _ _ _ => trivial) passed

end Queue

/-- A consumer sleeps, is woken by a put and finds that a faster one was there; the
second element reaches it. -/
theorem unbounded_queue_exactly_once_of_race :
    ∃ trace, ∃ q : Queue Nat Nat, Run Queue.Step anyStep .initial trace q ∧
      trace.map Prod.snd = [.waits, .void, .item 5, .waits, .void, .void, .item 5] ∧
      received trace ++ q.buffer = stored trace := by
  obtain ⟨trace, q, run, tested⟩ := Queue.run_of_actions Nat
    [.get 0 ⟨.forever, false⟩ false, .put 1 5 (some 0), .get 2 ⟨.timed 0, false⟩ false,
      .resume 0 false false, .put 1 5 (some 0), .put 1 6 none, .resume 0 false false]
    (fun trace _ => trace.map Prod.snd = [.waits, .void, .item 5, .waits, .void, .void, .item 5] &&
      trace.all fun entry => entry.1.clears = false)
    (by decide +kernel)
  simp only [Bool.and_eq_true, decide_eq_true_eq, List.all_eq_true] at tested
  have settled := unbounded_queue_exactly_once run
  exact ⟨trace, q, run, tested.1, settled.2.2 tested.2⟩

/-! ## Wake-ups -/

namespace Queue

variable {Thread Item : Type}

/-- The count is the size of the deque, its elements cover the sleepers, and a thread
waits exactly when it is known to the condition variable. -/
structure Sound (q : Queue Thread Item) : Prop where
  count : q.size = q.buffer.length
  covered : q.notEmpty.Covered q.size
  distinct : q.notEmpty.threads.Nodup
  waiting : ∀ thread, thread ∈ q.notEmpty.threads ↔ (q.calls thread).isSome

structure Taking (q : Queue Thread Item) (taker : Thread) : Prop where
  count : q.size = q.buffer.length
  covered : q.notEmpty.Covered (q.size - 1)
  distinct : (taker :: q.notEmpty.threads).Nodup
  waiting : ∀ thread, thread ≠ taker → (thread ∈ q.notEmpty.threads ↔ (q.calls thread).isSome)

theorem sound_initial : (initial : Queue Thread Item).Sound where
  count := rfl
  covered := WaitSet.covered_empty 0
  distinct := List.nodup_nil
  waiting := fun _ => by simp [initial, WaitSet.threads, WaitSet.empty]

variable [DecidableEq Thread] {q q' : Queue Thread Item} {self : Thread} {call : GetCall}
variable {action : UnboundedAction Thread Item} {reply : UnboundedReply Item}
variable {timedOut throws : Bool}

omit [DecidableEq Thread] in
theorem Sound.woken {set : WaitSet Thread} (sound : q.Sound)
    (same : set.threads.Perm q.notEmpty.threads) :
    set.threads.Nodup ∧ ∀ thread, thread ∈ set.threads ↔ (q.calls thread).isSome :=
  ⟨same.nodup_iff.mpr sound.distinct, fun thread => same.mem_iff.trans (sound.waiting thread)⟩

theorem Sound.begins {seen : Queue Thread Item} (sound : q.Sound)
    (begins : q.Begins action self call seen) : seen.Taking self := by
  cases begins with
  | entered free =>
      have outside : self ∉ q.notEmpty.threads := fun inside => by
        have waits := (sound.waiting self).mp inside
        rw [free] at waits
        cases waits
      exact ⟨sound.count, sound.covered.fewer (Nat.sub_le _ _),
        List.nodup_cons.mpr ⟨outside, sound.distinct⟩, fun thread _ => sound.waiting thread⟩
  | resumed pending resumed =>
      have left := WaitSet.threads_resume resumed
      refine ⟨sound.count, sound.covered.resume resumed, left.nodup_iff.mp sound.distinct, ?_⟩
      intro thread other
      rw [← sound.waiting thread, left.mem_iff, List.mem_cons]
      exact ⟨.inr, fun either => either.resolve_left other⟩

theorem Taking.back (taking : q.Taking self) :
    q.notEmpty.threads.Nodup ∧
      ∀ thread, thread ∈ q.notEmpty.threads ↔ (update q.calls self none thread).isSome := by
  obtain ⟨outside, distinct⟩ := List.nodup_cons.mp taking.distinct
  refine ⟨distinct, fun thread => ?_⟩
  rcases eq_or_ne thread self with rfl | other
  · simpa using outside
  · rw [Function.update_of_ne other]
    exact taking.waiting thread other

theorem Taking.asleep (taking : q.Taking self) (call : GetCall) :
    (q.sleep self call).notEmpty.threads.Nodup ∧ ∀ thread,
      thread ∈ (q.sleep self call).notEmpty.threads ↔
        ((q.sleep self call).calls thread).isSome := by
  have joined := WaitSet.threads_wait q.notEmpty self
  refine ⟨joined.nodup_iff.mpr taking.distinct, fun thread => joined.mem_iff.trans ?_⟩
  rcases eq_or_ne thread self with rfl | other
  · simp [Queue.sleep]
  · simp only [Queue.sleep, Function.update_of_ne other, List.mem_cons, other, false_or]
    exact taking.waiting thread other

theorem Taking.attempt (taking : q.Taking self)
    (ran : q.attempt self call timedOut throws = some (q', reply)) : q'.Sound := by
  obtain ⟨item, rest, _, front, _, rfl⟩ | ⟨ready, empty, _⟩ | ⟨empty, _, rfl⟩ | ⟨empty, _, rfl⟩ :=
    attempt_cases ran
  · obtain ⟨distinct, waiting⟩ := taking.back
    refine ⟨?_, taking.covered, distinct, waiting⟩
    simp only [taking.count, front, List.length_cons, Nat.add_sub_cancel]
  · rw [taking.count, empty] at ready
    exact absurd rfl ready
  · obtain ⟨distinct, waiting⟩ := taking.back
    refine ⟨taking.count, ?_, distinct, waiting⟩
    simp only [Queue.back, empty]
    exact WaitSet.covered_zero _
  · obtain ⟨distinct, waiting⟩ := taking.asleep call
    refine ⟨taking.count, ?_, distinct, waiting⟩
    simp only [Queue.sleep, empty]
    exact WaitSet.covered_zero _

theorem Sound.step (sound : q.Sound) (move : q.Moves action reply q') : q'.Sound := by
  cases move with
  | stored notified =>
      obtain ⟨distinct, waiting⟩ := sound.woken (WaitSet.threads_notify_one notified)
      exact ⟨by simp [sound.count], sound.covered.notify_one notified, distinct, waiting⟩
  | tried begins ran => exact (sound.begins begins).attempt ran
  | roused roused =>
      obtain ⟨distinct, waiting⟩ := sound.woken (WaitSet.threads_rouse roused)
      exact ⟨sound.count, sound.covered.rouse roused, distinct, waiting⟩
  | cleared => exact ⟨rfl, WaitSet.covered_zero _, sound.distinct, sound.waiting⟩
  | sized | emptied => exact sound

/-- With an element in the deque every attempt takes the front, also one whose wait has
timed out. -/
theorem Taking.takes {item : Item} {rest : List Item} (taking : q.Taking self)
    (front : q.buffer = item :: rest) (call : GetCall) (timedOut throws : Bool) :
    ∃ q', q.attempt self call timedOut throws = some (q', .item item) := by
  have ready : q.size ≠ 0 := by simp [taking.count, front]
  simp [Queue.attempt, Queue.finish, ready, front]

omit [DecidableEq Thread] in
theorem Sound.quiet (sound : q.Sound) (settled : ∀ thread ∈ q.notEmpty.threads,
    thread ∈ q.notEmpty.asleep) (pending : q.calls self = some call) : q.buffer = [] := by
  have silent : q.notEmpty.notified = [] := by
    refine List.eq_nil_iff_forall_not_mem.mpr fun thread notified => ?_
    have known : thread ∈ q.notEmpty.notified ++ q.notEmpty.roused :=
      List.mem_append_left _ notified
    have asleep := settled thread (List.mem_append_right _ known)
    exact (List.nodup_append.mp sound.distinct).2.2 thread asleep thread known rfl
  have known := (sound.waiting self).mpr (by simp [pending])
  have sleepers := List.ne_nil_of_mem (settled self known)
  exact List.eq_nil_of_length_eq_zero
    (sound.count.symm.trans (sound.covered.exhausted silent sleepers))

end Queue

/-- A thread that no notification is under way to sleeps only while nothing is left for it.
Whoever looks while an element is there takes the front, even when its wait has timed out;
a get waits or ends in an exception only while the queue is empty, and the front of an empty
deque is never read. -/
theorem unbounded_queue_strands_nobody {Thread Item : Type} [DecidableEq Thread]
    {trace : List (UnboundedAction Thread Item × UnboundedReply Item)} {q : Queue Thread Item}
    (run : Run Queue.Step anyStep .initial trace q) :
    (q.notEmpty.asleep ≠ [] → q.buffer.length ≤ q.notEmpty.notified.length) ∧
    ((∀ thread call, q.calls thread = some call → thread ∈ q.notEmpty.asleep) →
      (∃ thread, (q.calls thread).isSome) → q.buffer = []) ∧
    (∀ self call item rest throws, q.calls self = none → q.buffer = item :: rest →
      ∃ q', q.Step (.get self call throws) (.item item) q') ∧
    (∀ self call item rest timedOut throws, q.calls self = some call →
      self ∉ q.notEmpty.asleep → q.buffer = item :: rest →
      ∃ q', q.Step (.resume self timedOut throws) (.item item) q') ∧
    (∀ action reply q', q.Step action reply q' →
      reply = .waits ∨ reply = .callbackRaised ∨ (∃ reason, reply = .raised reason) →
      q.buffer = []) ∧
    ∀ action reply q', q.Step action reply q' → reply ≠ .undefined := by
  have sound := Run.preserves Queue.Sound
    (fun _ _ _ _ sound _ move => Queue.Sound.step sound move.moves) run Queue.sound_initial
  refine ⟨fun sleepers => sound.count ▸ sound.covered sleepers, ?_, ?_, ?_, ?_, ?_⟩
  · rintro settled ⟨thread, pending⟩
    obtain ⟨call, pending⟩ := Option.isSome_iff_exists.mp pending
    refine sound.quiet (fun other known => ?_) pending
    obtain ⟨call, waits⟩ := Option.isSome_iff_exists.mp ((sound.waiting other).mp known)
    exact settled other call waits
  · intro self call item rest throws free front
    have begins : q.Begins (.get self call throws) self call q := .entered free
    obtain ⟨q', ran⟩ := (sound.begins begins).takes front call false throws
    exact ⟨q', by simpa [Queue.Step, Queue.step, free] using ran⟩
  · intro self call item rest timedOut throws pending woken front
    obtain ⟨set, resumed⟩ :=
      WaitSet.resume_of_woken ((sound.waiting self).mpr (by simp [pending])) woken
    have begins : q.Begins (.resume self timedOut throws) self call _ :=
      .resumed pending resumed
    obtain ⟨q', ran⟩ := (sound.begins begins).takes front call timedOut throws
    exact ⟨q', by simpa [Queue.Step, Queue.step, pending, resumed] using ran⟩
  · intro action reply q' move refused
    cases move.moves with
    | tried begins ran =>
        obtain ⟨item, rest, _, _, rfl, _⟩ | ⟨_, _, rfl, _⟩ | ⟨empty, _, _⟩ | ⟨empty, _, _⟩ :=
          Queue.attempt_cases ran
        · simp at refused
        · simp at refused
        all_goals
          have none := (sound.begins begins).count.symm.trans empty
          rw [← begins.buffer]
          exact List.eq_nil_of_length_eq_zero none
    | _ => simp at refused
  · rintro action _ q' move rfl
    cases move.moves with
    | tried begins ran =>
        obtain ⟨item, rest, _, _, reply, _⟩ | ⟨ready, empty, _⟩ | ⟨_, reply, _⟩ | ⟨_, reply, _⟩ :=
          Queue.attempt_cases ran
        · cases reply
        · exact ready ((sound.begins begins).count.trans (by simp [empty]))
        · simp at reply
        · cases reply

/-- A consumer whose wait has timed out takes the element that came meanwhile. -/
theorem unbounded_queue_strands_nobody_of_timeout :
    ∃ trace, ∃ q q' : Queue Nat Nat, Run Queue.Step anyStep .initial trace q ∧
      trace.map Prod.snd = [.waits, .void, .void] ∧
      q.Step (.resume 1 true false) (.item 7) q' := by
  obtain ⟨trace, q, run, tested⟩ := Queue.run_of_actions Nat
    [.get 1 ⟨.timed 10, false⟩ false, .rouse 1, .put 2 7 none]
    (fun trace q => trace.map Prod.snd = [.waits, .void, .void] &&
      q.calls 1 = some ⟨.timed 10, false⟩ && q.buffer = [7] && q.notEmpty.asleep = [])
    (by decide +kernel)
  simp only [Bool.and_eq_true, decide_eq_true_eq] at tested
  obtain ⟨⟨⟨replies, pending⟩, front⟩, nobody⟩ := tested
  have settled := unbounded_queue_strands_nobody run
  obtain ⟨q', move⟩ := settled.2.2.2.1 1 _ 7 [] true false pending (by simp [nobody]) front
  exact ⟨trace, q, q', run, replies, move⟩

end AresCommon.DataStructures
