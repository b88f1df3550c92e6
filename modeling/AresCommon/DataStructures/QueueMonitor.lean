import AresCommon.DataStructures.BoundedQueue
import AresCommon.Foundation.Transition
import AresCommon.Foundation.WaitSet

/-!
# The bounded queue as a monitor

Any number of threads call into one `bounded_queue`. One action is one critical section
under its mutex: a call from its entry to its return, its exception or its wait, or a
woken thread from its predicate on. `resume` says whether the wait reports a time-out,
`throws` whether the callback throws, and `wakes` whom a notification reaches.
-/

namespace AresCommon.DataStructures

open AresCommon.Foundation AresCommon.Foundation.Transition
open Function (update)

set_option autoImplicit false

inductive Wait where
  | forever
  | timed (timeoutMs : Int)
  deriving DecidableEq, Repr

inductive QueueCall (Item : Type) where
  | put (item : Item) (wait : Wait) (callback : Bool)
  | get (wait : Wait) (callback : Bool)
  deriving DecidableEq, Repr

def QueueCall.putNonblocking {Item : Type} (item : Item) : QueueCall Item :=
  .put item (.timed 0) false

def QueueCall.getNonblocking {Item : Type} : QueueCall Item := .get (.timed 0) false

def QueueCall.callback {Item : Type} : QueueCall Item → Bool
  | .put _ _ callback => callback
  | .get _ callback => callback

inductive QueueAction (Thread Item : Type) where
  | enter (self : Thread) (call : QueueCall Item) (throws : Bool) (wakes : Option Thread)
  | resume (self : Thread) (timedOut throws : Bool) (wakes : Option Thread)
  /-- a time-out or a spurious wake-up -/
  | rouse (self : Thread)
  | clear (self : Thread)
  | size (self : Thread)
  | empty (self : Thread)
  | full (self : Thread)
  deriving DecidableEq, Repr

inductive QueueReply (Item : Type) where
  | void
  | item (item : Item)
  | size (size : Nat)
  | bool (value : Bool)
  | raised (reason : QueueExceptionReason)
  | callbackRaised
  | waits
  deriving DecidableEq, Repr

structure QueueMonitor (Thread Item : Type) (maxSize : Nat) (overwrite : Bool) where
  queue : BoundedQueue Item maxSize overwrite
  spaceAvailable : WaitSet Thread
  notEmpty : WaitSet Thread
  calls : Thread → Option (QueueCall Item)

namespace QueueMonitor

variable {Thread Item : Type} {maxSize : Nat} {overwrite : Bool}

def initial (buffer : Nat → Item) : QueueMonitor Thread Item maxSize overwrite where
  queue := .uninitialised buffer
  spaceAvailable := .empty
  notEmpty := .empty
  calls := fun _ => none

variable [DecidableEq Thread] (m : QueueMonitor Thread Item maxSize overwrite)

def ready : QueueCall Item → Bool
  | .put _ _ _ => m.queue.size ≠ maxSize
  | .get _ _ => m.queue.size ≠ 0

def back (self : Thread) : QueueMonitor Thread Item maxSize overwrite :=
  { m with calls := update m.calls self none }

def sleep (self : Thread) (call : QueueCall Item) : QueueMonitor Thread Item maxSize overwrite :=
  let m := { m with calls := update m.calls self (some call) }
  match call with
  | .put _ _ _ => { m with spaceAvailable := m.spaceAvailable.wait self }
  | .get _ _ => { m with notEmpty := m.notEmpty.wait self }

/-- The rest of a call behind its wait. -/
def finish (self : Thread) (call : QueueCall Item) (wakes : Option Thread) :
    Option (QueueMonitor Thread Item maxSize overwrite × QueueReply Item) :=
  let m := m.back self
  match call with
  | .put item wait _ =>
      let queue := match wait with
        | .forever => m.queue.append item
        | .timed _ => m.queue.store item
      (m.notEmpty.notifyOne wakes).map fun notEmpty =>
        ({ m with queue := queue, notEmpty := notEmpty }, .void)
  | .get _ _ =>
      let (item, queue) := m.queue.take
      (m.spaceAvailable.notifyOne wakes).map fun spaceAvailable =>
        ({ m with queue := queue, spaceAvailable := spaceAvailable }, .item item)

/-- `wait_for` has returned false. -/
def giveUp (self : Thread) (call : QueueCall Item) (wakes : Option Thread) :
    Option (QueueMonitor Thread Item maxSize overwrite × QueueReply Item) :=
  match call with
  | .put _ (.timed timeoutMs) _ =>
      if !overwrite then
        some (m.back self, .raised (if timeoutMs = 0 then .queueFull else .queueTimeout))
      else m.finish self call wakes
  | .get (.timed timeoutMs) _ =>
      some (m.back self, .raised (if timeoutMs = 0 then .queueEmpty else .queueTimeout))
  | _ => none

def awake (self : Thread) (call : QueueCall Item) :
    Option (QueueMonitor Thread Item maxSize overwrite) :=
  match call with
  | .put _ _ _ => (m.spaceAvailable.resume self).map fun set => { m with spaceAvailable := set }
  | .get _ _ => (m.notEmpty.resume self).map fun set => { m with notEmpty := set }

def attempt (self : Thread) (call : QueueCall Item) (timedOut throws : Bool)
    (wakes : Option Thread) :
    Option (QueueMonitor Thread Item maxSize overwrite × QueueReply Item) :=
  if m.ready call then m.finish self call wakes
  else if call.callback && throws then some (m.back self, .callbackRaised)
  else if timedOut then m.giveUp self call wakes
  else some (m.sleep self call, .waits)

def step : QueueAction Thread Item →
    Option (QueueMonitor Thread Item maxSize overwrite × QueueReply Item)
  | .enter self call throws wakes =>
      match m.calls self with
      | none => m.attempt self call false throws wakes
      | some _ => none
  | .resume self timedOut throws wakes =>
      match m.calls self with
      | none => none
      | some call => (m.awake self call).bind fun m => m.attempt self call timedOut throws wakes
  | .rouse self =>
      match m.calls self with
      | none => none
      | some (.put _ _ _) =>
          (m.spaceAvailable.rouse self).map fun set => ({ m with spaceAvailable := set }, .void)
      | some (.get _ _) =>
          (m.notEmpty.rouse self).map fun set => ({ m with notEmpty := set }, .void)
  | .clear self =>
      if (m.calls self).isNone then some ({ m with queue := m.queue.clear }, .void) else none
  | .size self => if (m.calls self).isNone then some (m, .size m.queue.size) else none
  | .empty self => if (m.calls self).isNone then some (m, .bool (m.queue.size = 0)) else none
  | .full self =>
      if (m.calls self).isNone then some (m, .bool (m.queue.size = maxSize)) else none

def Step (m : QueueMonitor Thread Item maxSize overwrite) (action : QueueAction Thread Item)
    (reply : QueueReply Item) (m' : QueueMonitor Thread Item maxSize overwrite) : Prop :=
  m.step action = some (m', reply)

section Refusals

variable {m m' : QueueMonitor Thread Item maxSize overwrite} {self : Thread}
variable {call : QueueCall Item} {action : QueueAction Thread Item} {reply : QueueReply Item}

theorem attempt_refused {timedOut throws : Bool} {wakes : Option Thread}
    (refused : reply = .waits ∨ ∃ reason, reply = .raised reason)
    (ran : m.attempt self call timedOut throws wakes = some (m', reply)) :
    m'.queue = m.queue := by
  have finished (done : m.finish self call wakes = some (m', reply)) : m'.queue = m.queue := by
    unfold finish at done
    cases call with
    | put item wait callback =>
        obtain ⟨set, _, result⟩ := Option.map_eq_some_iff.mp done
        cases result
        simp at refused
    | get wait callback =>
        obtain ⟨set, _, result⟩ := Option.map_eq_some_iff.mp done
        cases result
        simp at refused
  unfold attempt at ran
  split at ran
  · exact finished ran
  · split at ran
    · cases ran
      rfl
    · split at ran
      · unfold giveUp at ran
        split at ran
        · split at ran
          · cases ran
            rfl
          · exact finished ran
        · cases ran
          rfl
        · cases ran
      · cases ran
        cases call <;> rfl

/-- A call that waits or ends in an exception leaves the ring alone. -/
theorem step_refused (refused : reply = .waits ∨ ∃ reason, reply = .raised reason)
    (move : m.Step action reply m') : m'.queue = m.queue := by
  unfold Step at move
  cases action with
  | enter self call throws wakes =>
      simp only [step] at move
      split at move
      · exact attempt_refused refused move
      · cases move
  | resume self timedOut throws wakes =>
      simp only [step] at move
      split at move
      · cases move
      · rename_i call pending
        obtain ⟨woken, awoke, ran⟩ := Option.bind_eq_some_iff.mp move
        have same : woken.queue = m.queue := by
          unfold awake at awoke
          cases call with
          | put | get => obtain ⟨set, _, rfl⟩ := Option.map_eq_some_iff.mp awoke; rfl
        rw [← same]
        exact attempt_refused refused ran
  | rouse self =>
      simp only [step] at move
      split at move
      · cases move
      all_goals
        obtain ⟨set, _, result⟩ := Option.map_eq_some_iff.mp move
        cases result
        rfl
  | clear self =>
      simp only [step] at move
      split at move <;> cases move
      simp at refused
  | size self | empty self | full self =>
      simp only [step] at move
      split at move <;> cases move
      rfl

end Refusals

end QueueMonitor

abbrev MonitorRun {Thread Item : Type} [DecidableEq Thread] {maxSize : Nat} {overwrite : Bool}
    (allowed : QueueMonitor Thread Item maxSize overwrite → QueueAction Thread Item → Prop) :
    QueueMonitor Thread Item maxSize overwrite → List (QueueAction Thread Item × QueueReply Item) →
      QueueMonitor Thread Item maxSize overwrite → Prop :=
  fun start trace final => Run QueueMonitor.Step allowed start trace final

theorem monitor_run_of_actions {Thread Item : Type} [DecidableEq Thread] {maxSize : Nat}
    {overwrite : Bool}
    (allowed : QueueMonitor Thread Item maxSize overwrite → QueueAction Thread Item → Prop)
    [∀ m action, Decidable (allowed m action)] (m : QueueMonitor Thread Item maxSize overwrite)
    (actions : List (QueueAction Thread Item))
    (test : List (QueueAction Thread Item × QueueReply Item) →
      QueueMonitor Thread Item maxSize overwrite → Bool)
    (passed : (execute QueueMonitor.step (fun m action => decide (allowed m action)) m
      actions).any (fun run => test run.1 run.2) = true) :
    ∃ trace m', MonitorRun allowed m trace m' ∧ test trace m' = true :=
  run_of_execute (fun _ _ _ _ moved => moved) (fun _ _ => of_decide_eq_true) passed

end AresCommon.DataStructures
